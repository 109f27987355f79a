import Scaffold.Model.Entity
/-!
Spellings: how operations, arguments and tasks are written in generated code, and the look-up of
operations and tasks by name.
-/

namespace Scaffold.Model

def Argument.cxxDeclaration (a : Argument) : String :=
  a.type.cxxName ++ " const& " ++ a.name

/-- The spelling of the return type: the first one declared, or `void`. -/
def Operation.returnSpelling (o : Operation) : String :=
  if o.hasReturnValue then (o.returnTypes.head?.map (·.cxxName)).getD "" else "void"

/-- The parameters, separated by commas. -/
def Operation.argumentList (o : Operation) : String :=
  ", ".intercalate (o.arguments.map Argument.cxxDeclaration)

/-- The signature under a qualifier; an empty one qualifies nothing. -/
def Operation.signatureUnder (o : Operation) (qualifier : String) : String :=
  let name := if qualifier.isEmpty then o.methodName else qualifier ++ "::" ++ o.methodName
  o.returnSpelling ++ " " ++ name ++ "(" ++ o.argumentList ++ ")"

/-- The signature qualified by the owning task, if there is one. -/
def Operation.signature (own : Ownership) (o : Operation) : String :=
  o.signatureUnder (((own.task? o).map (·.basename)).getD "")

/-- The signature as it stands inside a class. -/
def Operation.declaration (o : Operation) : String :=
  o.signatureUnder ""

/-- The full name of a task: behind the name of its component, if it has one. -/
def Task.name (own : Ownership) (t : Task) : String :=
  match own.component? t with
  | some c => c.name ++ "::" ++ t.basename
  | none => t.basename

inductive NotFound where
  | operation (owner name : String)
  | task (owner name : String)
  | component (name : String)
  | unqualified (name : String)
deriving DecidableEq

def NotFound.message : NotFound → String
  | .operation owner name => "task " ++ owner ++ " has no operation called " ++ name
  | .task owner name => "component " ++ owner ++ " has no task called " ++ name
  | .component name => "there is no component called " ++ name
  | .unqualified name =>
    name ++ " is not a qualified task name (expected <component>::<task>)"

def Task.findOperation (own : Ownership) (t : Task) (name : String) : Except NotFound Operation :=
  match t.operations.find? (·.methodName == name) with
  | some o => .ok o
  | none => .error (.operation (t.name own) name)

def Component.findTask (c : Component) (name : String) : Except NotFound Task :=
  match c.tasks.find? (·.basename == name) with
  | some t => .ok t
  | none => .error (.task c.name name)

end Scaffold.Model
