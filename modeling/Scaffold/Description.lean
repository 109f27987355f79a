import Scaffold.Model.Construction
/-!
Project descriptions: the mapping, read from a document, that a component is built from.  One
element may stand for a list of it, and a name for a type.
-/

namespace Scaffold

open Model

inductive DescriptionFault where
  | notMapping
  | unparsable
  | unreadableType (spec : String)
  | unwritable
  | construction (fault : ConstructionFault)
  | otherName (found expected : String)
deriving DecidableEq

def DescriptionFault.message : DescriptionFault → String
  | .notMapping => "a project description must be a mapping"
  | .unparsable => "cannot parse"
  | .unreadableType spec => "cannot read a type from " ++ spec
  | .unwritable => Number.unwritableMessage
  | .construction fault => fault.message
  | .otherName found expected =>
    "file describes component '" ++ found ++ "', expected '" ++ expected ++ "'"

/-- A fault of the description that came from `source`. -/
structure DescriptionError where
  source : String
  fault : DescriptionFault
deriving DecidableEq

def DescriptionError.message (e : DescriptionError) : String :=
  e.source ++ ": " ++ e.fault.message

/-- What no description should hold: keys of a type that are no names, or bytes for its name. -/
inductive Misuse where
  | keysNotNames
  | bytesForName
deriving DecidableEq

def Misuse.message : Misuse → String
  | .keysNotNames => "keywords must be strings"
  | .bytesForName => ConstructionFault.mixedStart.message

/-- Why nothing was read: a fault of the description, or a misuse. -/
inductive ReadingFault where
  | description (fault : DescriptionFault)
  | misuse (cause : Misuse)
deriving DecidableEq

/-- A reading that builds entities on the way. -/
abbrev Describe (α : Type) := ExceptT ReadingFault (StateM Ownership) α

/-- A construction of a class within a reading. -/
def constructed {α : Type} (c : EntityClass) (b : Build α) : Describe α := fun own =>
  match b.run own with
  | (.ok a, own) => (.ok a, own)
  | (.error .mixedStart, own) => (.error (.misuse .bytesForName), own)
  | (.error r, own) => (.error (.description (.construction (r.of c.shown))), own)

/-- A list of specifications: nothing is none, and one that is no list is one. -/
def specsOf : Value → List Value
  | .null => []
  | .list vs => vs
  | .tuple vs => vs
  | v => [v]

/-- The entries of a specification, which has to be a mapping. -/
def entriesOf : Value → Describe Fields
  | .dict es => pure es
  | v => throw (.description (.construction (.noMember v.typeName "get")))

/-- An entry of a specification, or what stands for it. -/
def entryOr (fields : Fields) (name : String) (default : Value) : Value :=
  (fieldOf? fields name).getD default

/-- Reads a type: a name, or the fields of a type. -/
def describeType : Value → Describe DataType
  | .text name => constructed .dataType (DataType.build (fieldsOfTypeName name))
  | .scalar (.unpaired points) =>
    constructed .dataType (DataType.build (fieldsOfTypeName (Text.replacedText points)))
  | .dict fields =>
    if fields.all (·.1.isText) then constructed .dataType (DataType.build fields)
    else throw (.misuse .keysNotNames)
  | v => throw (.description (if v.isUnwritable then .unwritable else .unreadableType v.shown))

def describeArgument (spec : Value) : Describe Argument := do
  let fields ← entriesOf spec
  let type ← describeType (entryOr fields "type" .null)
  constructed .argument (Argument.build [
    (.text "name", entryOr fields "name" (.text "")), (.text "type", .entity (.dataType type)),
    (.text "doc", entryOr fields "doc" (.text ""))])

def describeOperation (spec : Value) : Describe Operation := do
  let fields ← entriesOf spec
  let returns ← (specsOf (entryOr fields "returns" .null)).mapM describeType
  let arguments ← (specsOf (entryOr fields "arguments" .null)).mapM describeArgument
  constructed .operation (Operation.build ([
    (.text "method_name", entryOr fields "name" (.text "")),
    (.text "return_types", .list (returns.map fun t => .entity (.dataType t))),
    (.text "arguments", .list (arguments.map fun a => .entity (.argument a))),
    (.text "doc", entryOr fields "doc" (.text ""))] ++
    match fieldOf? fields "has_return_value" with
    | some v => [(.text "has_return_value", v)]
    | none => []))

def describeTask (spec : Value) : Describe Task := do
  let fields ← entriesOf spec
  let operations ← (specsOf (entryOr fields "operations" .null)).mapM describeOperation
  constructed .task (Task.build [
    (.text "basename", entryOr fields "name" (.text "")),
    (.text "fixed_initial_state", entryOr fields "fixed_initial_state" (.bool false)),
    (.text "self_operations", .list (operations.map fun o => .entity (.operation o))),
    (.text "doc", entryOr fields "doc" (.text ""))])

def describeComponent : Value → Describe Component
  | .dict fields => do
    let tasks ← (specsOf (entryOr fields "tasks" .null)).mapM describeTask
    constructed .component (Component.build [
      (.text "name", entryOr fields "name" (.text "")),
      (.text "tasks", .list (tasks.map fun t => .entity (.task t))),
      (.text "doc", entryOr fields "doc" (.text ""))])
  | _ => throw (.description .notMapping)

/-- Why a component could not be had from a document. -/
inductive ComponentError where
  | description (error : DescriptionError)
  | misuse (cause : Misuse)
deriving DecidableEq

def ComponentError.message : ComponentError → String
  | .description error => error.message
  | .misuse cause => cause.message

/-- The component that a document from `source` describes. -/
def componentOf (own : Ownership) (data : Value) (source : String) :
    Except ComponentError Component × Ownership :=
  match (describeComponent data).run own with
  | (.ok c, own) => (.ok c, own)
  | (.error (.description fault), own) => (.error (.description ⟨source, fault⟩), own)
  | (.error (.misuse cause), own) => (.error (.misuse cause), own)

end Scaffold
