/-!
The entities of a project: types, arguments, operations, tasks and components.  An entity is an
immutable record with an identity of its own.  Which task an operation belongs to, and which
component a task belongs to, is no part of the record: `Ownership` keeps it.
-/

namespace Scaffold.Model

/-- The identity of an entity: two entities are one and the same when their marks are equal. -/
abbrev Mark := Nat

/-- A type usable on a task interface, with its spelling in code and its registry name. -/
structure DataType where
  mark : Mark
  cxxName : String
  name : String
deriving DecidableEq, Inhabited

/-- A named operation argument. -/
structure Argument where
  mark : Mark
  name : String
  type : DataType
  doc : String
deriving DecidableEq, Inhabited

/-- A custom operation of a task.  Only the first return type is ever written. -/
structure Operation where
  mark : Mark
  methodName : String
  returnTypes : List DataType
  hasReturnValue : Bool
  arguments : List Argument
  doc : String
deriving DecidableEq, Inhabited

/-- A task model; the generated class carries its base name. -/
structure Task where
  mark : Mark
  basename : String
  fixedInitialState : Bool
  operations : List Operation
  doc : String
deriving DecidableEq, Inhabited

/-- A component and the tasks it defines. -/
structure Component where
  mark : Mark
  name : String
  tasks : List Task
  doc : String
deriving DecidableEq, Inhabited

inductive Entity where
  | dataType (t : DataType)
  | argument (a : Argument)
  | operation (o : Operation)
  | task (t : Task)
  | component (c : Component)
deriving DecidableEq

/-! Two entities agree when they are of one class and their fields agree, whoever owns them. -/

def DataType.agrees (s t : DataType) : Bool :=
  s.cxxName == t.cxxName && s.name == t.name

def Argument.agrees (a b : Argument) : Bool :=
  a.name == b.name && a.type.agrees b.type && a.doc == b.doc

def Operation.agrees (o p : Operation) : Bool :=
  o.methodName == p.methodName && o.returnTypes.isEqv p.returnTypes DataType.agrees
    && o.hasReturnValue == p.hasReturnValue && o.arguments.isEqv p.arguments Argument.agrees
    && o.doc == p.doc

def Task.agrees (s t : Task) : Bool :=
  s.basename == t.basename && s.fixedInitialState == t.fixedInitialState
    && s.operations.isEqv t.operations Operation.agrees && s.doc == t.doc

def Component.agrees (c d : Component) : Bool :=
  c.name == d.name && c.tasks.isEqv d.tasks Task.agrees && c.doc == d.doc

def Entity.agrees : Entity → Entity → Bool
  | .dataType s, .dataType t => s.agrees t
  | .argument a, .argument b => a.agrees b
  | .operation o, .operation p => o.agrees p
  | .task s, .task t => s.agrees t
  | .component c, .component d => c.agrees d
  | _, _ => false

def Entity.mark : Entity → Mark
  | .dataType t => t.mark
  | .argument a => a.mark
  | .operation o => o.mark
  | .task t => t.mark
  | .component c => c.mark

def Entity.className : Entity → String
  | .dataType _ => "Type"
  | .argument _ => "Argument"
  | .operation _ => "Operation"
  | .task _ => "Task"
  | .component _ => "Component"

/-- The name that an entity is bound under when it is the root of a rendering. -/
def Entity.bindingName : Entity → String
  | .dataType _ => "type"
  | .argument _ => "arg"
  | .operation _ => "op"
  | .task _ => "task"
  | .component _ => "component"

/-- Who owns whom: the task of each operation that a task holds, and the component of each task
that a component holds.  `fresh` is a mark that no entity carries yet. -/
structure Ownership where
  fresh : Mark
  taskOf : List (Mark × Task)
  componentOf : List (Mark × Component)
deriving Inhabited

/-- Nothing is built and nothing is owned. -/
def Ownership.empty : Ownership := ⟨0, [], []⟩

def Ownership.task? (own : Ownership) (o : Operation) : Option Task :=
  own.taskOf.lookup o.mark

def Ownership.component? (own : Ownership) (t : Task) : Option Component :=
  own.componentOf.lookup t.mark

end Scaffold.Model
