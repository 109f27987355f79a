import Scaffold.Naming
import Scaffold.Validation
/-!
Construction of entities from named fields.  A field that holds an entity may be given the entity
itself, which then keeps its identity, or a mapping from which it is built on the way.  A task
takes possession of its operations, and a component of its tasks, once all its fields are fine;
what already has another owner is refused.
-/

namespace Scaffold.Model

open Naming Text

/-- Why an entity was not built: its fields are not as they should be, a value lacks what a
derivation asks of it, or bytes are asked how a text starts. -/
inductive Refusal where
  | invalid (findings : List Finding)
  | noMember (typeName member : String)
  | mixedStart
deriving DecidableEq

/-- A construction: it draws marks and sets owners, and what it did stays done if it fails. -/
abbrev Build (α : Type) := ExceptT Refusal (StateM Ownership) α

/-- The fields that a record is given. -/
abbrev Fields := List (Scalar × Value)

/-- A mark that no entity carries. -/
def newMark : Build Mark :=
  modifyGet fun own => (own.fresh, { own with fresh := own.fresh + 1 })

/-- The findings of a construction as a checked value; any other refusal ends the whole. -/
def findings {α : Type} (b : Build α) : Build (Check α) :=
  tryCatch (b >>= fun a => pure (.ok a)) fun
    | .invalid fs => pure (.error fs)
    | e => throw e

/-- A checked value, or the refusal that lists its findings. -/
def settle {α : Type} : Check α → Build α
  | .ok a => pure a
  | .error fs => throw (.invalid fs)

def required {α : Type} (fields : Fields) (name : String) (check : Value → Build α) :
    Build (Check α) :=
  match fieldOf? fields name with
  | some v => do return (← findings (check v)).under name
  | none => pure ((complain .missing : Check α).under name)

/-- A field that has a default. -/
def optional {α : Type} (fields : Fields) (name : String) (default : α)
    (check : Value → Build α) : Build (Check α) :=
  match fieldOf? fields name with
  | some v => do return (← findings (check v)).under name
  | none => pure (.ok default)

def text (v : Value) : Build String :=
  settle (checkText v)

def truth (v : Value) : Build Bool :=
  settle (checkTruth v)

def identifier (v : Value) : Build String := do
  let s ← text v
  if isIdentifier s then pure s else settle (complain (.broken (.notIdentifier s)))

/-- The elements of a sequence, each built under its position. -/
def buildAll {α : Type} (build : Value → Build α) : Nat → List Value → Build (Check (List α))
  | _, [] => pure (.ok [])
  | n, v :: vs => do
    let a ← findings (build v)
    let rest ← buildAll build (n + 1) vs
    return ((a.under (toString n)).map List.cons).ap rest

def tuple {α : Type} (build : Value → Build α) : Value → Build (List α)
  | .list vs => do settle (← buildAll build 0 vs)
  | .tuple vs => do settle (← buildAll build 0 vs)
  | _ => settle (complain .notTuple)

/-- The first name that occurs a second time. -/
def firstRepeated? : List String → List String → Option String
  | _, [] => none
  | seen, s :: rest => if seen.contains s then some s else firstRepeated? (s :: seen) rest

/-- A sequence of entities in which no name occurs twice. -/
def distinct {α : Type} (name : α → String) (rule : String → Rule) (as : List α) :
    Build (List α) :=
  match firstRepeated? [] (as.map name) with
  | some s => settle (complain (.broken (rule s)))
  | none => pure as

/-- The fields of a type, its spelling derived from its name if it is not given. -/
def deriveCxxName (fields : Fields) : Build Fields :=
  match fieldOf? fields "cxx_name", fieldOf? fields "name" with
  | given, some name =>
    if (given.any Value.isTruthy) || !name.isTruthy then pure fields
    else
      match name with
      | .text s => pure (setEntry fields (.text "cxx_name") (.text (cxxName s)))
      | .scalar (.unpaired points) =>
        pure (setEntry fields (.text "cxx_name") (.text (cxxName (replacedText points))))
      | .scalar (.bytes _) => throw .mixedStart
      | v => throw (.noMember v.typeName "startswith")
  | _, none => pure fields

/-- A spelling, which is not blank. -/
def spelling (v : Value) : Build String := do
  let s ← text v
  if allBlank s.toList then settle (complain (.broken .namelessType)) else pure s

def DataType.build (fields : Fields) : Build DataType := do
  let fields ← deriveCxxName fields
  let cxxName ← required (if (fieldOf? fields "cxx_name").isSome then fields
    else setEntry fields (.text "cxx_name") (.text "")) "cxx_name" spelling
  let name ← optional fields "name" "" text
  let mark ← newMark
  settle ((cxxName.map (DataType.mk mark)).ap name)

/-- A type, or the fields of one. -/
def DataType.accept : Value → Build DataType
  | .entity (.dataType t) => pure t
  | .dict fields => DataType.build fields
  | _ => settle (complain (.notInstance "Type"))

def Argument.build (fields : Fields) : Build Argument := do
  let name ← required fields "name" identifier
  let type ← required fields "type" DataType.accept
  let doc ← optional fields "doc" "" text
  let mark ← newMark
  settle (((name.map (Argument.mk mark)).ap type).ap doc)

def Argument.accept : Value → Build Argument
  | .entity (.argument a) => pure a
  | .dict fields => Argument.build fields
  | _ => settle (complain (.notInstance "Argument"))

/-- Builds an operation.  It has a return value by default when return types are given. -/
def Operation.build (fields : Fields) : Build Operation := do
  let methodName ← required fields "method_name" identifier
  let returnTypes ← optional fields "return_types" [] (tuple DataType.accept)
  let hasReturnValue ← optional fields "has_return_value"
    ((fieldOf? fields "return_types").any Value.isTruthy) truth
  let arguments ← optional fields "arguments" [] (tuple Argument.accept)
  let doc ← optional fields "doc" "" text
  let mark ← newMark
  let o ← settle (((((methodName.map (Operation.mk mark)).ap returnTypes).ap hasReturnValue).ap
    arguments).ap doc)
  if o.hasReturnValue && o.returnTypes.isEmpty then
    settle (complain (.broken (.noReturnType o.methodName)))
  else pure o

def Operation.accept : Value → Build Operation
  | .entity (.operation o) => pure o
  | .dict fields => Operation.build fields
  | _ => settle (complain (.notInstance "Operation"))

/-- The first operation of a list that has an owner, with that owner. -/
def Ownership.firstOwned? (own : Ownership) (os : List Operation) :
    Option (Operation × Task) :=
  os.findSome? fun o => (own.task? o).map (o, ·)

/-- The operations of a task become its own. -/
def Ownership.giveTask (own : Ownership) (t : Task) : Ownership :=
  { own with taskOf := t.operations.map (fun o => (o.mark, t)) ++ own.taskOf }

/-- A task takes possession of its operations, unless one of them has an owner. -/
def Task.claim (t : Task) : Build Task := do
  let own ← getThe Ownership
  match own.firstOwned? t.operations with
  | some (o, owner) =>
    settle (complain (.broken (.operationOwned o.methodName owner.basename)))
  | none =>
    set (own.giveTask t)
    pure t

def Task.build (fields : Fields) : Build Task := do
  let basename ← required fields "basename" identifier
  let fixedInitialState ← optional fields "fixed_initial_state" false truth
  let operations ← optional fields "self_operations" [] fun v => do
    distinct Operation.methodName .operationTwice (← tuple Operation.accept v)
  let doc ← optional fields "doc" "" text
  let mark ← newMark
  let t ← settle ((((basename.map (Task.mk mark)).ap fixedInitialState).ap operations).ap doc)
  t.claim

def Task.accept : Value → Build Task
  | .entity (.task t) => pure t
  | .dict fields => Task.build fields
  | _ => settle (complain (.notInstance "Task"))

def Ownership.firstOwnedTask? (own : Ownership) (ts : List Task) : Option (Task × Component) :=
  ts.findSome? fun t => (own.component? t).map (t, ·)

def Ownership.giveComponent (own : Ownership) (c : Component) : Ownership :=
  { own with componentOf := c.tasks.map (fun t => (t.mark, c)) ++ own.componentOf }

/-- A component takes possession of its tasks, unless one of them has an owner. -/
def Component.claim (c : Component) : Build Component := do
  let own ← getThe Ownership
  match own.firstOwnedTask? c.tasks with
  | some (t, owner) => settle (complain (.broken (.taskOwned t.basename owner.name)))
  | none =>
    set (own.giveComponent c)
    pure c

def Component.build (fields : Fields) : Build Component := do
  let name ← required fields "name" identifier
  let tasks ← optional fields "tasks" [] fun v => do
    distinct Task.basename .taskTwice (← tuple Task.accept v)
  let doc ← optional fields "doc" "" text
  let mark ← newMark
  let c ← settle (((name.map (Component.mk mark)).ap tasks).ap doc)
  c.claim

inductive EntityClass where
  | dataType
  | argument
  | operation
  | task
  | component
deriving DecidableEq

def EntityClass.shown : EntityClass → String
  | .dataType => "Type"
  | .argument => "Argument"
  | .operation => "Operation"
  | .task => "Task"
  | .component => "Component"

def EntityClass.build (fields : Fields) : EntityClass → Build Entity
  | .dataType => .dataType <$> DataType.build fields
  | .argument => .argument <$> Argument.build fields
  | .operation => .operation <$> Operation.build fields
  | .task => .task <$> Task.build fields
  | .component => .component <$> Component.build fields

/-- Why a call of a constructor failed: its record is refused, or a value lacks what a derivation
asks of it, or bytes are asked how a text starts. -/
inductive ConstructionFault where
  | invalid (fault : ValidationFault)
  | noMember (typeName member : String)
  | mixedStart
deriving DecidableEq

def noMemberMessage (typeName member : String) : String :=
  "'" ++ typeName ++ "' object has no attribute '" ++ member ++ "'"

def ConstructionFault.message : ConstructionFault → String
  | .invalid fault => fault.message
  | .noMember typeName member => noMemberMessage typeName member
  | .mixedStart => "startswith first arg must be bytes or a tuple of bytes, not str"

/-- A refusal, as the constructor of a class reports it. -/
def Refusal.of (className : String) : Refusal → ConstructionFault
  | .invalid fs => .invalid ⟨className, fs⟩
  | .noMember typeName member => .noMember typeName member
  | .mixedStart => .mixedStart

def construct (own : Ownership) (c : EntityClass) (fields : Fields) :
    Except ConstructionFault Entity × Ownership :=
  match (c.build fields).run own with
  | (.ok e, own) => (.ok e, own)
  | (.error r, own) => (.error (r.of c.shown), own)

/-- The fields that a type gets from a registry name or a spelling alone. -/
def fieldsOfTypeName (name : String) : Fields :=
  [(.text "name", .text name), (.text "cxx_name", .text (cxxName name))]

end Scaffold.Model
