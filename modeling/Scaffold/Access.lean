import Scaffold.Model.Signature
import Scaffold.Naming
import Scaffold.Value
/-!
Accessors: what a template may read from a value.  Texts and sequences have a handful of helpers,
an entity shows what its class lists, and nothing else can be read.
-/

namespace Scaffold

open Model Naming Text

/-- The accessors of texts, in order of their names. -/
def textAccessors : List String :=
  ["camel_case", "empty", "lower", "pascal_case", "size", "slug", "snake_case", "upper"]

def sequenceAccessors : List String :=
  ["empty", "first", "last", "size"]

def Model.Entity.accessors : Entity → List String
  | .dataType _ => ["cxx_name", "name"]
  | .argument _ => ["cxx_declaration", "doc", "name", "type"]
  | .operation _ => ["argument_list", "arguments", "declaration", "doc", "has_return_value",
      "method_name", "return_spelling", "return_type", "return_types", "signature", "task"]
  | .task _ => ["basename", "component", "doc", "fixed_initial_state", "has_operations", "name",
      "self_operations"]
  | .component _ => ["doc", "name", "tasks"]

/-- The accessors of a value, in order of their names. -/
def Value.accessors : Value → List String
  | .text _ => textAccessors
  | .list _ => sequenceAccessors
  | .tuple _ => sequenceAccessors
  | .entity e => e.accessors
  | _ => []

/-- A converted text. -/
def converted (f : List Char → List Char) (s : String) : Value :=
  .text (String.ofList (f s.toList))

def readText? (s : String) : String → Option Value
  | "upper" => some (converted upper s)
  | "lower" => some (converted lower s)
  | "size" => some (.int s.length)
  | "empty" => some (.bool s.isEmpty)
  | "snake_case" => some (converted snakeCase s)
  | "pascal_case" => some (converted pascalCase s)
  | "camel_case" => some (converted camelCase s)
  | "slug" => some (converted slug s)
  | _ => none

def readSequence? (items : List Value) : String → Option Value
  | "first" => items.head?
  | "last" => items.getLast?
  | "size" => some (.int items.length)
  | "empty" => some (.bool items.isEmpty)
  | _ => none

def typeTuple (ts : List DataType) : Value :=
  .tuple (ts.map fun t => .entity (.dataType t))

def Model.DataType.read? (t : DataType) : String → Option Value
  | "name" => some (.text t.name)
  | "cxx_name" => some (.text t.cxxName)
  | _ => none

def Model.Argument.read? (a : Argument) : String → Option Value
  | "name" => some (.text a.name)
  | "type" => some (.entity (.dataType a.type))
  | "doc" => some (.text a.doc)
  | "cxx_declaration" => some (.text a.cxxDeclaration)
  | _ => none

def Model.Operation.read? (own : Ownership) (o : Operation) : String → Option Value
  | "method_name" => some (.text o.methodName)
  | "has_return_value" => some (.bool o.hasReturnValue)
  | "return_types" => some (typeTuple o.returnTypes)
  | "return_type" => some (typeTuple o.returnTypes)
  | "return_spelling" => some (.text o.returnSpelling)
  | "arguments" => some (.tuple (o.arguments.map fun a => .entity (.argument a)))
  | "argument_list" => some (.text o.argumentList)
  | "signature" => some (.text (o.signature own))
  | "declaration" => some (.text o.declaration)
  | "doc" => some (.text o.doc)
  | "task" => some (((own.task? o).map fun t => Value.entity (.task t)).getD .null)
  | _ => none

def Model.Task.read? (own : Ownership) (t : Task) : String → Option Value
  | "basename" => some (.text t.basename)
  | "name" => some (.text (t.name own))
  | "fixed_initial_state" => some (.bool t.fixedInitialState)
  | "self_operations" => some (.tuple (t.operations.map fun o => .entity (.operation o)))
  | "has_operations" => some (.bool (!t.operations.isEmpty))
  | "component" => some (((own.component? t).map fun c => Value.entity (.component c)).getD .null)
  | "doc" => some (.text t.doc)
  | _ => none

def Model.Component.read? (c : Component) : String → Option Value
  | "name" => some (.text c.name)
  | "tasks" => some (.tuple (c.tasks.map fun t => .entity (.task t)))
  | "doc" => some (.text c.doc)
  | _ => none

def Model.Entity.read? (own : Ownership) : Entity → String → Option Value
  | .dataType t => t.read?
  | .argument a => a.read?
  | .operation o => o.read? own
  | .task t => t.read? own
  | .component c => c.read?

/-- Reads an attribute of an entity: an accessor, or the name that the entity is bound under. -/
def Model.Entity.attribute? (own : Ownership) (e : Entity) (name : String) : Option Value :=
  if name = "binding_name" then some (.text e.bindingName) else e.read? own name

/-- Reads an accessor of a value; nothing is read where the value has no such accessor, or where
it is the first or last element of an empty sequence. -/
def Value.read? (own : Ownership) : Value → String → Option Value
  | .text s => readText? s
  | .list items => readSequence? items
  | .tuple items => readSequence? items
  | .entity e => e.read? own
  | _ => fun _ => none

end Scaffold
