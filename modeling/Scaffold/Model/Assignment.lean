import Scaffold.Model.Entity
import Scaffold.Validation
/-!
Assignment: an entity never changes, so that every assignment to one is refused.  What all entities
of a class have in common is refused in words of its own.
-/

namespace Scaffold.Model

/-- What all entities of a class have in common. -/
def sharedMembers : List String := ["binding_name", "template_accessors"]

inductive AssignmentFault where
  | shared (className name : String)
  | frozen (fault : ValidationFault)
deriving DecidableEq

def AssignmentFault.message : AssignmentFault → String
  | .shared className name =>
    Text.quoted name ++ " is a ClassVar of \x60" ++ className ++
      "\x60 and cannot be set on an instance. If you want to set a value on the class, use \x60" ++
      className ++ "." ++ name ++ " = value\x60."
  | .frozen fault => fault.message

def Entity.assignmentFault (e : Entity) (name : String) : AssignmentFault :=
  if sharedMembers.contains name then .shared e.className name
  else .frozen ⟨e.className, [⟨[name], .frozen⟩]⟩

end Scaffold.Model
