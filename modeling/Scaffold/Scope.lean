import Scaffold.Value
/-!
Scopes: names bound to values, in nested blocks.  A binding of an inner block hides those of the
same name further out.
-/

namespace Scaffold

/-- The bindings of one block. -/
abbrev Bindings := List (String × Value)

/-- A chain of blocks, the innermost first. -/
abbrev Scope := List Bindings

/-- The innermost value bound to a name. -/
def Scope.find? (scope : Scope) (name : String) : Option Value :=
  scope.findSome? (·.lookup name)

/-- The scope with one more block inside. -/
def Scope.child (scope : Scope) (bindings : Bindings) : Scope :=
  bindings :: scope

end Scaffold
