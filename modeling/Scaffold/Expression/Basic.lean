/-!
Expressions: what stands inside a template tag, as a tree, and how messages show it.
-/

namespace Scaffold.Expression

/-- A path: a name bound in the scope and the accessors read from it, left to right. -/
structure Path where
  head : String
  accessors : List String
deriving DecidableEq, Inhabited

def Path.segments (p : Path) : List String :=
  p.head :: p.accessors

def Path.shown (p : Path) : String :=
  ".".intercalate p.segments

inductive Node where
  | text (s : String)
  | truth (b : Bool)
  | path (p : Path)
  | negation (operand : Node)
  | comparison (left right : Node) (negated : Bool)
deriving DecidableEq, Inhabited

/-- An expression as messages show it: without parentheses, and with literals as they are. -/
def Node.shown : Node → String
  | .text s => "\"" ++ s ++ "\""
  | .truth b => if b then "true" else "false"
  | .path p => p.shown
  | .negation n => "not " ++ n.shown
  | .comparison l r negated => l.shown ++ (if negated then " != " else " == ") ++ r.shown

end Scaffold.Expression
