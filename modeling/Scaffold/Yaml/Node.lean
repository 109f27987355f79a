import Scaffold.Yaml.Tag
import Scaffold.Yaml.Token
/-!
Nodes: parts of a document of which it is known what they are.  An alias has given way to what its
anchor names; within the anchored part itself, that is a collection without elements.
-/

namespace Scaffold.Yaml

inductive Node where
  | scalar (tag : Tag) (points : List Nat)
  | list (tag : Tag) (items : List Node)
  | mapping (tag : Tag) (entries : List (Node × Node))
deriving Inhabited

def Node.tag : Node → Tag
  | .scalar tag _ => tag
  | .list tag _ => tag
  | .mapping tag _ => tag

/-- The part that stands where nothing is written. -/
def Node.empty : Node := .scalar .null []

/-- What anchors name. -/
abbrev Anchors := List (String × Node)

/-- What stands before a part: the name that aliases refer to, and a tag. -/
structure Properties where
  anchor : Option String
  tag : Option TagMark
deriving DecidableEq, Inhabited

namespace Properties

def absent : Properties := ⟨none, none⟩

/-- The properties that come next; an anchor and a tag stand in either order. -/
def ofTokens : List Token → Properties × List Token
  | .anchor a :: .tag t :: ts => (⟨some a, some t⟩, ts)
  | .tag t :: .anchor a :: ts => (⟨some a, some t⟩, ts)
  | .anchor a :: ts => (⟨some a, none⟩, ts)
  | .tag t :: ts => (⟨none, some t⟩, ts)
  | ts => (.absent, ts)

/-- The tag that properties give, or else `plain`; a bare tag gives way to `bare`. -/
def tagOr? (handles : Handles) (plain bare : Tag) (ps : Properties) : Option Tag :=
  match ps.tag with
  | none => some plain
  | some mark =>
    (mark.name? handles).map fun name => if name = bareTag then bare else Tag.ofName name

/-- The anchors with one more, if there is one; it must be new. -/
def anchored? (ps : Properties) (node : Node) (known : Anchors) : Option Anchors :=
  match ps.anchor with
  | none => some known
  | some name => if (known.lookup name).isSome then none else some ((name, node) :: known)

/-- The anchors with the last word on what one of them names. -/
def settle (ps : Properties) (node : Node) (known : Anchors) : Anchors :=
  match ps.anchor with
  | none => known
  | some name => (name, node) :: known

end Properties

/-- What a scalar is that looks like a plain text. -/
def plainTag (points : List Nat) : Tag :=
  match Scalar.ofPoints points with
  | .text s => Tag.ofPlain s.toList
  | _ => .text

/-- What a scalar behind a bare tag is: what it looks like without the line feed that may end it.  A
line feed alone looks like nothing. -/
def bareTagOf (points : List Nat) : Tag :=
  match points with
  | [_] => plainTag points
  | _ => plainTag (unended '\n'.toNat points)

end Scaffold.Yaml
