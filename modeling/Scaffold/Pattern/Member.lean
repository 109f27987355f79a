import Scaffold.Pattern.MemberTable
import Scaffold.Text.Quoted
/-!
Things that a field of a pattern can stand for: a text first, then what its members lead to.  A kind
lends its members to its things, after its own those of the kind that all things are of.
-/

namespace Scaffold.Pattern

/-- A thing that a field can stand for. -/
inductive Thing where
  | text (cs : List Char)
  | kind (k : Kind)
  | tuple (kinds : List Kind)
  | nothing
  | method (owner : Option Thing) (name : String)
  | operation (owner : Thing) (source : Kind) (name : String)
  | freeMethod (source : Kind) (name : String)
  | freeOperation (source : Kind) (name : String)
deriving Inhabited

def Thing.kindOf : Thing → Kind
  | .text _ => .text
  | .kind _ => .kind
  | .tuple _ => .tuple
  | .nothing => .nothing
  | .method _ _ => .method
  | .operation _ _ _ => .operation
  | .freeMethod _ _ => .freeMethod
  | .freeOperation _ _ => .freeOperation

def Thing.ofString (s : String) : Thing := .text s.toList

/-- A kind and the kinds that it takes after. -/
def Kind.lineage (k : Kind) : List Kind :=
  if k = .anything then [k] else [k, .anything]

/-- What is said of a kind, as a thing. -/
def Kind.doc (k : Kind) : Thing :=
  match k.doc? with
  | some s => .ofString s
  | none => .nothing

/-- The member that holds the kind of a thing. -/
def kindMember : String := "__class__"

/-- The member that makes things of a kind. -/
def makerMember : String := "__new__"

/-- The members that hold what a kind is. -/
def Kind.fields (k : Kind) : List (String × Thing) := [
  (kindMember, .kind .kind), ("__name__", .ofString k.name), ("__qualname__", .ofString k.name),
  ("__module__", .ofString "builtins"), ("__mro__", .tuple k.lineage),
  ("__bases__", .tuple (k.lineage.drop 1)),
  ("__base__", (k.lineage[1]?.map Thing.kind).getD .nothing), ("__doc__", k.doc)]

/-- The full name of a method of some owner. -/
def ownedName (owner : Option Thing) (name : String) : String :=
  match owner with
  | none => name
  | some (.kind k) => k.name ++ "." ++ name
  | some x => x.kindOf.name ++ "." ++ name

/-- The members that hold names of a thing that has one. -/
def nameFields (name full : String) : List (String × Thing) :=
  [("__name__", .ofString name), ("__qualname__", .ofString full)]

/-- The members that hold what a thing is. -/
def Thing.fields (x : Thing) : List (String × Thing) :=
  let own : List (String × Thing) := match x with
    | .kind k => k.fields
    | .method owner name => nameFields name (ownedName owner name) ++
      [("__self__", owner.getD .nothing), ("__module__", .nothing)]
    | .operation owner source name => nameFields name (source.name ++ "." ++ name) ++
      [("__self__", owner), ("__objclass__", .kind source)]
    | .freeMethod source name => nameFields name (source.name ++ "." ++ name) ++
      [("__objclass__", .kind source)]
    | .freeOperation source name => nameFields name (source.name ++ "." ++ name) ++
      [("__objclass__", .kind source)]
    | _ => [("__doc__", x.kindOf.doc)]
  own ++ [(kindMember, .kind x.kindOf)]

/-- What the kind `source` lends under a name to the kind `k` and to things of that kind alike. -/
def shared? (k source : Kind) (name : String) : Option Thing :=
  if source.kindMethods.contains name then some (.method (some (.kind k)) name)
  else if name = makerMember ∧ source.hasMaker then some (.method (some (.kind source)) name)
  else if name = "maketrans" ∧ source = .text then some (.method none name)
  else none

/-- What the kind `source` lends under a name to the thing `x`. -/
def bound? (x : Thing) (source : Kind) (name : String) : Option Thing :=
  if source.operations.contains name then some (.operation x source name)
  else if source.methods.contains name then some (.method (some x) name)
  else shared? x.kindOf source name

/-- What the kind `source` lends under a name to the kind `k`. -/
def free? (k source : Kind) (name : String) : Option Thing :=
  if source.operations.contains name then some (.freeOperation source name)
  else if source.methods.contains name then some (.freeMethod source name)
  else shared? k source name

def Thing.member? (x : Thing) (name : String) : Option Thing :=
  x.fields.lookup name <|>
    match x with
    | .kind k => k.lineage.findSome? (free? k · name) <|> bound? x .kind name
    | x => x.kindOf.lineage.findSome? (bound? x · name)

/-- The elements between parentheses. -/
def inParentheses : List String → String
  | [x] => "(" ++ x ++ ",)"
  | xs => "(" ++ ", ".intercalate xs ++ ")"

def Kind.shown (k : Kind) : String :=
  "<class '" ++ k.name ++ "'>"

/-- A thing as it is shown among others: a text between quotes. -/
def Thing.shown : Thing → String
  | .text cs => Text.quoted (String.ofList cs)
  | .kind k => k.shown
  | .tuple kinds => inParentheses (kinds.map Kind.shown)
  | .nothing => "None"
  | .method owner name => "<built-in method " ++ name ++ " of "
      ++ (owner.getD .nothing).kindOf.name ++ " object>"
  | .operation owner _ name =>
    "<method-wrapper '" ++ name ++ "' of " ++ owner.kindOf.name ++ " object>"
  | .freeMethod source name => "<method '" ++ name ++ "' of '" ++ source.name ++ "' objects>"
  | .freeOperation source name =>
    "<slot wrapper '" ++ name ++ "' of '" ++ source.name ++ "' objects>"

/-- A thing as it is shown on its own. -/
def Thing.plain : Thing → List Char
  | .text cs => cs
  | x => x.shown.toList

end Scaffold.Pattern
