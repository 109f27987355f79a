import Scaffold.Pattern.Layout
import Scaffold.Pattern.Member
/-!
Patterns: texts in which a field in braces stands for a name.  The fields are filled in from left
to right, and the first one that cannot be filled is the fault of the pattern.
-/

namespace Scaffold.Pattern

/-- A thing as faults name it: by its kind, or as a kind itself. -/
inductive Owner where
  | thing (k : Kind)
  | kind (k : Kind)
deriving DecidableEq

def Thing.owner : Thing → Owner
  | .kind k => .kind k
  | x => .thing x.kindOf

inductive PatternFault where
  | malformed (fault : FormFault)
  | unbound (name : String)
  | noPosition (index : Nat)
  | pastEnd (k : Kind)
  | notAnIndex (k : Kind)
  | noElements (owner : Owner)
  | noMember (owner : Owner) (name : String)
  | noLayout (k : Kind)
deriving DecidableEq

/-- The name of a kind where its indices are spoken of. -/
def Kind.indexName : Kind → String
  | .text => "string"
  | k => k.name

def PatternFault.message : PatternFault → String
  | .malformed fault => fault.message
  | .unbound name => Text.quoted name
  | .noPosition index =>
    "Replacement index " ++ toString index ++ " out of range for positional args tuple"
  | .pastEnd k => k.indexName ++ " index out of range"
  | .notAnIndex .text => "string indices must be integers, not 'str'"
  | .notAnIndex k => k.indexName ++ " indices must be integers or slices, not str"
  | .noElements (.thing k) => "'" ++ k.name ++ "' object is not subscriptable"
  | .noElements (.kind k) => "type '" ++ k.name ++ "' is not subscriptable"
  | .noMember (.thing k) name => "'" ++ k.name ++ "' object has no attribute '" ++ name ++ "'"
  | .noMember (.kind k) name => "type object '" ++ k.name ++ "' has no attribute '" ++ name ++ "'"
  | .noLayout k => "unsupported format string passed to " ++ k.name ++ ".__format__"

/-- The names that a pattern may use, and what they stand for. -/
abbrev Names := List (String × String)

/-- A character that ends the first part of a field's name. -/
def endsHead (c : Char) : Bool :=
  c == '.' || c == '['

def wholeNumber? (cs : List Char) : Except FormFault (Option Nat) :=
  match readNumber? cs with
  | .ok (n, []) => .ok n
  | .ok _ => .ok none
  | .error e => .error e

/-- What the head of a field's name stands for. -/
def headOf (names : Names) (head : List Char) : Except PatternFault Thing :=
  match wholeNumber? head with
  | .error e => .error (.malformed e)
  | .ok (some n) => .error (.noPosition n)
  | .ok none =>
    if head.isEmpty then .error (.noPosition 0)
    else
      match names.lookup (String.ofList head) with
      | some s => .ok (.ofString s)
      | none => .error (.unbound (String.ofList head))

/-- The element of a thing at an index; what is no index is none. -/
def elementOf (x : Thing) (index : Option Nat) : Except PatternFault Thing :=
  match x, index with
  | .text cs, some n => (cs[n]?.map fun c => Thing.text [c]).elim (.error (.pastEnd .text)) .ok
  | .tuple ks, some n => (ks[n]?.map Thing.kind).elim (.error (.pastEnd .tuple)) .ok
  | .text _, none => .error (.notAnIndex .text)
  | .tuple _, none => .error (.notAnIndex .tuple)
  | x, _ => .error (.noElements x.owner)

/-- What the rest of a field's name selects of a thing. -/
def select (x : Thing) (path : List Char) : Except PatternFault Thing :=
  match path with
  | [] => .ok x
  | c :: rest =>
    if c = '.' then
      let name := rest.takeWhile (!endsHead ·)
      if name.isEmpty then .error (.malformed .emptyMember)
      else
        match x.member? (String.ofList name) with
        | some y => select y (rest.dropWhile (!endsHead ·))
        | none => .error (.noMember x.owner (String.ofList name))
    else if c = '[' then
      let name := rest.takeWhile (· != ']')
      match wholeNumber? name with
      | .error e => .error (.malformed e)
      | .ok index =>
        if name.isEmpty then .error (.malformed .emptyMember)
        else
          match elementOf x index with
          | .ok y => select y ((rest.dropWhile (· != ']')).drop 1)
          | .error e => .error e
    else .error (.malformed .afterBracket)
termination_by path.length
decreasing_by
  · have := (List.dropWhile_sublist (!endsHead ·) (l := rest)).length_le
    simp only [List.length_cons]
    omega
  · have := (List.dropWhile_sublist (· != ']') (l := rest)).length_le
    simp only [List.length_drop, List.length_cons]
    omega

/-- A text with all but ASCII escaped. -/
def asciiOnly (cs : List Char) : List Char :=
  cs.flatMap fun c => if c.toNat < 128 then [c] else Text.hexEscape c

def convert (x : Thing) : Option Char → Except FormFault Thing
  | none => .ok x
  | some 's' => .ok (.text x.plain)
  | some 'r' => .ok (.ofString x.shown)
  | some 'a' => .ok (.text (asciiOnly x.shown.toList))
  | some c => .error (.unknownConversion c)

/-- A thing laid out; only a text has a layout. -/
def layOutThing (spec : List Char) (x : Thing) : Except PatternFault (List Char) :=
  match x with
  | .text cs => (layOut spec cs).mapError .malformed
  | x => if spec.isEmpty then .ok x.plain else .error (.noLayout x.kindOf)

def fillField (names : Names) (f : Field) (spec : Except PatternFault (List Char)) :
    Except PatternFault (List Char) := do
  let x ← headOf names (f.name.takeWhile (!endsHead ·))
  let x ← select x (f.name.dropWhile (!endsHead ·))
  let x ← (convert x f.conversion).mapError .malformed
  let spec ← spec
  layOutThing spec x

/-- The text of pieces one after the other. -/
def fillPieces (fillOne : Field → Except PatternFault (List Char)) :
    List Piece → Except PatternFault (List Char)
  | [] => .ok []
  | .literal c :: rest => (fillPieces fillOne rest).map (c :: ·)
  | .fault e :: _ => .error (.malformed e)
  | .field f :: rest => do
    let text ← fillOne f
    (fillPieces fillOne rest).map (text ++ ·)

/-- The text of a pattern whose fields may hold patterns `depth` levels deep. -/
def fillTo (names : Names) : Nat → List Char → Except PatternFault (List Char)
  | 0, _ => .error (.malformed .tooDeep)
  | depth + 1, pattern =>
    fillPieces
      (fun f => fillField names f
        (if f.spec.contains '\x7b' then fillTo names depth f.spec else .ok f.spec))
      (pieces pattern)

/-- The text of a pattern.  A layout may hold fields itself, but theirs may not. -/
def fill (pattern : String) (names : Names) : Except PatternFault String :=
  (fillTo names 2 pattern.toList).map String.ofList

end Scaffold.Pattern
