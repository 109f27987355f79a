import Scaffold.Calendar
import Scaffold.Model.Entity
import Scaffold.Number.Decimal
import Scaffold.Number.Whole
import Scaffold.Text.Quoted
/-!
Values: what a template reads and what a document holds.  Scalars serve as keys of mappings and as
elements of sets too.  Numbers, truth values among them, are compared by what they amount to; a list
never equals a tuple; entities are compared by their fields.
-/

namespace Scaffold

open Number Model

/-- A value without parts.  A text with a half of a pair that lacks the other half is no string; it
is given by its code points. -/
inductive Scalar where
  | null
  | bool (b : Bool)
  | int (n : Int)
  | real (x : Double)
  | text (s : String)
  | unpaired (points : List Nat)
  | bytes (bs : List UInt8)
  | date (d : Date)
  | moment (m : Moment)
deriving DecidableEq, Inhabited

inductive Value where
  | scalar (s : Scalar)
  | list (items : List Value)
  | tuple (items : List Value)
  | set (elements : List Scalar)
  | dict (entries : List (Scalar × Value))
  | entity (e : Entity)
deriving Inhabited

@[match_pattern]
abbrev Value.text (s : String) : Value := .scalar (.text s)

@[match_pattern]
abbrev Value.bool (b : Bool) : Value := .scalar (.bool b)

@[match_pattern]
abbrev Value.int (n : Int) : Value := .scalar (.int n)

@[match_pattern]
abbrev Value.real (x : Double) : Value := .scalar (.real x)

@[match_pattern]
abbrev Value.null : Value := .scalar .null

def Scalar.typeName : Scalar → String
  | .null => "NoneType"
  | .bool _ => "bool"
  | .int _ => "int"
  | .real _ => "float"
  | .text _ => "str"
  | .unpaired _ => "str"
  | .bytes _ => "bytes"
  | .date _ => "datetime.date"
  | .moment _ => "datetime.datetime"

def Value.typeName : Value → String
  | .scalar s => s.typeName
  | .list _ => "list"
  | .tuple _ => "tuple"
  | .set _ => "set"
  | .dict _ => "dict"
  | .entity e => e.className

/-- The whole number that a truth value or a whole number counts as. -/
def Scalar.whole? : Scalar → Option Int
  | .bool b => some (if b then 1 else 0)
  | .int n => some n
  | _ => none

def Scalar.equals : Scalar → Scalar → Bool
  | .null, .null => true
  | .text s, .text t => s == t
  | .unpaired s, .unpaired t => s == t
  | .bytes s, .bytes t => s == t
  | .date d, .date e => d == e
  | .moment m, .moment n => m.equals n
  | .real x, .real y => x.equals y
  | .real x, s => s.whole?.any x.equalsInt
  | s, .real x => s.whole?.any x.equalsInt
  | s, t =>
    match s.whole?, t.whole? with
    | some m, some n => m == n
    | _, _ => false

/-- Two scalars count as one element of a sequence when they are equal or the same
not-a-number. -/
def Scalar.sameElement (s t : Scalar) : Bool :=
  s.equals t || s == t

def Scalar.ofPoints (points : List Nat) : Scalar :=
  if points.all fun n => decide n.isValidChar then .text (String.ofList (Text.charsOf points))
  else .unpaired points

def Scalar.isText : Scalar → Bool
  | .text _ => true
  | .unpaired _ => true
  | _ => false

def addElement (elements : List Scalar) (s : Scalar) : List Scalar :=
  if elements.any (·.sameElement s) then elements else elements ++ [s]

/-- The entry of a mapping under a key. -/
def entryOf? (entries : List (Scalar × Value)) (key : Scalar) : Option Value :=
  (entries.find? (·.1.sameElement key)).map (·.2)

/-- The entry of a mapping under a textual key. -/
def fieldOf? (entries : List (Scalar × Value)) (name : String) : Option Value :=
  entryOf? entries (.text name)

/-- A mapping with an entry set: in place if the key is there, at the end otherwise. -/
def setEntry (entries : List (Scalar × Value)) (key : Scalar) (v : Value) :
    List (Scalar × Value) :=
  if entries.any (·.1.sameElement key) then
    entries.map fun e => if e.1.sameElement key then (e.1, v) else e
  else entries ++ [(key, v)]

mutual
/-- Equality of values as elements of a sequence or a mapping. -/
def Value.sameElement : Value → Value → Bool
  | .scalar s, .scalar t => s.sameElement t
  | .list xs, .list ys => Value.sameElements xs ys
  | .tuple xs, .tuple ys => Value.sameElements xs ys
  | .set es, .set fs => es.length == fs.length && es.all fun e => fs.any (·.sameElement e)
  | .dict es, .dict fs => es.length == fs.length && Value.sameEntries es fs
  | .entity e, .entity f => e.agrees f
  | _, _ => false

def Value.sameElements : List Value → List Value → Bool
  | [], [] => true
  | x :: xs, y :: ys => Value.sameElement x y && Value.sameElements xs ys
  | _, _ => false

/-- Whether each entry has an equal one under its key. -/
def Value.sameEntries : List (Scalar × Value) → List (Scalar × Value) → Bool
  | [], _ => true
  | (k, v) :: rest, fs =>
    (match entryOf? fs k with
      | some w => Value.sameElement v w
      | none => false) && Value.sameEntries rest fs
end

def Value.equals : Value → Value → Bool
  | .scalar s, .scalar t => s.equals t
  | v, w => v.sameElement w

/-- Whether a value counts as true where a truth value is not required. -/
def Value.isTruthy : Value → Bool
  | .null => false
  | .bool b => b
  | .int n => n != 0
  | .real x => !x.isZero
  | .text s => !s.isEmpty
  | .scalar (.bytes bs) => !bs.isEmpty
  | .scalar _ => true
  | .list xs => !xs.isEmpty
  | .tuple xs => !xs.isEmpty
  | .set es => !es.isEmpty
  | .dict es => !es.isEmpty
  | .entity _ => true

def Scalar.shown : Scalar → String
  | .null => "None"
  | .bool b => if b then "True" else "False"
  | .int n => toString n
  | .real x => x.text
  | .text s => Text.quoted s
  | .unpaired points => Text.quotedPoints points
  | .bytes bs => Text.quotedBytes bs
  | .date d => d.shown
  | .moment m => m.shown

mutual
def Value.shown : Value → String
  | .scalar s => s.shown
  | .list xs => "[" ++ ", ".intercalate (Value.shownAll xs) ++ "]"
  | .tuple [x] => "(" ++ x.shown ++ ",)"
  | .tuple xs => "(" ++ ", ".intercalate (Value.shownAll xs) ++ ")"
  | .set [] => "set()"
  | .set es => "\x7b" ++ ", ".intercalate (es.map Scalar.shown) ++ "\x7d"
  | .dict es => "\x7b" ++ ", ".intercalate (Value.shownEntries es) ++ "\x7d"
  | .entity e => e.className

def Value.shownAll : List Value → List String
  | [] => []
  | x :: xs => x.shown :: Value.shownAll xs

def Value.shownEntries : List (Scalar × Value) → List String
  | [] => []
  | (k, v) :: es => (k.shown ++ ": " ++ v.shown) :: Value.shownEntries es
end

/-- A whole number that has too many digits to be shown. -/
def Scalar.isUnwritable : Scalar → Bool
  | .int n => hasTooManyDigits n
  | _ => false

mutual
/-- Whether a whole number within a value has too many digits to be shown. -/
def Value.isUnwritable : Value → Bool
  | .scalar s => s.isUnwritable
  | .list xs => Value.anyUnwritable xs
  | .tuple xs => Value.anyUnwritable xs
  | .set es => es.any Scalar.isUnwritable
  | .dict es => Value.anyEntryUnwritable es
  | .entity _ => false

def Value.anyUnwritable : List Value → Bool
  | [] => false
  | x :: xs => x.isUnwritable || Value.anyUnwritable xs

def Value.anyEntryUnwritable : List (Scalar × Value) → Bool
  | [] => false
  | (k, v) :: es => k.isUnwritable || v.isUnwritable || Value.anyEntryUnwritable es
end

mutual
/-- A value in whose mappings each key has the last of its values, in the place of the first. -/
def Value.settled : Value → Value
  | .list xs => .list (Value.allSettled xs)
  | .tuple xs => .tuple (Value.allSettled xs)
  | .dict es => .dict ((Value.entriesSettled es).foldl (fun fs e => setEntry fs e.1 e.2) [])
  | v => v

def Value.allSettled : List Value → List Value
  | [] => []
  | x :: xs => x.settled :: Value.allSettled xs

def Value.entriesSettled : List (Scalar × Value) → List (Scalar × Value)
  | [] => []
  | (k, v) :: es => (k, v.settled) :: Value.entriesSettled es
end

end Scaffold
