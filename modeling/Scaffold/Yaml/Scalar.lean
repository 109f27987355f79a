import Scaffold.Text.Base64
import Scaffold.Text.Case
import Scaffold.Yaml.Fault
import Scaffold.Yaml.Tag
/-!
Scalars of documents: what a text stands for under its tag.  The tag decides, so that a text which
does not look like it is a fault.
-/

namespace Scaffold.Yaml

open Number

def truthValues : List (String × Bool) := [
  ("yes", true), ("no", false), ("true", true), ("false", false), ("on", true), ("off", false)]

def truthOf (cs : List Char) : Except Fault Bool :=
  let word := String.ofList (Text.lower cs)
  match truthValues.lookup word with
  | some b => .ok b
  | none => .error (.noTruth word)

/-- A sign, given as whether it is a minus, and the text behind it. -/
def signed? : List Char → Option (Bool × List Char)
  | [] => none
  | '-' :: cs => some (true, cs)
  | '+' :: cs => some (false, cs)
  | cs => some (false, cs)

/-- The text without the underscores between its digits. -/
def unspaced (cs : List Char) : List Char := cs.filter (· != '_')

/-- The whole number of a text without a sign. -/
def naturalOf (cs : List Char) : Except Fault Int :=
  let inBase (base : Nat) (cs : List Char) := (wholeIn base cs).mapError Fault.noWhole
  match cs with
  | [] => .error .emptyNumber
  | ['0'] => .ok 0
  | '0' :: 'b' :: bits => inBase 2 bits
  | '0' :: 'x' :: digits => inBase 16 digits
  | '0' :: _ => inBase 8 cs
  | _ =>
    ((Text.splitAtMark ':' cs).mapM (inBase 10)).map fun parts =>
      parts.foldl (fun n part => n * 60 + part) 0

def wholeOf (cs : List Char) : Except Fault Int := do
  match signed? (unspaced cs) with
  | none => .error .emptyNumber
  | some (negative, cs) =>
    let n ← naturalOf cs
    return if negative then -n else n

/-- The double of a text in base ten. -/
def decimalOf (cs : List Char) : Except Fault Double :=
  match Double.ofText? 0 (Text.trim cs) with
  | some x => .ok x
  | none => .error (.noReal (String.ofList cs))

/-- A sum of doubles with the digits of a number in base sixty, the last digit first.  What a place
counts has to be a double as well. -/
def addSixties (sum : Double) (count : Nat) : List Double → Except Fault Double
  | [] => .ok sum
  | digit :: digits =>
    if Double.ofNat count = .infinite false then .error .tooLarge
    else addSixties (sum.add (digit.times (.ofNat count))) (count * 60) digits

/-- The double of a text without a sign. -/
def unsignedOf (cs : List Char) : Except Fault Double :=
  if cs = ".inf".toList then .ok (.infinite false)
  else if cs = ".nan".toList then .ok (.nan 0)
  else
    match Text.splitAtMark ':' cs with
    | [_] => decimalOf cs
    | parts => do addSixties (.ofNat 0) 1 (← parts.mapM decimalOf).reverse

def realOf (cs : List Char) : Except Fault Double := do
  match signed? (Text.lower (unspaced cs)) with
  | none => .error .emptyNumber
  | some (negative, cs) =>
    let x ← unsignedOf cs
    return if negative then x.negate else x

/-- The moment of a text, which a line feed may end. -/
def momentOf (cs : List Char) : Except Fault Scalar :=
  match (momentText? cs).or (momentText? (unended '\n' cs)) with
  | none => .error .noMoment
  | some m => m.scalar.mapError .calendar

/-- The bytes of a text in base sixty-four. -/
def bytesOf (points : List Nat) : Except Fault (List UInt8) :=
  wellFormed (if points.all (· < 128) then Text.bytes? (Text.charsOf points) else none)

def scalarOf (tag : Tag) (points : List Nat) : Except Fault Scalar :=
  let cs := Text.charsOf points
  match tag with
  | .null => .ok .null
  | .truth => (truthOf cs).map .bool
  | .whole => (wholeOf cs).map .int
  | .real => (realOf cs).map .real
  | .bytes => (bytesOf points).map .bytes
  | .moment => momentOf cs
  | .text => .ok (.ofPoints points)
  | _ => .error .malformed

end Scaffold.Yaml
