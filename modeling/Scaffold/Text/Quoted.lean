import Scaffold.Text.Hex
import Scaffold.Text.Printable
/-!
Quoted text, as messages show it: between single quotes, or between double quotes when the text
holds a single quote and no double one.  The quote in use, the backslash and all that cannot be
printed are escaped.  Code points that are no characters, and bytes, are quoted in the same way.
-/

namespace Scaffold.Text

/-- The escape of a character that is not shown as itself: two, four or eight digits. -/
def hexEscape (c : Char) : List Char :=
  let n := c.toNat
  if n < 0x100 then '\\' :: 'x' :: hexDigits 2 n
  else if n < 0x10000 then '\\' :: 'u' :: hexDigits 4 n
  else '\\' :: 'U' :: hexDigits 8 n

/-- A character as it stands between two marks `quote`. -/
def quotedChar (quote c : Char) : List Char :=
  if c = quote || c = '\\' then ['\\', c]
  else if c = '\n' then ['\\', 'n']
  else if c = '\r' then ['\\', 'r']
  else if c = '\t' then ['\\', 't']
  else if isPrintable c then [c]
  else hexEscape c

def quoteMark (cs : List Char) : Char :=
  if cs.contains '\'' && !cs.contains '"' then '"' else '\''

def quoted (s : String) : String :=
  let mark := quoteMark s.toList
  String.ofList (mark :: s.toList.flatMap (quotedChar mark) ++ [mark])

/-- The characters of code points, with a mark of replacement for a half of a pair. -/
def charsOf (points : List Nat) : List Char :=
  points.map fun n => if n.isValidChar then Char.ofNat n else '\uFFFD'

/-- The text of code points; a half of a pair has no place in it, and gives way to a mark of
replacement for each byte of its encoding. -/
def replacedText (points : List Nat) : String :=
  String.ofList (points.flatMap fun n =>
    if n.isValidChar then [Char.ofNat n] else List.replicate 3 '\uFFFD')

def quotedPoints (points : List Nat) : String :=
  let mark := quoteMark (charsOf points)
  let quotedPoint (n : Nat) : List Char :=
    if n.isValidChar then quotedChar mark (Char.ofNat n) else '\\' :: 'u' :: hexDigits 4 n
  String.ofList (mark :: points.flatMap quotedPoint ++ [mark])

/-- A byte as it stands between two marks `quote`. -/
def quotedByte (quote : Char) (b : UInt8) : List Char :=
  let c := Char.ofNat b.toNat
  if b.toNat < 127 then quotedChar quote c else '\\' :: 'x' :: hexDigits 2 b.toNat

def quotedBytes (bytes : List UInt8) : String :=
  let mark := quoteMark (bytes.map fun b => Char.ofNat b.toNat)
  String.ofList ('b' :: mark :: bytes.flatMap (quotedByte mark) ++ [mark])

end Scaffold.Text
