import Scaffold.Value
import Scaffold.Text.Quoted
/-!
Writing JSON, on one line or spread over several.  Only quotes, backslashes and control characters
of a text are escaped, and halves of pairs.  What JSON has no form for is written as a text.
-/

namespace Scaffold.Json

def writtenChar (c : Char) : List Char :=
  if c = '"' then ['\\', '"']
  else if c = '\\' then ['\\', '\\']
  else if c = '\n' then ['\\', 'n']
  else if c = '\r' then ['\\', 'r']
  else if c = '\t' then ['\\', 't']
  else if c = '\x08' then ['\\', 'b']
  else if c = '\x0c' then ['\\', 'f']
  else if c.toNat < 32 then '\\' :: 'u' :: Text.hexDigits 4 c.toNat
  else [c]

def writeText (s : String) : String :=
  String.ofList ('"' :: s.toList.flatMap writtenChar ++ ['"'])

def writePoints (points : List Nat) : String :=
  let written (n : Nat) : List Char :=
    if n.isValidChar then writtenChar (Char.ofNat n) else '\\' :: 'u' :: Text.hexDigits 4 n
  String.ofList ('"' :: points.flatMap written ++ ['"'])

def writeScalar : Scalar → String
  | .null => "null"
  | .bool b => if b then "true" else "false"
  | .int n => toString n
  | .real x => x.text
  | .text s => writeText s
  | .unpaired points => writePoints points
  | s => writeText s.shown

def writeKey (k : Scalar) : String :=
  if k.isText then writeScalar k else writeText (writeScalar k)

/-- How the parts of a document are set apart. -/
structure Style where
  /-- What stands before an element that is nested `depth` levels deep. -/
  lead : Nat → String
  /-- What stands between a key and its value. -/
  colon : String

/-- All on one line. -/
def compact : Style := ⟨fun _ => "", ":"⟩

/-- A line for each element, two spaces deeper than its parent. -/
def indented : Style := ⟨fun depth => String.ofList ('\n' :: List.replicate (2 * depth) ' '), ": "⟩

def bracketed (style : Style) (depth : Nat) (opening closing : String) (items : List String) :
    String :=
  if items.isEmpty then opening ++ closing
  else opening ++ ",".intercalate (items.map (style.lead (depth + 1) ++ ·)) ++ style.lead depth
    ++ closing

mutual
def writeAt (style : Style) (depth : Nat) : Value → String
  | .scalar s => writeScalar s
  | .list vs => bracketed style depth "[" "]" (writeAll style depth vs)
  | .tuple vs => bracketed style depth "[" "]" (writeAll style depth vs)
  | .set es => bracketed style depth "[" "]" (es.map writeScalar)
  | .dict es => bracketed style depth "\x7b" "\x7d" (writeEntries style depth es)
  | .entity e => writeText e.className

def writeAll (style : Style) (depth : Nat) : List Value → List String
  | [] => []
  | v :: vs => writeAt style (depth + 1) v :: writeAll style depth vs

def writeEntries (style : Style) (depth : Nat) : List (Scalar × Value) → List String
  | [] => []
  | (k, v) :: es =>
    (writeKey k ++ style.colon ++ writeAt style (depth + 1) v) :: writeEntries style depth es
end

def write (style : Style) (v : Value) : String :=
  writeAt style 0 v

end Scaffold.Json
