import Scaffold.Text.Split
import Scaffold.Yaml.Moment
import Scaffold.Yaml.Property
/-!
Tags: what a part of a document is.  A part says so itself, or it is a list, a mapping or a text;
but a plain scalar that looks like nothing, a truth value, a number or a moment is that.
-/

namespace Scaffold.Yaml

inductive Tag where
  | null
  | truth
  | whole
  | real
  | bytes
  | moment
  | text
  | list
  | pairs
  | set
  | mapping
  | merge
  | default
  | unknown
deriving DecidableEq, Inhabited

/-- What the names of the tags that are known start with. -/
def tagStart : String := "tag:yaml.org,2002:"

/-- The names of the tags that are known, without their start. -/
def tagNames : List (String × Tag) := [
  ("null", .null), ("bool", .truth), ("int", .whole), ("float", .real), ("binary", .bytes),
  ("timestamp", .moment), ("str", .text), ("seq", .list), ("omap", .pairs), ("pairs", .pairs),
  ("set", .set), ("map", .mapping), ("merge", .merge), ("value", .default)]

def Tag.ofName (name : String) : Tag :=
  ((tagNames.map fun t => (tagStart ++ t.1, t.2)).lookup name).getD .unknown

/-- What handles stand for. -/
abbrev Handles := List (String × String)

/-- The handles that need not be declared. -/
def commonHandles : Handles := [("!", "!"), ("!!", tagStart)]

/-- The handles that directives declare, each of them once; only the first version is known. -/
def handlesOf (versioned : Bool) (declared : Handles) : List Directive → Option Handles
  | [] => some (declared ++ commonHandles)
  | .version major :: ds =>
    if versioned || major ≠ 1 then none else handlesOf true declared ds
  | .handle name meaning :: ds =>
    if (declared.lookup name).isSome then none
    else handlesOf versioned ((name, meaning) :: declared) ds
  | .other :: ds => handlesOf versioned declared ds

/-- The name of a tag, if its handle is known. -/
def TagMark.name? (handles : Handles) (t : TagMark) : Option String :=
  match t.handle with
  | none => some t.suffix
  | some handle => (handles.lookup handle).map (· ++ t.suffix)

/-- The tag that says only that a part is none of the plain texts. -/
def bareTag : String := "!"

/-- A text without the mark that may end it. -/
def unended {α : Type} [DecidableEq α] (mark : α) (cs : List α) : List α :=
  if cs.getLast? = some mark then cs.dropLast else cs

/-- A digit, or the underscore that may stand between digits. -/
def isSpacedDigit (digit : Char → Bool) (c : Char) : Bool :=
  digit c || c == '_'

/-- Digits, at least one of them, with underscores between them. -/
def areDigits (digit : Char → Bool) (cs : List Char) : Bool :=
  !cs.isEmpty && cs.all (isSpacedDigit digit)

def unsigned : List Char → List Char
  | '-' :: cs => cs
  | '+' :: cs => cs
  | cs => cs

/-- The pieces between colons of a number in base sixty: all but the first have one or two digits
and are below sixty. -/
def isSixty (cs : List Char) : Bool :=
  match cs with
  | [c] => c.isDigit
  | [c, d] => '0' ≤ c && c ≤ '5' && d.isDigit
  | _ => false

/-- A text that starts with a digit and goes on with digits. -/
def isNumeral (cs : List Char) : Bool :=
  cs.head?.any Char.isDigit && cs.all (isSpacedDigit Char.isDigit)

/-- A text of the form of a whole number: in base two, eight, ten, sixteen or sixty. -/
def hasWholeForm (cs : List Char) : Bool :=
  match unsigned cs with
  | '0' :: 'b' :: bits => areDigits (fun c => c == '0' || c == '1') bits
  | '0' :: 'x' :: digits => areDigits (fun c => (Text.hexValue? c).isSome) digits
  | '0' :: digits => digits.all (isSpacedDigit fun c => '0' ≤ c && c ≤ '7')
  | digits =>
    match Text.splitAtMark ':' digits with
    | [] => false
    | first :: rest => isNumeral first && rest.all isSixty

/-- The exponent of a number with a point: a signed number, or none. -/
def isExponent (cs : List Char) : Bool :=
  match cs with
  | [] => true
  | e :: sign :: digits =>
    (e == 'e' || e == 'E') && (sign == '+' || sign == '-') && !digits.isEmpty
      && digits.all Char.isDigit
  | _ => false

/-- A text of the form of a number with a point, in base ten. -/
def hasPointForm (cs : List Char) : Bool :=
  let digits := unsigned cs
  let before := digits.takeWhile (isSpacedDigit Char.isDigit)
  match digits.dropWhile (isSpacedDigit Char.isDigit) with
  | '.' :: after =>
    let fraction := after.takeWhile (isSpacedDigit Char.isDigit)
    let wellBegun := if before.isEmpty then digits == cs && fraction.head?.any Char.isDigit
      else before.head?.any Char.isDigit
    wellBegun && isExponent (after.dropWhile (isSpacedDigit Char.isDigit))
  | _ => false

/-- A text of the form of a number with a point, in base sixty. -/
def hasSixtyPointForm (cs : List Char) : Bool :=
  match Text.splitAtMark '.' (unsigned cs) with
  | [whole, fraction] =>
    match Text.splitAtMark ':' whole with
    | first :: second :: rest => isNumeral first && (second :: rest).all isSixty
        && fraction.all (isSpacedDigit Char.isDigit)
    | _ => false
  | _ => false

/-- The words for infinity, which may have a sign. -/
def realWords : List String := [".inf", ".Inf", ".INF"]

/-- The words for what is no number and has no sign. -/
def nanWords : List String := [".nan", ".NaN", ".NAN"]

def hasRealForm (cs : List Char) : Bool :=
  hasPointForm cs || hasSixtyPointForm cs || realWords.contains (String.ofList (unsigned cs))
    || nanWords.contains (String.ofList cs)

def truthWords : List String := [
  "yes", "Yes", "YES", "no", "No", "NO", "true", "True", "TRUE", "false", "False", "FALSE", "on",
  "On", "ON", "off", "Off", "OFF"]

/-- The words that stand for nothing. -/
def nullWords : List String := ["~", "null", "Null", "NULL", ""]

/-- What a plain text is. -/
def Tag.ofPlain (cs : List Char) : Tag :=
  let word := String.ofList cs
  if truthWords.contains word then .truth
  else if hasRealForm cs then .real
  else if hasWholeForm cs then .whole
  else if word = "<<" then .merge
  else if nullWords.contains word then .null
  else if (momentText? cs).any MomentText.isPlain then .moment
  else if word = "=" then .default
  else .text

end Scaffold.Yaml
