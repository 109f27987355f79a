import Scaffold.Text.Blank
import Scaffold.Text.Case
import Scaffold.Text.Split
/-!
Names: identifiers of generated code, the spelling of registry types, and the conversions of a
name between hyphens, underscores and capitals.
-/

namespace Scaffold.Naming

open Scaffold.Text

/-- A character that an identifier may start with: an ASCII letter or the underscore. -/
def isNameStart (c : Char) : Bool :=
  c.isAlpha || c == '_'

def isNameRest (c : Char) : Bool :=
  c.isAlphanum || c == '_'

/-- The remainder of an identifier, to the end of the text or to a last line break. -/
def endsName : List Char → Bool
  | [] => true
  | c :: rest => (isNameRest c && endsName rest) || (c == '\n' && rest.isEmpty)

/-- An identifier; a single line break after it is let pass. -/
def isIdentifier (name : String) : Bool :=
  match name.toList with
  | [] => false
  | c :: rest => isNameStart c && endsName rest

def isSlugChar (c : Char) : Bool :=
  c.isLower || c.isDigit

/-- The lower-case text without blanks at its ends, with one hyphen for each run of characters that
a slug does not keep, and none at the ends. -/
def slug (cs : List Char) : List Char :=
  strip (· == '-') (squeeze (!isSlugChar ·) '-' false (trim (lower cs)))

def isWordBreak (c : Char) : Bool :=
  c == '-' || c == '_' || isBlank c

/-- A word with its first character in upper case. -/
def capitalize : List Char → List Char
  | [] => []
  | c :: rest => upperChar c ++ rest

/-- The words of a name, each capitalized, with nothing between them. -/
def pascalCase (cs : List Char) : List Char :=
  (runsOf (!isWordBreak ·) cs).flatMap capitalize

def lowerAlone (c : Char) : List Char :=
  lower [c]

/-- As `pascalCase`, with the first character in lower case. -/
def camelCase (cs : List Char) : List Char :=
  match pascalCase cs with
  | [] => []
  | c :: rest => lowerAlone c ++ rest

/-- Puts an underscore before each capital that small letters follow and some character of the
same line precedes; a word so marked is passed over whole. -/
def markHumps (cs : List Char) : List Char :=
  match cs with
  | [] => []
  | [c] => [c]
  | c :: u :: rest =>
    if c ≠ '\n' ∧ u.isUpper ∧ rest.head?.any Char.isLower then
      c :: '_' :: u :: (rest.takeWhile Char.isLower ++ markHumps (rest.dropWhile Char.isLower))
    else c :: markHumps (u :: rest)
termination_by cs.length
decreasing_by
  · have := (List.dropWhile_sublist Char.isLower (l := rest)).length_le
    simp only [List.length_cons]
    omega
  · simp

/-- Puts an underscore between a small letter or digit and a capital that follows it. -/
def markEdges : List Char → List Char
  | c :: u :: rest =>
    if (c.isLower || c.isDigit) && u.isUpper then c :: '_' :: markEdges (u :: rest)
    else c :: markEdges (u :: rest)
  | cs => cs

/-- A hyphen or a blank. -/
def isSpacer (c : Char) : Bool :=
  c == '-' || isBlank c

/-- The words of a name in lower case, with underscores at its humps, edges and spacers. -/
def snakeCase (cs : List Char) : List Char :=
  lower (squeeze isSpacer '_' false (markEdges (markHumps cs)))

/-- The spelling in generated code of a registry type: the parts of an absolute name are joined by
double colons, any other name is its own spelling. -/
def cxxName (name : String) : String :=
  if name.toList.head? = some '/' then
    "::".intercalate (((splitAtMark '/' name.toList).filter (!·.isEmpty)).map String.ofList)
  else name

end Scaffold.Naming
