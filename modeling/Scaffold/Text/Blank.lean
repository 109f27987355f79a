/-!
Blank characters: white space, as it separates words and is cut from the ends of a text.
-/

namespace Scaffold.Text

/-- The code points of white space, the four information separators among them. -/
def blankRanges : List (Nat × Nat) :=
  [(9, 13), (28, 32), (133, 133), (160, 160), (5760, 5760), (8192, 8202), (8232, 8233),
    (8239, 8239), (8287, 8287), (12288, 12288)]

def isBlank (c : Char) : Bool :=
  blankRanges.any fun r => r.1 ≤ c.toNat && c.toNat ≤ r.2

def isLineEnd (c : Char) : Bool :=
  (10 ≤ c.toNat && c.toNat ≤ 13) || (28 ≤ c.toNat && c.toNat ≤ 30)
    || c == '\x85' || c == '\u2028' || c == '\u2029'

def allBlank (cs : List Char) : Bool :=
  cs.all isBlank

/-- The text without the white space it starts with. -/
def trimLeft (cs : List Char) : List Char :=
  cs.dropWhile isBlank

def trimRight (cs : List Char) : List Char :=
  (cs.reverse.dropWhile isBlank).reverse

def trim (cs : List Char) : List Char :=
  trimRight (trimLeft cs)

/-- The first word of a text and what follows the white space after it. -/
def firstWord (cs : List Char) : List Char × List Char :=
  let start := trimLeft cs
  (start.takeWhile (!isBlank ·), trimLeft (start.dropWhile (!isBlank ·)))

theorem length_trimLeft_le (cs : List Char) : (trimLeft cs).length ≤ cs.length :=
  (List.dropWhile_sublist _).length_le

def trimmed (s : String) : String :=
  String.ofList (trim s.toList)

end Scaffold.Text
