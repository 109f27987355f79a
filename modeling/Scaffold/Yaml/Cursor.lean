/-!
Cursors: where a reader stands in a document, with its line and its column.
-/

namespace Scaffold.Yaml

def isBreak (c : Char) : Bool :=
  c == '\n' || c == '\r' || c == '\x85' || c == '\u2028' || c == '\u2029'

/-- The mark of byte order, which takes no column. -/
def orderMark : Char := '\uFEFF'

/-- A character that a document may hold. -/
def isAdmitted (c : Char) : Bool :=
  c == '\t' || c == '\n' || c == '\r' || c == '\x85' || (' ' ≤ c && c ≤ '~')
    || (0xA0 ≤ c.toNat && c.toNat ≠ 0xFFFE && c.toNat ≠ 0xFFFF)

/-- A place in a document and what follows it. -/
structure Cursor where
  rest : List Char
  index : Nat
  line : Nat
  column : Nat

def Cursor.start (cs : List Char) : Cursor := ⟨cs, 0, 0, 0⟩

namespace Cursor

def next? (c : Cursor) : Option Char := c.rest.head?

def second? (c : Cursor) : Option Char := c.rest[1]?

/-- The place behind the next character. -/
def advance (c : Cursor) : Cursor :=
  match c.rest with
  | [] => c
  | d :: rest =>
    if isBreak d then ⟨rest, c.index + 1, c.line + 1, 0⟩
    else ⟨rest, c.index + 1, c.line, if d = orderMark then c.column else c.column + 1⟩

/-- The place behind some characters. -/
def skip (c : Cursor) : Nat → Cursor
  | 0 => c
  | n + 1 => c.advance.skip n

/-- The place behind the line break that comes next, and the text it stands for. -/
def skipBreak (c : Cursor) : Char × Cursor :=
  match c.rest with
  | '\r' :: '\n' :: rest => ('\n', ⟨rest, c.index + 2, c.line + 1, 0⟩)
  | d :: _ => (if d = '\u2028' || d = '\u2029' then d else '\n', c.advance)
  | [] => ('\n', c)

def sees (c : Cursor) (p : Char → Bool) : Bool := c.next?.any p

def seesBreak (c : Cursor) : Bool := c.sees isBreak

/-- The line break that comes next, if there is one, and the place behind it. -/
def takeBreak (c : Cursor) : List Char × Cursor :=
  if c.seesBreak then ([c.skipBreak.1], c.skipBreak.2) else ([], c)

/-- The characters up to the first that fails a condition, and the place behind them. -/
def takeWhile (c : Cursor) (p : Char → Bool) : List Char × Cursor :=
  let run := c.rest.takeWhile p
  (run, c.skip run.length)

/-- The place behind the characters up to the first that fails a condition. -/
def dropWhile (c : Cursor) (p : Char → Bool) : Cursor :=
  (c.takeWhile p).2

def dropBlanks (c : Cursor) : Cursor :=
  c.dropWhile (· == ' ')

/-- Blanks are passed over, and a comment behind them up to the end of its line. -/
def dropComment (c : Cursor) : Cursor :=
  let c := c.dropBlanks
  if c.sees (· == '#') then c.dropWhile (!isBreak ·) else c

/-- The place behind the line, on whose rest nothing but a comment may stand. -/
def nextLine? (c : Cursor) : Option Cursor :=
  let c := c.dropComment
  if c.rest.isEmpty then some c
  else if c.seesBreak then some c.skipBreak.2
  else none

end Cursor

/-- A blank, a line end or the end of the document. -/
def isGap : Option Char → Bool
  | none => true
  | some c => c == ' ' || c == '\t' || isBreak c

/-- Three marks that separate documents, at the start of a line. -/
def seesSeparator (c : Cursor) : Bool :=
  (c.rest.take 3 == ['-', '-', '-'] || c.rest.take 3 == ['.', '.', '.']) && isGap c.rest[3]?

end Scaffold.Yaml
