import Scaffold.Yaml.Cursor
/-!
Plain scalars: text without quotes.  It ends before a comment, a colon that makes it a key, or a
line that is not indented far enough; its lines are joined by blanks.
-/

namespace Scaffold.Yaml

/-- A character that is read as part of a collection between brackets. -/
def isFlowMark (c : Char) : Bool :=
  c == ',' || c == '[' || c == ']' || c == '\x7b' || c == '\x7d'

/-- The characters of a plain scalar up to the first blank, line end or mark that ends it; `flow`
tells that it stands between brackets. -/
def plainRun (flow : Bool) : List Char → List Char
  | [] => []
  | c :: rest =>
    if isGap (some c) then []
    else if c = ':' ∧ (isGap rest.head? || (flow && rest.head?.any isFlowMark)) then []
    else if flow ∧ (isFlowMark c || c = '?') then []
    else c :: plainRun flow rest

/-- The line breaks and blanks that come next, as the line breaks among them; nothing if a
separator of documents follows one of them. -/
def plainBreaks : Nat → Cursor → Option (List Char) × Cursor
  | 0, c => (some [], c)
  | n + 1, c =>
    if c.sees (· == ' ') then plainBreaks n c.advance
    else if c.seesBreak then
      let (b, c) := c.skipBreak
      if seesSeparator c then (none, c)
      else
        match plainBreaks n c with
        | (some bs, c) => (some (b :: bs), c)
        | (none, c) => (none, c)
    else (some [], c)

/-- What stands between two runs of a plain scalar, whether a line was ended, and the place behind
it; there is nothing where the scalar ends. -/
def plainSpaces (c : Cursor) : List Char × Bool × Cursor :=
  let (blanks, c) := c.takeWhile (· == ' ')
  if c.seesBreak then
    let (b, c) := c.skipBreak
    if seesSeparator c then ([], true, c)
    else
      match plainBreaks c.rest.length c with
      | (none, c) => ([], true, c)
      | (some bs, c) =>
        (if b ≠ '\n' then b :: bs else if bs.isEmpty then [' '] else bs, true, c)
  else (blanks, false, c)

/-- A plain scalar: its text, whether it ended at the start of a line, and the place behind it.
`least` is the column from which on a further line belongs to it. -/
def plainText (flow : Bool) (least : Nat) : Nat → Cursor → List Char × Bool × Cursor
  | 0, c => ([], false, c)
  | n + 1, c =>
    let run := if c.sees (· == '#') then [] else plainRun flow c.rest
    if run.isEmpty then ([], false, c)
    else
      let (spaces, ended, c) := plainSpaces (c.skip run.length)
      if spaces.isEmpty || c.sees (· == '#') || (!flow && c.column < least) then (run, ended, c)
      else
        let (more, later, d) := plainText flow least n c
        if more.isEmpty then (run, ended, d) else (run ++ spaces ++ more, later, d)

end Scaffold.Yaml
