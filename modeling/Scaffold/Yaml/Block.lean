import Scaffold.Yaml.Cursor
/-!
Block scalars: indented lines behind a bar, which keeps their ends, or behind an angle, which joins
them by blanks.  A sign after the mark says what becomes of the line ends at the end, a digit how
far the lines are indented.
-/

namespace Scaffold.Yaml

/-- What becomes of the line ends at the end of a block: one is kept, all are, or none. -/
inductive Chomping where
  | clip
  | keep
  | strip
deriving DecidableEq

/-- Reads the sign for the line ends, if there is one. -/
def chompingMark (c : Cursor) : Chomping × Cursor :=
  match c.next? with
  | some '+' => (.keep, c.advance)
  | some '-' => (.strip, c.advance)
  | _ => (.clip, c)

/-- Reads the digit for the indentation, if there is one; it must not be zero. -/
def indentMark (c : Cursor) : Option (Option Nat × Cursor) :=
  match c.next? with
  | some d =>
    if d = '0' then none
    else if d.isDigit then some (some (d.toNat - '0'.toNat), c.advance)
    else some (none, c)
  | none => some (none, c)

/-- Reads the sign and the digit of a block, in either order, and the rest of their line. -/
def blockHeader (c : Cursor) : Option (Chomping × Option Nat × Cursor) := do
  let (first, c) := chompingMark c
  let (digit, c) ← indentMark c
  let (chomping, c) := if first = .clip ∧ digit.isSome then chompingMark c else (first, c)
  if isGap c.next? && c.next? ≠ some '\t' then return (chomping, digit, ← c.nextLine?)
  else none

/-- The line breaks before the first line with text, and the deepest column that blanks reach. -/
def blockStart : Nat → Nat → Cursor → List Char × Nat × Cursor
  | 0, deepest, c => ([], deepest, c)
  | n + 1, deepest, c =>
    if c.seesBreak then
      let (b, c) := c.skipBreak
      let (bs, deepest, c) := blockStart n deepest c
      (b :: bs, deepest, c)
    else if c.sees (· == ' ') then
      let c := c.advance
      blockStart n (max deepest c.column) c
    else ([], deepest, c)

/-- Blanks up to a column are passed over. -/
def toColumn (column : Nat) (c : Cursor) : Cursor :=
  c.skip ((c.rest.take (column - c.column)).takeWhile (· == ' ')).length

/-- The line breaks that come next, with the blanks of the indentation passed over. -/
def blockBreaks (indent : Nat) : Nat → Cursor → List Char × Cursor
  | 0, c => ([], c)
  | n + 1, c =>
    let c := toColumn indent c
    if c.seesBreak then
      let (b, c) := c.skipBreak
      let (bs, c) := blockBreaks indent n c
      (b :: bs, c)
    else ([], c)

/-- The end of the lines of a block: the text, the last line end, and the line breaks after it. -/
structure BlockBody where
  text : List Char
  ending : List Char
  breaks : List Char
  rest : Cursor

/-- The lines of a block that starts at a column. -/
def blockBody (folded : Bool) (indent : Nat) : Nat → List Char → Cursor → BlockBody
  | 0, breaks, c => ⟨[], [], breaks, c⟩
  | n + 1, breaks, c =>
    let flush (d : Cursor) : Bool := !d.sees fun e => e == ' ' || e == '\t'
    let (line, d) := c.takeWhile (!isBreak ·)
    let (ending, d) := d.takeBreak
    let (more, d) := blockBreaks indent (d.rest.length + 1) d
    if d.column = indent ∧ !d.rest.isEmpty then
      let joint := if folded ∧ ending = ['\n'] ∧ flush c ∧ flush d then
        if more.isEmpty then [' '] else [] else ending
      let body := blockBody folded indent n more d
      { body with text := breaks ++ line ++ joint ++ body.text }
    else ⟨breaks ++ line, ending, more, d⟩

/-- The line breaks before the lines of a block, and the column where these start: `digit` tells it,
or else the blanks do. -/
def blockOpening (least : Nat) (digit : Option Nat) (c : Cursor) : List Char × Nat × Cursor :=
  match digit with
  | some d =>
    let indent := least + d - 1
    let (breaks, c) := blockBreaks indent (c.rest.length + 1) c
    (breaks, indent, c)
  | none =>
    let (breaks, deepest, c) := blockStart (c.rest.length + 1) 0 c
    (breaks, max least deepest, c)

/-- The text of a block scalar behind its mark; `least` is the least column of its lines. -/
def blockText (folded : Bool) (least : Nat) (c : Cursor) : Option (List Char × Cursor) := do
  let (chomping, digit, c) ← blockHeader c
  let (breaks, indent, c) := blockOpening (max least 1) digit c
  let body := if c.column = indent ∧ !c.rest.isEmpty then
      blockBody folded indent (c.rest.length + 1) breaks c
    else ⟨[], [], breaks, c⟩
  let ending := match chomping with
    | .strip => []
    | .clip => body.ending
    | .keep => body.ending ++ body.breaks
  return (body.text ++ ending, body.rest)

end Scaffold.Yaml
