import Scaffold.Text.Hex
import Scaffold.Yaml.Cursor
import Scaffold.Yaml.Fault
/-!
Quoted scalars: text between quotes, which may run over several lines.  A single line end becomes a
blank, of several line ends all but the first are kept.  Between single quotes a quote is written
twice; between double quotes a backslash introduces an escape, which may stand for a half of a pair.
-/

namespace Scaffold.Yaml

/-- The code points of a part of a text, and the place behind it. -/
abbrev Passage := Except Fault (List Nat × Cursor)

/-- The characters that escapes of one letter stand for. -/
def escapes : List (Char × Char) := [
  ('0', '\x00'), ('a', '\x07'), ('b', '\x08'), ('t', '\t'), ('\t', '\t'), ('n', '\n'),
  ('v', '\x0b'), ('f', '\x0c'), ('r', '\r'), ('e', '\x1b'), (' ', ' '), ('"', '"'),
  ('\\', '\\'), ('/', '/'), ('N', '\x85'), ('_', '\xa0'), ('L', '\u2028'), ('P', '\u2029')]

/-- The letters that introduce a code, and the number of its hexadecimal digits. -/
def codeLengths : List (Char × Nat) := [('x', 2), ('u', 4), ('U', 8)]

/-- The line breaks that come next, with the blanks at the starts of lines passed over; no separator
of documents may stand there. -/
def quotedBreaks : Nat → Cursor → Passage
  | 0, c => .ok ([], c)
  | n + 1, c =>
    if seesSeparator c then .error .malformed
    else
      let c := c.dropWhile fun d => d == ' ' || d == '\t'
      if c.seesBreak then
        let (b, c) := c.skipBreak
        (quotedBreaks n c).map fun r => (b.toNat :: r.1, r.2)
      else .ok ([], c)

/-- The blanks and line breaks that come next, as the text they stand for. -/
def quotedSpaces (c : Cursor) : Passage :=
  let (blanks, c) := c.takeWhile fun d => d == ' ' || d == '\t'
  if c.rest.isEmpty then .error .malformed
  else if c.seesBreak then
    let (b, c) := c.skipBreak
    (quotedBreaks (c.rest.length + 1) c).map fun r =>
      (if b ≠ '\n' then b.toNat :: r.1 else if r.1.isEmpty then [' '.toNat] else r.1, r.2)
  else .ok (blanks.map Char.toNat, c)

/-- The text of an escape behind its backslash. -/
def escape (c : Cursor) : Passage :=
  match c.next? with
  | none => .error .malformed
  | some e =>
    match escapes.lookup e, codeLengths.lookup e with
    | some d, _ => .ok ([d.toNat], c.advance)
    | none, some n =>
      let digits := c.advance.rest.take n
      match if digits.length < n then none else Text.hexNumber? digits with
      | some code =>
        if code < 0x110000 then .ok ([code], c.skip (n + 1)) else .error (.noCharacter code)
      | none => .error .malformed
    | none, none =>
      if isBreak e then quotedBreaks (c.rest.length + 1) c.skipBreak.2 else .error .malformed

/-- The text up to the closing quote, and the place behind it. -/
def quotedText (quote : Char) : Nat → Cursor → Passage
  | 0, _ => .error .malformed
  | n + 1, c =>
    match c.next? with
    | none => .error .malformed
    | some d =>
      let followedBy (part : Passage) : Passage := do
        let (points, c) ← part
        let (more, c) ← quotedText quote n c
        return (points ++ more, c)
      if d = quote then
        if quote = '\'' ∧ c.second? = some '\'' then followedBy (.ok (['\''.toNat], c.skip 2))
        else .ok ([], c.advance)
      else if d = '\\' ∧ quote = '"' then followedBy (escape c.advance)
      else if isGap (some d) then followedBy (quotedSpaces c)
      else followedBy (.ok ([d.toNat], c.advance))

end Scaffold.Yaml
