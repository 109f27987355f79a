import Scaffold.Text.Blank
import Scaffold.Text.Cells
import Scaffold.Text.Split
/-!
Lines of a given width: words that do not fit go to the next line, and what is still too long is
folded or cut.
-/

namespace Scaffold.Console

open Scaffold.Text

/-- What becomes of a word that is wider than a line: it runs on in further lines, or it is cut
and an ellipsis takes the last cell. -/
inductive Overflow where
  | fold
  | ellipsis
deriving DecidableEq

/-- Where the text of a line stands: as it is, at the left and padded, or in the middle. -/
inductive Placement where
  | natural
  | left
  | center
deriving DecidableEq

structure Setting where
  width : Nat
  overflow : Overflow
  placement : Placement
  wraps : Bool

def blanks (n : Nat) : List Char := List.replicate n ' '

/-- The first clusters that take a number of cells; one that would be cut in two gives way to a
blank. -/
def takeCells : Nat → List Cluster → List Char
  | 0, _ => []
  | _, [] => []
  | n + 1, k :: rest =>
    if k.width ≤ n + 1 then k.chars ++ takeCells (n + 1 - k.width) rest else [' ']

/-- A text cut or filled with blanks to a number of cells. -/
def setCells (n : Nat) (cs : List Char) : List Char :=
  if cellCount cs ≤ n then cs ++ blanks (n - cellCount cs) else takeCells n (clusters cs)

def cut (overflow : Overflow) (width : Nat) (cs : List Char) : List Char :=
  if cellCount cs ≤ width then cs
  else
    match overflow with
    | .fold => setCells width cs
    | .ellipsis => setCells (width - 1) cs ++ ['…']

/-- The columns between two stops of the tabulator. -/
def tabWidth : Nat := 8

/-- The pieces between tabulators, from a column on, with at least one blank behind each but the
last, up to the next stop. -/
def joinTabbed (column : Nat) : List (List Char) → List Char
  | [] => []
  | [last] => last
  | piece :: rest =>
    let here := piece ++ [' ']
    let reached := column + cellCount here
    let gap := (tabWidth - reached % tabWidth) % tabWidth
    here ++ blanks gap ++ joinTabbed (reached + gap) rest

/-- A line with blanks up to the next stop for each tabulator. -/
def expandTabs (cs : List Char) : List Char :=
  joinTabbed 0 (splitAtMark '\t' cs)

/-- The words of a line: each takes the blanks behind it along, the first those before it too.  A
line of blanks has none. -/
def words (cs : List Char) : List (List Char) :=
  match _h : (trimLeft cs) with
  | [] => []
  | c :: rest =>
    let start := cs.takeWhile isBlank
    let word := (c :: rest).takeWhile (!isBlank ·)
    let later := (c :: rest).dropWhile (!isBlank ·)
    (start ++ word ++ later.takeWhile isBlank) :: words (trimLeft later)
termination_by cs.length
decreasing_by
  have h₁ := length_trimLeft_le cs
  rw [_h] at h₁
  have hc : isBlank c = false := by
    have := List.head?_dropWhile_not isBlank cs
    unfold trimLeft at _h
    rw [_h] at this
    simpa using this
  have h₂ := length_trimLeft_le ((c :: rest).dropWhile (!isBlank ·))
  have h₃ := (List.dropWhile_sublist (!isBlank ·) (l := rest)).length_le
  have h₄ : (c :: rest).dropWhile (!isBlank ·) = rest.dropWhile (!isBlank ·) := by
    simp [hc]
  rw [h₄] at h₂ ⊢
  simp only [List.length_cons] at h₁
  omega

/-- The clusters of a word in pieces that fit a width; `room` is what is left of the present one. -/
def chop (width : Nat) : Nat → List Cluster → List (List Char)
  | _, [] => [[]]
  | room, k :: rest =>
    if k.width ≤ room then
      match chop width (room - k.width) rest with
      | [] => [k.chars]
      | piece :: pieces => (k.chars ++ piece) :: pieces
    else
      match chop width (width - k.width) rest with
      | [] => [[], k.chars]
      | piece :: pieces => [] :: (k.chars ++ piece) :: pieces

/-- The last of some pieces, with those before it. -/
def unsnoc : List (List Char) → List (List Char) × List Char
  | [] => ([], [])
  | [p] => ([], p)
  | p :: rest => ((p :: (unsnoc rest).1), (unsnoc rest).2)

/-- Words set in lines.  `line` is the present line and `column` the cells it counts; it is `first`
while it holds no word. -/
def fillLines (overflow : Overflow) (width : Nat) (first : Bool) (line : List Char)
    (column : Nat) : List (List Char) → List (List Char)
  | [] => [line]
  | w :: rest =>
    let size := cellCount (trimRight w)
    let done := if first then [] else [line]
    if column + size ≤ width then
      fillLines overflow width false (line ++ w) (column + cellCount w) rest
    else if width < size then
      match overflow with
      | .fold =>
        let (full, last) := unsnoc (chop width width (clusters w))
        done ++ full ++ fillLines overflow width false last (cellCount last) rest
      | .ellipsis => done ++ fillLines overflow width false w (cellCount w) rest
    else if 0 < column && !first then
      line :: fillLines overflow width false w (cellCount w) rest
    else fillLines overflow width false (line ++ w) column rest

def wrapLine (s : Setting) (cs : List Char) : List (List Char) :=
  match words cs with
  | [] => [cs]
  | ws => if s.wraps then fillLines s.overflow s.width true [] 0 ws else [cs]

/-- A line without the blanks at its end that stand beyond the width. -/
def trimExcess (width : Nat) (cs : List Char) : List Char :=
  let excess := cs.length - width
  cs.take (cs.length - min excess (cs.length - (trimRight cs).length))

def placed (s : Setting) (cs : List Char) : List Char :=
  let cs := if s.wraps then trimExcess s.width cs else cs
  match s.placement with
  | .natural => cut s.overflow s.width cs
  | .left =>
    let cs := cut s.overflow s.width cs
    cs ++ blanks (s.width - cellCount cs)
  | .center =>
    let cs := cut s.overflow s.width (trimRight cs)
    let before := (s.width - cellCount cs) / 2
    blanks before ++ cs ++ blanks (s.width - cellCount cs - before)

def setLines (s : Setting) (cs : List Char) : List (List Char) :=
  ((splitAtMark '\n' cs).flatMap fun line => wrapLine s (expandTabs line)).map (placed s)

end Scaffold.Console
