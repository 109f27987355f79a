import Scaffold.Template.Tag
import Scaffold.Text.Blank
/-!
Lexemes: the texts and tags of a template once the lines that hold control tags only are gone.
Such a line is dropped with its indentation, the blanks between its tags and its line feed, so
that skipped blocks leave no blank lines behind.
-/

namespace Scaffold.Template

open Scaffold.Text

inductive Lexeme where
  | text (s : List Char)
  | tag (t : Tag)
deriving DecidableEq, Inhabited

/-- The text as a lexeme, unless it is empty. -/
def textLexeme (cs : List Char) : List Lexeme :=
  if cs.isEmpty then [] else [.text cs]

/-- Blanks that stay on their line. -/
def isInlineBlank (cs : List Char) : Bool :=
  cs.all fun c => isBlank c && c != '\n'

/-- The text before the last line of `before`, if that line is blank.  `opens` tells that `before`
starts at the start of a line. -/
def dropIndent? (opens : Bool) (before : List Char) : Option (List Char) :=
  let last := (before.reverse.takeWhile (· != '\n')).reverse
  let head := (before.reverse.dropWhile (· != '\n')).reverse
  if allBlank last && (opens || !head.isEmpty) then some head else none

/-- The text behind the first line of `after`, if that line is blank and ends there; `atEnd` tells
that the source ends with `after`. -/
def dropLineRest? (atEnd : Bool) (after : List Char) : Option (List Char) :=
  let first := after.takeWhile (· != '\n')
  match after.dropWhile (· != '\n') with
  | [] => if atEnd && allBlank first then some [] else none
  | _ :: rest => if allBlank first then some rest else none

/-- The tags up to the first one that is not followed by blanks and a further tag on its line. -/
def tagRun : List (Tag × List Char) → List (Tag × List Char) × List (Tag × List Char)
  | [] => ([], [])
  | (t, gap) :: rest =>
    if isInlineBlank gap && !rest.isEmpty then
      let r := tagRun rest
      ((t, gap) :: r.1, r.2)
    else ([(t, gap)], rest)

theorem length_tagRun_lt (p : Tag × List Char) (rest : List (Tag × List Char)) :
    (tagRun (p :: rest)).2.length < (p :: rest).length := by
  induction rest generalizing p with
  | nil => simp [tagRun]
  | cons q rest ih =>
    obtain ⟨t, gap⟩ := p
    have := ih q
    rw [tagRun]
    split
    · exact Nat.lt_succ_of_lt this
    · simp

/-- The text behind the last tag of a run. -/
def runTail (run : List (Tag × List Char)) : List Char :=
  (run.getLast?.map (·.2)).getD []

/-- The tags of a run with the blanks between them, without what follows the last one. -/
def runLexemes : List (Tag × List Char) → List Lexeme
  | [] => []
  | [(t, _)] => [.tag t]
  | (t, gap) :: rest => .tag t :: textLexeme gap ++ runLexemes rest

/-- What is left before and behind a run of control tags and comments that fills its line. -/
def fillsLine? (opens : Bool) (before : List Char) (run rest : List (Tag × List Char)) :
    Option (List Char × List Char) :=
  if run.all (·.1.kind != .interpolation) then
    match dropIndent? opens before, dropLineRest? rest.isEmpty (runTail run) with
    | some head, some tail => some (head, tail)
    | _, _ => none
  else none

/-- The lexemes of a text and the tags behind it.  `opens` tells that the text starts at the start
of a line. -/
def layout (opens : Bool) (before : List Char) (tags : List (Tag × List Char)) : List Lexeme :=
  match tags with
  | [] => textLexeme before
  | t :: more =>
    let split := tagRun (t :: more)
    match fillsLine? opens before split.1 split.2 with
    | some (head, tail) =>
      textLexeme head ++ split.1.map (fun t => .tag t.1) ++ layout true tail split.2
    | none =>
      textLexeme before ++ runLexemes split.1 ++ layout false (runTail split.1) split.2
termination_by tags.length
decreasing_by all_goals exact length_tagRun_lt t more

def lexemes (source : String) : List Lexeme :=
  let c := cut source.toList
  layout true c.lead c.tags

end Scaffold.Template
