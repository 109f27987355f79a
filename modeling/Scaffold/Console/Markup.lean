import Scaffold.Console.Action
import Scaffold.Console.Picture
import Scaffold.Console.Style
/-!
Markup: tags in square brackets within a printed text.  Without colours nothing of a tag is seen,
but a closing tag needs an open one that says the same, and an action that is closed must be well
formed.  A backslash before a tag makes text of it.
-/

namespace Scaffold.Console

open Scaffold.Text

/-- Why a text with markup is not printed: a closing tag closes nothing, a closed action cannot be
read, or a style names a colour that lacks a part. -/
inductive MarkupFault where
  | unmatched (tag : String) (position : Nat)
  | nothingOpen (position : Nat)
  | action (fault : ActionFault)
  | missingPart
deriving DecidableEq

def MarkupFault.message : MarkupFault → String
  | .unmatched tag position =>
    "closing tag '[" ++ tag ++ "]' at position " ++ toString position
      ++ " doesn't match any open tag"
  | .nothingOpen position =>
    "closing tag '[/]' at position " ++ toString position ++ " has nothing to close"
  | .action fault => fault.message
  | .missingPart => "invalid literal for int() with base 10: ''"

def isTagStart (c : Char) : Bool :=
  c.isLower || c == '#' || c == '/' || c == '@'

/-- The text up to the next closing bracket, with no opening one before it, and what follows. -/
def toBracket? : List Char → Option (List Char × List Char)
  | [] => none
  | c :: rest =>
    if c = ']' then some ([], rest)
    else if c = '[' then none
    else (toBracket? rest).map fun p => (c :: p.1, p.2)

/-- The tag behind an opening bracket and what follows it. -/
def tag? : List Char → Option (List Char × List Char)
  | [] => none
  | c :: rest => if isTagStart c then (toBracket? rest).map fun p => (c :: p.1, p.2) else none

theorem length_lt_of_toBracket? {cs body rest : List Char}
    (h : toBracket? cs = some (body, rest)) : rest.length < cs.length := by
  induction cs generalizing body with
  | nil => simp [toBracket?] at h
  | cons c r ih =>
    rw [toBracket?] at h
    split at h
    · simp only [Option.some.injEq, Prod.mk.injEq] at h
      simp [← h.2]
    · split at h
      · simp at h
      · obtain ⟨p, hp, heq⟩ := Option.map_eq_some_iff.1 h
        simp only [Prod.mk.injEq] at heq
        have := @ih p.1 (by rw [hp, ← heq.2])
        exact Nat.lt_succ_of_lt this

theorem length_lt_of_tag? {cs tag rest : List Char} (h : tag? cs = some (tag, rest)) :
    rest.length < cs.length := by
  cases cs with
  | nil => simp [tag?] at h
  | cons c r =>
    rw [tag?] at h
    split at h
    · obtain ⟨p, hp, heq⟩ := Option.map_eq_some_iff.1 h
      simp only [Prod.mk.injEq] at heq
      have := @length_lt_of_toBracket? r p.1 rest (by rw [hp, ← heq.2])
      exact Nat.lt_succ_of_lt this
    · simp at h

/-- A part of a text with markup: plain text, or a tag and its place. -/
inductive MarkPiece where
  | text (cs : List Char)
  | tag (body : List Char) (position : Nat)

/-- Backslashes that stand for themselves. -/
def backslashes (n : Nat) : List Char := List.replicate n '\\'

/-- The parts of a text with markup, from a place on.  `run` is the plain text before it, in
reverse, and `slashes` counts the backslashes behind that. -/
def markPieces (position slashes : Nat) (run cs : List Char) : List MarkPiece :=
  match cs with
  | [] => [.text (run.reverse ++ backslashes slashes)]
  | c :: rest =>
    if c = '\\' then markPieces (position + 1) (slashes + 1) run rest
    else if c = '[' then
      match _h : tag? rest with
      | some (body, later) =>
        let next := position + body.length + 2
        let before := [.text run.reverse, .text (backslashes (slashes / 2))]
        if slashes % 2 = 1 then
          before ++ .text ('[' :: body ++ [']']) :: markPieces next 0 [] later
        else before ++ .tag body position :: markPieces next 0 [] later
      | none =>
        markPieces (position + 1) 0 ('[' :: backslashes (slashes - 1) ++ run) rest
    else markPieces (position + 1) 0 (c :: backslashes slashes ++ run) rest
termination_by cs.length
decreasing_by
  · simp
  · have := length_lt_of_tag? _h
    simp only [List.length_cons]
    omega
  · have := length_lt_of_tag? _h
    simp only [List.length_cons]
    omega
  · simp
  · simp

/-- A tag that is open: its name and what stands behind its equals sign. -/
structure OpenTag where
  name : List Char
  parameters : Option (List Char)
deriving DecidableEq

def OpenTag.ofBody (body : List Char) : OpenTag where
  name := body.takeWhile (· != '=')
  parameters :=
    match body.dropWhile (· != '=') with
    | [] => none
    | _ :: parameters => some parameters

/-- The name of a style, or the fault of one that cannot be named. -/
def nameOf (cs : List Char) : Except MarkupFault (List Char) :=
  (styleName cs).mapError fun _ => .missingPart

/-- Closes a tag: an action has to be well formed. -/
def OpenTag.close (t : OpenTag) : Except MarkupFault Unit :=
  match t.name, t.parameters with
  | '@' :: _, some (c :: cs) => (checkAction (c :: cs)).mapError .action
  | _, _ => .ok ()

def isSilent (c : Char) : Bool :=
  [7, 8, 11, 12, 13].contains c.toNat

def seen (cs : List Char) : List Char :=
  (withPictures cs).filter (!isSilent ·)

/-- The open tags after one more tag, the last one first. -/
def afterTag (opened : List OpenTag) (body : List Char) (position : Nat) :
    Except MarkupFault (List OpenTag) :=
  let tag := OpenTag.ofBody body
  match tag.name with
  | '/' :: rest =>
    if allBlank rest then
      match opened with
      | [] => .error (.nothingOpen position)
      | t :: opened => t.close.map fun _ => opened
    else do
      let name ← nameOf (trim rest)
      match opened.find? (·.name = name) with
      | some t => t.close.map fun _ => opened.eraseP (·.name = name)
      | none => .error (.unmatched (String.ofList body) position)
  | name => do return ⟨← nameOf name, tag.parameters⟩ :: opened

/-- The characters that are left of the parts of a text. -/
def unmarked : List OpenTag → List MarkPiece → Except MarkupFault (List Char)
  | _, [] => .ok []
  | opened, .text cs :: rest => (unmarked opened rest).map (seen cs ++ ·)
  | opened, .tag body position :: rest => do unmarked (← afterTag opened body position) rest

/-- What is seen of a text with markup. -/
def plainText (s : String) : Except MarkupFault (List Char) :=
  unmarked [] (markPieces 0 0 [] s.toList)

end Scaffold.Console
