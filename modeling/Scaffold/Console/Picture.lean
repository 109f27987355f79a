import Scaffold.Console.PictureTable
import Scaffold.Text.Blank
import Scaffold.Text.Case
import Scaffold.Text.Split
/-!
Pictures by name: a name between two colons stands for a picture, and may ask for its form as text
or as a picture.  What no picture is called is left as it is.
-/

namespace Scaffold.Console

open Scaffold.Text

/-- The picture that follows a name among words. -/
def pictureAmong? (name : List Char) : List (List Char) → Option (List Char)
  | key :: picture :: rest => if key = name then some picture else pictureAmong? name rest
  | _ => none

def picture? (name : List Char) : Option (List Char) :=
  pictureLines.findSome? fun line => pictureAmong? name (splitAtMark ' ' line.toList)

/-- The endings of a name that ask for a form, and the selector of each form. -/
def formEndings : List (String × Char) := [("-emoji", '\ufe0f'), ("-text", '\ufe0e')]

/-- A name without the ending that asks for a form, and the selector of the form. -/
def splitForm (name : List Char) : List Char × List Char :=
  match formEndings.find? fun e => e.1.toList.isSuffixOf name with
  | some e => (name.take (name.length - e.1.length), [e.2])
  | none => (name, [])

/-- What stands for a name and the colons around it. -/
def named (name : List Char) : List Char :=
  let (bare, form) := splitForm name
  match picture? (lower bare) with
  | some picture => picture ++ form
  | none => ':' :: name ++ [':']

/-- The text before the next colon, if no blank stands in it, and what follows that colon. -/
def toColon? : List Char → Option (List Char × List Char)
  | [] => none
  | c :: rest =>
    if c = ':' then some ([], rest)
    else if isBlank c then none
    else (toColon? rest).map fun p => (c :: p.1, p.2)

theorem length_lt_of_toColon? {cs name rest : List Char} (h : toColon? cs = some (name, rest)) :
    rest.length < cs.length := by
  induction cs generalizing name with
  | nil => simp [toColon?] at h
  | cons c r ih =>
    rw [toColon?] at h
    split at h
    · simp only [Option.some.injEq, Prod.mk.injEq] at h
      simp [← h.2]
    · split at h
      · simp at h
      · obtain ⟨p, hp, heq⟩ := Option.map_eq_some_iff.1 h
        simp only [Prod.mk.injEq] at heq
        have := @ih p.1 (by rw [hp, ← heq.2])
        exact Nat.lt_succ_of_lt this

def withPictures (cs : List Char) : List Char :=
  match cs with
  | [] => []
  | c :: rest =>
    if c = ':' then
      match _h : toColon? rest with
      | some (name, later) => named name ++ withPictures later
      | none => c :: withPictures rest
    else c :: withPictures rest
termination_by cs.length
decreasing_by
  · have := length_lt_of_toColon? _h
    simp only [List.length_cons]
    omega
  · simp
  · simp

end Scaffold.Console
