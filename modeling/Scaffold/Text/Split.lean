/-!
Splitting a text: at a separator, whose pieces joined by it make the text again, into the runs of
some characters, and into lines.  The runs between may also go from the ends, or become one mark
each.
-/

namespace Scaffold.Text

/-- The maximal pieces of a text between the characters `mark`. -/
def splitAtMark (mark : Char) : List Char → List (List Char)
  | [] => [[]]
  | c :: rest =>
    match splitAtMark mark rest with
    | [] => [[c]]
    | piece :: pieces => if c = mark then [] :: piece :: pieces else (c :: piece) :: pieces

theorem splitAtMark_ne_nil (mark : Char) (cs : List Char) : splitAtMark mark cs ≠ [] := by
  cases cs with
  | nil => simp [splitAtMark]
  | cons c rest =>
    rw [splitAtMark]
    split
    · simp
    · split <;> simp

/-- Joined by the separator, the pieces make the text again. -/
theorem intercalate_splitAtMark (mark : Char) (cs : List Char) :
    [mark].intercalate (splitAtMark mark cs) = cs := by
  induction cs with
  | nil => simp [splitAtMark, List.intercalate]
  | cons c rest ih =>
    rw [splitAtMark]
    split
    case h_1 h => exact absurd h (splitAtMark_ne_nil mark rest)
    case h_2 piece pieces h =>
      rw [h] at ih
      split
      · next hc =>
        subst hc
        rw [← ih]
        simp [List.intercalate, List.intersperse]
      · rw [← ih]
        cases pieces <;> simp [List.intercalate, List.intersperse]

/-- The maximal runs of characters that satisfy `keep`, in order. -/
def runsOf (keep : Char → Bool) (cs : List Char) : List (List Char) :=
  match _h : cs.dropWhile (!keep ·) with
  | [] => []
  | c :: rest =>
    (c :: rest.takeWhile keep) :: runsOf keep (rest.dropWhile keep)
termination_by cs.length
decreasing_by
  have h₁ := (List.dropWhile_sublist (!keep ·) (l := cs)).length_le
  have h₂ := (List.dropWhile_sublist keep (l := rest)).length_le
  rw [_h] at h₁
  simp only [List.length_cons] at h₁
  omega

/-- The text without the characters at its two ends that satisfy `drop`. -/
def strip (drop : Char → Bool) (cs : List Char) : List Char :=
  ((cs.dropWhile drop).reverse.dropWhile drop).reverse

/-- Each run of characters that satisfy `drop` becomes one mark; `inside` tells that a run is
open. -/
def squeeze (drop : Char → Bool) (mark : Char) (inside : Bool) : List Char → List Char
  | [] => []
  | c :: rest =>
    if drop c then
      if inside then squeeze drop mark true rest else mark :: squeeze drop mark true rest
    else c :: squeeze drop mark false rest

/-- A text of lines, each with its end. -/
def ofLines (lines : List String) : String :=
  String.join (lines.map (· ++ "\n"))

def pieces (mark : Char) (s : String) : List String :=
  (splitAtMark mark s.toList).map String.ofList

end Scaffold.Text
