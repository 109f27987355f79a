import Scaffold.Proofs.Naming.Identifier
import Scaffold.Proofs.Text.Runs

/-! Slugs.  A slug is made of runs of small letters and digits with single hyphens between them.
The slug of a text keeps all characters of these kinds that the text has in lower case, and a slug
is its own slug. -/
namespace Scaffold.Naming

open Text

variable {c : Char} {cs : List Char}

/-- Small letters and digits in runs, with single hyphens between these. -/
def IsSlug (cs : List Char) : Prop :=
  ∃ runs : List (List Char), cs = ['-'].intercalate runs ∧
    ∀ run ∈ runs, run ≠ [] ∧ ∀ c ∈ run, c.isLower = true ∨ c.isDigit = true

theorem isSlug_iff : IsSlug cs ↔ ∃ runs, cs = ['-'].intercalate runs ∧ AreRuns isSlugChar runs := by
  simp only [IsSlug, AreRuns, isSlugChar, Bool.or_eq_true]

/-- A slug holds the runs of the text in lower case: blanks at the ends are in none of them. -/
theorem slug_eq_intercalate (cs : List Char) :
    slug cs = ['-'].intercalate (runsOf isSlugChar (lower cs)) := by
  rw [slug, strip_squeeze (by decide), trim_eq_strip, runsOf_strip fun c => isSlugChar_of_isBlank]

theorem isSlug_slug (cs : List Char) : IsSlug (slug cs) :=
  isSlug_iff.mpr ⟨_, slug_eq_intercalate cs, areRuns_runsOf isSlugChar (lower cs)⟩

/-- Small letters and digits are in lower case, whatever mark stands between their runs. -/
theorem lower_intercalate {mark : Char} (hascii : mark.toNat < 128) (hmark : mark.isUpper = false)
    {runs : List (List Char)} (h : AreRuns isSlugChar runs) :
    lower ([mark].intercalate runs) = [mark].intercalate runs := by
  apply lower_eq_self
  · intro c hc
    rcases eq_or_keep_of_mem_intercalate h hc with rfl | hslug
    · exact hascii
    · exact toNat_lt_of_isSlugChar hslug
  · intro c hc
    rcases eq_or_keep_of_mem_intercalate h hc with rfl | hslug
    · exact hmark
    · exact isUpper_of_isSlugChar hslug

theorem slug_of_isSlug (h : IsSlug cs) : slug cs = cs := by
  obtain ⟨runs, rfl, hruns⟩ := isSlug_iff.mp h
  rw [slug_eq_intercalate, lower_intercalate (by decide) (by decide) hruns,
    runsOf_intercalate (by decide) hruns]

theorem filter_slug (cs : List Char) :
    (slug cs).filter (· ≠ '-') = (lower cs).filter isSlugChar := by
  rw [slug_eq_intercalate, filter_intercalate (by decide) (areRuns_runsOf isSlugChar _),
    flatten_runsOf]

/-- The slug of any text is empty or made of runs of small letters and digits with single hyphens
between them and none at its ends.  It is its own slug, and but for the hyphens it holds the small
letters and digits of the text in lower case, in order. -/
theorem slug_of_text (cs : List Char) :
    IsSlug (slug cs) ∧ (slug cs).head? ≠ some '-' ∧ (slug cs).getLast? ≠ some '-' ∧
      slug (slug cs) = slug cs ∧
      (slug cs).filter (· ≠ '-') = (lower cs).filter (fun c => c.isLower || c.isDigit) := by
  have hruns := areRuns_runsOf isSlugChar (lower cs)
  refine ⟨isSlug_slug cs, ?_, ?_, slug_of_isSlug (isSlug_slug cs), filter_slug cs⟩
  · intro hhead
    rw [slug_eq_intercalate] at hhead
    have hkept := head?_intercalate hruns '-' hhead
    revert hkept
    decide
  · intro hlast
    rw [slug_eq_intercalate] at hlast
    have hkept := getLast?_intercalate hruns '-' hlast
    revert hkept
    decide

example : slug "  2FA (TOTP)  ".toList = "2fa-totp".toList := by decide

end Scaffold.Naming
