import Scaffold.Proofs.Expression.Scanning
import Scaffold.Proofs.Text.Case

/-! Identifiers.  The check of names lets pass the identifiers of the generated code and, besides,
those with one line break behind them.  All characters of identifiers are ASCII, in either case. -/
namespace Scaffold.Naming

open Text

/-- An ASCII letter or an underscore. -/
def IsLetter (c : Char) : Prop := ('A' ≤ c ∧ c ≤ 'Z') ∨ ('a' ≤ c ∧ c ≤ 'z') ∨ c = '_'

/-- An ASCII digit. -/
def IsDigit (c : Char) : Prop := '0' ≤ c ∧ c ≤ '9'

/-- An identifier of the generated code: a letter, then letters and digits to the very end. -/
def IsCIdentifier (s : String) : Prop :=
  ∃ c cs, s.toList = c :: cs ∧ IsLetter c ∧ ∀ d ∈ cs, IsLetter d ∨ IsDigit d

variable {c : Char} {cs : List Char} {s : String}

theorem isNameStart_iff : isNameStart c = true ↔ IsLetter c := by
  simp only [isNameStart, IsLetter]
  delta Char.isAlpha Char.isUpper Char.isLower
  simp only [Bool.or_eq_true, Bool.and_eq_true, decide_eq_true_eq, beq_iff_eq, or_assoc]
  exact Iff.rfl

theorem isNameRest_iff : isNameRest c = true ↔ IsLetter c ∨ IsDigit c := by
  rw [← isNameStart_iff, isNameRest, isNameStart, Char.isAlphanum]
  have hdigit : c.isDigit = true ↔ IsDigit c := by
    delta Char.isDigit
    simp only [IsDigit, Bool.and_eq_true, decide_eq_true_eq]
    exact Iff.rfl
  rw [← hdigit]
  simp only [Bool.or_eq_true, or_right_comm]

theorem isCIdentifier_iff : IsCIdentifier s ↔
    ∃ c cs, s.toList = c :: cs ∧ isNameStart c = true ∧ ∀ d ∈ cs, isNameRest d = true := by
  simp only [IsCIdentifier, isNameStart_iff, isNameRest_iff]

/-! ### The check of names -/

/-- The remainder of an identifier is a word, or a word and a line break. -/
theorem exists_word_of_endsName (h : endsName cs = true) :
    ∃ word, (∀ c ∈ word, isNameRest c = true) ∧ (cs = word ∨ cs = word ++ ['\n']) := by
  induction cs with
  | nil => exact ⟨[], by simp, .inl rfl⟩
  | cons c cs ih =>
    rw [endsName, Bool.or_eq_true, Bool.and_eq_true, Bool.and_eq_true] at h
    rcases h with ⟨hc, hcs⟩ | ⟨hc, hcs⟩
    · obtain ⟨word, hword, heq⟩ := ih hcs
      refine ⟨c :: word, List.forall_mem_cons.mpr ⟨hc, hword⟩, ?_⟩
      rcases heq with rfl | rfl
      · exact .inl rfl
      · exact .inr rfl
    · obtain rfl := List.isEmpty_iff.mp hcs
      obtain rfl := beq_iff_eq.mp hc
      exact ⟨[], by simp, .inr rfl⟩

theorem exists_word_of_isIdentifier (h : isIdentifier s = true) :
    ∃ word, (∀ c ∈ word, isNameRest c = true) ∧ (s.toList = word ∨ s.toList = word ++ ['\n']) := by
  rw [isIdentifier] at h
  cases hs : s.toList with
  | nil =>
    rw [hs] at h
    cases h
  | cons c cs =>
    rw [hs] at h
    obtain ⟨hc, hcs⟩ := Bool.and_eq_true_iff.mp h
    have hfirst := Expression.isNameRest_of_isNameStart hc
    obtain ⟨word, hword, heq⟩ := exists_word_of_endsName hcs
    refine ⟨c :: word, List.forall_mem_cons.mpr ⟨hfirst, hword⟩, ?_⟩
    rcases heq with rfl | rfl
    · exact .inl rfl
    · exact .inr rfl

/-- What the check of names lets pass: an identifier, or one with a single line break behind it. -/
def IsLetPass (s : String) : Prop :=
  IsCIdentifier s ∨ ∃ word, IsCIdentifier word ∧ s = word ++ "\n"

theorem endsName_append {word tail : List Char} (h : ∀ c ∈ word, isNameRest c = true)
    (ht : endsName tail = true) : endsName (word ++ tail) = true := by
  induction word with
  | nil => exact ht
  | cons c word ih =>
    obtain ⟨hc, hrest⟩ := List.forall_mem_cons.mp h
    rw [List.cons_append, endsName, hc, ih hrest]
    rfl

theorem isIdentifier_of_append {tail : String} (h : IsCIdentifier s)
    (ht : endsName tail.toList = true) : isIdentifier (s ++ tail) = true := by
  obtain ⟨c, cs, hs, hc, hcs⟩ := isCIdentifier_iff.mp h
  rw [isIdentifier, String.toList_append, hs, List.cons_append]
  exact Bool.and_eq_true_iff.mpr ⟨hc, endsName_append hcs ht⟩

/-- The check lets pass an identifier, or one and a line break, and nothing else. -/
theorem isIdentifier_iff : isIdentifier s = true ↔ IsLetPass s := by
  constructor
  · intro h
    rw [isIdentifier] at h
    cases hs : s.toList with
    | nil =>
      rw [hs] at h
      cases h
    | cons c cs =>
      rw [hs] at h
      obtain ⟨hc, hcs⟩ := Bool.and_eq_true_iff.mp h
      obtain ⟨word, hword, rfl | rfl⟩ := exists_word_of_endsName hcs
      · exact .inl (isCIdentifier_iff.mpr ⟨c, cs, hs, hc, hword⟩)
      · have hnear : IsCIdentifier (String.ofList (c :: word)) :=
          isCIdentifier_iff.mpr ⟨c, word, String.toList_ofList, hc, hword⟩
        refine .inr ⟨_, hnear, String.ext ?_⟩
        rw [hs, String.toList_append, String.toList_ofList]
        rfl
  · rintro (h | ⟨word, h, rfl⟩)
    · rw [← String.append_empty (s := s)]
      exact isIdentifier_of_append h (by decide)
    · exact isIdentifier_of_append h (by decide)

/-! ### Characters of names and their case -/

theorem toNat_lt_of_isNameRest (h : isNameRest c = true) : c.toNat < 128 :=
  Nat.lt_of_le_of_lt (Expression.toNat_of_isNameRest h).2 (by decide)

theorem isNameStart_toLower (h : isNameStart c = true) : isNameStart c.toLower = true := by
  have hall : ∀ n < 128, isNameStart (Char.ofNat n) = true →
      isNameStart (Char.ofNat n).toLower = true := by
    decide
  exact forall_ascii (p := fun c => isNameStart c = true → isNameStart c.toLower = true) hall
    (toNat_lt_of_isNameRest (Expression.isNameRest_of_isNameStart h)) h

theorem isNameRest_toLower (h : isNameRest c = true) : isNameRest c.toLower = true := by
  have hall : ∀ n < 128, isNameRest (Char.ofNat n) = true →
      isNameRest (Char.ofNat n).toLower = true := by
    decide
  exact forall_ascii (p := fun c => isNameRest c = true → isNameRest c.toLower = true) hall
    (toNat_lt_of_isNameRest h) h

theorem isNameRest_of_isAlpha (h : c.isAlpha = true) : isNameRest c = true :=
  Expression.isNameRest_of_isNameStart (Bool.or_eq_true_iff.mpr (.inl h))

theorem isNameRest_of_isSlugChar (h : isSlugChar c = true) : isNameRest c = true := by
  rcases Bool.or_eq_true_iff.mp h with hlower | hdigit
  · exact isNameRest_of_isAlpha (Bool.or_eq_true_iff.mpr (.inr hlower))
  · have hword : c.isAlphanum = true := Bool.or_eq_true_iff.mpr (.inr hdigit)
    exact Bool.or_eq_true_iff.mpr (.inl hword)

theorem toNat_lt_of_isSlugChar (h : isSlugChar c = true) : c.toNat < 128 :=
  toNat_lt_of_isNameRest (isNameRest_of_isSlugChar h)

theorem isUpper_of_isSlugChar (h : isSlugChar c = true) : c.isUpper = false := by
  have hall : ∀ n < 128, isSlugChar (Char.ofNat n) = true → (Char.ofNat n).isUpper = false := by
    decide
  exact forall_ascii (p := fun c => isSlugChar c = true → c.isUpper = false) hall
    (toNat_lt_of_isSlugChar h) h

theorem isSlugChar_of_isLower (h : c.isLower = true) : isSlugChar c = true :=
  Bool.or_eq_true_iff.mpr (.inl h)

theorem isSlugChar_of_isUpper (h : c.isUpper = true) : isSlugChar c = false := by
  cases hc : isSlugChar c with
  | false => rfl
  | true => simp [isUpper_of_isSlugChar hc] at h

theorem isSlugChar_of_isBlank (h : isBlank c = true) : isSlugChar c = false := by
  cases hc : isSlugChar c with
  | false => rfl
  | true => simp [Expression.isBlank_of_isNameRest (isNameRest_of_isSlugChar hc)] at h

end Scaffold.Naming
