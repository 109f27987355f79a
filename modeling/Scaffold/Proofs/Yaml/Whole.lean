import Scaffold.Proofs.Computation
import Scaffold.Proofs.Text.Case
import Scaffold.Proofs.Text.Runs
import Scaffold.Proofs.Text.Split
import Scaffold.Yaml.Node
import Scaffold.Yaml.Scalar

/-! What a text that looks like a whole number is refused for: it has no digits, or too many of
them in base ten. -/
namespace Scaffold.Yaml

open Number Text

variable {c : Char} {cs ds rest : List Char} {base : Nat} {p : Char → Bool} {fault : Fault}

/-! ### Digits -/

/-- A character that stands for a digit in a base. -/
def isDigitIn (base : Nat) (c : Char) : Bool := c.toNat < 128 && (digitOf? c).any (· < base)

theorem toNat_lt_of_isDigit (h : c.isDigit = true) : c.toNat < 128 := by
  simp only [Char.isDigit, Bool.and_eq_true, decide_eq_true_eq] at h
  exact Nat.lt_of_le_of_lt h.2 (by decide)

theorem isDigitIn_of_isDigit (h : c.isDigit = true) : isDigitIn 10 c = true :=
  forall_ascii (p := fun c => c.isDigit = true → isDigitIn 10 c = true) (by decide +kernel)
    (toNat_lt_of_isDigit h) h

theorem isDigitIn_of_hexValue? (h : (hexValue? c).isSome = true) : isDigitIn 16 c = true := by
  have hascii : c.toNat < 128 := by
    unfold hexValue? at h
    split at h
    · next hdigit => exact toNat_lt_of_isDigit hdigit
    · split at h
      · next hletter => exact Nat.lt_of_le_of_lt hletter.2 (by decide)
      · split at h
        · next hletter => exact Nat.lt_of_le_of_lt hletter.2 (by decide)
        · cases h
  exact forall_ascii (p := fun c => (hexValue? c).isSome = true → isDigitIn 16 c = true)
    (by decide +kernel) hascii h

theorem isDigitIn_of_octal (h : ('0' ≤ c && c ≤ '7') = true) : isDigitIn 8 c = true := by
  simp only [Bool.and_eq_true, decide_eq_true_eq] at h
  exact forall_ascii (p := fun c => '0' ≤ c ∧ c ≤ '7' → isDigitIn 8 c = true) (by decide +kernel)
    (Nat.lt_of_le_of_lt h.2 (by decide)) h

theorem isBlank_of_isDigitIn (h : isDigitIn base c = true) : isBlank c = false := by
  simp only [isDigitIn, Bool.and_eq_true, decide_eq_true_eq, Option.any_eq_true_iff_get] at h
  exact forall_ascii (p := fun c => (digitOf? c).isSome = true → isBlank c = false)
    (by decide +kernel) h.1 h.2.1

theorem trim_eq_self (h : ∀ c ∈ cs, isBlank c = false) : trim cs = cs := by
  have hstrip : trim ([] ++ (cs ++ [])) = cs := strip_append rfl
    (fun c hc => h c (List.mem_of_mem_head? hc)) (fun c hc => h c (List.mem_of_getLast? hc)) rfl
  rwa [List.nil_append, List.append_nil] at hstrip

/-- Digits of a base, with one before them or at least one among them, have values. -/
theorem exists_digitValues? (after : Bool) (hne : after = true ∨ ds ≠ [])
    (h : ∀ c ∈ ds, isDigitIn base c = true) :
    ∃ values, digitValues? base after ds = some values ∧ values.length = ds.length := by
  induction ds generalizing after with
  | nil =>
    refine ⟨[], ?_, rfl⟩
    rw [digitValues?, if_pos (hne.resolve_right fun hnil => hnil rfl)]
  | cons c ds ih =>
    obtain ⟨hc, hds⟩ := List.forall_mem_cons.mp h
    obtain ⟨values, hvalues, hlength⟩ := ih true (.inl rfl) hds
    simp only [isDigitIn, Bool.and_eq_true, decide_eq_true_eq, Option.any_eq_true] at hc
    obtain ⟨-, d, hd, hlt⟩ := hc
    exact ⟨d :: values, by simp [digitValues?, hd, hlt, hvalues], by simp [hlength]⟩

/-- No digit of a base can be taken for its mark. -/
theorem withoutMark_of_digits (h : ∀ c ∈ ds, isDigitIn base c = true) :
    withoutMark base ds = ds := by
  unfold withoutMark
  split
  · next mark rest =>
    have hmark := h mark (by simp)
    have hascii : mark.toNat < 128 := by
      simp only [isDigitIn, Bool.and_eq_true, decide_eq_true_eq] at hmark
      exact hmark.1
    have hnot (base : Nat) (letter : Char) (hall : ∀ n < 128,
        isDigitIn base (Char.ofNat n) = true → (Char.ofNat n).toLower ≠ letter)
        (hdigit : isDigitIn base mark = true) : mark.toLower ≠ letter :=
      forall_ascii (p := fun c => isDigitIn base c = true → c.toLower ≠ letter) hall hascii hdigit
    split
    · next hbase =>
      unfold baseMark? at hbase
      split at hbase
      · exact absurd (Option.some.inj hbase).symm (hnot 2 'b' (by decide +kernel) hmark)
      · exact absurd (Option.some.inj hbase).symm (hnot 8 'o' (by decide +kernel) hmark)
      · exact absurd (Option.some.inj hbase).symm (hnot 16 'x' (by decide +kernel) hmark)
      · cases hbase
    · rfl
  · rfl

/-- Digits are a whole number, unless they are too many in base ten. -/
theorem wholeIn_of_digits (hne : ds ≠ []) (h : ∀ c ∈ ds, isDigitIn base c = true) :
    (∃ n, wholeIn base ds = .ok n) ∨
      base = 10 ∧ maxDigits < ds.length ∧ wholeIn base ds = .error (.tooManyDigits ds.length) := by
  obtain ⟨values, hvalues, hlength⟩ := exists_digitValues? false (.inr hne) h
  have hsign (sign : Char) (hnone : digitOf? sign = none) (r : List Char) : ds ≠ sign :: r := by
    rintro rfl
    simp [isDigitIn, hnone] at h
  unfold wholeIn
  rw [trim_eq_self fun c hc => isBlank_of_isDigitIn (h c hc)]
  extract_lets trimmed signed
  have hsigned : signed = (false, ds) := by
    unfold signed trimmed
    split
    · exact absurd rfl (hsign '-' (by decide +kernel) _)
    · exact absurd rfl (hsign '+' (by decide +kernel) _)
    · rfl
  rw [hsigned, withoutMark_of_digits h, hvalues]
  dsimp only
  split
  · next hmany => exact .inr ⟨hmany.1, hlength ▸ hmany.2, by rw [hlength]⟩
  · exact .inl ⟨_, rfl⟩

/-! ### Whole numbers -/

theorem mem_unspaced : c ∈ unspaced cs ↔ c ∈ cs ∧ c ≠ '_' := by
  simp [unspaced]

theorem unspaced_cons (hc : c ≠ '_') (cs : List Char) : unspaced (c :: cs) = c :: unspaced cs :=
  List.filter_cons_of_pos (bne_iff_ne.mpr hc)

/-- What is left of digits with underscores between them are digits. -/
theorem forall_mem_unspaced (h : ds.all (isSpacedDigit p) = true) :
    ∀ c ∈ unspaced ds, p c = true := by
  intro c hc
  obtain ⟨hmem, hne⟩ := mem_unspaced.mp hc
  have hspaced := List.all_eq_true.mp h c hmem
  simpa [isSpacedDigit, hne] using hspaced

/-- A text whose sign is followed by something keeps both without underscores. -/
theorem signed?_unspaced {d : Char} (hcs : unsigned cs = d :: ds)
    (hd : d ≠ '_' ∧ d ≠ '-' ∧ d ≠ '+') :
    ∃ negative, signed? (unspaced cs) = some (negative, unspaced (d :: ds)) := by
  unfold unsigned at hcs
  split at hcs
  · exact ⟨true, by rw [← hcs]; rfl⟩
  · exact ⟨false, by rw [← hcs]; rfl⟩
  · rw [hcs, unspaced_cons hd.1]
    unfold signed?
    split
    · next heq => cases heq
    · next heq => exact absurd (List.cons.inj heq).1 hd.2.1
    · next heq => exact absurd (List.cons.inj heq).1 hd.2.2
    · exact ⟨false, rfl⟩

theorem ne_marks_of_isDigit {d : Char} (h : d.isDigit = true) : d ≠ '_' ∧ d ≠ '-' ∧ d ≠ '+' := by
  refine ⟨?_, ?_, ?_⟩ <;>
  · rintro rfl
    cases h

/-- The most digits in base sixty that count what a double can. -/
def maxSixties : Nat := 174

/-- Why a text that looks like a number or a moment is none. -/
inductive Misreads (cs : List Char) : Fault → Prop
  | digitless {mark : Char} {blanks : List Char} {e : WholeFault} :
      unsigned cs = '0' :: mark :: blanks → (∀ c ∈ blanks, c = '_') → Misreads cs (.noWhole e)
  | tooManyDigits {digits : List Char} : digits.Sublist cs → (∀ c ∈ digits, c.isDigit = true) →
      maxDigits < digits.length → Misreads cs (.noWhole (.tooManyDigits digits.length))
  | tooLarge : maxSixties ≤ cs.count ':' → Misreads cs .tooLarge
  | calendar {m : MomentText} {e : CalendarFault} : momentText? cs = some m →
      m.scalar = .error e → Misreads cs (.calendar e)

theorem sublist_unsigned (cs : List Char) : (unsigned cs).Sublist cs := by
  unfold unsigned
  split
  · exact List.sublist_cons_self _ _
  · exact List.sublist_cons_self _ _
  · exact List.Sublist.refl _

theorem splitAtMark_unspaced {mark : Char} (hmark : mark ≠ '_') (cs : List Char) :
    splitAtMark mark (unspaced cs) = (splitAtMark mark cs).map unspaced := by
  induction cs with
  | nil => rfl
  | cons c cs ih =>
    obtain ⟨first, later, hcs, hcons⟩ := exists_splitAtMark_cons mark c cs
    rw [hcs, List.map_cons] at ih
    rw [hcons]
    by_cases hc : c = '_'
    · have hdropped (cs : List Char) : unspaced (c :: cs) = unspaced cs := by simp [unspaced, hc]
      rw [if_neg (hc ▸ hmark.symm), hdropped, ih, List.map_cons, hdropped]
    · rw [unspaced_cons hc, splitAtMark, ih, apply_ite (List.map unspaced), List.map_cons,
        List.map_cons, List.map_cons, unspaced_cons hc]
      rfl

theorem isDigit_of_isSixty (h : isSixty ds = true) : ds ≠ [] ∧ ∀ c ∈ ds, c.isDigit = true := by
  unfold isSixty at h
  split at h
  · simpa using h
  · next c d =>
    simp only [Bool.and_eq_true, decide_eq_true_eq] at h
    have hc : c.isDigit = true := by
      simp only [Char.isDigit, Bool.and_eq_true, decide_eq_true_eq]
      exact ⟨h.1.1, UInt32.le_trans h.1.2 (by decide)⟩
    simp [hc, h.2]
  · cases h

/-- What is left of a numeral are digits. -/
theorem unspaced_of_isNumeral (h : isNumeral ds = true) :
    unspaced ds ≠ [] ∧ ∀ c ∈ unspaced ds, c.isDigit = true := by
  simp only [isNumeral, Bool.and_eq_true] at h
  refine ⟨?_, forall_mem_unspaced h.2⟩
  cases ds with
  | nil => cases h.1
  | cons d ds =>
    simp only [List.head?_cons, Option.any_some] at h
    have hmem : d ∈ unspaced (d :: ds) := by
      refine mem_unspaced.mpr ⟨List.mem_cons_self, ?_⟩
      rintro rfl
      cases h.1
    exact List.ne_nil_of_mem hmem

theorem unspaced_of_isSixty (h : isSixty ds = true) :
    unspaced ds ≠ [] ∧ ∀ c ∈ unspaced ds, c.isDigit = true := by
  obtain ⟨hne, hdigits⟩ := isDigit_of_isSixty h
  have hsame : unspaced ds = ds := by
    refine List.filter_eq_self.mpr fun c hc => bne_iff_ne.mpr ?_
    rintro rfl
    cases hdigits _ hc
  rw [hsame]
  exact ⟨hne, hdigits⟩

/-- A text whose first part is a numeral starts with a digit. -/
theorem exists_cons_of_isNumeral {mark : Char} {first : List Char} {later : List (List Char)}
    (hsplit : splitAtMark mark cs = first :: later) (hfirst : isNumeral first = true) :
    ∃ d rest, cs = d :: rest ∧ d.isDigit = true := by
  simp only [isNumeral, Bool.and_eq_true] at hfirst
  cases cs with
  | nil =>
    cases hsplit
    cases hfirst.1
  | cons d rest =>
    refine ⟨d, rest, rfl, ?_⟩
    obtain ⟨piece, pieces, -, hcons⟩ := exists_splitAtMark_cons mark d rest
    rw [hsplit] at hcons
    split at hcons
    · cases hcons
      cases hfirst.1
    · cases hcons
      simpa using hfirst.1

/-- What is left of the digits of a number in base ten or sixty are digits. -/
theorem unspaced_of_sixties {first piece : List Char} {later : List (List Char)}
    (hfirst : isNumeral first = true) (hlater : later.all isSixty = true)
    (hpiece : piece ∈ first :: later) :
    unspaced piece ≠ [] ∧ ∀ c ∈ unspaced piece, c.isDigit = true := by
  rcases List.mem_cons.mp hpiece with rfl | hpiece
  · exact unspaced_of_isNumeral hfirst
  · exact unspaced_of_isSixty (List.all_eq_true.mp hlater piece hpiece)

/-- A whole number in base ten or sixty has too many digits if it is none. -/
theorem misreads_of_sixties {first : List Char} {later : List (List Char)}
    (hsplit : splitAtMark ':' (unsigned cs) = first :: later) (hfirst : isNumeral first = true)
    (hlater : later.all isSixty = true) {part : List Char}
    (hpart : part ∈ splitAtMark ':' (unspaced (unsigned cs))) {e : WholeFault}
    (h : wholeIn 10 part = .error e) : Misreads cs (.noWhole e) := by
  have hsublist : part.Sublist cs := (sublist_of_mem_splitAtMark hpart).trans
    (List.filter_sublist.trans (sublist_unsigned cs))
  rw [splitAtMark_unspaced (by decide), hsplit] at hpart
  obtain ⟨piece, hpiece, rfl⟩ := List.mem_map.mp hpart
  obtain ⟨hne, hdigits⟩ := unspaced_of_sixties hfirst hlater hpiece
  rcases wholeIn_of_digits hne fun c hc => isDigitIn_of_isDigit (hdigits c hc) with
    ⟨n, hok⟩ | ⟨-, hmany, herror⟩
  · cases hok.symm.trans h
  · cases herror.symm.trans h
    exact .tooManyDigits hsublist hdigits hmany

/-- A number behind the mark of its base has no digits if it is none. -/
theorem misreads_of_marked {mark : Char} (hdigits : areDigits p ds = true)
    (hbase : ∀ c, p c = true → isDigitIn base c = true) (hten : base ≠ 10)
    (hcs : unsigned cs = '0' :: mark :: ds)
    (h : (wholeIn base (unspaced ds)).mapError Fault.noWhole = .error fault) :
    Misreads cs fault := by
  simp only [areDigits, Bool.and_eq_true] at hdigits
  obtain ⟨e, hwhole, rfl⟩ := mapError_eq_error_iff.mp h
  by_cases hnil : unspaced ds = []
  · refine .digitless hcs fun c hc => ?_
    by_contra hne
    exact List.ne_nil_of_mem (mem_unspaced.mpr ⟨hc, hne⟩) hnil
  · rcases wholeIn_of_digits hnil fun c hc => hbase c (forall_mem_unspaced hdigits.2 c hc) with
      ⟨n, hok⟩ | ⟨rfl, -, -⟩
    · cases hok.symm.trans hwhole
    · exact absurd rfl hten

/-- A number in base eight is one. -/
theorem exists_naturalOf_octal (h : ds.all (isSpacedDigit fun c => '0' ≤ c && c ≤ '7') = true) :
    ∃ n, naturalOf ('0' :: unspaced ds) = .ok n := by
  have hdigits : ∀ c ∈ '0' :: unspaced ds, isDigitIn 8 c = true := by
    refine List.forall_mem_cons.mpr ⟨by decide +kernel, fun c hc => ?_⟩
    exact isDigitIn_of_octal (forall_mem_unspaced h c hc)
  have hwhole : ∃ n, (wholeIn 8 ('0' :: unspaced ds)).mapError Fault.noWhole = .ok n := by
    rcases wholeIn_of_digits (List.cons_ne_nil _ _) hdigits with ⟨n, hok⟩ | ⟨hten, -⟩
    · exact ⟨n, by rw [hok]; rfl⟩
    · cases hten
  have hmark {mark : Char} {bits : List Char} (hmark : isDigitIn 8 mark = false) :
      '0' :: unspaced ds ≠ '0' :: mark :: bits := by
    intro heq
    rw [heq] at hdigits
    exact absurd (hdigits mark (by simp)) (by simp [hmark])
  unfold naturalOf
  extract_lets inBase
  split
  · next heq => cases heq
  · exact ⟨0, rfl⟩
  · next heq => exact absurd heq (hmark (by decide +kernel))
  · next heq => exact absurd heq (hmark (by decide +kernel))
  · exact hwhole
  · next hnot => exact absurd rfl (hnot _)

/-- Without a leading zero there are digits in base ten or sixty. -/
theorem naturalOf_of_ne {d : Char} (hd : d ≠ '0') (ds : List Char) : naturalOf (d :: ds) =
    ((splitAtMark ':' (d :: ds)).mapM fun part => (wholeIn 10 part).mapError Fault.noWhole).map
      fun parts => parts.foldl (fun n part => n * 60 + part) 0 := by
  unfold naturalOf
  split
  · next heq => cases heq
  all_goals
    try next heq => exact absurd (List.cons.inj heq).1 hd
  rfl

/-- A part of a number in base ten or sixty is none if the number is none. -/
theorem exists_part_of_naturalOf {d : Char} (hd : d ≠ '0')
    (h : naturalOf (d :: ds) = .error fault) : ∃ part ∈ splitAtMark ':' (d :: ds), ∃ e,
      fault = .noWhole e ∧ wholeIn 10 part = .error e := by
  rw [naturalOf_of_ne hd, map_eq_error_iff] at h
  rcases mapM_except_cases (fun part => (wholeIn 10 part).mapError Fault.noWhole)
    (splitAtMark ':' (d :: ds)) with
    ⟨parts, hparts, -⟩ | ⟨before, part, after, e, hsplit, -, hpart, hparts⟩
  · cases hparts.symm.trans h
  · cases hparts.symm.trans h
    obtain ⟨e', hwhole, rfl⟩ := mapError_eq_error_iff.mp hpart
    exact ⟨part, by simp [hsplit], e', rfl, hwhole⟩

/-- A text that looks like a whole number is one, or it has no digits or too many of them. -/
theorem misreads_of_whole (h : hasWholeForm cs = true) (hfault : wholeOf cs = .error fault) :
    Misreads cs fault := by
  have hnatural {d : Char} {ds : List Char} (hcs : unsigned cs = d :: ds)
      (hd : d.isDigit = true) : naturalOf (unspaced (d :: ds)) = .error fault := by
    obtain ⟨negative, hsigned⟩ := signed?_unspaced hcs (ne_marks_of_isDigit hd)
    rw [wholeOf, hsigned] at hfault
    rcases bind_eq_error_iff.mp hfault with hnatural | ⟨n, -, hok⟩
    · exact hnatural
    · cases hok
  unfold hasWholeForm at h
  split at h
  · next bits hcs =>
    have hnatural := hnatural hcs rfl
    rw [unspaced_cons (by decide), unspaced_cons (by decide)] at hnatural
    refine misreads_of_marked h (fun c hc => ?_) (by decide) hcs hnatural
    rcases Bool.or_eq_true_iff.mp hc with hc | hc
    · exact eq_of_beq hc ▸ by decide +kernel
    · exact eq_of_beq hc ▸ by decide +kernel
  · next digits hcs =>
    have hnatural := hnatural hcs rfl
    rw [unspaced_cons (by decide), unspaced_cons (by decide)] at hnatural
    exact misreads_of_marked h (fun _ => isDigitIn_of_hexValue?) (by decide) hcs hnatural
  · next digits _ _ hcs =>
    have hnatural := hnatural hcs rfl
    rw [unspaced_cons (by decide)] at hnatural
    obtain ⟨n, hok⟩ := exists_naturalOf_octal h
    cases hok.symm.trans hnatural
  -- What is left are the digits of base ten or sixty, none of which the reader takes for a mark.
  · next _ _ hzero =>
    split at h
    · cases h
    · next first later hsplit =>
      rw [Bool.and_eq_true] at h
      obtain ⟨d, rest, hcs, hdigit⟩ := exists_cons_of_isNumeral hsplit h.1
      have hzero : d ≠ '0' := by
        rintro rfl
        exact hzero rest hcs
      have hspace : d ≠ '_' := (ne_marks_of_isDigit hdigit).1
      have hnatural := hnatural hcs hdigit
      rw [unspaced_cons hspace] at hnatural
      obtain ⟨part, hpart, e, rfl, herror⟩ := exists_part_of_naturalOf hzero hnatural
      rw [← unspaced_cons hspace, ← hcs] at hpart
      exact misreads_of_sixties hsplit h.1 h.2 hpart herror

end Scaffold.Yaml
