import Scaffold.Proofs.Yaml.Whole

/-! What plain scalars are refused for.  A text that looks like a truth value is one; one that looks
like a number with a point is one if it has not too many digits in base sixty, and one that looks
like a moment may not be in the calendar. -/
namespace Scaffold.Yaml

open Number Text

variable {c : Char} {cs ds rest : List Char} {fault : Fault}

/-! ### Numbers with a point -/

theorem digitRun_append (hds : ∀ c ∈ ds, c.isDigit = true)
    (hrest : ∀ c ∈ rest.head?, c.isDigit = false ∧ c ≠ '_') :
    digitRun (ds ++ rest) = (ds, rest) := by
  induction ds with
  | nil =>
    cases rest with
    | nil => rfl
    | cons c rest =>
      obtain ⟨hdigit, hspace⟩ := hrest c rfl
      rw [List.nil_append]
      unfold digitRun
      split
      · next heq =>
        cases heq
        exact absurd rfl hspace
      · next heq =>
        cases heq
        simp [hdigit]
      · next heq => cases heq
  | cons d ds ih =>
    obtain ⟨hd, hds⟩ := List.forall_mem_cons.mp hds
    rw [List.cons_append, digitRun.eq_def]
    split
    · next heq =>
      obtain ⟨rfl, -⟩ := List.cons.inj heq
      cases hd
    · next heq =>
      cases heq
      simp [hd, ih hds]
    · next heq => cases heq

theorem digitsHere_append (hds : ∀ c ∈ ds, c.isDigit = true)
    (hrest : ∀ c ∈ rest.head?, c.isDigit = false ∧ c ≠ '_') :
    digitsHere (ds ++ rest) = (ds, rest) := by
  unfold digitsHere
  split
  · next rest' heq =>
    cases ds with
    | nil =>
      rw [List.nil_append] at heq
      exact absurd rfl (hrest '_' (by simp [heq])).2
    | cons d ds =>
      cases heq
      exact absurd (hds _ List.mem_cons_self) (by decide)
  · exact digitRun_append hds hrest

theorem digitsHere_of_digits (hds : ∀ c ∈ ds, c.isDigit = true) : digitsHere ds = (ds, []) := by
  have hrun : digitsHere (ds ++ []) = (ds, []) := digitsHere_append hds nofun
  rwa [List.append_nil] at hrun

/-- A text that stands for a double: digits, or digits with a point and perhaps an exponent. -/
inductive IsDecimal : List Char → Prop
  | whole {digits : List Char} : digits ≠ [] → (∀ c ∈ digits, c.isDigit = true) → IsDecimal digits
  | point {whole fraction exponent : List Char} : (∀ c ∈ whole, c.isDigit = true) →
      (∀ c ∈ fraction, c.isDigit = true) → whole ≠ [] ∨ fraction ≠ [] →
      isExponent exponent = true → IsDecimal (whole ++ '.' :: (fraction ++ exponent))

theorem exponent_cases (h : isExponent ds = true) : ds = [] ∨ ∃ e sign digits,
    ds = e :: sign :: digits ∧ (e = 'e' ∨ e = 'E') ∧ (sign = '+' ∨ sign = '-') ∧ digits ≠ [] ∧
      ∀ c ∈ digits, c.isDigit = true := by
  unfold isExponent at h
  split at h
  · exact .inl rfl
  · next e sign digits =>
    simp only [Bool.and_eq_true, Bool.or_eq_true, beq_iff_eq, List.all_eq_true,
      Bool.not_eq_true', List.isEmpty_eq_false_iff] at h
    exact .inr ⟨e, sign, digits, rfl, h.1.1.1, h.1.1.2, h.1.2, h.2⟩
  · cases h

theorem exists_exponentPart? (h : isExponent ds = true) : ∃ n, exponentPart? ds = some n := by
  rcases exponent_cases h with rfl | ⟨e, sign, digits, rfl, he, hsign, hne, hdigits⟩
  · exact ⟨0, rfl⟩
  · have hrun := digitsHere_of_digits hdigits
    obtain ⟨d, digits, rfl⟩ := List.exists_cons_of_ne_nil hne
    rcases hsign with rfl | rfl
    · simp [exponentPart?, he, hrun]
    · simp [exponentPart?, he, hrun]

theorem exists_ofUnsigned? {negative : Bool} (h : IsDecimal ds) :
    ∃ x, Double.ofUnsigned? negative ds = some x := by
  cases h with
  | whole hne hdigits =>
    have hrun := digitsHere_of_digits hdigits
    simp [Double.ofUnsigned?, hrun, hne, exponentPart?]
  | @point whole fraction exponent hwhole hfraction hne hexponent =>
    obtain ⟨n, hn⟩ := exists_exponentPart? hexponent
    have hrun : digitsHere (whole ++ '.' :: (fraction ++ exponent)) =
        (whole, '.' :: (fraction ++ exponent)) :=
      digitsHere_append hwhole (by simp)
    have hplaces : digitsHere (fraction ++ exponent) = (fraction, exponent) := by
      refine digitsHere_append hfraction fun c hc => ?_
      rcases exponent_cases hexponent with rfl | ⟨e, sign, digits, rfl, he, -⟩
      · cases hc
      · cases hc
        rcases he with rfl | rfl <;> decide
    have hsome : (whole.isEmpty && fraction.isEmpty) = false := by
      rcases hne with hne | hne
      · simp [hne]
      · simp [hne]
    exact ⟨_, by simp only [Double.ofUnsigned?, hrun, hplaces, hn, hsome]; rfl⟩

/-- A character of a number with a point. -/
def isDecimalChar (c : Char) : Bool := c.isDigit || ".eE+-".toList.contains c

theorem isDecimalChar_of_isDigit (h : c.isDigit = true) : isDecimalChar c = true := by
  simp [isDecimalChar, h]

theorem isDecimalChar_of_isExponent (h : isExponent ds = true) :
    ∀ c ∈ ds, isDecimalChar c = true := by
  rcases exponent_cases h with rfl | ⟨e, sign, digits, rfl, he, hsign, -, hdigits⟩
  · exact List.forall_mem_nil _
  · refine List.forall_mem_cons.mpr ⟨?_, List.forall_mem_cons.mpr ⟨?_, fun c hc => ?_⟩⟩
    · rcases he with rfl | rfl <;> decide
    · rcases hsign with rfl | rfl <;> decide
    · exact isDecimalChar_of_isDigit (hdigits c hc)

theorem IsDecimal.isDecimalChar (h : IsDecimal ds) : ∀ c ∈ ds, isDecimalChar c = true := by
  cases h with
  | whole _ hdigits => exact fun c hc => isDecimalChar_of_isDigit (hdigits c hc)
  | point hwhole hfraction _ hexponent =>
    intro c hc
    simp only [List.mem_append, List.mem_cons] at hc
    rcases hc with hc | rfl | hc | hc
    · exact isDecimalChar_of_isDigit (hwhole c hc)
    · decide
    · exact isDecimalChar_of_isDigit (hfraction c hc)
    · exact isDecimalChar_of_isExponent hexponent c hc

theorem IsDecimal.head (h : IsDecimal ds) : ∀ c ∈ ds.head?, c.isDigit = true ∨ c = '.' := by
  cases h with
  | whole _ hdigits => exact fun c hc => .inl (hdigits c (List.mem_of_mem_head? hc))
  | @point whole _ _ hwhole _ _ _ =>
    cases whole with
    | nil =>
      rintro c ⟨⟩
      exact .inr rfl
    | cons d whole =>
      rintro c ⟨⟩
      exact .inl (hwhole _ List.mem_cons_self)

theorem toNat_lt_of_isDecimalChar (h : isDecimalChar c = true) : c.toNat < 128 := by
  simp only [isDecimalChar, Bool.or_eq_true] at h
  rcases h with h | h
  · exact toNat_lt_of_isDigit h
  · have hall : ".eE+-".toList.all (·.toNat < 128) = true := by decide
    simpa using List.all_eq_true.mp hall c (List.contains_iff_mem.mp h)

/-- What is read as a digit of any script, and what is cut off as blank. -/
theorem plainDigit_of_isDecimalChar (h : isDecimalChar c = true) :
    plainDigit c = c ∧ isBlank c = false :=
  forall_ascii (p := fun c => isDecimalChar c = true → plainDigit c = c ∧ isBlank c = false)
    (by decide +kernel) (toNat_lt_of_isDecimalChar h) h

theorem exists_decimalOf (h : IsDecimal ds) : ∃ x, decimalOf ds = .ok x := by
  have hchars := h.isDecimalChar
  have hplain : ds.map plainDigit = ds :=
    (List.map_congr_left fun c hc => (plainDigit_of_isDecimalChar (hchars c hc)).1).trans
      (List.map_id' ds)
  have hsign {sign : Char} {r : List Char} (hnot : sign.isDigit = false ∧ sign ≠ '.') :
      ds ≠ sign :: r := by
    rintro rfl
    rcases h.head sign rfl with hdigit | hpoint
    · rw [hnot.1] at hdigit
      cases hdigit
    · exact hnot.2 hpoint
  obtain ⟨x, hx⟩ : ∃ x, Double.ofText? 0 (trim ds) = some x := by
    rw [trim_eq_self fun c hc => (plainDigit_of_isDecimalChar (hchars c hc)).2]
    unfold Double.ofText?
    rw [hplain]
    extract_lets signed word
    have hsigned : signed = (false, ds) := by
      unfold signed
      split
      · exact absurd rfl (hsign (by decide))
      · exact absurd rfl (hsign (by decide))
      · rfl
    split
    · exact ⟨_, rfl⟩
    · split
      · exact ⟨_, rfl⟩
      · rw [hsigned]
        exact exists_ofUnsigned? h
  exact ⟨x, by rw [decimalOf, hx]⟩

/-- As many digits in base sixty count what a double can. -/
theorem ofNat_ne_infinite : ∀ i < maxSixties, Double.ofNat (Nat.pow 60 i) ≠ .infinite false := by
  decide +kernel

theorem tooLarge_of_addSixties {sum : Double} {i : Nat} {digits : List Double}
    (h : addSixties sum (Nat.pow 60 i) digits = .error fault) :
    fault = .tooLarge ∧ maxSixties < i + digits.length := by
  induction digits generalizing sum i with
  | nil => cases h
  | cons digit digits ih =>
    rw [addSixties] at h
    split at h
    · next hinfinite =>
      cases h
      refine ⟨rfl, ?_⟩
      by_contra hfew
      exact ofNat_ne_infinite i (by simp only [List.length_cons] at hfew; omega) hinfinite
    · have hrest : addSixties (sum.add (digit.times (.ofNat (Nat.pow 60 i)))) (Nat.pow 60 (i + 1))
        digits = .error fault := h
      obtain ⟨hfault, hmany⟩ := ih hrest
      exact ⟨hfault, by simp only [List.length_cons]; omega⟩

/-- A text whose parts in base sixty are decimal is a double, unless they are too many. -/
theorem tooLarge_of_unsignedOf (h : ∀ part ∈ splitAtMark ':' ds, IsDecimal part)
    (hfault : unsignedOf ds = .error fault) :
    fault = .tooLarge ∧ maxSixties < (splitAtMark ':' ds).length := by
  unfold unsignedOf at hfault
  split at hfault
  · cases hfault
  · split at hfault
    · cases hfault
    · split at hfault
      · next part hsplit =>
        have hjoin := intercalate_splitAtMark ':' ds
        rw [hsplit, List.intercalate_singleton] at hjoin
        rw [hsplit, List.forall_mem_singleton, hjoin] at h
        obtain ⟨x, hx⟩ := exists_decimalOf h
        cases hx.symm.trans hfault
      · rcases mapM_except_cases decimalOf (splitAtMark ':' ds) with
          ⟨xs, hxs, hall⟩ | ⟨before, part, after, e, hsplit, -, hpart, -⟩
        · rw [hxs] at hfault
          have hsum := tooLarge_of_addSixties (i := 0) hfault
          rwa [Nat.zero_add, List.length_reverse, ← hall.length_eq] at hsum
        · obtain ⟨x, hx⟩ := exists_decimalOf (h part (by simp [hsplit]))
          cases hx.symm.trans hpart

/-! ### Signs and capitals -/

theorem signed?_of_ne {d : Char} (hd : d ≠ '-' ∧ d ≠ '+') :
    signed? (d :: ds) = some (false, d :: ds) := by
  unfold signed?
  split
  · next heq => cases heq
  · next heq => exact absurd (List.cons.inj heq).1 hd.1
  · next heq => exact absurd (List.cons.inj heq).1 hd.2
  · rfl

/-- A sign stays where it is in lower case. -/
theorem signed?_lower {negative : Bool} (hascii : ∀ c ∈ cs, c.toNat < 128)
    (h : signed? cs = some (negative, rest)) :
    signed? (lower cs) = some (negative, lower rest) := by
  unfold signed? at h
  split at h
  · cases h
  · next rest' =>
    cases h
    rw [lower_of_ascii hascii, lower_of_ascii fun c hc => hascii c (List.mem_cons_of_mem _ hc)]
    rfl
  · next rest' =>
    cases h
    rw [lower_of_ascii hascii, lower_of_ascii fun c hc => hascii c (List.mem_cons_of_mem _ hc)]
    rfl
  · next hnil hminus hplus =>
    cases h
    rw [lower_of_ascii hascii]
    cases cs with
    | nil => exact absurd rfl hnil
    | cons d ds =>
      have hd : d ≠ '-' ∧ d ≠ '+' :=
        ⟨fun heq => hminus ds (by rw [heq]), fun heq => hplus ds (by rw [heq])⟩
      have hlower := forall_ascii
        (p := fun d => d ≠ '-' ∧ d ≠ '+' → d.toLower ≠ '-' ∧ d.toLower ≠ '+') (by decide +kernel)
        (hascii d List.mem_cons_self) hd
      exact signed?_of_ne hlower

/-- Capitals are no colons. -/
theorem count_lower (hascii : ∀ c ∈ cs, c.toNat < 128) :
    (lower cs).count ':' = cs.count ':' := by
  rw [lower_of_ascii hascii, List.count, List.countP_map]
  refine List.countP_congr fun c hc => ?_
  exact forall_ascii (p := fun c => (c.toLower == ':') = true ↔ (c == ':') = true)
    (by decide +kernel) (hascii c hc)

/-- A text behind whose sign there is a digit or a point keeps it. -/
theorem ne_marks_of_head {d : Char} (h : d.isDigit = true ∨ d = '.') :
    d ≠ '_' ∧ d ≠ '-' ∧ d ≠ '+' := by
  rcases h with h | rfl
  · exact ne_marks_of_isDigit h
  · decide

/-- A text is no double only if what follows its sign is none. -/
theorem unsignedOf_of_realOf {d : Char} (hcs : unsigned cs = d :: ds)
    (hd : d.isDigit = true ∨ d = '.') (hascii : ∀ c ∈ unsigned cs, c.toNat < 128)
    (h : realOf cs = .error fault) :
    unsignedOf (lower (unspaced (unsigned cs))) = .error fault := by
  have hall : ∀ c ∈ cs, c.toNat < 128 := by
    unfold unsigned at hascii
    split at hascii
    · exact List.forall_mem_cons.mpr ⟨by decide, hascii⟩
    · exact List.forall_mem_cons.mpr ⟨by decide, hascii⟩
    · exact hascii
  obtain ⟨negative, hsigned⟩ := signed?_unspaced hcs (ne_marks_of_head hd)
  rw [← hcs] at hsigned
  have hlower := signed?_lower (fun c hc => hall c (mem_unspaced.mp hc).1) hsigned
  rw [realOf, hlower] at h
  rcases bind_eq_error_iff.mp h with hunsigned | ⟨x, -, hok⟩
  · exact hunsigned
  · cases hok

/-- A text is a double if what follows its sign has decimal parts in base sixty, in lower case and
without underscores, and has no more of them than a double can. -/
theorem misreads_of_decimals {d : Char} (hcs : unsigned cs = d :: ds)
    (hd : d.isDigit = true ∨ d = '.') (hascii : ∀ c ∈ unsigned cs, c.toNat < 128)
    (h : ∀ part ∈ splitAtMark ':' (lower (unspaced (unsigned cs))), IsDecimal part)
    (hfault : realOf cs = .error fault) : Misreads cs fault := by
  obtain ⟨rfl, hmany⟩ := tooLarge_of_unsignedOf h (unsignedOf_of_realOf hcs hd hascii hfault)
  rw [length_splitAtMark, count_lower fun c hc => hascii c (mem_unspaced.mp hc).1] at hmany
  have hle : (unspaced (unsigned cs)).count ':' ≤ cs.count ':' :=
    (List.filter_sublist.trans (sublist_unsigned cs)).count_le ':'
  exact .tooLarge (by omega)

/-! ### Real numbers -/

theorem unspaced_append (cs ds : List Char) : unspaced (cs ++ ds) = unspaced cs ++ unspaced ds :=
  List.filter_append ..

theorem unspaced_eq_self (h : ∀ c ∈ cs, isDecimalChar c = true) : unspaced cs = cs := by
  refine List.filter_eq_self.mpr fun c hc => bne_iff_ne.mpr ?_
  rintro rfl
  exact absurd (h _ hc) (by decide)

theorem map_toLower_of_digits (h : ∀ c ∈ ds, c.isDigit = true) : ds.map Char.toLower = ds := by
  have hdigit : ∀ c ∈ ds, c.toLower = c := fun c hc =>
    forall_ascii (p := fun c => c.isDigit = true → c.toLower = c) (by decide +kernel)
      (toNat_lt_of_isDigit (h c hc)) (h c hc)
  rw [List.map_congr_left hdigit, List.map_id']

theorem isExponent_map_toLower (h : isExponent ds = true) :
    isExponent (ds.map Char.toLower) = true := by
  rcases exponent_cases h with rfl | ⟨e, sign, digits, rfl, he, hsign, hne, hdigits⟩
  · rfl
  · have hlast : digits.all Char.isDigit = true := List.all_eq_true.mpr hdigits
    rcases he with rfl | rfl <;> rcases hsign with rfl | rfl <;>
    · rw [List.map_cons, List.map_cons, map_toLower_of_digits hdigits]
      simp [isExponent, hne, hlast]

/-- A number with a point, in lower case and without its underscores. -/
theorem isDecimal_lower {before fraction exponent : List Char}
    (hbefore : before.all (isSpacedDigit Char.isDigit) = true)
    (hfraction : fraction.all (isSpacedDigit Char.isDigit) = true)
    (hne : unspaced before ≠ [] ∨ unspaced fraction ≠ []) (hexponent : isExponent exponent = true) :
    IsDecimal (lower (unspaced (before ++ '.' :: (fraction ++ exponent)))) := by
  have hwhole := forall_mem_unspaced hbefore
  have hplaces := forall_mem_unspaced hfraction
  have hchars := isDecimalChar_of_isExponent hexponent
  have hkept : unspaced (before ++ '.' :: (fraction ++ exponent)) =
      unspaced before ++ '.' :: (unspaced fraction ++ exponent) := by
    rw [unspaced_append, ← List.singleton_append (l := fraction ++ exponent), unspaced_append,
      unspaced_append, unspaced_eq_self hchars]
    rfl
  have hascii : ∀ c ∈ unspaced before ++ '.' :: (unspaced fraction ++ exponent),
      c.toNat < 128 := by
    simp only [List.mem_append, List.mem_cons]
    rintro c (hc | rfl | hc | hc)
    · exact toNat_lt_of_isDigit (hwhole c hc)
    · decide
    · exact toNat_lt_of_isDigit (hplaces c hc)
    · exact toNat_lt_of_isDecimalChar (hchars c hc)
  rw [hkept, lower_of_ascii hascii, List.map_append, List.map_cons, List.map_append,
    map_toLower_of_digits hwhole, map_toLower_of_digits hplaces]
  exact .point hwhole hplaces hne (isExponent_map_toLower hexponent)

theorem toNat_lt_of_isSpacedDigit (h : isSpacedDigit Char.isDigit c = true) :
    c.toNat < 128 := by
  simp only [isSpacedDigit, Bool.or_eq_true, beq_iff_eq] at h
  rcases h with h | rfl
  · exact toNat_lt_of_isDigit h
  · decide

/-- A decimal text is its only part in base sixty. -/
theorem splitAtMark_of_isDecimal (h : IsDecimal ds) : splitAtMark ':' ds = [ds] := by
  refine splitAtMark_of_notMem fun hc => ?_
  exact absurd (h.isDecimalChar ':' hc) (by decide)

theorem unspaced_ne_nil {d : Char} (hd : d.isDigit = true) : unspaced (d :: ds) ≠ [] :=
  List.ne_nil_of_mem (mem_unspaced.mpr ⟨List.mem_cons_self, (ne_marks_of_isDigit hd).1⟩)

/-- The parts of a number with a point: at least one of its halves starts with a digit. -/
theorem exists_of_hasPointForm (h : hasPointForm cs = true) : ∃ before fraction exponent,
    unsigned cs = before ++ '.' :: (fraction ++ exponent) ∧
      before.all (isSpacedDigit Char.isDigit) = true ∧
      fraction.all (isSpacedDigit Char.isDigit) = true ∧ isExponent exponent = true ∧
      ((∃ d ds, before = d :: ds ∧ d.isDigit = true) ∨
        before = [] ∧ ∃ d ds, fraction = d :: ds ∧ d.isDigit = true) := by
  unfold hasPointForm at h
  extract_lets digits before at h
  split at h
  · next after hafter =>
    extract_lets fraction wellBegun at h
    obtain ⟨hbegun, hexponent⟩ := Bool.and_eq_true_iff.mp h
    refine ⟨before, fraction, _, ?_, List.all_takeWhile, List.all_takeWhile, hexponent, ?_⟩
    · rw [List.takeWhile_append_dropWhile, ← hafter, List.takeWhile_append_dropWhile]
    · unfold wellBegun at hbegun
      clear_value before fraction
      cases before with
      | nil =>
        cases fraction with
        | nil => simp at hbegun
        | cons d ds =>
          simp only [List.isEmpty_nil, if_true, Bool.and_eq_true, List.head?_cons,
            Option.any_some] at hbegun
          exact .inr ⟨rfl, d, ds, rfl, hbegun.2⟩
      | cons d ds => exact .inl ⟨d, ds, rfl, by simpa using hbegun⟩
  · cases h

/-- A number with a point, whatever its sign, stands for a double. -/
theorem misreads_of_point (h : hasPointForm cs = true) (hfault : realOf cs = .error fault) :
    Misreads cs fault := by
  obtain ⟨before, fraction, exponent, hdigits, hbefore, hfraction, hexponent, hbegun⟩ :=
    exists_of_hasPointForm h
  obtain ⟨hne, d, ds, hcs, hd⟩ : (unspaced before ≠ [] ∨ unspaced fraction ≠ []) ∧
      ∃ d ds, unsigned cs = d :: ds ∧ (d.isDigit = true ∨ d = '.') := by
    rw [hdigits]
    rcases hbegun with ⟨d, ds, rfl, hd⟩ | ⟨rfl, d, ds, rfl, hd⟩
    · exact ⟨.inl (unspaced_ne_nil hd), d, _, rfl, .inl hd⟩
    · exact ⟨.inr (unspaced_ne_nil hd), '.', _, rfl, .inr rfl⟩
  have hdecimal := isDecimal_lower hbefore hfraction hne hexponent
  have hascii : ∀ c ∈ unsigned cs, c.toNat < 128 := by
    rw [hdigits]
    simp only [List.mem_append, List.mem_cons]
    rintro c (hc | rfl | hc | hc)
    · exact toNat_lt_of_isSpacedDigit (List.all_eq_true.mp hbefore c hc)
    · decide
    · exact toNat_lt_of_isSpacedDigit (List.all_eq_true.mp hfraction c hc)
    · exact toNat_lt_of_isDecimalChar (isDecimalChar_of_isExponent hexponent c hc)
  refine misreads_of_decimals hcs hd hascii (fun part hpart => ?_) hfault
  rw [hdigits, splitAtMark_of_isDecimal hdecimal] at hpart
  exact List.mem_singleton.mp hpart ▸ hdecimal

theorem exists_of_hasSixtyPointForm (h : hasSixtyPointForm cs = true) : ∃ whole fraction,
    unsigned cs = whole ++ '.' :: fraction ∧ (∃ d ds, whole = d :: ds ∧ d.isDigit = true) ∧
      (∀ piece ∈ splitAtMark ':' whole,
        unspaced piece ≠ [] ∧ ∀ c ∈ unspaced piece, c.isDigit = true) ∧
      fraction.all (isSpacedDigit Char.isDigit) = true := by
  unfold hasSixtyPointForm at h
  split at h
  · next whole fraction hpoint =>
    have hjoin := intercalate_splitAtMark '.' (unsigned cs)
    rw [hpoint] at hjoin
    split at h
    · next first second later hsplit =>
      simp only [Bool.and_eq_true] at h
      obtain ⟨⟨hfirst, hlater⟩, hfraction⟩ := h
      refine ⟨whole, fraction, ?_, exists_cons_of_isNumeral hsplit hfirst, ?_, hfraction⟩
      · simpa [List.intercalate, List.intersperse] using hjoin.symm
      · exact fun piece hpiece => unspaced_of_sixties hfirst hlater (hsplit ▸ hpiece)
    · cases h
  · cases h

section
variable {whole fraction : List Char}
  (hwhole : ∀ piece ∈ splitAtMark ':' whole,
    unspaced piece ≠ [] ∧ ∀ c ∈ unspaced piece, c.isDigit = true)
  (hfraction : fraction.all (isSpacedDigit Char.isDigit) = true)
include hwhole hfraction

theorem mem_sixtyPoint_cases (hc : c ∈ unspaced (whole ++ '.' :: fraction)) :
    c.isDigit = true ∨ c = ':' ∨ c = '.' := by
  obtain ⟨hmem, hne⟩ := mem_unspaced.mp hc
  rw [List.mem_append, List.mem_cons] at hmem
  rcases hmem with hmem | rfl | hmem
  · rcases eq_or_mem_splitAtMark ':' hmem with rfl | ⟨piece, hpiece, hmem⟩
    · exact .inr (.inl rfl)
    · exact .inl ((hwhole piece hpiece).2 c (mem_unspaced.mpr ⟨hmem, hne⟩))
  · exact .inr (.inr rfl)
  · exact .inl (forall_mem_unspaced hfraction c (mem_unspaced.mpr ⟨hmem, hne⟩))

/-- The last digit in base sixty takes the point and what follows it. -/
theorem isDecimal_of_sixtyPoint {part : List Char}
    (h : part ∈ splitAtMark ':' (unspaced (whole ++ '.' :: fraction))) : IsDecimal part := by
  have hplaces := forall_mem_unspaced hfraction
  have htail : ':' ∉ '.' :: fraction := by
    rintro (_ | ⟨_, hcolon⟩)
    exact absurd (List.all_eq_true.mp hfraction ':' hcolon) (by decide)
  obtain ⟨before, last, hsplit, happend⟩ := exists_splitAtMark_append htail whole
  rw [hsplit] at hwhole
  rw [splitAtMark_unspaced (by decide), happend, List.map_append, List.mem_append] at h
  rcases h with h | h
  · obtain ⟨piece, hpiece, rfl⟩ := List.mem_map.mp h
    obtain ⟨hne, hdigits⟩ := hwhole piece (List.mem_append_left _ hpiece)
    exact .whole hne hdigits
  · obtain ⟨hne, hdigits⟩ := hwhole last (by simp)
    have hpart : part = unspaced last ++ '.' :: (unspaced fraction ++ []) := by
      rw [List.mem_singleton.mp h, unspaced_append, List.append_nil]
      rfl
    exact hpart ▸ .point hdigits hplaces (.inl hne) rfl

end

/-- A number with a point in base sixty stands for a double, unless it has too many digits. -/
theorem misreads_of_sixtyPoint (h : hasSixtyPointForm cs = true)
    (hfault : realOf cs = .error fault) : Misreads cs fault := by
  obtain ⟨whole, fraction, hcs, ⟨d, ds, rfl, hd⟩, hwhole, hfraction⟩ :=
    exists_of_hasSixtyPointForm h
  have hkept : ∀ c ∈ unspaced (unsigned cs), c.toNat < 128 ∧ c.isUpper = false := by
    intro c hc
    rw [hcs] at hc
    rcases mem_sixtyPoint_cases hwhole hfraction hc with hdigit | rfl | rfl
    · have hlt := toNat_lt_of_isDigit hdigit
      exact ⟨hlt, forall_ascii (p := fun c => c.isDigit = true → c.isUpper = false)
        (by decide +kernel) hlt hdigit⟩
    · decide
    · decide
  have hascii : ∀ c ∈ unsigned cs, c.toNat < 128 := by
    intro c hc
    by_cases hne : c = '_'
    · exact hne ▸ by decide
    · exact (hkept c (mem_unspaced.mpr ⟨hc, hne⟩)).1
  refine misreads_of_decimals hcs (.inl hd) hascii (fun part hpart => ?_) hfault
  rw [lower_eq_self (fun c hc => (hkept c hc).1) fun c hc => (hkept c hc).2, hcs] at hpart
  exact isDecimal_of_sixtyPoint hwhole hfraction hpart

theorem exists_unsignedOf_words : ∀ word ∈ realWords ++ nanWords, word.toList.head? = some '.' ∧
    word.toList.all (·.toNat < 128) = true ∧
      (unsignedOf (lower (unspaced word.toList))).isOk = true := by
  decide +kernel

/-- Words for doubles, with a sign or without one. -/
theorem exists_realOf_of_word (h : String.ofList (unsigned cs) ∈ realWords ++ nanWords) :
    realOf cs ≠ .error fault := by
  intro hfault
  obtain ⟨hhead, hascii, hok⟩ := exists_unsignedOf_words _ h
  rw [String.toList_ofList] at hhead hascii hok
  obtain ⟨ds, hcs⟩ := List.head?_eq_some_iff.mp hhead
  replace hascii : ∀ c ∈ unsigned cs, c.toNat < 128 := by simpa using hascii
  rw [unsignedOf_of_realOf hcs (.inr rfl) hascii hfault] at hok
  cases hok

/-- A text that looks like a real number is one, unless it has too many digits in base sixty. -/
theorem misreads_of_real (h : hasRealForm cs = true) (hfault : realOf cs = .error fault) :
    Misreads cs fault := by
  simp only [hasRealForm, Bool.or_eq_true] at h
  rcases h with ((hpoint | hsixty) | hword) | hword
  · exact misreads_of_point hpoint hfault
  · exact misreads_of_sixtyPoint hsixty hfault
  · have hmem := List.mem_append_left nanWords (List.contains_iff_mem.mp hword)
    exact absurd hfault (exists_realOf_of_word hmem)
  · have hmem := List.contains_iff_mem.mp hword
    have hsame : unsigned cs = cs := by
      obtain ⟨hhead, -⟩ := exists_unsignedOf_words _ (List.mem_append_right realWords hmem)
      rw [String.toList_ofList] at hhead
      obtain ⟨ds, rfl⟩ := List.head?_eq_some_iff.mp hhead
      rfl
    rw [← hsame] at hmem
    exact absurd hfault (exists_realOf_of_word (List.mem_append_right _ hmem))

/-! ### Plain texts -/

theorem isOk_truthOf : ∀ word ∈ truthWords, (truthOf word.toList).isOk = true := by
  decide +kernel

theorem misreads_of_moment {m : MomentText} (hm : momentText? cs = some m)
    (h : momentOf cs = .error fault) : Misreads cs fault := by
  rw [momentOf, hm, Option.some_or] at h
  obtain ⟨e, hscalar, rfl⟩ := mapError_eq_error_iff.mp h
  exact .calendar hm hscalar

/-- A plain text that does not fit what it looks like is no number or no moment. -/
theorem misreads_of_plain {points : List Nat}
    (h : scalarOf (plainTag points) points = .error fault) :
    fault = .malformed ∨ Misreads (charsOf points) fault := by
  unfold plainTag at h
  split at h
  · next s hs =>
    -- Only a text of whole characters is looked at, and these are what its reader gets.
    have hchars : charsOf points = s.toList := by
      unfold Scalar.ofPoints at hs
      split at hs
      · cases hs
        rw [String.toList_ofList]
      · cases hs
    rw [hchars.symm] at h
    unfold Tag.ofPlain at h
    extract_lets word at h
    split at h
    · next hword =>
      have hok := isOk_truthOf word (List.contains_iff_mem.mp hword)
      rw [String.toList_ofList, map_eq_error_iff.mp h] at hok
      cases hok
    split at h
    · next hreal => exact .inr (misreads_of_real hreal (map_eq_error_iff.mp h))
    split at h
    · next hwhole => exact .inr (misreads_of_whole hwhole (map_eq_error_iff.mp h))
    split at h
    · cases h
      exact .inl rfl
    split at h
    · cases h
    split at h
    · next hmoment =>
      obtain ⟨m, hm, -⟩ := (Option.any_eq_true ..).mp hmoment
      exact .inr (misreads_of_moment hm h)
    split at h
    · cases h
      exact .inl rfl
    · cases h
  · cases h

end Scaffold.Yaml
