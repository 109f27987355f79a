import Scaffold.Expression.Grammar

/-! Derivations of the expression grammar over token lists.  The readers, with one token of
foresight, find a derivation exactly where there is one, and there is never a second. -/
namespace Scaffold.Expression
open Scaffold.Text

/-- Accessors, `('.' NAME)*`, with their names. -/
inductive IsAccessors : List Token → List String → Prop
  | nil : IsAccessors [] []
  | cons {word : List Char} {ts : List Token} {names : List String} :
      isReserved word = false → IsAccessors ts names →
      IsAccessors (.sign .dot :: .name word :: ts) (String.ofList word :: names)

/-- Paths, `NAME ('.' NAME)*`. -/
inductive IsPath : List Token → Path → Prop
  | intro {word : List Char} {ts : List Token} {names : List String} :
      isReserved word = false → IsAccessors ts names →
      IsPath (.name word :: ts) ⟨String.ofList word, names⟩

mutual
/-- Guards, `('not' | '!') guard | compare`. -/
inductive IsGuard : List Token → Node → Prop
  | word {ts : List Token} {n : Node} :
      IsGuard ts n → IsGuard (.name "not".toList :: ts) (.negation n)
  | bang {ts : List Token} {n : Node} :
      IsGuard ts n → IsGuard (.sign .bang :: ts) (.negation n)
  | compare {ts : List Token} {n : Node} : IsCompare ts n → IsGuard ts n

/-- Comparisons, `operand (('==' | '!=') operand)?`. -/
inductive IsCompare : List Token → Node → Prop
  | operand {ts : List Token} {n : Node} : IsOperand ts n → IsCompare ts n
  | equal {ls rs : List Token} {l r : Node} : IsOperand ls l → IsOperand rs r →
      IsCompare (ls ++ .sign .equal :: rs) (.comparison l r false)
  | unequal {ls rs : List Token} {l r : Node} : IsOperand ls l → IsOperand rs r →
      IsCompare (ls ++ .sign .unequal :: rs) (.comparison l r true)

/-- Operands, `STRING | 'true' | 'false' | path | '(' guard ')'`. -/
inductive IsOperand : List Token → Node → Prop
  | literal {quote : Char} {body : List Char} :
      IsOperand [.literal quote body] (.text (String.ofList (unescape body)))
  | yes : IsOperand [.name "true".toList] (.truth true)
  | no : IsOperand [.name "false".toList] (.truth false)
  | path {ts : List Token} {p : Path} : IsPath ts p → IsOperand ts (.path p)
  | group {ts : List Token} {n : Node} : IsGuard ts n →
      IsOperand (.sign .openParen :: (ts ++ [.sign .closeParen])) n
end

/-- Interpolations, `guard (('if' | 'unless') guard)?`. -/
inductive IsInterpolation : List Token → Interpolation → Prop
  | plain {ts : List Token} {v : Node} : IsGuard ts v → IsInterpolation ts ⟨v, none⟩
  | ifSuffix {vs gs : List Token} {v g : Node} : IsGuard vs v → IsGuard gs g →
      IsInterpolation (vs ++ .name "if".toList :: gs) ⟨v, some g⟩
  | unlessSuffix {vs gs : List Token} {v g : Node} : IsGuard vs v → IsGuard gs g →
      IsInterpolation (vs ++ .name "unless".toList :: gs) ⟨v, some (.negation g)⟩

/-! ### What the readers find is derivable -/

theorem readAccessors_sound {ts : List Token} {names : List String} {r : List Token}
    {hr : r.length ≤ ts.length} (h : readAccessors ts = .ok (names, ⟨r, hr⟩)) :
    ∃ used, ts = used ++ r ∧ IsAccessors used names := by
  fun_induction readAccessors ts generalizing names r with
  | case1 => simp at h
  | case2 word rest hres ns r' hr' heq ih =>
    cases h
    obtain ⟨used, hu, ha⟩ := ih heq
    refine ⟨.sign .dot :: .name word :: used, ?_, .cons (by simpa using hres) ha⟩
    simp [hu]
  | case3 => simp at h
  | case4 => simp at h
  | case5 => simp at h
  | case6 rest =>
    cases h
    exact ⟨[], rfl, .nil⟩

theorem Token.eq_of_comparison? {t : Token} {negated : Bool} (h : t.comparison? = some negated) :
    t = if negated then .sign .unequal else .sign .equal := by
  unfold Token.comparison? at h
  split at h <;> simp_all

theorem isGuard_of_negates {t : Token} {ts : List Token} {n : Node} (ht : t.negates = true)
    (h : IsGuard ts n) : IsGuard (t :: ts) (.negation n) := by
  unfold Token.negates at ht
  split at ht
  · exact .bang h
  · rename_i word
    have hw : word = "not".toList := by
      simpa using congrArg String.toList (eq_of_beq ht)
    exact hw ▸ .word h
  · simp at ht

mutual
theorem readGuard_sound {ts r : List Token} {n : Node} {hr : r.length < ts.length}
    (h : readGuard ts = .ok (n, ⟨r, hr⟩)) : ∃ used, ts = used ++ r ∧ IsGuard used n := by
  cases ts with
  | nil => simp [readGuard] at h
  | cons t rest =>
    rw [readGuard] at h
    split at h
    next ht =>
      split at h
      next m r' hr' heq =>
        cases h
        obtain ⟨used, hu, hg⟩ := readGuard_sound heq
        exact ⟨t :: used, by simp [hu], isGuard_of_negates ht hg⟩
      next => simp at h
    next =>
      obtain ⟨used, hu, hc⟩ := readCompare_sound h
      exact ⟨used, hu, .compare hc⟩
termination_by (ts.length, 2)
decreasing_by
  · subst_vars
    exact Prod.Lex.right _ (by decide)
  · subst_vars
    exact Prod.Lex.left _ _ (by simp)

theorem readCompare_sound {ts r : List Token} {n : Node} {hr : r.length < ts.length}
    (h : readCompare ts = .ok (n, ⟨r, hr⟩)) : ∃ used, ts = used ++ r ∧ IsCompare used n := by
  rw [readCompare] at h
  split at h
  next => simp at h
  next left hl heq =>
    cases h
    obtain ⟨used, hu, ho⟩ := readOperand_sound heq
    exact ⟨used, hu, .operand ho⟩
  next left t more hl heq =>
    have hmore : more.length < ts.length := Nat.lt_of_succ_lt hl
    obtain ⟨used, hu, ho⟩ := readOperand_sound heq
    split at h
    next =>
      cases h
      exact ⟨used, hu, .operand ho⟩
    next negated ht =>
      split at h
      next right r' hr' heq' =>
        cases h
        obtain ⟨used', hu', ho'⟩ := readOperand_sound heq'
        refine ⟨used ++ t :: used', by simp [hu, hu'], ?_⟩
        rw [Token.eq_of_comparison? ht]
        cases negated with
        | false => exact .equal ho ho'
        | true => exact .unequal ho ho'
      next => simp at h
termination_by (ts.length, 1)
decreasing_by
  · exact Prod.Lex.right _ (by decide)
  · exact Prod.Lex.right _ (by decide)
  · exact Prod.Lex.left _ _ ‹_›

theorem readOperand_sound {ts r : List Token} {n : Node} {hr : r.length < ts.length}
    (h : readOperand ts = .ok (n, ⟨r, hr⟩)) : ∃ used, ts = used ++ r ∧ IsOperand used n := by
  unfold readOperand at h
  split at h
  next => simp at h
  next quote body rest =>
    cases h
    exact ⟨[.literal quote body], rfl, .literal⟩
  next rest =>
    split at h
    next => simp at h
    next => simp at h
    next m t more hl heq =>
      split at h
      next ht =>
        cases h
        obtain ⟨used, hu, hg⟩ := readGuard_sound heq
        exact ⟨.sign .openParen :: (used ++ [.sign .closeParen]), by simp [hu, ht], .group hg⟩
      next => simp at h
  next word rest =>
    split at h
    next hw =>
      cases h
      exact ⟨[.name word], rfl, hw ▸ .yes⟩
    next =>
      split at h
      next hw =>
        cases h
        exact ⟨[.name word], rfl, hw ▸ .no⟩
      next =>
        split at h
        next => simp at h
        next hres =>
          split at h
          next names r' hr' heq =>
            cases h
            obtain ⟨used, hu, ha⟩ := readAccessors_sound heq
            exact ⟨.name word :: used, by simp [hu], .path (.intro (by simpa using hres) ha)⟩
          next => simp at h
  next => simp at h
termination_by (ts.length, 0)
decreasing_by
  subst_vars
  exact Prod.Lex.left _ _ (Nat.lt_succ_self _)
end

/-! ### What is derivable is found -/

/-- A path does not go on with these tokens. -/
def EndsPath (rest : List Token) : Prop := rest.head? ≠ some (.sign .dot)

/-- A guard does not go on with these tokens. -/
def EndsGuard (rest : List Token) : Prop :=
  EndsPath rest ∧ ∀ t ∈ rest.head?, t.comparison? = none

theorem endsGuard_nil : EndsGuard [] := by simp [EndsGuard, EndsPath]

theorem endsGuard_name (word : List Char) (rest : List Token) :
    EndsGuard (.name word :: rest) := by
  simp [EndsGuard, EndsPath, Token.comparison?]

theorem endsGuard_closeParen (rest : List Token) : EndsGuard (.sign .closeParen :: rest) := by
  simp [EndsGuard, EndsPath, Token.comparison?]

theorem readAccessors_complete {ts input : List Token} (rest : List Token) {names : List String}
    (h : IsAccessors ts names) (hr : EndsPath rest) (hi : input = ts ++ rest) :
    ∃ hl, readAccessors input = .ok (names, ⟨rest, hl⟩) := by
  induction h generalizing input with
  | nil =>
    obtain rfl : input = rest := hi
    refine ⟨Nat.le_refl _, ?_⟩
    unfold readAccessors
    split <;> simp_all [EndsPath]
  | @cons word ts names hw _ ih =>
    obtain ⟨hl, he⟩ := ih rfl
    obtain rfl : input = .sign .dot :: .name word :: (ts ++ rest) := hi
    refine ⟨by simp only [List.length_cons]; omega, ?_⟩
    rw [readAccessors, if_neg (by simp [hw]), he]

theorem IsOperand.head_not_negates {ts : List Token} {n : Node} (h : IsOperand ts n) :
    ∃ t more, ts = t :: more ∧ t.negates = false := by
  cases h with
  | literal => exact ⟨_, _, rfl, rfl⟩
  | yes => exact ⟨_, _, rfl, by decide⟩
  | no => exact ⟨_, _, rfl, by decide⟩
  | path h =>
    obtain ⟨hw, -⟩ := h
    refine ⟨_, _, rfl, ?_⟩
    simp_all [Token.negates, isReserved, reservedWords]
  | group => exact ⟨_, _, rfl, rfl⟩

theorem IsCompare.head_not_negates {ts : List Token} {n : Node} (h : IsCompare ts n) :
    ∃ t more, ts = t :: more ∧ t.negates = false := by
  cases h with
  | operand h => exact h.head_not_negates
  | equal h _ | unequal h _ =>
    obtain ⟨t, more, rfl, ht⟩ := h.head_not_negates
    exact ⟨t, _, rfl, ht⟩

mutual
theorem readGuard_complete {ts input : List Token} (rest : List Token) {n : Node} (h : IsGuard ts n)
    (hr : EndsGuard rest) (hi : input = ts ++ rest) :
    ∃ hl, readGuard input = .ok (n, ⟨rest, hl⟩) := by
  cases h with
  | @word ts n h =>
    obtain ⟨hl, he⟩ := readGuard_complete rest h hr rfl
    obtain rfl : input = .name "not".toList :: (ts ++ rest) := hi
    refine ⟨by simp only [List.length_cons]; omega, ?_⟩
    rw [readGuard, if_pos (by decide), he]
  | @bang ts n h =>
    obtain ⟨hl, he⟩ := readGuard_complete rest h hr rfl
    obtain rfl : input = .sign .bang :: (ts ++ rest) := hi
    refine ⟨by simp only [List.length_cons]; omega, ?_⟩
    rw [readGuard, if_pos (by decide), he]
  | compare h =>
    -- No comparison starts with a negation, so the one token of foresight takes the right turn.
    obtain ⟨hl, he⟩ := readCompare_complete rest h hr hi
    obtain ⟨t, more, rfl, ht⟩ := h.head_not_negates
    obtain rfl : input = t :: (more ++ rest) := hi
    refine ⟨hl, ?_⟩
    rw [readGuard, if_neg (by simp [ht]), he]
termination_by (ts.length, 2)
decreasing_by
  · subst_vars
    exact Prod.Lex.left _ _ (Nat.lt_succ_self _)
  · subst_vars
    exact Prod.Lex.left _ _ (Nat.lt_succ_self _)
  · exact Prod.Lex.right _ (by decide)

theorem readCompare_complete {ts input : List Token} (rest : List Token) {n : Node}
    (h : IsCompare ts n) (hr : EndsGuard rest) (hi : input = ts ++ rest) :
    ∃ hl, readCompare input = .ok (n, ⟨rest, hl⟩) := by
  cases h with
  | operand h =>
    obtain ⟨hl, he⟩ := readOperand_complete rest h hr.1 hi
    refine ⟨hl, ?_⟩
    rw [readCompare, he]
    cases rest with
    | nil => rfl
    | cons t more =>
      have ht := hr.2 t rfl
      simp only
      split <;> simp_all
  | equal h h' | unequal h h' =>
    rw [List.append_assoc, List.cons_append] at hi
    obtain ⟨hl, he⟩ := readOperand_complete _ h (by simp [EndsPath]) hi
    obtain ⟨hl', he'⟩ := readOperand_complete rest h' hr.1 rfl
    refine ⟨by simp only [List.length_cons] at hl; omega, ?_⟩
    rw [readCompare, he]
    simp only [Token.comparison?, he']
termination_by (ts.length, 1)
decreasing_by
  · exact Prod.Lex.right _ (by decide)
  all_goals
    subst_vars
    refine Prod.Lex.left _ _ ?_
    simp only [List.length_append, List.length_cons]
    omega

theorem readOperand_complete {ts input : List Token} (rest : List Token) {n : Node}
    (h : IsOperand ts n) (hr : EndsPath rest) (hi : input = ts ++ rest) :
    ∃ hl, readOperand input = .ok (n, ⟨rest, hl⟩) := by
  cases h with
  | literal | yes | no =>
    subst hi
    exact ⟨by simp, by simp [readOperand]⟩
  | path h =>
    obtain @⟨word, ts, names, hw, ha⟩ := h
    obtain ⟨hl, he⟩ := readAccessors_complete rest ha hr rfl
    obtain rfl : input = .name word :: (ts ++ rest) := hi
    have ht : word ≠ "true".toList := by
      rintro rfl
      exact absurd hw (by decide)
    have hf : word ≠ "false".toList := by
      rintro rfl
      exact absurd hw (by decide)
    refine ⟨by simp only [List.length_cons]; omega, ?_⟩
    rw [readOperand, if_neg ht, if_neg hf, if_neg (by simp [hw]), he]
  | @group ts n h =>
    obtain ⟨hl, he⟩ := readGuard_complete _ h (endsGuard_closeParen rest) rfl
    obtain rfl : input = .sign .openParen :: (ts ++ .sign .closeParen :: rest) := by
      simpa using hi
    refine ⟨by simp only [List.length_cons] at hl ⊢; omega, ?_⟩
    rw [readOperand, he]
    simp
termination_by (ts.length, 0)
decreasing_by
  subst_vars
  refine Prod.Lex.left _ _ ?_
  simp only [List.length_append, List.length_cons]
  omega
end

/-! ### Whole token lists -/

theorem readGuard_to_end_iff {ts : List Token} {n : Node} :
    (∃ h, readGuard ts = .ok (n, ⟨[], h⟩)) ↔ IsGuard ts n := by
  constructor
  · rintro ⟨_, h⟩
    obtain ⟨used, hu, hg⟩ := readGuard_sound h
    rwa [hu, List.append_nil]
  · intro h
    exact readGuard_complete [] h endsGuard_nil (List.append_nil ts).symm

theorem readPath_to_end_iff {ts : List Token} {p : Path} :
    (∃ h, readPath ts = .ok (p, ⟨[], h⟩)) ↔ IsPath ts p := by
  constructor
  · rintro ⟨_, h⟩
    unfold readPath at h
    split at h
    next => simp at h
    next word rest =>
      split at h
      next => simp at h
      next hw =>
        split at h
        next names r hr heq =>
          cases h
          obtain ⟨used, hu, ha⟩ := readAccessors_sound heq
          rw [List.append_nil] at hu
          exact hu ▸ .intro (by simpa using hw) ha
        next => simp at h
    next => simp at h
  · rintro @⟨word, ts, names, hw, ha⟩
    obtain ⟨hl, he⟩ := readAccessors_complete [] ha (by simp [EndsPath])
      (List.append_nil ts).symm
    refine ⟨by simp, ?_⟩
    rw [readPath, if_neg (by simp [hw]), he]

theorem finish_eq_ok_iff {α : Type} {a b : α} {ts : List Token} :
    finish a ts = .ok b ↔ ts = [] ∧ a = b := by
  cases ts <;> simp [finish]

theorem suffixGuard?_eq_some {t : Token} {wrap : Node → Node} (h : suffixGuard? t = some wrap) :
    (t = .name "if".toList ∧ wrap = id) ∨ (t = .name "unless".toList ∧ wrap = .negation) := by
  unfold suffixGuard? at h
  split at h
  · split at h
    · simp_all
    · split at h <;> simp_all
  · simp at h

theorem readInterpolation_sound {ts : List Token} {i : Interpolation}
    (h : readInterpolation ts = .ok i) : IsInterpolation ts i := by
  unfold readInterpolation at h
  cases hv : readGuard ts with
  | error e => simp [hv, bind, Except.bind] at h
  | ok r =>
    obtain ⟨v, rest, hl⟩ := r
    obtain ⟨used, hu, hd⟩ := readGuard_sound hv
    simp only [hv, bind, Except.bind] at h
    cases rest with
    | nil =>
      cases h
      rw [hu, List.append_nil]
      exact .plain hd
    | cons t more =>
      cases hs : suffixGuard? t with
      | none => simp [hs, finish] at h
      | some wrap =>
        cases hg : readGuard more with
        | error e => simp [hs, hg] at h
        | ok r' =>
          obtain ⟨g, left, hl'⟩ := r'
          simp only [hs, hg, finish_eq_ok_iff] at h
          obtain ⟨rfl, rfl⟩ := h
          have hd' := readGuard_to_end_iff.mp ⟨_, hg⟩
          rw [hu]
          obtain ⟨rfl, rfl⟩ | ⟨rfl, rfl⟩ := suffixGuard?_eq_some hs
          · exact .ifSuffix hd hd'
          · exact .unlessSuffix hd hd'

theorem readInterpolation_complete {ts : List Token} {i : Interpolation}
    (h : IsInterpolation ts i) : readInterpolation ts = .ok i := by
  cases h with
  | plain hv =>
    obtain ⟨_, he⟩ := readGuard_to_end_iff.mpr hv
    simp [readInterpolation, he, bind, Except.bind, pure, Except.pure]
  | @ifSuffix vs gs v g hv hg =>
    obtain ⟨_, he⟩ := readGuard_complete (.name "if".toList :: gs) hv (endsGuard_name _ _) rfl
    obtain ⟨_, he'⟩ := readGuard_to_end_iff.mpr hg
    rw [readInterpolation, he]
    simp [he', suffixGuard?, finish, bind, Except.bind]
  | @unlessSuffix vs gs v g hv hg =>
    obtain ⟨_, he⟩ := readGuard_complete (.name "unless".toList :: gs) hv (endsGuard_name _ _) rfl
    obtain ⟨_, he'⟩ := readGuard_to_end_iff.mpr hg
    rw [readInterpolation, he]
    simp [he', suffixGuard?, finish, bind, Except.bind]

/-- A parser finds what a grammar derives from the tokens of a source, the grammar derives one
result at most, and the parser has a fault to report for every other source. -/
structure Recognizes {α : Type} (parse : String → Except Fault α)
    (Derives : List Token → α → Prop) : Prop where
  eq_ok_iff : ∀ source a, parse source = .ok a ↔ ∃ ts, tokensOf source = .ok ts ∧ Derives ts a
  unambiguous : ∀ ts a b, Derives ts a → Derives ts b → a = b
  fault : ∀ source, (¬ ∃ ts a, tokensOf source = .ok ts ∧ Derives ts a) →
    ∃ e, parse source = .error e

/-- A reader of tokens that fails or gives what a grammar derives makes a parser. -/
theorem Recognizes.of_reader {α : Type} {parse : String → Except Fault α}
    {read : List Token → Except Fault α} {Derives : List Token → α → Prop}
    (hparse : ∀ source, parse source = tokensOf source >>= read)
    (hread : ∀ ts a, read ts = .ok a ↔ Derives ts a) : Recognizes parse Derives := by
  have hok : ∀ source a,
      parse source = .ok a ↔ ∃ ts, tokensOf source = .ok ts ∧ Derives ts a := by
    intro source a
    rw [hparse]
    cases tokensOf source with
    | error e => simp [bind, Except.bind]
    | ok ts => simp [bind, Except.bind, hread]
  refine ⟨hok, fun ts a b ha hb => ?_, fun source h => ?_⟩
  · exact Except.ok.inj (((hread ts a).mpr ha).symm.trans ((hread ts b).mpr hb))
  · cases hp : parse source with
    | error e => exact ⟨e, rfl⟩
    | ok a =>
      obtain ⟨ts, hts, hd⟩ := (hok source a).mp hp
      exact absurd ⟨ts, a, hts, hd⟩ h

theorem bind_finish_eq_ok_iff {α : Type} {ts : List Token} {r : Reading α ts} {a : α} :
    (r >>= fun p => finish p.1 p.2.1) = .ok a ↔ ∃ h, r = .ok (a, ⟨[], h⟩) := by
  cases r with
  | error e => simp [bind, Except.bind]
  | ok p =>
    obtain ⟨b, rest, h⟩ := p
    simp only [bind, Except.bind, finish_eq_ok_iff]
    constructor
    · rintro ⟨rfl, rfl⟩
      exact ⟨h, rfl⟩
    · rintro ⟨_, he⟩
      cases he
      exact ⟨rfl, rfl⟩

theorem recognizes_guard : Recognizes parseGuard IsGuard :=
  .of_reader (fun _ => rfl) fun _ _ => bind_finish_eq_ok_iff.trans readGuard_to_end_iff

theorem recognizes_path : Recognizes parsePath IsPath :=
  .of_reader (fun _ => rfl) fun _ _ => bind_finish_eq_ok_iff.trans readPath_to_end_iff

theorem recognizes_interpolation : Recognizes parseInterpolation IsInterpolation :=
  .of_reader (fun _ => rfl) fun _ _ => ⟨readInterpolation_sound, readInterpolation_complete⟩

/-- Guards, paths and interpolations are parsed as the grammar derives them from the tokens of
their source, which it does in one way at most; any other source is a fault. -/
theorem parsers_recognize_grammar :
    Recognizes parseGuard IsGuard ∧ Recognizes parsePath IsPath ∧
      Recognizes parseInterpolation IsInterpolation :=
  ⟨recognizes_guard, recognizes_path, recognizes_interpolation⟩

end Scaffold.Expression
