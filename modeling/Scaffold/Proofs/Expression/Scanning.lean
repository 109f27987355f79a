import Mathlib.Data.List.TakeWhile
import Scaffold.Proofs.Expression.Derivation

/-! Scanning what was written.  A token is found again where its characters stand, unless what
follows goes on with it; so a path that is written out is read back. -/
namespace Scaffold.Text

/-- What may stand in front of the closing quote of a literal: characters that stand for themselves,
other than the quote and the backslash, and characters behind a backslash. -/
inductive IsLiteralBody (plain escaped : Char → Bool) (quote : Char) : List Char → Prop
  | nil : IsLiteralBody plain escaped quote []
  | plain {c : Char} {body : List Char} : c ≠ quote → c ≠ '\\' → plain c = true →
      IsLiteralBody plain escaped quote body → IsLiteralBody plain escaped quote (c :: body)
  | escaped {c : Char} {body : List Char} : '\\' ≠ quote → escaped c = true →
      IsLiteralBody plain escaped quote body →
      IsLiteralBody plain escaped quote ('\\' :: c :: body)

section
variable {plain escaped plain' escaped' : Char → Bool} {quote : Char} {cs body r : List Char}

theorem isLiteralBody_of_literalBody?
    (h : literalBody? plain escaped quote cs = some (body, r)) :
    IsLiteralBody plain escaped quote body := by
  fun_induction literalBody? plain escaped quote cs generalizing body r with
  | case1 => simp at h
  | case2 r' =>
    cases h
    exact .nil
  | case3 => simp at h
  | case4 e more he hq ih =>
    obtain ⟨⟨b, r'⟩, hb, heq⟩ := Option.map_eq_some_iff.1 h
    cases heq
    exact .escaped hq he (ih hb)
  | case5 => simp at h
  | case6 c r' hq hb hp ih =>
    obtain ⟨⟨b, r''⟩, hr, heq⟩ := Option.map_eq_some_iff.1 h
    cases heq
    exact .plain hq hb hp (ih hr)
  | case7 => simp at h

/-- A literal ends at its closing quote, whatever follows. -/
theorem literalBody?_of_isLiteralBody (h : IsLiteralBody plain escaped quote body)
    (rest : List Char) :
    literalBody? plain escaped quote (body ++ quote :: rest) = some (body, rest) := by
  induction h with
  | nil =>
    rw [List.nil_append, literalBody?.eq_def]
    exact if_pos rfl
  | plain hq hb hp _ ih =>
    rw [List.cons_append, literalBody?.eq_def]
    simp [hq, hb, hp, ih]
  | escaped hq he _ ih =>
    rw [List.cons_append, List.cons_append, literalBody?.eq_def]
    simp [hq, he, ih]

theorem IsLiteralBody.mono (h : IsLiteralBody plain escaped quote body)
    (hplain : ∀ c ∈ body, plain c = true → plain' c = true)
    (hescaped : ∀ c ∈ body, escaped c = true → escaped' c = true) :
    IsLiteralBody plain' escaped' quote body := by
  induction h with
  | nil => exact .nil
  | plain hq hb hp _ ih =>
    obtain ⟨hc, hplain⟩ := List.forall_mem_cons.mp hplain
    exact .plain hq hb (hc hp) (ih hplain (List.forall_mem_cons.mp hescaped).2)
  | escaped hq he _ ih =>
    simp only [List.forall_mem_cons] at hplain hescaped
    exact .escaped hq (hescaped.2.1 he) (ih hplain.2.2 hescaped.2.2)

theorem literalBody?_append (h : literalBody? plain escaped quote cs = some (body, r))
    (rest : List Char) : literalBody? plain escaped quote (cs ++ rest) = some (body, r ++ rest) := by
  rw [eq_append_of_literalBody? h, List.append_assoc]
  exact literalBody?_of_isLiteralBody (isLiteralBody_of_literalBody? h) _

theorem isLiteralBody_of_forall (h : ∀ c ∈ body, c ≠ quote ∧ c ≠ '\\' ∧ plain c = true) :
    IsLiteralBody plain escaped quote body := by
  induction body with
  | nil => exact .nil
  | cons c body ih =>
    obtain ⟨⟨hq, hb, hp⟩, hbody⟩ := List.forall_mem_cons.mp h
    exact .plain hq hb hp (ih hbody)

/-- A body without quotes and backslashes is read up to its closing quote. -/
theorem literalBody?_plain (h : ∀ c ∈ body, c ≠ quote ∧ c ≠ '\\' ∧ plain c = true)
    (rest : List Char) :
    literalBody? plain escaped quote (body ++ quote :: rest) = some (body, rest) :=
  literalBody?_of_isLiteralBody (isLiteralBody_of_forall h) rest

end

theorem unescape_cons {c : Char} (h : c ≠ '\\') (body : List Char) :
    unescape (c :: body) = c :: unescape body := by
  rw [unescape]
  intro d rest hc
  exact absurd hc h

/-- Without backslashes nothing is escaped. -/
theorem unescape_plain {body : List Char} (h : '\\' ∉ body) : unescape body = body := by
  induction body with
  | nil => rfl
  | cons c body ih =>
    simp only [List.mem_cons, not_or] at h
    rw [unescape_cons (Ne.symm h.1), ih h.2]

/-- A character that does not close the literal changes nothing behind it. -/
theorem literalBody?_concat {plain escaped : Char → Bool} {quote b : Char} (h : b ≠ quote)
    (cs : List Char) : literalBody? plain escaped quote (cs ++ [b]) =
      (literalBody? plain escaped quote cs).map fun r => (r.1, r.2 ++ [b]) := by
  fun_induction literalBody? plain escaped quote cs with
  | case1 => simp [literalBody?, h]
  | case2 r =>
    rw [List.cons_append, literalBody?.eq_def]
    simp
  | case3 hq => simp [literalBody?, hq]
  | case4 e more he hq ih => simp [literalBody?, hq, he, ih, Function.comp_def]
  | case5 e more he hq => simp [literalBody?, hq, he]
  | case6 c r hq hb hp ih =>
    rw [List.cons_append, literalBody?.eq_def]
    simp [hq, hb, hp, ih, Function.comp_def]
  | case7 c r hq hb hp =>
    rw [List.cons_append, literalBody?.eq_def]
    simp [hq, hb, hp]

end Scaffold.Text

namespace Scaffold.Expression
open Scaffold.Text Scaffold.Naming

/-- A word as names have it: a letter or an underscore, more of these and digits, and at most one
question mark, at the end. -/
def isWord : List Char → Bool
  | [] => false
  | c :: rest => isNameStart c && nameTail rest == (rest, [])

/-- A token that some text can be scanned to. -/
def Token.IsValid : Token → Prop
  | .literal quote body => (quote = '"' ∨ quote = '\'') ∧
      literalBody? isPlainInLiteral isEscapable quote (body ++ [quote]) = some (body, [])
  | .sign _ => True
  | .name word => isWord word = true

/-- No name goes on with what follows. -/
def EndsName (rest : List Char) : Prop := ∀ c ∈ rest.head?, isNameRest c = false ∧ c ≠ '?'

/-- A token that ends where `rest` begins: nothing there goes on with it. -/
def Token.EndsBefore (rest : List Char) : Token → Prop
  | .literal _ _ => True
  | .sign s => s = .bang → rest.head? ≠ some '='
  | .name _ => EndsName rest

/-- As `EndsBefore`, but a name that has its question mark ends in front of anything. -/
def Token.StopsBefore (rest : List Char) : Token → Prop
  | .literal _ _ => True
  | .sign s => s = .bang → rest.head? ≠ some '='
  | .name word => '?' ∈ word ∨ EndsName rest

theorem Token.EndsBefore.stopsBefore {t : Token} {rest : List Char} (h : t.EndsBefore rest) :
    t.StopsBefore rest := by
  cases t with
  | literal => trivial
  | sign => exact h
  | name => exact .inr h

theorem isNameRest_of_isNameStart {c : Char} (h : isNameStart c = true) : isNameRest c = true := by
  simp only [isNameStart, isNameRest, Char.isAlphanum, Bool.or_eq_true] at h ⊢
  rcases h with h | h
  · exact .inl (.inl h)
  · exact .inr h

theorem toNat_of_isNameRest {c : Char} (h : isNameRest c = true) :
    48 ≤ c.toNat ∧ c.toNat ≤ 122 := by
  simp only [isNameRest, Char.isAlphanum, Char.isDigit] at h
  delta Char.isAlpha Char.isUpper Char.isLower at h
  simp only [Bool.or_eq_true, Bool.and_eq_true, decide_eq_true_eq, beq_iff_eq] at h
  rcases h with ((h | h) | h) | rfl
  · exact ⟨Nat.le_trans (by decide) (show 65 ≤ c.toNat from h.1), Nat.le_trans h.2 (by decide)⟩
  · exact ⟨Nat.le_trans (by decide) (show 97 ≤ c.toNat from h.1), h.2⟩
  · exact ⟨h.1, Nat.le_trans h.2 (by decide)⟩
  · decide

theorem isBlank_of_isNameRest {c : Char} (h : isNameRest c = true) : isBlank c = false := by
  have hc := toNat_of_isNameRest h
  simp only [isBlank, blankRanges, List.any_cons, List.any_nil, Bool.or_false,
    Bool.or_eq_false_iff, Bool.and_eq_false_iff, decide_eq_false_iff_not]
  omega

theorem isNameRest_of_isBlank {c : Char} (h : isBlank c = true) : isNameRest c = false := by
  cases hr : isNameRest c with
  | false => rfl
  | true => exact absurd h (by simp [isBlank_of_isNameRest hr])

/-- Behind a run of name characters a name takes up a question mark and stops. -/
theorem nameTail_run {run rest : List Char} (h : ∀ c ∈ run, isNameRest c = true)
    (hr : ∀ c ∈ rest.head?, isNameRest c = false) :
    nameTail (run ++ rest) =
      if rest.head? = some '?' then (run ++ ['?'], rest.tail) else (run, rest) := by
  have ht : (run ++ rest).takeWhile isNameRest = run ∧
      (run ++ rest).dropWhile isNameRest = rest := by
    rw [List.takeWhile_append_of_pos h, List.dropWhile_append_of_pos h]
    cases rest with
    | nil => simp
    | cons c rest => simp [hr c rfl]
  rw [nameTail]
  simp only [ht.1, ht.2]
  split
  · simp
  · rename_i hne
    rw [if_neg]
    intro he
    cases rest with
    | nil => simp at he
    | cons c rest =>
      rw [List.head?_cons, Option.some.injEq] at he
      exact hne rest (by rw [he])

theorem nameTail_of_forall {run : List Char} (h : ∀ c ∈ run, isNameRest c = true) :
    nameTail run = (run, []) := by
  have hnil : ∀ c ∈ ([] : List Char).head?, isNameRest c = false := by simp
  have htail := nameTail_run h hnil
  rw [List.append_nil] at htail
  exact htail

theorem exists_run_of_nameTail {word : List Char} (hw : nameTail word = (word, [])) :
    ∃ run, (∀ c ∈ run, isNameRest c = true) ∧ (word = run ∨ word = run ++ ['?']) := by
  refine ⟨word.takeWhile isNameRest, fun c hc => List.mem_takeWhile_imp hc, ?_⟩
  rw [nameTail] at hw
  split at hw
  · exact .inr (Prod.mk.inj hw).1.symm
  · exact .inl (Prod.mk.inj hw).1.symm

/-- A word is a run of characters of names, which no digit starts, with a question mark behind it
or none. -/
theorem isWord_iff_exists_run {word : List Char} : isWord word = true ↔ ∃ c run,
    isNameStart c = true ∧ (∀ d ∈ run, isNameRest d = true) ∧
      (word = c :: run ∨ word = c :: run ++ ['?']) := by
  constructor
  · intro h
    cases word with
    | nil => cases h
    | cons c tail =>
      simp only [isWord, Bool.and_eq_true, beq_iff_eq] at h
      obtain ⟨hc, htail⟩ := h
      obtain ⟨run, hrun, htail⟩ := exists_run_of_nameTail htail
      refine ⟨c, run, hc, hrun, ?_⟩
      rcases htail with rfl | rfl
      · exact .inl rfl
      · exact .inr rfl
  · rintro ⟨c, run, hc, hrun, rfl | rfl⟩
    · rw [isWord, hc, nameTail_of_forall hrun, beq_self_eq_true]
      rfl
    · rw [List.cons_append, isWord, hc, nameTail_run hrun (by simp; decide)]
      simp

theorem isNameRest_of_mem_word {word : List Char} (h : isWord word = true) {c : Char}
    (hc : c ∈ word) : isNameRest c = true ∨ c = '?' := by
  obtain ⟨d, run, hd, hrun, hword⟩ := isWord_iff_exists_run.mp h
  have hall : ∀ e ∈ d :: run, isNameRest e = true :=
    List.forall_mem_cons.mpr ⟨isNameRest_of_isNameStart hd, hrun⟩
  rcases hword with rfl | rfl
  · exact .inl (hall c hc)
  · rcases List.mem_append.mp hc with hc | hc
    · exact .inl (hall c hc)
    · exact .inr (List.mem_singleton.mp hc)

theorem nameTail_append {word rest : List Char} (hw : nameTail word = (word, []))
    (hr : '?' ∈ word ∨ EndsName rest) :
    nameTail (word ++ rest) = (word, rest) := by
  obtain ⟨run, hrun, rfl | rfl⟩ := exists_run_of_nameTail hw
  · have hends : EndsName rest := hr.resolve_left fun hm => absurd (hrun '?' hm) (by decide)
    rw [nameTail_run hrun fun c hc => (hends c hc).1, if_neg]
    exact fun he => (hends '?' he).2 rfl
  · rw [List.append_assoc, nameTail_run hrun (by simp; decide)]
    simp

/-- A sign that is written out, and with which nothing behind it makes a longer one. -/
theorem signAt?_append (s : Sign) {rest : List Char} (hr : s = .bang → rest.head? ≠ some '=') :
    ∃ c cs, s.chars = c :: cs ∧ signAt? c (cs ++ rest) = some (s, rest) := by
  cases s with
  | bang =>
    refine ⟨'!', [], rfl, ?_⟩
    cases rest with
    | nil => rfl
    | cons d rest =>
      rw [List.nil_append, signAt?]
      rintro r ⟨⟩
      exact hr rfl rfl
  | _ => exact ⟨_, _, rfl, rfl⟩

theorem signAt?_of_isNameStart {c : Char} (h : isNameStart c = true) (rest : List Char) :
    signAt? c rest = none := by
  unfold signAt?
  split
  case h_7 => rfl
  all_goals exact absurd h (by decide)

/-- The token that a text starts with, where the token is written out and ends. -/
theorem tokenAt?_append {t : Token} {rest : List Char} (ht : t.IsValid) (hr : t.StopsBefore rest) :
    ∃ c cs, t.chars = c :: cs ∧ isBlank c = false ∧
      ∃ h, tokenAt? c (cs ++ rest) = some (t, ⟨rest, h⟩) := by
  cases t with
  | literal quote body =>
    obtain ⟨hq, hbody⟩ := ht
    have hb : literalBody? isPlainInLiteral isEscapable quote (body ++ [quote] ++ rest) =
        some (body, rest) := literalBody?_append hbody rest
    refine ⟨quote, body ++ [quote], rfl, by rcases hq with rfl | rfl <;> decide, by simp; omega, ?_⟩
    rw [tokenAt?, if_pos hq]
    split
    next b r heq =>
      rw [hb] at heq
      cases heq
      rfl
    next heq => exact absurd (hb.symm.trans heq) (by simp)
  | sign s =>
    have hsign : s = .bang → rest.head? ≠ some '=' := hr
    obtain ⟨c, cs, hc, hs⟩ := signAt?_append s hsign
    refine ⟨c, cs, hc, ?_, by simp, ?_⟩
    · cases s <;> cases hc <;> decide
    · rw [tokenAt?, if_neg (by cases s <;> cases hc <;> decide)]
      split
      next t r heq =>
        cases hs.symm.trans heq
        rfl
      next heq => exact absurd (hs.symm.trans heq) (by simp)
  | name word =>
    cases word with
    | nil => simp [Token.IsValid, isWord] at ht
    | cons c cs =>
      simp only [Token.IsValid, isWord, Bool.and_eq_true, beq_iff_eq] at ht
      obtain ⟨hc, htail⟩ := ht
      have hmark : '?' ∈ cs ∨ EndsName rest := by
        refine hr.imp_left fun hm => (List.mem_cons.mp hm).resolve_left ?_
        rintro rfl
        exact absurd hc (by decide)
      have ht := nameTail_append htail hmark
      refine ⟨c, cs, rfl, isBlank_of_isNameRest (isNameRest_of_isNameStart hc), by simp, ?_⟩
      rw [tokenAt?, if_neg]
      · split
        next t r heq => exact absurd ((signAt?_of_isNameStart hc _).symm.trans heq) (by simp)
        next => simp [hc, ht]
      · rintro (rfl | rfl) <;> simp [isNameStart] at hc

/-- A token that is written out is scanned first. -/
theorem scan_append_of_stopsBefore {t : Token} {rest : List Char} (ht : t.IsValid)
    (hr : t.StopsBefore rest) :
    Token.scan (t.chars ++ rest) = (Token.scan rest).map (t :: ·) := by
  obtain ⟨c, cs, hc, hb, _, he⟩ := tokenAt?_append ht hr
  rw [hc, List.cons_append, Token.scan, if_neg (by simp [hb]), he]
  dsimp only
  cases Token.scan rest <;> rfl

theorem scan_append {t : Token} {rest : List Char} (ht : t.IsValid) (hr : t.EndsBefore rest) :
    Token.scan (t.chars ++ rest) = (Token.scan rest).map (t :: ·) :=
  scan_append_of_stopsBefore ht hr.stopsBefore

@[simp] theorem scan_nil : Token.scan [] = .ok [] := by
  rw [Token.scan]

theorem scan_blank {c : Char} (h : isBlank c = true) (rest : List Char) :
    Token.scan (c :: rest) = Token.scan rest := by
  rw [Token.scan, if_pos h]

/-- A token that is written out alone. -/
theorem scan_chars {t : Token} (ht : t.IsValid) (hr : t.EndsBefore []) :
    Token.scan t.chars = .ok [t] := by
  have hscan := scan_append ht hr
  rw [List.append_nil, scan_nil] at hscan
  exact hscan

/-- Tokens that are told apart where their characters stand one after the other before `rest`. -/
def Apart (rest : List Char) : List Token → Prop
  | [] => True
  | t :: ts => t.IsValid ∧ t.EndsBefore (ts.flatMap Token.chars ++ rest) ∧ Apart rest ts

theorem scan_flatMap_append {ts : List Token} {rest : List Char} (h : Apart rest ts) :
    Token.scan (ts.flatMap Token.chars ++ rest) = (Token.scan rest).map (ts ++ ·) := by
  induction ts with
  | nil => cases hs : Token.scan rest <;> simp [hs, Except.map]
  | cons t ts ih =>
    obtain ⟨ht, hend, hts⟩ := h
    rw [List.flatMap_cons, List.append_assoc, scan_append ht hend, ih hts]
    cases Token.scan rest <;> rfl

/-- Blanks in front of tokens are passed over. -/
theorem scan_blanks {gap : List Char} (h : allBlank gap = true) (rest : List Char) :
    Token.scan (gap ++ rest) = Token.scan rest := by
  induction gap with
  | nil => rfl
  | cons c gap ih =>
    obtain ⟨hc, hgap⟩ := Bool.and_eq_true_iff.mp h
    rw [List.cons_append, scan_blank hc, ih hgap]

/-! ### What a token is read from -/

theorem eq_append_of_signAt? {c : Char} {rest r : List Char} {s : Sign}
    (h : signAt? c rest = some (s, r)) : c :: rest = s.chars ++ r := by
  unfold signAt? at h
  split at h
  case h_7 => simp at h
  all_goals
    cases h
    rfl

theorem nameTail_eq_append (rest : List Char) : (nameTail rest).1 ++ (nameTail rest).2 = rest := by
  have h := List.takeWhile_append_dropWhile (p := isNameRest) (l := rest)
  rw [nameTail]
  split
  next r heq => rw [List.append_assoc, List.singleton_append, ← heq, h]
  next => exact h

theorem nameTail_nameTail (rest : List Char) :
    nameTail (nameTail rest).1 = ((nameTail rest).1, []) := by
  have hrun : ∀ c ∈ rest.takeWhile isNameRest, isNameRest c = true :=
    fun c hc => List.mem_takeWhile_imp hc
  have hword : (nameTail rest).1 = rest.takeWhile isNameRest ∨
      (nameTail rest).1 = rest.takeWhile isNameRest ++ ['?'] := by
    rw [nameTail]
    split
    · exact .inr rfl
    · exact .inl rfl
  obtain hword | hword := hword
  · rw [hword, nameTail_of_forall hrun]
  · rw [hword, nameTail_run hrun (by simp; decide)]
    rfl

/-- A name goes on up to its question mark, or to what no name goes on with. -/
theorem mem_or_endsName_nameTail (rest : List Char) :
    '?' ∈ (nameTail rest).1 ∨ EndsName (nameTail rest).2 := by
  have hstop := List.head?_dropWhile_not isNameRest rest
  rw [nameTail]
  split
  next => exact .inl (List.mem_append_right _ (List.mem_singleton_self _))
  next hne =>
    right
    cases hd : rest.dropWhile isNameRest with
    | nil => exact fun c hc => absurd hc (by simp)
    | cons d more =>
      rw [hd] at hstop
      rintro c ⟨⟩
      exact ⟨hstop, fun he => hne more (by rw [hd, he])⟩

/-- All that a token can start as. -/
theorem tokenAt?_cases {c : Char} {rest r : List Char} {t : Token} {hr : r.length ≤ rest.length}
    (h : tokenAt? c rest = some (t, ⟨r, hr⟩)) :
    (∃ body, t = .literal c body ∧ (c = '"' ∨ c = '\'') ∧
      literalBody? isPlainInLiteral isEscapable c rest = some (body, r)) ∨
    (∃ s, t = .sign s ∧ signAt? c rest = some (s, r)) ∨
    (isNameStart c = true ∧ t = .name (c :: (nameTail rest).1) ∧ r = (nameTail rest).2) := by
  unfold tokenAt? at h
  split at h
  next hc =>
    split at h
    next body r' hb =>
      cases h
      exact .inl ⟨body, rfl, hc, hb⟩
    next => simp at h
  next =>
    split at h
    next s r' hs =>
      cases h
      exact .inr (.inl ⟨s, rfl, hs⟩)
    next =>
      split at h
      next hn =>
        cases h
        exact .inr (.inr ⟨hn, rfl, rfl⟩)
      next => simp at h

/-- A token and what follows it make up the input. -/
theorem eq_append_of_tokenAt? {c : Char} {rest r : List Char} {t : Token}
    {hr : r.length ≤ rest.length} (h : tokenAt? c rest = some (t, ⟨r, hr⟩)) :
    c :: rest = t.chars ++ r := by
  obtain ⟨body, rfl, -, hb⟩ | ⟨s, rfl, hs⟩ | ⟨-, rfl, rfl⟩ := tokenAt?_cases h
  · rw [eq_append_of_literalBody? hb]
    simp [Token.chars]
  · exact eq_append_of_signAt? hs
  · rw [Token.chars, List.cons_append, nameTail_eq_append]

/-! ### Blanks behind a text -/

theorem signAt?_concat {b : Char} (h : b ≠ '=') (c : Char) (rest : List Char) :
    signAt? c (rest ++ [b]) = (signAt? c rest).map fun r => (r.1, r.2 ++ [b]) := by
  cases rest with
  | nil =>
    rw [List.nil_append]
    unfold signAt?
    split <;> simp_all
  | cons d rest =>
    rw [List.cons_append]
    unfold signAt?
    split <;> simp_all

theorem nameTail_concat {b : Char} (h : isNameRest b = false) (hq : b ≠ '?') (rest : List Char) :
    nameTail (rest ++ [b]) = ((nameTail rest).1, (nameTail rest).2 ++ [b]) := by
  have hrun : ∀ c ∈ rest.takeWhile isNameRest, isNameRest c = true :=
    fun c hc => List.mem_takeWhile_imp hc
  have hstop : ∀ c ∈ (rest.dropWhile isNameRest).head?, isNameRest c = false := by
    intro c hc
    have hd := List.head?_dropWhile_not isNameRest rest
    rw [Option.mem_def.mp hc] at hd
    exact hd
  have hstop' : ∀ c ∈ (rest.dropWhile isNameRest ++ [b]).head?, isNameRest c = false := by
    intro c hc
    cases hd : rest.dropWhile isNameRest with
    | nil => simp_all
    | cons d more =>
      rw [hd] at hc hstop
      exact hstop c hc
  have hlong := nameTail_run hrun hstop'
  have hshort := nameTail_run hrun hstop
  rw [← List.append_assoc] at hlong
  rw [List.takeWhile_append_dropWhile] at hlong hshort
  rw [hlong, hshort]
  cases rest.dropWhile isNameRest with
  | nil => simp [hq]
  | cons d more => 
    by_cases hd : d = '?' <;> simp [hd]

/-- The token that starts with `c`, without the bound on what follows it. -/
theorem map_tokenAt? (c : Char) (rest : List Char) :
    (tokenAt? c rest).map (fun r => (r.1, r.2.1)) =
      if c = '"' ∨ c = '\'' then
        (literalBody? isPlainInLiteral isEscapable c rest).map fun r => (.literal c r.1, r.2)
      else
        ((signAt? c rest).map fun r => (.sign r.1, r.2)).or
          (if isNameStart c then some (.name (c :: (nameTail rest).1), (nameTail rest).2)
            else none) := by
  unfold tokenAt?
  split
  · split <;> simp [*]
  · split
    · simp [*]
    · split <;> simp [*]

theorem map_tokenAt?_concat {b : Char} (h : isBlank b = true) (c : Char) (rest : List Char) :
    (tokenAt? c (rest ++ [b])).map (fun r => (r.1, r.2.1)) =
      (tokenAt? c rest).map fun r => (r.1, r.2.1 ++ [b]) := by
  have hne (d : Char) (hd : isBlank d = false) : b ≠ d := by
    rintro rfl
    rw [h] at hd
    cases hd
  have hshort : (tokenAt? c rest).map (fun r => (r.1, r.2.1 ++ [b])) =
      ((tokenAt? c rest).map fun r => (r.1, r.2.1)).map fun r => (r.1, r.2 ++ [b]) := by
    rw [Option.map_map]
    rfl
  rw [hshort, map_tokenAt?, map_tokenAt?]
  by_cases hc : c = '"' ∨ c = '\''
  · have hq : b ≠ c := by
      rcases hc with rfl | rfl
      · exact hne _ (by decide)
      · exact hne _ (by decide)
    rw [if_pos hc, if_pos hc, literalBody?_concat hq, Option.map_map, Option.map_map]
    rfl
  · rw [if_neg hc, if_neg hc, signAt?_concat (hne '=' (by decide)),
      nameTail_concat (isNameRest_of_isBlank h) (hne '?' (by decide))]
    cases signAt? c rest with
    | some r => rfl
    | none => by_cases hn : isNameStart c = true <;> simp [hn]

theorem tokenAt?_concat {b : Char} (h : isBlank b = true) {c : Char} {rest r : List Char}
    {t : Token} {hr : r.length ≤ rest.length} (ht : tokenAt? c rest = some (t, ⟨r, hr⟩)) :
    ∃ hr', tokenAt? c (rest ++ [b]) = some (t, ⟨r ++ [b], hr'⟩) := by
  have hmap := map_tokenAt?_concat h c rest
  rw [ht, Option.map_some, Option.map_eq_some_iff] at hmap
  obtain ⟨⟨t', r', hr'⟩, ht', heq⟩ := hmap
  cases heq
  exact ⟨hr', ht'⟩

/-- A blank behind a text changes nothing in its tokens. -/
theorem scan_concat {b : Char} (h : isBlank b = true) (cs : List Char) :
    Token.scan (cs ++ [b]) = Token.scan cs := by
  fun_induction Token.scan cs with
  | case1 => exact (scan_blank h []).trans scan_nil
  | case2 c rest hc ih => rw [List.cons_append, scan_blank hc, ih]
  | case3 c rest hc ht =>
    have hnone := map_tokenAt?_concat h c rest
    rw [ht, Option.map_none, Option.map_eq_none_iff] at hnone
    rw [List.cons_append, Token.scan, if_neg hc, hnone]
  | case4 c rest hc t r hr ht ts hts ih =>
    obtain ⟨hr', ht'⟩ := tokenAt?_concat h ht
    rw [List.cons_append, Token.scan, if_neg hc, ht']
    simp only [ih, hts]
  | case5 c rest hc t r hr ht e he ih =>
    obtain ⟨hr', ht'⟩ := tokenAt?_concat h ht
    rw [List.cons_append, Token.scan, if_neg hc, ht']
    simp only [ih, he]

theorem scan_append_blanks {gap : List Char} (h : allBlank gap = true) (cs : List Char) :
    Token.scan (cs ++ gap) = Token.scan cs := by
  induction gap generalizing cs with
  | nil => rw [List.append_nil]
  | cons b gap ih =>
    obtain ⟨hb, hgap⟩ := Bool.and_eq_true_iff.mp h
    rw [List.append_cons, ih hgap, scan_concat hb]

/-- Blanks around a text change none of its tokens. -/
theorem scan_spaced (cs : List Char) : Token.scan (' ' :: (cs ++ [' '])) = Token.scan cs := by
  have hblank : isBlank ' ' = true := by decide
  rw [scan_blank hblank, scan_concat hblank]

/-! ### Paths -/

/-- The tokens of a path. -/
def Path.tokens (p : Path) : List Token :=
  .name p.head.toList :: p.accessors.flatMap fun a => [.sign .dot, .name a.toList]

/-- A segment that can be written: a word that is not one of the language. -/
def isSegment (s : String) : Bool := isWord s.toList && !isReserved s.toList

/-- A path that can be written out. -/
def Path.isWritable (p : Path) : Bool := p.segments.all isSegment

theorem isSegment_iff {s : String} :
    isSegment s = true ↔ isWord s.toList = true ∧ isReserved s.toList = false := by
  simp [isSegment]

theorem isPath_tokens {p : Path} (h : p.isWritable = true) : IsPath p.tokens p := by
  obtain ⟨head, accessors⟩ := p
  simp only [Path.isWritable, Path.segments, List.all_cons, Bool.and_eq_true] at h
  obtain ⟨hhead, hacc⟩ := h
  have ha : IsAccessors (accessors.flatMap fun a => [.sign .dot, .name a.toList]) accessors := by
    induction accessors with
    | nil => exact .nil
    | cons a as ih =>
      simp only [List.all_cons, Bool.and_eq_true] at hacc
      have := IsAccessors.cons (isSegment_iff.mp hacc.1).2 (ih hacc.2)
      rwa [String.ofList_toList] at this
  have := IsPath.intro (isSegment_iff.mp hhead).2 ha
  rwa [String.ofList_toList] at this

theorem apart_tokens {p : Path} (h : p.isWritable = true) {rest : List Char} (hr : EndsName rest) :
    Apart rest p.tokens := by
  obtain ⟨head, accessors⟩ := p
  simp only [Path.isWritable, Path.segments, List.all_cons, Bool.and_eq_true] at h
  obtain ⟨hhead, hacc⟩ := h
  -- A name ends before a dot as before the end of the path.
  have hdots : ∀ as : List String, EndsName
      ((as.flatMap fun a => [Token.sign .dot, .name a.toList]).flatMap Token.chars ++ rest) := by
    intro as
    cases as with
    | nil => exact hr
    | cons a as =>
      rintro c ⟨⟩
      decide
  refine ⟨(isSegment_iff.mp hhead).1, hdots accessors, ?_⟩
  induction accessors with
  | nil => trivial
  | cons a as ih =>
    simp only [List.all_cons, Bool.and_eq_true] at hacc
    exact ⟨trivial, by simp [Token.EndsBefore], (isSegment_iff.mp hacc.1).1, hdots as, ih hacc.2⟩

theorem chars_tokens (p : Path) : p.tokens.flatMap Token.chars = p.shown.toList := by
  obtain ⟨head, accessors⟩ := p
  rw [Path.shown, Path.segments, Path.tokens, String.toList_intercalate]
  induction accessors generalizing head with
  | nil => simp [Token.chars]
  | cons a as ih =>
    have := ih a
    simp only [List.map_cons, List.flatMap_cons, List.flatMap_append] at this ⊢
    rw [List.intercalate_cons_cons, ← this]
    simp [Token.chars, Sign.chars]

/-- A path that is written out is scanned first. -/
theorem scan_shown {p : Path} (h : p.isWritable = true) {rest : List Char} (hr : EndsName rest) :
    Token.scan (p.shown.toList ++ rest) = (Token.scan rest).map (p.tokens ++ ·) := by
  rw [← chars_tokens]
  exact scan_flatMap_append (apart_tokens h hr)

theorem endsName_nil : EndsName [] := by
  simp [EndsName]

theorem endsName_of_isBlank {c : Char} (h : isBlank c = true) (rest : List Char) :
    EndsName (c :: rest) := by
  rintro d ⟨⟩
  refine ⟨isNameRest_of_isBlank h, ?_⟩
  rintro rfl
  exact absurd h (by decide)

theorem mapError_ok {ε ε' α : Type} (f : ε → ε') (a : α) : (Except.ok a).mapError f = .ok a := rfl

theorem mapError_error {ε ε' α : Type} (f : ε → ε') (e : ε) :
    (Except.error e : Except ε α).mapError f = .error (f e) := rfl

theorem tokensOf_eq_ok_iff {source : String} {ts : List Token} :
    tokensOf source = .ok ts ↔ Token.scan source.toList = .ok ts := by
  rw [tokensOf]
  cases Token.scan source.toList with
  | error c => simp [mapError_error]
  | ok us => simp [mapError_ok]

theorem tokensOf_shown {p : Path} (h : p.isWritable = true) : tokensOf p.shown = .ok p.tokens := by
  have := scan_shown h endsName_nil
  rw [List.append_nil] at this
  simp [tokensOf_eq_ok_iff, this, Except.map]

/-- A path that is written out is parsed to itself. -/
theorem parsePath_shown {p : Path} (h : p.isWritable = true) : parsePath p.shown = .ok p :=
  (recognizes_path.eq_ok_iff _ _).mpr ⟨_, tokensOf_shown h, isPath_tokens h⟩

theorem isGuard_tokens {p : Path} (h : p.isWritable = true) : IsGuard p.tokens (.path p) :=
  .compare (.operand (.path (isPath_tokens h)))

theorem parseGuard_shown {p : Path} (h : p.isWritable = true) :
    parseGuard p.shown = .ok (.path p) :=
  (recognizes_guard.eq_ok_iff _ _).mpr ⟨_, tokensOf_shown h, isGuard_tokens h⟩

theorem parseInterpolation_shown {p : Path} (h : p.isWritable = true) :
    parseInterpolation p.shown = .ok ⟨.path p, none⟩ :=
  (recognizes_interpolation.eq_ok_iff _ _).mpr ⟨_, tokensOf_shown h, .plain (isGuard_tokens h)⟩

theorem isOperand_literal {quote : Char} {body : List Char} {s : String}
    (h : unescape body = s.toList) : IsOperand [.literal quote body] (.text s) := by
  have hliteral : IsOperand [.literal quote body] (.text (String.ofList (unescape body))) := .literal
  rw [h, String.ofList_toList] at hliteral
  exact hliteral

/-- A text that stands between double quotes as it is. -/
def isPlainText (s : String) : Bool := s.toList.all fun c => c != '"' && c != '\\'

/-- A text that is written unless a path is true. -/
theorem parseInterpolation_unless {s : String} {p : Path} (hs : isPlainText s = true)
    (h : p.isWritable = true) :
    parseInterpolation ("\"" ++ s ++ "\" unless " ++ p.shown) =
      .ok ⟨.text s, some (.negation (.path p))⟩ := by
  have hplain : ∀ c ∈ s.toList, c ≠ '"' ∧ c ≠ '\\' := by
    simpa [isPlainText] using hs
  have hliteral : Token.IsValid (.literal '"' s.toList) :=
    ⟨.inl rfl, literalBody?_plain (fun c hc => ⟨(hplain c hc).1, (hplain c hc).2, rfl⟩) []⟩
  have hunless : isWord "unless".toList = true := by decide
  have hguard : IsInterpolation (.literal '"' s.toList :: .name "unless".toList :: p.tokens)
      ⟨.text s, some (.negation (.path p))⟩ := by
    have htext : IsOperand [.literal '"' s.toList] (.text s) :=
      isOperand_literal (unescape_plain fun hm => (hplain _ hm).2 rfl)
    exact .unlessSuffix (.compare (.operand htext)) (isGuard_tokens h)
  have hsource : ("\"" ++ s ++ "\" unless " ++ p.shown).toList =
      (Token.literal '"' s.toList).chars ++
        ' ' :: ((Token.name "unless".toList).chars ++ ' ' :: p.shown.toList) := by
    simp [Token.chars]
  refine (recognizes_interpolation.eq_ok_iff _ _).mpr ⟨_, tokensOf_eq_ok_iff.mpr ?_, hguard⟩
  have hblank : isBlank ' ' = true := by decide
  rw [hsource, scan_append hliteral trivial, scan_blank hblank,
    scan_append (t := .name _) hunless (endsName_of_isBlank hblank _), scan_blank hblank,
    tokensOf_eq_ok_iff.mp (tokensOf_shown h)]
  rfl

end Scaffold.Expression
