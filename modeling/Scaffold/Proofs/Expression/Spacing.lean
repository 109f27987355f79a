import Scaffold.Proofs.Naming.Identifier

/-! Tokens and the white space around them.  A text is scanned to the tokens that it is made of,
each of which ends where nothing behind it goes on with it; white space between tokens only tells
them apart, and but for it nothing of the text is lost. -/
namespace Scaffold.Expression
open Scaffold.Text Scaffold.Naming

/-! ### Well-formed tokens -/

/-- An identifier, with at most one question mark, at its end. -/
def IsName (word : List Char) : Prop :=
  ∃ s, IsCIdentifier s ∧ (word = s.toList ∨ word = s.toList ++ ['?'])

/-- A quoted literal, a sign or a name. -/
def Token.IsWellFormed : Token → Prop
  | .literal quote body => (quote = '"' ∨ quote = '\'') ∧
      IsLiteralBody isPlainInLiteral isEscapable quote body
  | .sign _ => True
  | .name word => IsName word

variable {c : Char} {cs rest r word : List Char} {t : Token} {ts : List Token}

theorem isWord_iff : isWord word = true ↔ IsName word := by
  rw [isWord_iff_exists_run]
  constructor
  · rintro ⟨c, run, hc, hrun, hword⟩
    have hid : IsCIdentifier (String.ofList (c :: run)) :=
      isCIdentifier_iff.mpr ⟨c, run, String.toList_ofList, hc, hrun⟩
    exact ⟨_, hid, by rwa [String.toList_ofList]⟩
  · rintro ⟨s, hs, hword⟩
    obtain ⟨c, run, hchars, hc, hrun⟩ := isCIdentifier_iff.mp hs
    exact ⟨c, run, hc, hrun, by rwa [hchars] at hword⟩

/-- The tokens that can be scanned are the well-formed ones. -/
theorem Token.isValid_iff : t.IsValid ↔ t.IsWellFormed := by
  cases t with
  | literal quote body =>
    apply and_congr_right
    intro _
    constructor
    · exact isLiteralBody_of_literalBody?
    · intro h
      exact literalBody?_of_isLiteralBody h []
  | sign => exact Iff.rfl
  | name word => exact isWord_iff

/-! ### One token -/

theorem head?_ne_of_signAt? (h : signAt? c rest = some (.bang, r)) : r.head? ≠ some '=' := by
  have hchars : c :: rest = '!' :: r := eq_append_of_signAt? h
  cases hchars
  intro he
  cases rest with
  | nil => cases he
  | cons d more =>
    obtain rfl : d = '=' := by simpa using he
    simp [signAt?] at h

theorem isValid_of_tokenAt? {hr : r.length ≤ rest.length}
    (h : tokenAt? c rest = some (t, ⟨r, hr⟩)) : t.IsValid := by
  obtain ⟨body, rfl, hq, hb⟩ | ⟨s, rfl, -⟩ | ⟨hc, rfl, -⟩ := tokenAt?_cases h
  · exact ⟨hq, literalBody?_of_isLiteralBody (isLiteralBody_of_literalBody? hb) []⟩
  · trivial
  · show isWord _ = true
    rw [isWord, nameTail_nameTail]
    simp [hc]

/-- A token is scanned as far as it goes. -/
theorem stopsBefore_of_tokenAt? {hr : r.length ≤ rest.length}
    (h : tokenAt? c rest = some (t, ⟨r, hr⟩)) : t.StopsBefore r := by
  obtain ⟨body, rfl, -, -⟩ | ⟨s, rfl, hs⟩ | ⟨-, rfl, rfl⟩ := tokenAt?_cases h
  · trivial
  · rintro rfl
    exact head?_ne_of_signAt? hs
  · exact (mem_or_endsName_nameTail rest).imp_left (List.mem_cons_of_mem _)

/-! ### All tokens of a text -/

/-- A token with the white space behind it. -/
structure Spaced where
  token : Token
  gap : List Char
  wellFormed : token.IsWellFormed
  blank : allBlank gap = true

/-- A token and the white space behind it as they are written. -/
def Spaced.chars (p : Spaced) : List Char := p.token.chars ++ p.gap

/-- Each token ends where its white space begins, or the next token if there is none. -/
def AreApart : List Spaced → Prop
  | [] => True
  | p :: ps => p.token.StopsBefore (p.gap ++ ps.flatMap Spaced.chars) ∧ AreApart ps

variable {lead : List Char} {ps : List Spaced}

theorem scan_of_areApart (hlead : allBlank lead = true) (h : AreApart ps) :
    Token.scan (lead ++ ps.flatMap Spaced.chars) = .ok (ps.map Spaced.token) := by
  rw [scan_blanks hlead]
  induction ps with
  | nil => exact scan_nil
  | cons p ps ih =>
    obtain ⟨hp, hps⟩ := h
    rw [List.flatMap_cons, Spaced.chars, List.append_assoc,
      scan_append_of_stopsBefore (Token.isValid_iff.mpr p.wellFormed) hp, scan_blanks p.blank,
      ih hps]
    rfl

theorem exists_spaced_of_scan (h : Token.scan cs = .ok ts) : ∃ lead ps, allBlank lead = true ∧
    AreApart ps ∧ cs = lead ++ ps.flatMap Spaced.chars ∧ ts = ps.map Spaced.token := by
  fun_induction Token.scan cs generalizing ts with
  | case1 =>
    cases h
    exact ⟨[], [], rfl, trivial, rfl, rfl⟩
  | case2 c rest hc ih =>
    obtain ⟨lead, ps, hlead, hps, rfl, rfl⟩ := ih h
    exact ⟨c :: lead, ps, Bool.and_eq_true_iff.mpr ⟨hc, hlead⟩, hps, rfl, rfl⟩
  | case3 => cases h
  | case4 c rest hc t r hr ht us hus ih =>
    cases h
    -- The white space in front of the other tokens is the gap behind this one.
    obtain ⟨gap, ps, hgap, hps, rfl, rfl⟩ := ih hus
    have hwell : t.IsWellFormed := Token.isValid_iff.mp (isValid_of_tokenAt? ht)
    refine ⟨[], ⟨t, gap, hwell, hgap⟩ :: ps, rfl, ⟨stopsBefore_of_tokenAt? ht, hps⟩, ?_, rfl⟩
    rw [eq_append_of_tokenAt? ht, List.flatMap_cons, Spaced.chars, List.append_assoc]
    rfl
  | case5 => cases h

/-- A text is scanned to the tokens that it is made of, where each of them goes as far as it can,
and to nothing else. -/
theorem scan_eq_ok_iff : Token.scan cs = .ok ts ↔ ∃ lead ps, allBlank lead = true ∧
    AreApart ps ∧ cs = lead ++ ps.flatMap Spaced.chars ∧ ts = ps.map Spaced.token := by
  constructor
  · exact exists_spaced_of_scan
  · rintro ⟨lead, ps, hlead, hps, rfl, rfl⟩
    exact scan_of_areApart hlead hps

theorem isValid_of_scan (h : Token.scan cs = .ok ts) : ∀ t ∈ ts, t.IsValid := by
  obtain ⟨lead, ps, -, -, -, rfl⟩ := scan_eq_ok_iff.mp h
  intro t ht
  obtain ⟨p, -, rfl⟩ := List.mem_map.mp ht
  exact Token.isValid_iff.mpr p.wellFormed

/-! ### White space between tokens -/

/-- Every token ends in front of white space and at the end of a text. -/
theorem stopsBefore_of_isBlank (h : ∀ c ∈ rest.head?, isBlank c = true) : t.StopsBefore rest := by
  cases t with
  | literal => trivial
  | sign s =>
    intro _ he
    exact absurd (h '=' he) (by decide)
  | name word =>
    right
    intro c hc
    have hne : c ≠ '?' := by
      rintro rfl
      exact absurd (h '?' hc) (by decide)
    exact ⟨isNameRest_of_isBlank (h c hc), hne⟩

theorem Spaced.stopsBefore {p : Spaced} (h : p.gap ≠ [] ∨ rest = []) :
    p.token.StopsBefore (p.gap ++ rest) := by
  apply stopsBefore_of_isBlank
  intro c hc
  apply List.all_eq_true.mp p.blank
  cases hgap : p.gap with
  | nil =>
    obtain rfl := h.resolve_left fun hne => hne hgap
    simp [hgap] at hc
  | cons d more =>
    rw [hgap] at hc
    exact List.mem_of_head? hc

/-- White space between any two tokens keeps all of them apart. -/
theorem areApart_of_gap (h : ∀ p ∈ ps.dropLast, p.gap ≠ []) : AreApart ps := by
  induction ps with
  | nil => trivial
  | cons p ps ih =>
    cases ps with
    | nil => exact ⟨p.stopsBefore (.inr rfl), trivial⟩
    | cons q ps =>
      obtain ⟨hp, hps⟩ := List.forall_mem_cons.mp h
      exact ⟨p.stopsBefore (.inl hp), ih hps⟩

/-- Tokens are found again whatever white space stands between them, in front of them and behind
them.  Where a source has tokens, these and the white space around them are all of it, and each
token goes as far as it can. -/
theorem tokensOf_spacing :
    (∀ (lead : List Char) (ps : List Spaced), allBlank lead = true →
      (∀ p ∈ ps.dropLast, p.gap ≠ []) →
      tokensOf (String.ofList (lead ++ ps.flatMap Spaced.chars)) = .ok (ps.map Spaced.token)) ∧
    ∀ source ts, tokensOf source = .ok ts ↔ ∃ lead ps, allBlank lead = true ∧ AreApart ps ∧
      source.toList = lead ++ ps.flatMap Spaced.chars ∧ ts = ps.map Spaced.token := by
  constructor
  · intro lead ps hlead hgap
    rw [tokensOf_eq_ok_iff, String.toList_ofList]
    exact scan_of_areApart hlead (areApart_of_gap hgap)
  · intro source ts
    rw [tokensOf_eq_ok_iff, scan_eq_ok_iff]

/-- A negation, a name with its question mark, a sign that starts like the negation, and a literal
with an escaped quote: tokens that need no white space between them. -/
def negatedTokens : List Token :=
  [.sign .bang, .name "ready?".toList, .sign .unequal, .literal '\'' "it\\\x27s".toList]

theorem isWellFormed_negatedTokens : ∀ t ∈ negatedTokens, t.IsWellFormed := by
  have hname : IsName "ready?".toList := isWord_iff.mp (by decide)
  have hs : IsLiteralBody isPlainInLiteral isEscapable '\'' "s".toList :=
    .plain (by decide) (by decide) rfl .nil
  have hbody : IsLiteralBody isPlainInLiteral isEscapable '\'' "it\\\x27s".toList :=
    .plain (by decide) (by decide) rfl (.plain (by decide) (by decide) rfl
      (.escaped (by decide) (by decide) hs))
  simp only [negatedTokens, List.forall_mem_cons]
  exact ⟨trivial, hname, trivial, ⟨.inr rfl, hbody⟩, nofun⟩

/-- The tokens with one gap behind each of them. -/
def negatedWith (gap : List Char) (h : allBlank gap = true) : List Spaced :=
  negatedTokens.pmap (fun t ht => ⟨t, gap, ht, h⟩) isWellFormed_negatedTokens

/-- Tokens with white space of several kinds between them, and with none. -/
theorem tokensOf_spacing_negated :
    allBlank ['\n'] = true ∧ (∀ p ∈ (negatedWith ['\t', '\u3000'] rfl).dropLast, p.gap ≠ []) ∧
    tokensOf "\n!\t\u3000ready?\t\u3000!=\t\u3000\x27it\\\x27s\x27\t\u3000" =
      .ok negatedTokens ∧
    AreApart (negatedWith [] rfl) ∧
    tokensOf "!ready?!=\x27it\\\x27s\x27" = .ok negatedTokens := by
  have hgap : ∀ p ∈ (negatedWith ['\t', '\u3000'] rfl).dropLast, p.gap ≠ [] := by
    simp [negatedWith, negatedTokens]
  have hbang : Token.StopsBefore "ready?!=\x27it\\\x27s\x27".toList (.sign .bang) := by
    intro _
    decide
  have hunequal : Token.StopsBefore "\x27it\\\x27s\x27".toList (.sign .unequal) := nofun
  have hapart : AreApart (negatedWith [] rfl) :=
    ⟨hbang, .inl (by decide), hunequal, trivial, trivial⟩
  have hspaced := tokensOf_spacing.1 ['\n'] _ rfl hgap
  have hsource :
      String.ofList (['\n'] ++ (negatedWith ['\t', '\u3000'] rfl).flatMap Spaced.chars) =
        "\n!\t\u3000ready?\t\u3000!=\t\u3000\x27it\\\x27s\x27\t\u3000" := by
    decide +kernel
  rw [hsource] at hspaced
  exact ⟨rfl, hgap, hspaced, hapart,
    (tokensOf_spacing.2 _ _).mpr ⟨[], _, rfl, hapart, by decide, rfl⟩⟩

end Scaffold.Expression
