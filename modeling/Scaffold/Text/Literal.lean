/-!
Literals: a text between two equal quotes, in which a backslash takes the next character with it.
-/

namespace Scaffold.Text

/-- Reads to the closing quote: what stands before it and what follows.  `plain` admits the
characters that stand for themselves, `escaped` those that may follow a backslash. -/
def literalBody? (plain escaped : Char → Bool) (quote : Char) :
    List Char → Option (List Char × List Char)
  | [] => none
  | c :: rest =>
    if c = quote then some ([], rest)
    else if c = '\\' then
      match rest with
      | [] => none
      | e :: more =>
        if escaped e then
          (literalBody? plain escaped quote more).map fun r => (c :: e :: r.1, r.2)
        else none
    else if plain c then
      (literalBody? plain escaped quote rest).map fun r => (c :: r.1, r.2)
    else none

/-- The text before the closing quote, the quote and the rest make up the input. -/
theorem eq_append_of_literalBody? {plain escaped : Char → Bool} {quote : Char}
    {cs body rest : List Char} (h : literalBody? plain escaped quote cs = some (body, rest)) :
    cs = body ++ quote :: rest := by
  fun_induction literalBody? plain escaped quote cs generalizing body rest with
  | case1 => simp at h
  | case2 r => simp_all
  | case3 => simp at h
  | case4 e more he hq ih =>
    obtain ⟨⟨b, r⟩, hr, heq⟩ := Option.map_eq_some_iff.1 h
    simp only [Prod.mk.injEq] at heq
    obtain ⟨rfl, rfl⟩ := heq
    simp [ih hr]
  | case5 => simp at h
  | case6 c r hq hb hp ih =>
    obtain ⟨⟨b, r'⟩, hr, heq⟩ := Option.map_eq_some_iff.1 h
    simp only [Prod.mk.injEq] at heq
    obtain ⟨rfl, rfl⟩ := heq
    simp [ih hr]
  | case7 => simp at h

theorem length_lt_of_literalBody? {plain escaped : Char → Bool} {quote : Char}
    {cs body rest : List Char} (h : literalBody? plain escaped quote cs = some (body, rest)) :
    rest.length < cs.length := by
  rw [eq_append_of_literalBody? h]
  simp
  omega

/-- The text that a literal body stands for: `\n` is a line feed, `\t` a tab, and any other
character behind a backslash is itself. -/
def unescape : List Char → List Char
  | '\\' :: c :: rest =>
    (if c = 'n' then '\n' else if c = 't' then '\t' else c) :: unescape rest
  | c :: rest => c :: unescape rest
  | [] => []

end Scaffold.Text
