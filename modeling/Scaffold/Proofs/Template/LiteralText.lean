import Scaffold.Proofs.Template.OutlineRendering
import Scaffold.Proofs.Template.TagBoundary

/-! Texts as literals.  Any text can be written between double quotes, with backslashes where they
are needed, and an interpolation of that literal writes the text as it was. -/
namespace Scaffold.Text

/-- A character as it is written in a literal: behind a backslash where it would end the literal or
escape what follows it, and a line feed as `\n`. -/
def escapeChar (c : Char) : List Char :=
  if c = '\\' then ['\\', '\\'] else if c = '"' then ['\\', '"']
  else if c = '\n' then ['\\', 'n'] else [c]

/-- A text as it is written in a literal. -/
def escape (s : List Char) : List Char := s.flatMap escapeChar

/-- A character is escaped, or it stands for itself in any literal. -/
theorem escapeChar_cases (c : Char) :
    (∃ e, escapeChar c = ['\\', e] ∧ e ≠ '\n' ∧ ∀ more, unescape ('\\' :: e :: more) =
      c :: unescape more) ∨ (escapeChar c = [c] ∧ c ≠ '\\' ∧ c ≠ '"' ∧ c ≠ '\n') := by
  by_cases hb : c = '\\'
  · subst hb
    exact .inl ⟨'\\', rfl, by decide, fun more => by simp [unescape]⟩
  by_cases hq : c = '"'
  · subst hq
    exact .inl ⟨'"', rfl, by decide, fun more => by simp [unescape]⟩
  by_cases hn : c = '\n'
  · subst hn
    exact .inl ⟨'n', rfl, by decide, fun more => by simp [unescape]⟩
  · exact .inr ⟨by simp [escapeChar, hb, hq, hn], hb, hq, hn⟩

/-- What is escaped stands for what it was. -/
theorem unescape_escape (s : List Char) : unescape (escape s) = s := by
  induction s with
  | nil => rfl
  | cons c s ih =>
    rw [escape, List.flatMap_cons, ← escape]
    obtain ⟨e, heq, -, he⟩ | ⟨heq, hb, -⟩ := escapeChar_cases c
    · rw [heq, List.cons_append, List.cons_append, List.nil_append, he, ih]
    · rw [heq, List.singleton_append, unescape_cons hb, ih]

theorem feed_notMem_escape (s : List Char) : '\n' ∉ escape s := by
  intro h
  obtain ⟨c, -, hc⟩ := List.mem_flatMap.mp h
  obtain ⟨e, heq, he, -⟩ | ⟨heq, -, -, hn⟩ := escapeChar_cases c
  · rw [heq] at hc
    simp [he.symm] at hc
  · rw [heq] at hc
    exact hn (List.mem_singleton.mp hc).symm

/-- What is escaped may stand between double quotes, for any reader that stops at line feeds only. -/
theorem isLiteralBody_escape {plain escaped : Char → Bool} (hplain : ∀ c, c ≠ '\n' → plain c = true)
    (hescaped : ∀ c, c ≠ '\n' → escaped c = true) (s : List Char) :
    IsLiteralBody plain escaped '"' (escape s) := by
  induction s with
  | nil => exact .nil
  | cons c s ih =>
    rw [escape, List.flatMap_cons, ← escape]
    obtain ⟨e, heq, hn, -⟩ | ⟨heq, hb, hq, hn⟩ := escapeChar_cases c
    · rw [heq]
      exact .escaped (by decide) (hescaped e hn) ih
    · rw [heq]
      exact .plain hq hb (hplain c hn) ih

end Scaffold.Text

namespace Scaffold.Template
open Expression Scaffold.Text

/-- The literal of a text. -/
def literalOf (s : String) : String := "\"" ++ String.ofList (escape s.toList) ++ "\""

theorem isValid_escape (s : List Char) : Token.IsValid (.literal '"' (escape s)) := by
  have hbody : IsLiteralBody isPlainInLiteral isEscapable '"' (escape s) :=
    isLiteralBody_escape (fun _ _ => rfl) (fun _ hc => bne_iff_ne.mpr hc) s
  exact ⟨.inl rfl, literalBody?_of_isLiteralBody hbody []⟩

theorem scan_literalOf (s : String) :
    Token.scan (literalOf s).toList = .ok [.literal '"' (escape s.toList)] := by
  have hchars : (literalOf s).toList = (Token.literal '"' (escape s.toList)).chars := by
    simp [literalOf, Token.chars]
  rw [hchars]
  exact scan_chars (isValid_escape s.toList) trivial

theorem parseInterpolation_literalOf (s : String) :
    parseInterpolation (literalOf s) = .ok ⟨.text s, none⟩ := by
  have hliteral : IsOperand [.literal '"' (escape s.toList)] (.text s) :=
    isOperand_literal (unescape_escape s.toList)
  exact (recognizes_interpolation.eq_ok_iff _ _).mpr
    ⟨_, tokensOf_eq_ok_iff.mpr (scan_literalOf s), .plain (.compare (.operand hliteral))⟩

theorem literalsStayOnLine_literalOf (s : String) : LiteralsStayOnLine (literalOf s).toList := by
  intro ts hts quote body hm
  obtain rfl := Except.ok.inj ((scan_literalOf s).symm.trans hts)
  cases List.mem_singleton.mp hm
  exact feed_notMem_escape s.toList

/-- Every text can be written as a literal: between any texts that open no tag, the interpolation
of its literal makes an accepted template, which writes the text as it is in every scope. -/
theorem render_literalOf {p q : String} (hp : OpensNoTag p.toList) (hq : OpensNoTag q.toList)
    (s name : String) :
    ∃ t, parse (p ++ "<%= " ++ literalOf s ++ " %>" ++ q) name = .ok t ∧
      ∀ own scope, t.render own scope = .ok (p ++ s ++ q) := by
  have hparse := parse_inset_spaced (literalsStayOnLine_literalOf s) hp hq name
    (parseInterpolation_literalOf s)
  refine ⟨_, hparse, fun own scope => ?_⟩
  have hvalue :
      atLine (1 + lineFeeds p.toList) ((Node.text s).evaluateText own scope) = .ok s := rfl
  rw [render]
  simp only [renderChunks_addText, renderChunks_cons, renderChunk, renderChunks_nil, pure_bind,
    if_true, hvalue]
  simp [Functor.map, Except.map, bind, Except.bind, pure, Except.pure, String.append_assoc]

/-- The text holds both ends of a tag, a quote behind a backslash and a line feed, and what stands
before and behind the tag continues its marks. -/
theorem render_literalOf_marks : OpensNoTag "5 <".toList ∧ OpensNoTag "%> 6".toList ∧
    literalOf "<% \\\" %>\n" = "\"<% \\\\\\\" %>\\n\"" ∧
    ∃ t, parse ("5 <" ++ "<%= " ++ literalOf "<% \\\" %>\n" ++ " %>" ++ "%> 6") "marks" = .ok t ∧
      t.render .empty [] = .ok "5 <<% \\\" %>\n%> 6" := by
  have hfront : OpensNoTag "5 <".toList := by unfold OpensNoTag; decide
  have hback : OpensNoTag "%> 6".toList := by unfold OpensNoTag; decide
  obtain ⟨t, ht, hrender⟩ := render_literalOf hfront hback "<% \\\" %>\n" "marks"
  exact ⟨hfront, hback, by decide, t, ht, hrender .empty []⟩

end Scaffold.Template
