import Scaffold.Proofs.Template.Outline
import Scaffold.Proofs.Template.Sealing

/-! Boundaries of tags.  The scanner of expressions and the cutter of templates read literals each
in its own way; they pair quotes alike, so a tag around an expression ends where the expression
does, whatever its literals hold. -/
namespace Scaffold.Template
open Expression Scaffold.Text

/-! ### Blanks at the ends of an expression -/

theorem tokensOf_trim (src : String) :
    tokensOf (String.ofList (trim src.toList)) = tokensOf src := by
  obtain ⟨lead, tail, heq, hlead, htail⟩ := exists_eq_append_trim src.toList
  have hscan : Token.scan src.toList = Token.scan (trim src.toList) := by
    conv => lhs; rw [heq]
    rw [List.append_assoc, scan_blanks hlead, scan_append_blanks htail]
  rw [tokensOf, tokensOf, String.toList_ofList, hscan]

theorem parseInterpolation_trim (src : String) :
    parseInterpolation (String.ofList (trim src.toList)) = parseInterpolation src := by
  rw [parseInterpolation, parseInterpolation, tokensOf_trim]

theorem parseGuard_trim (src : String) :
    parseGuard (String.ofList (trim src.toList)) = parseGuard src := by
  rw [parseGuard, parseGuard, tokensOf_trim]

/-- A guard has a token at least. -/
theorem trim_ne_nil_of_parseGuard {src : String} {g : Node} (h : parseGuard src = .ok g) :
    trim src.toList ≠ [] := by
  intro hnil
  rw [← parseGuard_trim, hnil, parseGuard] at h
  simp [tokensOf, scan_nil, mapError_ok, bind, Except.bind, readGuard] at h

/-! ### Ends of trimmed texts -/

theorem head?_trim {cs : List Char} : ∀ c ∈ (trim cs).head?, isBlank c = false := by
  intro c hc
  have hleft := List.head?_dropWhile_not isBlank cs
  have hprefix : trim cs <+: trimLeft cs := by
    rw [trim, trimRight, ← List.reverse_suffix, List.reverse_reverse]
    exact List.dropWhile_suffix isBlank
  obtain ⟨tail, htail⟩ := hprefix
  cases ht : trim cs with
  | nil => simp [ht] at hc
  | cons d more =>
    rw [ht, List.head?_cons, Option.mem_some] at hc
    rw [← trimLeft, ← htail, ht] at hleft
    rw [← hc]
    exact hleft

theorem getLast?_trim {cs : List Char} : ∀ c ∈ (trim cs).getLast?, isBlank c = false := by
  intro c hc
  have hright := List.head?_dropWhile_not isBlank (trimLeft cs).reverse
  rw [trim, trimRight, List.getLast?_reverse, Option.mem_def] at hc
  rw [hc] at hright
  exact hright

/-! ### Cutting -/

/-- Texts that hold no start of a tag. -/
def OpensNoTag (s : List Char) : Prop := ¬ ['<', '%'] <:+: s

/-- Text that opens no tag goes before the first tag, unless it ends within the start of one. -/
theorem cutFrom_append_of_opensNoTag {s : List Char} (h : OpensNoTag s) {rest : List Char}
    (hrest : rest.head? ≠ some '%') (n : Nat) : cutFrom n (s ++ rest) =
      let r := cutFrom (n + lineFeeds s) rest
      ⟨s ++ r.lead, r.tags⟩ := by
  induction s generalizing n with
  | nil => rfl
  | cons c s ih =>
    have hs : OpensNoTag s := fun hin => h (hin.trans (List.infix_cons (List.infix_refl s)))
    have hhere : tagHere? c (s ++ rest) = none := by
      apply if_neg
      rintro ⟨rfl, hd⟩
      cases s with
      | nil => exact hrest hd
      | cons d s =>
        obtain rfl : d = '%' := by simpa using hd
        exact h ⟨[], s, rfl⟩
    rw [List.cons_append, cutFrom_of_none hhere, ih hs, line_add_lineFeeds]
    rfl

theorem cutFrom_of_opensNoTag {s : List Char} (h : OpensNoTag s) (n : Nat) :
    cutFrom n s = ⟨s, []⟩ := by
  have hnil : ([] : List Char).head? ≠ some '%' := by simp
  have hcut := cutFrom_append_of_opensNoTag h hnil n
  rw [List.append_nil] at hcut
  rw [hcut, cutFrom]
  simp

theorem cutFrom_text_tag {s : List Char} (h : OpensNoTag s) {t : Tag} (ht : t.IsFirm) {n : Nat}
    (hline : t.line = n + lineFeeds s) {rest : List Char} {r : Cut}
    (hr : cutFrom (t.line + lineFeeds t.body) rest = r) :
    cutFrom n (s ++ (t.chars ++ rest)) = ⟨s, (t, r.lead) :: r.tags⟩ := by
  rw [cutFrom_append_of_opensNoTag h (by simp [Tag.chars]), ← hline, cutFrom_tag ht, hr]
  simp

/-! ### Laying out -/

/-- The text is what is left of `s` without some of the blanks at its ends. -/
def StripsTo (s text : List Char) : Prop :=
  ∃ lead tail, s = lead ++ text ++ tail ∧ allBlank lead = true ∧ allBlank tail = true

theorem StripsTo.refl (s : List Char) : StripsTo s s := ⟨[], [], by simp, rfl, rfl⟩

theorem StripsTo.trans {r s t : List Char} (h : StripsTo r s) (h' : StripsTo s t) :
    StripsTo r t := by
  obtain ⟨lead, tail, rfl, hl, ht⟩ := h
  obtain ⟨lead', tail', rfl, hl', ht'⟩ := h'
  refine ⟨lead ++ lead', tail' ++ tail, by simp, ?_, ?_⟩
  · rw [allBlank, List.all_append]
    exact Bool.and_eq_true_iff.mpr ⟨hl, hl'⟩
  · rw [allBlank, List.all_append]
    exact Bool.and_eq_true_iff.mpr ⟨ht', ht⟩

theorem stripsTo_nil {s : List Char} (h : allBlank s = true) : StripsTo s [] :=
  ⟨s, [], by simp, h, rfl⟩

theorem stripsTo_of_dropIndent? {opens : Bool} {s head : List Char}
    (h : dropIndent? opens s = some head) : StripsTo s head := by
  obtain ⟨front, last, rfl, -, -, heq⟩ := exists_last_line s
  rw [heq, Option.ite_none_right_eq_some, Bool.and_eq_true_iff] at h
  obtain ⟨⟨hblank, -⟩, hhead⟩ := h
  obtain rfl := Option.some.inj hhead
  exact ⟨[], last, rfl, rfl, hblank⟩

theorem stripsTo_of_dropLineRest? {atEnd : Bool} {s tail : List Char}
    (h : dropLineRest? atEnd s = some tail) : StripsTo s tail := by
  obtain ⟨first, rest, rfl, -, heq⟩ | ⟨-, heq⟩ := dropLineRest?_eq atEnd s
  · rw [heq, Option.ite_none_right_eq_some] at h
    obtain ⟨hblank, htail⟩ := h
    obtain rfl := Option.some.inj htail
    refine ⟨first ++ ['\n'], [], by simp, ?_, rfl⟩
    rw [allBlank, List.all_append]
    exact Bool.and_eq_true_iff.mpr ⟨hblank, by decide⟩
  · rw [heq, Option.ite_none_right_eq_some, Bool.and_eq_true_iff] at h
    obtain ⟨⟨-, hblank⟩, htail⟩ := h
    obtain rfl := Option.some.inj htail
    exact stripsTo_nil hblank

section
variable (opens : Bool) (before : List Char) (t u : Tag)

theorem layout_nil : layout opens before [] = textLexeme before := by
  rw [layout]

/-- Around an interpolation nothing is dropped. -/
theorem layout_interpolation (ht : t.kind = .interpolation) (after : List Char) :
    layout opens before [(t, after)] = textLexeme before ++ .tag t :: textLexeme after := by
  have hrun : tagRun [(t, after)] = ([(t, after)], []) := by simp [tagRun]
  have hfills : fillsLine? opens before [(t, after)] [] = none := by simp [fillsLine?, ht]
  rw [layout]
  simp only [hrun, hfills]
  rw [layout_nil]
  simp [runLexemes, runTail]

theorem eq_nil_of_dropLineRest?_nil {tail : List Char} (h : dropLineRest? true [] = some tail) :
    tail = [] := by
  simpa [dropLineRest?, allBlank] using h.symm

theorem layout_last : ∃ text, StripsTo before text ∧
    layout opens before [(t, [])] = textLexeme text ++ [.tag t] := by
  have hrun : tagRun [(t, [])] = ([(t, [])], []) := by simp [tagRun]
  rw [layout]
  simp only [hrun]
  split
  next head tail h =>
    obtain ⟨-, hhead, htail⟩ := fillsLine?_eq_some h
    obtain rfl := eq_nil_of_dropLineRest?_nil htail
    refine ⟨head, stripsTo_of_dropIndent? hhead, ?_⟩
    rw [layout_nil]
    simp [textLexeme]
  next =>
    refine ⟨before, .refl before, ?_⟩
    rw [layout_nil]
    simp [runLexemes, runTail, textLexeme]

/-- Of the texts in front of two tags at most blanks are dropped. -/
theorem layout_pair (between : List Char) : ∃ text inner, StripsTo before text ∧
    StripsTo between inner ∧ layout opens before [(t, between), (u, [])] =
      textLexeme text ++ .tag t :: (textLexeme inner ++ [.tag u]) := by
  by_cases hb : isInlineBlank between = true
  · -- both tags are in one run
    have hrun : tagRun [(t, between), (u, [])] = ([(t, between), (u, [])], []) := by
      simp [tagRun, hb]
    have hblank : allBlank between = true := List.all_eq_true.mpr fun c hc =>
      (Bool.and_eq_true_iff.mp (List.all_eq_true.mp hb c hc)).1
    rw [layout]
    simp only [hrun]
    split
    next head tail h =>
      obtain ⟨-, hhead, htail⟩ := fillsLine?_eq_some h
      obtain rfl := eq_nil_of_dropLineRest?_nil htail
      refine ⟨head, [], stripsTo_of_dropIndent? hhead, stripsTo_nil hblank, ?_⟩
      rw [layout_nil]
      simp [textLexeme]
    next =>
      refine ⟨before, between, .refl before, .refl between, ?_⟩
      rw [layout_nil]
      simp [runLexemes, runTail, textLexeme]
  · -- the first tag is a run of its own
    have hrun : tagRun [(t, between), (u, [])] = ([(t, between)], [(u, [])]) := by
      simp [tagRun, hb]
    rw [layout]
    simp only [hrun]
    split
    next head rest h =>
      obtain ⟨-, hhead, hrest⟩ := fillsLine?_eq_some h
      have hstrips : StripsTo between rest := stripsTo_of_dropLineRest? hrest
      obtain ⟨inner, hinner, hlast⟩ := layout_last true rest u
      refine ⟨head, inner, stripsTo_of_dropIndent? hhead, hstrips.trans hinner, ?_⟩
      rw [hlast]
      simp
    next =>
      obtain ⟨inner, hinner, hlast⟩ := layout_last false between u
      refine ⟨before, inner, .refl before, hinner, ?_⟩
      have hgap : runTail [(t, between)] = between := rfl
      rw [hgap, hlast]
      simp [runLexemes]

end

/-! ### Tags of expressions -/

/-- No literal of the text goes over the end of a line. -/
def LiteralsStayOnLine (s : List Char) : Prop :=
  ∀ ts, Token.scan s = .ok ts → ∀ quote body, .literal quote body ∈ ts → '\n' ∉ body

theorem sealed_of_tokensOf {src : String} (h : LiteralsStayOnLine src.toList) {ts : List Token}
    (hts : tokensOf src = .ok ts) : Sealed src.toList := by
  have hscan := tokensOf_eq_ok_iff.mp hts
  exact sealed_of_scan hscan (h ts hscan)

/-- The tag that writes an expression. -/
def insetTag (src : String) (n : Nat) : Tag := ⟨.interpolation, src.toList, n⟩

/-- The tag that opens a block under a guard. -/
def guardTag (src : String) (n : Nat) : Tag := ⟨.control, (" if " ++ src ++ " ").toList, n⟩

theorem isFirm_insetTag {src : String} (h : LiteralsStayOnLine src.toList) {i : Interpolation}
    (hi : parseInterpolation src = .ok i) (n : Nat) : (insetTag src n).IsFirm := by
  obtain ⟨ts, hts, -⟩ := (recognizes_interpolation.eq_ok_iff _ _).mp hi
  apply Tag.IsSealed.isFirm
  refine ⟨TagKind.noConfusion, sealed_of_tokensOf h hts, fun hc => ?_⟩
  cases hc

theorem isFirm_guardTag {src : String} (h : LiteralsStayOnLine src.toList) {g : Node}
    (hg : parseGuard src = .ok g) (n : Nat) : (guardTag src n).IsFirm := by
  obtain ⟨ts, hts, -⟩ := (recognizes_guard.eq_ok_iff _ _).mp hg
  have hsealed : Sealed (" if ".toList ++ src.toList ++ " ".toList) :=
    ((sealed_of_all (by decide)).append (sealed_of_tokensOf h hts)).append
      (sealed_of_all (by decide))
  apply Tag.IsSealed.isFirm
  refine ⟨TagKind.noConfusion, ?_, fun _ => ?_⟩
  · simpa [guardTag] using hsealed
  · simp [guardTag]

theorem writes_insetTag {src : String} {i : Interpolation} (h : parseInterpolation src = .ok i)
    (n : Nat) : (insetTag src n).Writes i :=
  ⟨rfl, (parseInterpolation_trim src).trans h⟩

/-- The blanks around the guard and around the tag fall away. -/
theorem says_guardTag {src : String} (h : trim src.toList ≠ []) (n : Nat) :
    (guardTag src n).Says "if" (trim src.toList) := by
  obtain ⟨lead, tail, heq, hlead, htail⟩ := exists_eq_append_trim src.toList
  have hblank : isBlank ' ' = true := by decide
  have hgap : allBlank (' ' :: lead) = true := Bool.and_eq_true_iff.mpr ⟨hblank, hlead⟩
  have hend : allBlank (tail ++ [' ']) = true := by
    rw [allBlank, List.all_append]
    exact Bool.and_eq_true_iff.mpr ⟨htail, by decide⟩
  have hbody : (guardTag src n).body =
      [' '] ++ ("if".toList ++ ((' ' :: lead) ++ trim src.toList) ++ (tail ++ [' '])) := by
    show (" if " ++ src ++ " ").toList = _
    rw [String.toList_append, String.toList_append]
    conv => lhs; rw [heq]
    simp
  have hlast : ∀ c ∈ ("if".toList ++ ((' ' :: lead) ++ trim src.toList)).getLast?,
      isBlank c = false := by
    rw [← List.append_assoc, List.getLast?_append_of_ne_nil _ h]
    exact getLast?_trim
  refine ⟨rfl, ?_⟩
  rw [hbody, trim_append (by simp; decide) hlast (by decide) hend]
  exact firstWord_append (by decide) (isBlank_of_any (by decide)) _ (by simp) hgap head?_trim

theorem opens_guardTag {src : String} {g : Node} (h : parseGuard src = .ok g) (n : Nat) :
    (guardTag src n).Opens (.conditional "if" g) :=
  .onIf (says_guardTag (trim_ne_nil_of_parseGuard h) n) ((parseGuard_trim src).trans h)

theorem isFirm_endTag (n : Nat) : (endTag n).IsFirm :=
  (isSealed_spacedTag TagKind.noConfusion n isTagSource_end).isFirm

theorem lineFeeds_guardTag (src : String) (n : Nat) :
    lineFeeds (guardTag src n).body = lineFeeds src.toList := by
  show lineFeeds (" if " ++ src ++ " ").toList = _
  have hword : lineFeeds " if ".toList = 0 := by decide
  have hblank : lineFeeds " ".toList = 0 := by decide
  rw [String.toList_append, String.toList_append, lineFeeds_append, lineFeeds_append, hword, hblank]
  omega

section
variable {src p q : String} (hsrc : LiteralsStayOnLine src.toList) (hp : OpensNoTag p.toList)
  (hq : OpensNoTag q.toList) (name : String)

include hsrc hp hq

theorem cut_inset {i : Interpolation} (h : parseInterpolation src = .ok i) :
    cut (p ++ "<%=" ++ src ++ "%>" ++ q).toList =
      ⟨p.toList, [(insetTag src (1 + lineFeeds p.toList), q.toList)]⟩ := by
  have hsource : (p ++ "<%=" ++ src ++ "%>" ++ q).toList =
      p.toList ++ ((insetTag src (1 + lineFeeds p.toList)).chars ++ q.toList) := by
    simp [Tag.chars, insetTag, TagKind.mark]
  rw [hsource]
  exact cutFrom_text_tag hp (isFirm_insetTag hsrc h _) rfl (cutFrom_of_opensNoTag hq _)

theorem parse_inset {i : Interpolation} (h : parseInterpolation src = .ok i) :
    parse (p ++ "<%=" ++ src ++ "%>" ++ q) name = .ok ⟨name,
      addText p (.interpolation i.value i.guard (1 + lineFeeds p.toList) :: addText q [])⟩ := by
  have hmakes := ((Makes.nil.text q.toList).writes
    (writes_insetTag h (1 + lineFeeds p.toList))).text p.toList
  rw [String.ofList_toList, String.ofList_toList, List.append_nil] at hmakes
  refine hmakes.parse_eq ?_ name
  rw [lexemes, cut_inset hsrc hp hq h]
  rw [layout_interpolation _ _ _ rfl, assemble_charPieces_tag, assemble_charPieces]

/-- Blanks between the marks of a tag and its expression make no difference. -/
theorem parse_inset_spaced {i : Interpolation} (h : parseInterpolation src = .ok i) :
    parse (p ++ "<%= " ++ src ++ " %>" ++ q) name = .ok ⟨name,
      addText p (.interpolation i.value i.guard (1 + lineFeeds p.toList) :: addText q [])⟩ := by
  have hscan : Token.scan (" " ++ src ++ " ").toList = Token.scan src.toList := by
    rw [String.toList_append, String.toList_append]
    exact scan_spaced src.toList
  have hline : LiteralsStayOnLine (" " ++ src ++ " ").toList := by
    rw [LiteralsStayOnLine, hscan]
    exact hsrc
  have hread : parseInterpolation (" " ++ src ++ " ") = .ok i := by
    rw [parseInterpolation, tokensOf, hscan]
    exact h
  have hsource : p ++ "<%=" ++ (" " ++ src ++ " ") ++ "%>" ++ q =
      p ++ "<%= " ++ src ++ " %>" ++ q := by
    apply String.toList_inj.mp
    simp
  rw [← hsource]
  exact parse_inset hline hp hq name hread

theorem cut_guarded {g : Node} (h : parseGuard src = .ok g) :
    cut (p ++ "<% if " ++ src ++ " %>" ++ q ++ "<% end %>").toList =
      ⟨p.toList, [(guardTag src (1 + lineFeeds p.toList), q.toList),
        (endTag (1 + lineFeeds p.toList + lineFeeds src.toList + lineFeeds q.toList), [])]⟩ := by
  generalize hline : 1 + lineFeeds p.toList = line
  generalize hlast : line + lineFeeds src.toList + lineFeeds q.toList = last
  have hsource : (p ++ "<% if " ++ src ++ " %>" ++ q ++ "<% end %>").toList =
      p.toList ++ ((guardTag src line).chars ++ (q.toList ++ ((endTag last).chars ++ []))) := by
    simp [Tag.chars, guardTag, endTag, spacedTag, TagKind.mark]
  have hempty : cutFrom (last + lineFeeds (endTag last).body) [] = ⟨[], []⟩ := by rw [cutFrom]
  have hend := cutFrom_text_tag hq (isFirm_endTag last) hlast.symm hempty
  rw [← lineFeeds_guardTag src line] at hend
  rw [hsource]
  exact cutFrom_text_tag hp (isFirm_guardTag hsrc h line) hline.symm hend

theorem parse_guarded {g : Node} (h : parseGuard src = .ok g) :
    ∃ text inner, StripsTo p.toList text ∧ StripsTo q.toList inner ∧
      parse (p ++ "<% if " ++ src ++ " %>" ++ q ++ "<% end %>") name = .ok ⟨name,
        addText (String.ofList text)
          [.conditional g (addText (String.ofList inner) []) [] (1 + lineFeeds p.toList)]⟩ := by
  have hcut := cut_guarded hsrc hp hq h
  generalize 1 + lineFeeds p.toList + lineFeeds src.toList + lineFeeds q.toList = last at hcut
  generalize 1 + lineFeeds p.toList = line at hcut ⊢
  obtain ⟨text, inner, htext, hinner, hlayout⟩ :=
    layout_pair true p.toList (guardTag src line) (endTag last) q.toList
  have hblock := (Makes.nil.text inner).conditional .nil (opens_guardTag h line) (says_endTag last)
  have hmakes := hblock.text text
  rw [List.append_nil] at hmakes
  refine ⟨text, inner, htext, hinner, hmakes.parse_eq ?_ name⟩
  rw [lexemes, hcut]
  rw [hlayout, assemble_charPieces_tag, assemble_charPieces_tag]
  rfl

end

/-- Tags end where their expressions do.  Around any expression without a line feed in a literal a
tag holds that expression and nothing else, whatever else its literals hold and whatever text
stands around it.  An interpolation leaves the text as it is; a conditional takes at most blanks at
its ends away. -/
theorem tags_of_expression {src p q : String} (hsrc : LiteralsStayOnLine src.toList)
    (hp : OpensNoTag p.toList) (hq : OpensNoTag q.toList) (name : String) :
    let line := 1 + lineFeeds p.toList
    (∀ i, parseInterpolation src = .ok i →
      let source := p ++ "<%=" ++ src ++ "%>" ++ q
      cut source.toList = ⟨p.toList, [(insetTag src line, q.toList)]⟩ ∧
      parse source name =
        .ok ⟨name, addText p (.interpolation i.value i.guard line :: addText q [])⟩) ∧
    ∀ g, parseGuard src = .ok g →
      let source := p ++ "<% if " ++ src ++ " %>" ++ q ++ "<% end %>"
      cut source.toList = ⟨p.toList, [(guardTag src line, q.toList),
        (endTag (line + lineFeeds src.toList + lineFeeds q.toList), [])]⟩ ∧
      ∃ text inner, StripsTo p.toList text ∧ StripsTo q.toList inner ∧
        parse source name = .ok ⟨name, addText (String.ofList text)
          [.conditional g (addText (String.ofList inner) []) [] line]⟩ := by
  intro line
  constructor
  · intro i hi source
    exact ⟨cut_inset hsrc hp hq hi, parse_inset hsrc hp hq name hi⟩
  · intro g hg source
    exact ⟨cut_guarded hsrc hp hq hg, parse_guarded hsrc hp hq name hg⟩

/-- An expression whose literals hold starts and ends of tags, and quotes. -/
def delimiters : String := "\"<% \\\" %>\"==\x27%> \" <%\x27"

def delimiterTokens : List Token :=
  [.literal '"' "<% \\\" %>".toList, .sign .equal, .literal '\'' "%> \" <%".toList]

theorem apart_delimiterTokens : Apart [] delimiterTokens := by
  have hdouble : Token.IsValid (.literal '"' "<% \\\" %>".toList) :=
    ⟨.inl rfl, by simp [literalBody?, isPlainInLiteral, isEscapable]⟩
  have hsingle : Token.IsValid (.literal '\'' "%> \" <%".toList) :=
    ⟨.inr rfl, by simp [literalBody?, isPlainInLiteral]⟩
  have hequal (rest : List Char) : Token.EndsBefore rest (.sign .equal) := by
    intro h
    cases h
  exact ⟨hdouble, trivial, trivial, hequal _, hsingle, trivial, trivial⟩

theorem scan_delimiters : Token.scan delimiters.toList = .ok delimiterTokens := by
  have hchars : delimiters.toList = delimiterTokens.flatMap Token.chars := by decide +kernel
  have hscan := scan_flatMap_append apart_delimiterTokens
  rw [List.append_nil, ← hchars, scan_nil] at hscan
  exact hscan

theorem isGuard_delimiterTokens :
    IsGuard delimiterTokens (.comparison (.text "<% \" %>") (.text "%> \" <%") false) :=
  .compare (.equal .literal .literal)

theorem literalsStayOnLine_delimiters : LiteralsStayOnLine delimiters.toList := by
  intro ts hts quote body hm
  obtain rfl := Except.ok.inj (scan_delimiters.symm.trans hts)
  simp only [delimiterTokens, List.mem_cons, Token.literal.injEq, List.not_mem_nil, or_false,
    reduceCtorEq, false_or] at hm
  obtain ⟨-, rfl⟩ | ⟨-, rfl⟩ := hm
  · decide
  · decide

theorem tokensOf_delimiters : tokensOf delimiters = .ok delimiterTokens :=
  tokensOf_eq_ok_iff.mpr scan_delimiters

/-- The text in front ends with the first half of a tag's start, and the text behind starts with
the end of one. -/
theorem tags_of_delimiters : ∃ g,
    parseGuard delimiters = .ok g ∧
    parse ("1 <" ++ "<%=" ++ delimiters ++ "%>" ++ "%> 2") "marks" = .ok ⟨"marks",
      [.text "1 <", .interpolation g none 1, .text "%> 2"]⟩ ∧
    (cut ("1 <" ++ "<% if " ++ delimiters ++ " %>" ++ "%> 2" ++ "<% end %>").toList).tags.map
      (·.1.body) = [(" if " ++ delimiters ++ " ").toList, " end ".toList] := by
  have hguard := (recognizes_guard.eq_ok_iff _ _).mpr
    ⟨_, tokensOf_delimiters, isGuard_delimiterTokens⟩
  have hinset := (recognizes_interpolation.eq_ok_iff _ _).mpr
    ⟨_, tokensOf_delimiters, .plain isGuard_delimiterTokens⟩
  have hfront : OpensNoTag "1 <".toList := by unfold OpensNoTag; decide
  have hback : OpensNoTag "%> 2".toList := by unfold OpensNoTag; decide
  have htags := tags_of_expression literalsStayOnLine_delimiters hfront hback "marks"
  refine ⟨_, hguard, (htags.1 _ hinset).2, ?_⟩
  rw [(htags.2 _ hguard).1]
  rfl

end Scaffold.Template
