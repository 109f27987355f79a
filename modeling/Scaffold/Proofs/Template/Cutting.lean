import Scaffold.Proofs.Expression.Scanning
import Scaffold.Proofs.Template.LogicalLine

/-! Cutting what was written.  Text without an opening angle is no tag, and a tag with a sealed
body, in which every literal is closed and no `%>` stands outside of literals, ends where it
should. -/
namespace Scaffold.Template
open Scaffold.Text

theorem closes_close (rest : List Char) : closes ('%' :: '>' :: rest) = true := rfl

theorem closes_append (cs : List Char) {rest : List Char} (h : closes rest = true) :
    closes (cs ++ rest) = true := by
  induction cs with
  | nil => exact h
  | cons c cs ih =>
    rw [closes, List.cons_append, upToClose?.eq_def]
    split
    · rfl
    · rename_i heq
      cases heq
      rw [Option.isSome_map]
      exact ih
    · rename_i heq
      exact absurd heq (by simp)

theorem bodyToClose?_close (rest : List Char) :
    bodyToClose? ('%' :: '>' :: rest) = some ([], rest) := by
  rw [bodyToClose?]
  exact if_pos ⟨rfl, rfl⟩

/-- A body that is read up to its end, whatever follows, as long as the tag is closed at all. -/
def Sealed (body : List Char) : Prop :=
  ∀ rest, closes rest = true →
    bodyToClose? (body ++ rest) = (bodyToClose? rest).map fun r => (body ++ r.1, r.2)

theorem Sealed.nil : Sealed [] := by
  intro rest _
  simp

theorem Sealed.append {a b : List Char} (ha : Sealed a) (hb : Sealed b) : Sealed (a ++ b) := by
  intro rest h
  rw [List.append_assoc, ha _ (closes_append b h), hb rest h, Option.map_map]
  simp [Function.comp_def]

/-- A character that means nothing to the end of a tag. -/
def isInert (c : Char) : Bool := c != '%' && c != '"' && c != '\''

/-- The characters of a kind that has neither the percent sign nor a quote are inert. -/
theorem isInert_of {kind : Char → Bool} {c : Char}
    (hkind : kind '%' = false ∧ kind '"' = false ∧ kind '\'' = false) (h : kind c = true) :
    isInert c = true := by
  have hne {mark : Char} (hmark : kind mark = false) : c ≠ mark := by
    rintro rfl
    rw [hmark] at h
    cases h
  simp [isInert, hne hkind.1, hne hkind.2.1, hne hkind.2.2]

theorem isInert_of_isNameRest {c : Char} (h : Naming.isNameRest c = true) : isInert c = true :=
  isInert_of (by decide) h

theorem isInert_of_isBlank {c : Char} (h : isBlank c = true) : isInert c = true :=
  isInert_of (by decide) h

theorem sealed_of_isInert {body : List Char} (h : ∀ c ∈ body, isInert c = true) : Sealed body := by
  intro rest hr
  induction body with
  | nil => simp
  | cons c body ih =>
    have hc := h c List.mem_cons_self
    simp only [isInert, Bool.and_eq_true, bne_iff_ne] at hc
    obtain ⟨⟨hp, hd⟩, hs⟩ := hc
    have hl : ∀ cs, literalInTag? c cs = none := by
      intro cs
      rw [literalInTag?, if_neg (by simp [hd, hs])]
    have ih := ih fun d hd => h d (List.mem_cons_of_mem _ hd)
    rw [List.cons_append, bodyToClose?, if_neg (by simp [hp])]
    split
    next literal after heq => exact absurd ((hl _).symm.trans heq) (by simp)
    next =>
      rw [ih, Option.map_map]
      simp [Function.comp_def]

theorem sealed_of_all {body : List Char} (h : body.all isInert = true) : Sealed body :=
  sealed_of_isInert (List.all_eq_true.mp h)

/-- A literal that is read up to its closing quote, whatever follows. -/
theorem sealed_of_literalInTag? {quote : Char} {body : List Char}
    (h : ∀ rest, literalInTag? quote (body ++ quote :: rest) =
      some (quote :: body ++ [quote], rest)) : Sealed (quote :: (body ++ [quote])) := by
  intro rest hr
  have hquote : quote ≠ '%' := by
    rintro rfl
    exact absurd (h []) (by simp [literalInTag?])
  rw [List.cons_append, List.append_assoc, List.singleton_append, bodyToClose?,
    if_neg (by simp [hquote])]
  split
  next literal after heq =>
    cases (h rest).symm.trans heq
    rw [if_pos hr]
    rfl
  next heq => exact absurd ((h rest).symm.trans heq) (by simp)

/-- A literal of tags, which stays on its line. -/
theorem sealed_of_isLiteralBody {quote : Char} {body : List Char} (hq : quote = '"' ∨ quote = '\'')
    (h : IsLiteralBody (· != '\n') (fun _ => true) quote body) :
    Sealed (quote :: (body ++ [quote])) := by
  apply sealed_of_literalInTag?
  intro rest
  rw [literalInTag?, if_pos hq, literalBody?_of_isLiteralBody h]
  rfl

/-- A text in double quotes. -/
theorem sealed_literal {body : List Char} (h : ∀ c ∈ body, c ≠ '"' ∧ c ≠ '\\' ∧ c ≠ '\n') :
    Sealed ('"' :: (body ++ ['"'])) := by
  apply sealed_of_isLiteralBody (.inl rfl)
  apply isLiteralBody_of_forall
  intro c hc
  obtain ⟨hq, hb, hn⟩ := h c hc
  exact ⟨hq, hb, bne_iff_ne.mpr hn⟩

theorem bodyToClose?_of_sealed {body : List Char} (h : Sealed body) (rest : List Char) :
    bodyToClose? (body ++ '%' :: '>' :: rest) = some (body, rest) := by
  rw [h _ (closes_close rest), bodyToClose?_close]
  simp

/-- A tag that is found where it is written, whatever follows. -/
def Tag.IsFirm (t : Tag) : Prop :=
  ∀ rest, tagAfter? (t.kind.mark ++ t.body ++ '%' :: '>' :: rest) = some (t.kind, t.body, rest)

/-- A tag that is no comment and has a sealed body. -/
structure Tag.IsSealed (t : Tag) : Prop where
  kind : t.kind ≠ .comment
  body : Sealed t.body
  unmarked : t.kind = .control → t.body.head? ≠ some '#' ∧ t.body.head? ≠ some '='

theorem Tag.IsSealed.isFirm {t : Tag} (h : t.IsSealed) : t.IsFirm := by
  obtain ⟨kind, body, line⟩ := t
  obtain ⟨hkind, hbody, hmark⟩ := h
  intro rest
  cases kind with
  | comment => exact absurd rfl hkind
  | interpolation =>
    have : tagAfter? ('=' :: (body ++ '%' :: '>' :: rest)) =
        (bodyToClose? (body ++ '%' :: '>' :: rest)).map fun r => (.interpolation, r.1, r.2) := rfl
    rw [TagKind.mark, List.cons_append, List.cons_append, List.nil_append, this,
      bodyToClose?_of_sealed hbody]
    rfl
  | control =>
    obtain ⟨hc, he⟩ := hmark rfl
    rw [TagKind.mark, List.nil_append, tagAfter?.eq_def]
    split
    next more heq =>
      cases body with
      | nil => simp at heq
      | cons c body => simp_all
    next more heq =>
      cases body with
      | nil => simp at heq
      | cons c body => simp_all
    next => simp [bodyToClose?_of_sealed hbody]

/-- Pieces that can be told apart once they are written out from line `n` on: their tags are
sealed and carry the lines they start on. -/
def Numbered (n : Nat) : List Piece → Prop
  | [] => True
  | .char c :: ps => c ≠ '<' ∧ Numbered (if c = '\n' then n + 1 else n) ps
  | .tag t :: ps => t.line = n ∧ t.IsSealed ∧ Numbered (n + lineFeeds t.body) ps

theorem cutFrom_of_none {c : Char} {rest : List Char} (h : tagHere? c rest = none) (line : Nat) :
    cutFrom line (c :: rest) =
      let r := cutFrom (if c = '\n' then line + 1 else line) rest
      ⟨c :: r.lead, r.tags⟩ := by
  rw [cutFrom]
  split
  next heq => exact absurd (h.symm.trans heq) (by simp)
  next => rfl

theorem pieces_cutFrom_of_none {c : Char} {rest : List Char} (h : tagHere? c rest = none)
    (line : Nat) : (cutFrom line (c :: rest)).pieces =
      .char c :: (cutFrom (if c = '\n' then line + 1 else line) rest).pieces := by
  rw [cutFrom_of_none h]
  rfl

theorem pieces_cutFrom_char {c : Char} (h : c ≠ '<') (line : Nat) (rest : List Char) :
    (cutFrom line (c :: rest)).pieces =
      .char c :: (cutFrom (if c = '\n' then line + 1 else line) rest).pieces :=
  pieces_cutFrom_of_none (if_neg fun hc => h hc.1) line

theorem cutFrom_tag {t : Tag} (h : t.IsFirm) (rest : List Char) :
    cutFrom t.line (t.chars ++ rest) =
      let r := cutFrom (t.line + lineFeeds t.body) rest
      ⟨[], (t, r.lead) :: r.tags⟩ := by
  have hhere : tagHere? '<' ('%' :: (t.kind.mark ++ t.body ++ ['%', '>'] ++ rest)) =
      some (t.kind, t.body, rest) := by
    simpa [tagHere?] using h rest
  rw [Tag.chars, List.cons_append, List.cons_append, cutFrom]
  split
  next kind body after heq =>
    cases hhere.symm.trans heq
    rfl
  next heq => exact absurd (hhere.symm.trans heq) (by simp)

theorem pieces_cutFrom_tag {t : Tag} (h : t.IsFirm) (rest : List Char) :
    (cutFrom t.line (t.chars ++ rest)).pieces =
      .tag t :: (cutFrom (t.line + lineFeeds t.body) rest).pieces := by
  rw [cutFrom_tag h]
  simp [Cut.pieces, tagPieces]

/-- What is written out piece by piece is cut into the same pieces. -/
theorem pieces_cutFrom {n : Nat} {ps : List Piece} (h : Numbered n ps) :
    (cutFrom n (ps.flatMap Piece.chars)).pieces = ps := by
  induction ps generalizing n with
  | nil =>
    rw [List.flatMap_nil, cutFrom]
    rfl
  | cons p ps ih =>
    cases p with
    | char c =>
      rw [List.flatMap_cons, Piece.chars, List.singleton_append, pieces_cutFrom_char h.1, ih h.2]
    | tag t =>
      obtain ⟨rfl, ht, hps⟩ := h
      rw [List.flatMap_cons, Piece.chars, pieces_cutFrom_tag ht.isFirm, ih hps]

theorem lineFeeds_append (s t : List Char) : lineFeeds (s ++ t) = lineFeeds s + lineFeeds t :=
  List.count_append

theorem line_add_lineFeeds (n : Nat) (c : Char) (s : List Char) :
    (if c = '\n' then n + 1 else n) + lineFeeds s = n + lineFeeds (c :: s) := by
  rw [lineFeeds, lineFeeds, List.count_cons]
  by_cases hc : c = '\n'
  · simp [hc]
    omega
  · simp [hc]

theorem lineFeeds_tag (t : Tag) : lineFeeds t.chars = lineFeeds t.body := by
  obtain ⟨kind, body, line⟩ := t
  cases kind <;> simp [Tag.chars, TagKind.mark, lineFeeds, List.count_append]

theorem numbered_append {n : Nat} {ps qs : List Piece} : Numbered n (ps ++ qs) ↔
    Numbered n ps ∧ Numbered (n + lineFeeds (ps.flatMap Piece.chars)) qs := by
  induction ps generalizing n with
  | nil => simp [Numbered, lineFeeds]
  | cons p ps ih =>
    cases p with
    | char c =>
      have hline : (if c = '\n' then n + 1 else n) + lineFeeds (ps.flatMap Piece.chars) =
          n + lineFeeds ((Piece.char c :: ps).flatMap Piece.chars) := line_add_lineFeeds n c _
      simp only [List.cons_append, Numbered, ih, hline, and_assoc]
    | tag t =>
      have hline : n + lineFeeds t.body + lineFeeds (ps.flatMap Piece.chars) =
          n + lineFeeds ((Piece.tag t :: ps).flatMap Piece.chars) := by
        rw [List.flatMap_cons, lineFeeds_append, Piece.chars, lineFeeds_tag, Nat.add_assoc]
      simp only [List.cons_append, Numbered, ih, hline, and_assoc]

theorem numbered_charPieces {s : List Char} (h : '<' ∉ s) (n : Nat) :
    Numbered n (charPieces s) := by
  induction s generalizing n with
  | nil => trivial
  | cons c s ih =>
    simp only [List.mem_cons, not_or] at h
    exact ⟨fun hc => h.1 hc.symm, ih h.2 _⟩

end Scaffold.Template
