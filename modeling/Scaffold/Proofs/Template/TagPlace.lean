import Scaffold.Proofs.Template.BlockGrammar
import Scaffold.Proofs.Template.Cutting

/-! Places of tags.  Lexing keeps all tags and their order, whatever it drops around them, and each
carries the number of the line that it starts on. -/
namespace Scaffold.Template
open Scaffold.Text

/-- The tag itself, unless it is a comment. -/
def Tag.active? (t : Tag) : Option Tag := if t.kind = .comment then none else some t

def Piece.active? : Piece → Option Tag
  | .char _ => none
  | .tag t => t.active?

def Lexeme.active? : Lexeme → Option Tag
  | .text _ => none
  | .tag t => t.active?

theorem Tag.active?_eq_some_iff {t u : Tag} : t.active? = some u ↔ t.kind ≠ .comment ∧ t = u := by
  unfold active?
  split <;> simp_all

theorem Piece.eq_tag_of_active? {p : Piece} {t : Tag} (h : p.active? = some t) : p = .tag t := by
  cases p with
  | char c => cases h
  | tag u => rw [(Tag.active?_eq_some_iff.mp h).2]

/-! ### Tags of lexemes -/

theorem filterMap_active?_assemble (ps : List Piece) :
    (assemble ps).filterMap Lexeme.active? = ps.filterMap Piece.active? := by
  induction ps with
  | nil => rfl
  | cons p ps ih =>
    cases p with
    | tag t =>
      rw [assemble, List.filterMap_cons, List.filterMap_cons, ih]
      rfl
    | char c =>
      rw [assemble, List.filterMap_cons_none rfl, ← ih]
      split
      next s ls h => rw [h, List.filterMap_cons_none rfl, List.filterMap_cons_none rfl]
      next => rw [List.filterMap_cons_none rfl]

theorem filterMap_active?_keptOf (line : List Piece) :
    (keptOf line).filterMap Piece.active? = line.filterMap Piece.active? := by
  rw [keptOf]
  split
  · rw [List.filterMap_filter]
    congr 1
    funext p
    cases p <;> rfl
  · rfl

/-- The tags of the lexemes are those of the source, in order. -/
theorem filterMap_active?_lexemes (source : String) : (lexemes source).filterMap Lexeme.active? =
    (cut source.toList).pieces.filterMap Piece.active? := by
  have hkept (ps : List Piece) : ((logicalLines ps).flatMap keptOf).filterMap Piece.active? =
      ps.filterMap Piece.active? := by
    conv => rhs; rw [← flatten_logicalLines ps, List.filterMap_flatten]
    simp only [List.flatMap_def, List.filterMap_flatten, List.map_map, Function.comp_def,
      filterMap_active?_keptOf]
  rw [← hkept, ← kept_false, ← filterMap_active?_assemble, lexemes_eq_assemble_kept]

theorem filterMap_active?_withoutComments (ls : List Lexeme) :
    (withoutComments ls).filterMap Lexeme.active? = ls.filterMap Lexeme.active? := by
  rw [withoutComments, List.filterMap_filter]
  congr 1
  funext l
  cases l with
  | text s => rfl
  | tag t =>
    by_cases ht : t.kind = .comment <;> simp [Lexeme.active?, Tag.active?, ht]

/-! ### Lines of tags -/

theorem pieces_tag_cons (t : Tag) (c : Cut) :
    Cut.pieces ⟨[], (t, c.lead) :: c.tags⟩ = .tag t :: c.pieces := by
  simp [Cut.pieces, tagPieces]

theorem pieces_char_cons (c : Char) (r : Cut) :
    Cut.pieces ⟨c :: r.lead, r.tags⟩ = .char c :: r.pieces := rfl

/-- A tag carries the number of the first line plus that of the line feeds in front of it, those
within tags among them. -/
theorem line_eq_of_pieces_cutFrom (n : Nat) (cs : List Char) {qs : List Piece} {t : Tag} :
    ∀ ps, (cutFrom n cs).pieces = ps ++ .tag t :: qs →
      t.line = n + lineFeeds (ps.flatMap Piece.chars) := by
  fun_induction cutFrom n cs with
  | case1 => simp [Cut.pieces, tagPieces]
  | case2 n c rest kind body after heq r ih =>
    intro ps h
    rw [pieces_tag_cons] at h
    cases ps with
    | nil =>
      cases h
      rfl
    | cons p ps =>
      obtain ⟨rfl, hrest⟩ := List.cons.inj h
      rw [ih ps hrest, List.flatMap_cons, lineFeeds_append, Piece.chars, lineFeeds_tag,
        Nat.add_assoc]
  | case3 n c rest heq r ih =>
    intro ps h
    rw [pieces_char_cons] at h
    cases ps with
    | nil => cases h
    | cons p ps =>
      obtain ⟨rfl, hrest⟩ := List.cons.inj h
      rw [ih ps hrest, List.flatMap_cons, lineFeeds_append, Piece.chars, ← Nat.add_assoc]
      congr 1
      by_cases hc : c = '\n' <;> simp [lineFeeds, hc]

/-! ### Places -/

/-- The tag stands in the source behind the text `before`, and `earlier` are the tags in there but
for comments. -/
def Tag.StandsIn (source : String) (earlier : List Tag) (before : List Char) (t : Tag) : Prop :=
  ∃ ps qs, (cut source.toList).pieces = ps ++ .tag t :: qs ∧ ps.flatMap Piece.chars = before ∧
    ps.filterMap Piece.active? = earlier

/-- A tag among the lexemes that count stands in the source, behind the same tags, on the line that
it carries. -/
theorem exists_standsIn {source : String} {pre post : List Lexeme} {t : Tag}
    (h : withoutComments (lexemes source) = pre ++ .tag t :: post) :
    ∃ before, t.StandsIn source (pre.filterMap Lexeme.active?) before ∧
      before ++ t.chars <+: source.toList ∧ t.line = 1 + lineFeeds before := by
  have ht : Lexeme.active? (.tag t) = some t := by
    have hmem : Lexeme.tag t ∈ withoutComments (lexemes source) := by simp [h]
    have hkind : t.kind ≠ .comment := by simpa [withoutComments] using (List.mem_filter.mp hmem).2
    exact Tag.active?_eq_some_iff.mpr ⟨hkind, rfl⟩
  have hactive : (cut source.toList).pieces.filterMap Piece.active? =
      pre.filterMap Lexeme.active? ++ t :: post.filterMap Lexeme.active? := by
    rw [← filterMap_active?_lexemes, ← filterMap_active?_withoutComments, h, List.filterMap_append,
      List.filterMap_cons_some ht]
  -- The pieces split where their tags do; what stands between the parts holds no tags but comments.
  obtain ⟨front, back, hpieces, hfront, hback⟩ := List.filterMap_eq_append_iff.mp hactive
  obtain ⟨gap, p, qs, rfl, hgap, hp, -⟩ := List.filterMap_eq_cons_iff.mp hback
  rw [Piece.eq_tag_of_active? hp, ← List.append_assoc] at hpieces
  have hsource : (cut source.toList).pieces.flatMap Piece.chars = source.toList := by
    rw [chars_pieces]
    exact chars_cutFrom 1 source.toList
  refine ⟨(front ++ gap).flatMap Piece.chars, ⟨front ++ gap, qs, hpieces, rfl, ?_⟩, ?_, ?_⟩
  · rw [List.filterMap_append, hfront, List.filterMap_eq_nil_iff.mpr hgap, List.append_nil]
  · refine ⟨qs.flatMap Piece.chars, ?_⟩
    rw [← hsource, hpieces]
    simp only [List.flatMap_append, List.flatMap_cons, List.append_assoc, Piece.chars]
  · exact line_eq_of_pieces_cutFrom 1 _ _ hpieces

end Scaffold.Template
