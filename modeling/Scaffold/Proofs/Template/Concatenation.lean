import Mathlib.Data.List.Induction
import Scaffold.Proofs.Template.LineShift
import Scaffold.Proofs.Template.Outline
import Scaffold.Proofs.Template.Sealing

/-! Templates one behind the other.  Where the first one ends with a line and nothing in it can
reach over its end, both are cut, lexed and parsed as they are apart, and their texts follow one
another. -/
namespace Scaffold.Template
open Expression Scaffold.Text

/-! ### Cutting -/

/-- A source that ends with a line, opens no tag outside of its tags and has firm tags is cut as it
is, whatever follows. -/
theorem pieces_cutFrom_append {n : Nat} {cs : List Char}
    (hend : cs = [] ∨ cs.getLast? = some '\n')
    (hopen : ¬ [Piece.char '<', Piece.char '%'] <:+: (cutFrom n cs).pieces)
    (hfirm : ∀ t, .tag t ∈ (cutFrom n cs).pieces → t.IsFirm) (rest : List Char) :
    (cutFrom n (cs ++ rest)).pieces =
      (cutFrom n cs).pieces ++ (cutFrom (n + lineFeeds cs) rest).pieces := by
  fun_induction cutFrom n cs with
  | case1 => rfl
  | case2 n c more kind body after heq r ih =>
    rw [pieces_tag_cons] at hopen hfirm ⊢
    have hcs : c :: more = Tag.chars ⟨kind, body, n⟩ ++ after := by
      rw [eq_append_of_tagHere? heq]
      simp [Tag.chars]
    have hcut := pieces_cutFrom_tag (hfirm _ List.mem_cons_self) (after ++ rest)
    have hend : after = [] ∨ after.getLast? = some '\n' := by
      by_cases ha : after = []
      · exact .inl ha
      · rw [hcs, List.getLast?_append_of_ne_nil _ ha] at hend
        exact .inr (hend.resolve_left (by simp [ha]))
    have ih := ih hend (fun h => hopen (h.trans (List.infix_cons (List.infix_refl _))))
      fun t ht => hfirm t (List.mem_cons_of_mem _ ht)
    rw [hcs, List.append_assoc, hcut, ih, lineFeeds_append, lineFeeds_tag, Nat.add_assoc]
    rfl
  | case3 n c more heq r ih =>
    rw [pieces_char_cons] at hopen hfirm ⊢
    have hend := hend.resolve_left (by simp)
    -- the next character is there in front of `rest` already, so no tag starts with this one
    have hnone : tagHere? c (more ++ rest) = none := by
      by_cases hc : c = '<'
      · subst hc
        cases hm : more with
        | nil => simp [hm] at hend
        | cons d later =>
          refine if_neg fun hd => hopen ?_
          obtain rfl : d = '%' := by simpa using hd.2
          change [_, _] <:+: _ :: Cut.pieces (cutFrom _ more)
          rw [hm, pieces_cutFrom_char (by decide)]
          exact ⟨[], _, rfl⟩
      · exact if_neg fun h => hc h.1
    have hmore : more = [] ∨ more.getLast? = some '\n' := by
      by_cases hm : more = []
      · exact .inl hm
      · exact .inr (by rwa [List.getLast?_cons_of_ne_nil hm] at hend)
    have ih := ih hmore (fun h => hopen (h.trans (List.infix_cons (List.infix_refl _))))
      fun t ht => hfirm t (List.mem_cons_of_mem _ ht)
    simp only [dite_eq_ite, line_add_lineFeeds] at ih
    rw [List.cons_append, pieces_cutFrom_of_none hnone, ih]
    rfl

/-- Where a source ends with a line, so do its pieces: no tag ends with a line feed. -/
theorem getLast?_pieces_cutFrom {n : Nat} {cs : List Char} (h : cs.getLast? = some '\n') :
    (cutFrom n cs).pieces.getLast? = some .feed := by
  have hchars : (cutFrom n cs).pieces.flatMap Piece.chars = cs := by
    rw [chars_pieces, chars_cutFrom]
  obtain hnil | ⟨ps, p, hp⟩ := List.eq_nil_or_concat (cutFrom n cs).pieces
  · rw [hnil] at hchars
    simp [← hchars] at h
  · rw [List.concat_eq_append] at hp
    rw [hp] at hchars ⊢
    rw [← hchars, List.flatMap_append, List.flatMap_singleton] at h
    cases p with
    | char c =>
      obtain rfl : c = '\n' := by simpa [Piece.chars] using h
      simp [Piece.feed]
    | tag t =>
      have hlast : t.chars = ('<' :: '%' :: (t.kind.mark ++ t.body ++ ['%'])) ++ ['>'] := by
        simp [Tag.chars]
      rw [Piece.chars, hlast, ← List.append_assoc, List.getLast?_concat] at h
      exact absurd h (by decide)

/-! ### Lexing -/

/-- Behind the end of a line a new line begins, and lines are kept apart. -/
theorem kept_append {ps : List Piece} (h : ps = [] ∨ ps.getLast? = some .feed) (qs : List Piece) :
    kept false (ps ++ qs) = kept false ps ++ kept false qs := by
  rcases h with rfl | h
  · rfl
  · obtain ⟨ps, rfl⟩ := List.getLast?_eq_some_iff.mp h
    rw [List.append_assoc, List.singleton_append]
    simp only [kept_false]
    rw [logicalLines_append_feed, List.flatMap_append]

/-- Pieces are a front that ends with a tag, or is empty, and a text. -/
theorem exists_front (ps : List Piece) : ∃ front s, ps = front ++ charPieces s ∧
    ∀ qs, assemble (front ++ qs) = assemble front ++ assemble qs := by
  induction ps using List.reverseRecOn with
  | nil => exact ⟨[], [], rfl, fun _ => rfl⟩
  | append_singleton ps p ih =>
    cases p with
    | tag t =>
      refine ⟨ps ++ [.tag t], [], by simp, fun qs => ?_⟩
      rw [List.append_assoc, List.singleton_append, assemble_append_tag, assemble_append_tag,
        List.append_assoc]
      rfl
    | char c =>
      obtain ⟨front, s, rfl, hfront⟩ := ih
      exact ⟨front, s ++ [c], by simp, hfront⟩

/-- Pieces are a text and a back that starts with a tag, or is empty. -/
theorem exists_back (ps : List Piece) : ∃ s back, ps = charPieces s ++ back ∧
    ∀ s', assemble (charPieces s' ++ back) = textLexeme s' ++ assemble back := by
  induction ps with
  | nil => exact ⟨[], [], rfl, fun s => by simp [assemble_charPieces, assemble]⟩
  | cons p ps ih =>
    cases p with
    | tag t => exact ⟨[], .tag t :: ps, rfl, fun s => assemble_charPieces_tag s t ps⟩
    | char c =>
      obtain ⟨s, back, rfl, hback⟩ := ih
      exact ⟨c :: s, back, rfl, hback⟩

/-! ### Parsing -/

/-- The text as a body, unless it is empty. -/
def textBody (s : List Char) : List Phrase := if s.isEmpty then [] else [.text s]

theorem bodyLexemes_textBody (s : List Char) : bodyLexemes (textBody s) = textLexeme s := by
  cases s <;> rfl

theorem withoutComments_textLexeme (s : List Char) :
    withoutComments (textLexeme s) = textLexeme s := by
  cases s <;> rfl

theorem withoutComments_append (ls ls' : List Lexeme) :
    withoutComments (ls ++ ls') = withoutComments ls ++ withoutComments ls' :=
  List.filter_append ..

theorem renderChunks_textBody (own : Model.Ownership) (scope : Scope) (s : List Char) :
    renderChunks own scope (bodyChunks (textBody s)) = pure (String.ofList s) := by
  cases s with
  | nil => rfl
  | cons c s =>
    change Except.ok (String.ofList (c :: s) ++ "") = _
    rw [String.append_empty]
    rfl

theorem bodyIsDerivation_textBody (s : List Char) : BodyIsDerivation (textBody s) := by
  cases s with
  | nil => trivial
  | cons c s => exact ⟨trivial, trivial⟩

/-- A text is a node of its own: a body that starts with it goes on behind it. -/
theorem exists_eq_textBody_append {body : List Phrase} {s : List Char} {ls : List Lexeme}
    (h : bodyLexemes body = textLexeme s ++ ls) :
    ∃ rest, body = textBody s ++ rest ∧ bodyLexemes rest = ls := by
  cases s with
  | nil => exact ⟨body, rfl, h⟩
  | cons c s =>
    cases body with
    | nil => cases h
    | cons p rest =>
      cases p with
      | text s' =>
        cases h
        exact ⟨rest, rfl, rfl⟩
      | _ => cases h

theorem Phrase.lexemes_eq_text_or (p : Phrase) :
    (∃ s, p = .text s) ∨ ∃ ls t, p.lexemes = ls ++ [.tag t] := by
  cases p with
  | text s => exact .inl ⟨s, rfl⟩
  | interpolation t i => exact .inr ⟨[], t, rfl⟩
  | conditional o g body c => exact .inr ⟨.tag o :: bodyLexemes body, c, rfl⟩
  | alternative o g body m other c =>
    exact .inr ⟨.tag o :: (bodyLexemes body ++ .tag m :: bodyLexemes other), c, by simp [lexemes]⟩
  | loop o binder p body c => exact .inr ⟨.tag o :: bodyLexemes body, c, rfl⟩

theorem exists_eq_append_textBody {body : List Phrase} {s : List Char} {ls : List Lexeme}
    (h : bodyLexemes body = ls ++ textLexeme s) :
    ∃ front, body = front ++ textBody s ∧ bodyLexemes front = ls := by
  cases s with
  | nil => exact ⟨body, (List.append_nil _).symm, h.trans (List.append_nil _)⟩
  | cons c s =>
    obtain rfl | ⟨front, p, rfl⟩ := List.eq_nil_or_concat body
    · exact absurd h (by simp [bodyLexemes, textLexeme])
    · rw [List.concat_eq_append, bodyLexemes_append] at h
      obtain ⟨s', rfl⟩ | ⟨ls', t, hp⟩ := p.lexemes_eq_text_or
      · obtain ⟨hf, hs⟩ := List.append_inj' h rfl
        cases hs
        exact ⟨front, List.concat_eq_append, hf⟩
      · rw [bodyLexemes, hp, bodyLexemes, List.append_nil, ← List.append_assoc] at h
        obtain ⟨-, ht⟩ := List.append_inj' h rfl
        cases ht

/-- Derivations follow one another like the pieces that they are of; two texts that meet become
one. -/
theorem exists_derives_append {ps qs : List Piece} {a b : List Phrase}
    (ha : Derives a (withoutComments (assemble ps)))
    (hb : Derives b (withoutComments (assemble qs))) :
    ∃ c, Derives c (withoutComments (assemble (ps ++ qs))) ∧ ∀ own scope,
      renderChunks own scope (bodyChunks c) =
        renderChunks own scope (bodyChunks a ++ bodyChunks b) := by
  obtain ⟨front, s, rfl, hfront⟩ := exists_front ps
  obtain ⟨s', back, rfl, hback⟩ := exists_back qs
  obtain ⟨ha, hla⟩ := ha
  obtain ⟨hb, hlb⟩ := hb
  rw [hfront, assemble_charPieces, withoutComments_append, withoutComments_textLexeme] at hla
  rw [hback, withoutComments_append, withoutComments_textLexeme] at hlb
  obtain ⟨f, rfl, hf⟩ := exists_eq_append_textBody hla
  obtain ⟨r, rfl, hr⟩ := exists_eq_textBody_append hlb
  have hfd := (bodyIsDerivation_append.mp ha).1
  have hrd := (bodyIsDerivation_append.mp hb).2
  refine ⟨f ++ (textBody (s ++ s') ++ r), ⟨?_, ?_⟩, fun own scope => ?_⟩
  · exact bodyIsDerivation_append.mpr
      ⟨hfd, bodyIsDerivation_append.mpr ⟨bodyIsDerivation_textBody _, hrd⟩⟩
  · rw [List.append_assoc, ← List.append_assoc (charPieces s), ← charPieces_append, hfront, hback,
      withoutComments_append, withoutComments_append, withoutComments_textLexeme, ← hf, ← hr,
      bodyLexemes_append, bodyLexemes_append, bodyLexemes_textBody]
  · simp only [bodyChunks_append, renderChunks_append, renderChunks_textBody, bind_assoc,
      pure_bind, String.ofList_append, String.append_assoc]

/-! ### Templates one behind the other -/

/-- Where a template that ends with a line, opens no tag outside of its tags and has no line feed in
a literal stands in front of another one, the two together are accepted.  They make the text of the
first and then that of the second, and fail as the first does or, further down by its lines, as the
second does. -/
theorem render_append {first second name : String} {a b : Template}
    (ha : parse first name = .ok a) (hb : parse second name = .ok b)
    (hend : first = "" ∨ first.toList.getLast? = some '\n')
    (hopen : ¬ [Piece.char '<', Piece.char '%'] <:+: (cut first.toList).pieces)
    (hfeed : ∀ t, .tag t ∈ (cut first.toList).pieces → ¬ t.HasFeedInLiteral) :
    ∃ c, parse (first ++ second) name = .ok c ∧ ∀ own scope,
      (∀ s s', a.render own scope = .ok s → b.render own scope = .ok s' →
        c.render own scope = .ok (s ++ s')) ∧
      (∀ e, a.render own scope = .error e → c.render own scope = .error e) ∧
      ∀ s e, a.render own scope = .ok s → b.render own scope = .error e →
        c.render own scope = .error { e with line := e.line + lineFeeds first.toList } := by
  have hfirm : ∀ t, .tag t ∈ (cut first.toList).pieces → t.IsFirm :=
    fun t ht => isFirm_of_parse ha hfeed ht
  have hend : first.toList = [] ∨ first.toList.getLast? = some '\n' :=
    hend.imp_left fun he => by simp [he]
  have hlast : (cut first.toList).pieces = [] ∨
      (cut first.toList).pieces.getLast? = some .feed := by
    refine hend.imp (fun he => ?_) getLast?_pieces_cutFrom
    rw [he, cut, cutFrom]
    rfl
  have hlexemes : lexemes (first ++ second) = assemble (kept false (cut first.toList).pieces ++
      (kept false (cut second.toList).pieces).map (.shift (lineFeeds first.toList))) := by
    rw [lexemes_eq_assemble_kept, String.toList_append, cut,
      pieces_cutFrom_append hend hopen hfirm, ← cut, kept_append hlast, pieces_cutFrom_add,
      kept_shift]
    rfl
  obtain ⟨p, hp, rfl⟩ := parse_eq_ok_iff_exists_derives.mp ha
  obtain ⟨q, hq, rfl⟩ := parse_eq_ok_iff_exists_derives.mp hb
  rw [lexemes_eq_assemble_kept] at hp hq
  obtain ⟨r, hr, hrender⟩ := exists_derives_append hp (hq.shift (lineFeeds first.toList))
  rw [← hlexemes] at hr
  refine ⟨_, parse_eq_ok_iff_exists_derives.mpr ⟨r, hr, rfl⟩, fun own scope => ?_⟩
  have hchunks : renderChunks own scope (bodyChunks r) = do
      let s ← renderChunks own scope (bodyChunks p)
      return s ++ (← (renderChunks own scope (bodyChunks q)).mapError
        (furtherDown (lineFeeds first.toList))) := by
    rw [hrender, renderChunks_append, bodyChunks_shift]
    simp only [renderChunks_shift]
  simp only [render, hchunks]
  cases renderChunks own scope (bodyChunks p) with
  | error e => simp [bind, Except.bind]
  | ok s =>
    cases renderChunks own scope (bodyChunks q) with
    | error e => simp [bind, Except.bind, mapError_error, furtherDown]
    | ok s' => simp [bind, Except.bind, mapError_ok, pure, Except.pure]

/-- A block over three lines. -/
def salutation : List Outline :=
  [.block 0 (.onTrue ⟨"polite", []⟩) [.line [.text "Dear ", .inset (.path ⟨"name", []⟩)]]]

/-- A line that asks for a name of its own. -/
def valediction : List Outline := [.line [.inset (.path ⟨"regards", []⟩)]]

theorem render_append_letter : ∃ c,
    parse (sourceOf salutation ++ sourceOf valediction) "letter" = .ok c ∧
    c.render .empty [[("polite", .bool true), ("name", .text "all"), ("regards", .text "Yours")]] =
      .ok "Dear all\nYours\n" ∧
    c.render .empty [[("polite", .bool true), ("name", .text "all")]] =
      .error ⟨"letter", 4, .unresolved "regards" "regards" .scope⟩ ∧
    c.render .empty [[("polite", .bool true), ("regards", .text "Yours")]] =
      .error ⟨"letter", 2, .unresolved "name" "name" .scope⟩ := by
  have hfirst : bodyIsWritable salutation = true := by decide
  have hsecond : bodyIsWritable valediction = true := by decide
  have hopen : ¬ [Piece.char '<', Piece.char '%'] <:+:
      (cut (sourceOf salutation).toList).pieces := by
    rw [pieces_cut_sourceOf hfirst]
    decide
  have hfeed : ∀ t, .tag t ∈ (cut (sourceOf salutation).toList).pieces →
      ¬ t.HasFeedInLiteral := by
    intro t ht
    have hbodies : (bodyPieces 1 salutation).all
        (Piece.rec (fun _ => true) fun u => !u.body.contains '\n') = true := by decide
    rw [pieces_cut_sourceOf hfirst] at ht
    exact not_hasFeedInLiteral_of_notMem (by simpa using List.all_eq_true.mp hbodies _ ht)
  obtain ⟨c, hc, hrender⟩ := render_append (parse_sourceOf hfirst "letter")
    (parse_sourceOf hsecond "letter") (.inr (by decide)) hopen hfeed
  refine ⟨c, hc, (hrender _ _).1 "Dear all\n" "Yours\n" (by decide) (by decide), ?_, ?_⟩
  · have := (hrender .empty [[("polite", .bool true), ("name", .text "all")]]).2.2 "Dear all\n"
      ⟨"letter", 1, .unresolved "regards" "regards" .scope⟩ (by decide) (by decide)
    rw [this]
    decide
  · exact (hrender _ _).2.1 _ (by decide)

end Scaffold.Template
