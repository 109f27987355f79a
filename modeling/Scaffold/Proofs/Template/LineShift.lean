import Scaffold.Proofs.Computation
import Scaffold.Proofs.Template.Rendering
import Scaffold.Proofs.Template.TagPlace

/-! Lines are counted and never looked at.  A source that starts some lines further down has the
same tags, tree and text, all of its lines further down by as many. -/
namespace Scaffold.Template
open Expression Scaffold.Text

/-! ### Lines further down -/

def Tag.shift (k : Nat) (t : Tag) : Tag := { t with line := t.line + k }

def Piece.shift (k : Nat) : Piece → Piece
  | .char c => .char c
  | .tag t => .tag (t.shift k)

def Lexeme.shift (k : Nat) : Lexeme → Lexeme
  | .text s => .text s
  | .tag t => .tag (t.shift k)

mutual
def Phrase.shift (k : Nat) : Phrase → Phrase
  | .text s => .text s
  | .interpolation t i => .interpolation (t.shift k) i
  | .conditional o g body c => .conditional (o.shift k) g (bodyShift k body) (c.shift k)
  | .alternative o g body m other c =>
    .alternative (o.shift k) g (bodyShift k body) (m.shift k) (bodyShift k other) (c.shift k)
  | .loop o binder p body c => .loop (o.shift k) binder p (bodyShift k body) (c.shift k)

def bodyShift (k : Nat) : List Phrase → List Phrase
  | [] => []
  | p :: ps => p.shift k :: bodyShift k ps
end

mutual
def Chunk.shift (k : Nat) : Chunk → Chunk
  | .text s => .text s
  | .interpolation value guard line => .interpolation value guard (line + k)
  | .conditional guard whenTrue whenFalse line =>
    .conditional guard (chunksShift k whenTrue) (chunksShift k whenFalse) (line + k)
  | .iteration binder collection body line =>
    .iteration binder collection (chunksShift k body) (line + k)

def chunksShift (k : Nat) : List Chunk → List Chunk
  | [] => []
  | c :: cs => c.shift k :: chunksShift k cs
end

variable (k : Nat)

/-! ### Cutting and lexing -/

/-- Where a source starts decides the lines of its tags alone. -/
theorem pieces_cutFrom_add (n : Nat) (cs : List Char) :
    (cutFrom (n + k) cs).pieces = (cutFrom n cs).pieces.map (Piece.shift k) := by
  fun_induction cutFrom n cs with
  | case1 =>
    rw [cutFrom]
    rfl
  | case2 n c rest kind body after heq r ih =>
    rw [cutFrom]
    split
    next heq' =>
      cases heq.symm.trans heq'
      rw [pieces_tag_cons, pieces_tag_cons, List.map_cons, ← ih, Nat.add_right_comm]
      rfl
    next heq' => exact absurd (heq.symm.trans heq') (by simp)
  | case3 n c rest heq r ih =>
    rw [cutFrom]
    split
    next heq' => exact absurd (heq'.symm.trans heq) (by simp)
    next =>
      have hline : (if c = '\n' then n + k + 1 else n + k) =
          (if c = '\n' then n + 1 else n) + k := by
        split <;> omega
      rw [pieces_char_cons, pieces_char_cons, List.map_cons, ← ih, hline]
      rfl

variable {k}

theorem shift_eq_feed_iff {p : Piece} : p.shift k = .feed ↔ p = .feed := by
  cases p <;> simp [Piece.shift, Piece.feed]

theorem logicalLines_shift (ps : List Piece) : logicalLines (ps.map (Piece.shift k)) =
    (logicalLines ps).map (List.map (Piece.shift k)) := by
  induction ps with
  | nil => rfl
  | cons p ps ih =>
    by_cases hp : p = .feed
    · subst hp
      rw [List.map_cons, shift_eq_feed_iff.mpr rfl, logicalLines_feed, logicalLines_feed, ih]
      rfl
    · rw [List.map_cons, logicalLines, if_neg (mt shift_eq_feed_iff.mp hp), ih, logicalLines,
        if_neg hp]
      cases logicalLines ps <;> rfl

theorem isTag_shift (p : Piece) : (p.shift k).isTag = p.isTag := by
  cases p <;> rfl

theorem isQuiet_shift (p : Piece) : (p.shift k).isQuiet = p.isQuiet := by
  cases p <;> rfl

theorem keptOf_shift (line : List Piece) :
    keptOf (line.map (Piece.shift k)) = (keptOf line).map (Piece.shift k) := by
  have hcontrol : isControlLine (line.map (Piece.shift k)) = isControlLine line := by
    simp only [isControlLine, List.any_map, List.all_map, Function.comp_def, isTag_shift,
      isQuiet_shift]
  rw [keptOf, keptOf, hcontrol]
  split
  · simp only [List.filter_map, Function.comp_def, isTag_shift]
  · rfl

theorem kept_shift (ps : List Piece) :
    kept false (ps.map (Piece.shift k)) = (kept false ps).map (Piece.shift k) := by
  rw [kept_false, kept_false, logicalLines_shift, List.flatMap_map, List.map_flatMap]
  simp only [keptOf_shift]

theorem assemble_shift (ps : List Piece) :
    assemble (ps.map (Piece.shift k)) = (assemble ps).map (Lexeme.shift k) := by
  induction ps with
  | nil => rfl
  | cons p ps ih =>
    cases p with
    | tag t => exact congrArg (Lexeme.tag (t.shift k) :: ·) ih
    | char c =>
      rw [List.map_cons, Piece.shift, assemble, assemble, ih]
      cases assemble ps with
      | nil => rfl
      | cons l ls => cases l <;> rfl

theorem withoutComments_shift (ls : List Lexeme) :
    withoutComments (ls.map (Lexeme.shift k)) = (withoutComments ls).map (Lexeme.shift k) := by
  rw [withoutComments, withoutComments, List.filter_map]
  congr 2
  funext l
  cases l <;> rfl

/-! ### Derivations -/

theorem Tag.Says.shift {t : Tag} {word : String} {rest : List Char} (h : t.Says word rest) :
    (t.shift k).Says word rest := h

theorem Tag.Writes.shift {t : Tag} {i : Interpolation} (h : t.Writes i) :
    (t.shift k).Writes i := h

theorem Tag.Opens.shift {t : Tag} {o : Opening} (h : t.Opens o) : (t.shift k).Opens o := by
  cases h with
  | onIf hs hg => exact .onIf hs.shift hg
  | onUnless hs hg => exact .onUnless hs.shift hg
  | onEach hs hi hp => exact .onEach hs.shift hi hp

mutual
theorem lexemes_shift (p : Phrase) : (p.shift k).lexemes = p.lexemes.map (Lexeme.shift k) := by
  cases p <;> simp [Phrase.shift, Phrase.lexemes, bodyLexemes_shift, Lexeme.shift]

theorem bodyLexemes_shift (ps : List Phrase) :
    bodyLexemes (bodyShift k ps) = (bodyLexemes ps).map (Lexeme.shift k) := by
  cases ps with
  | nil => rfl
  | cons p ps => rw [bodyShift, bodyLexemes, bodyLexemes, lexemes_shift, bodyLexemes_shift,
      List.map_append]
end

mutual
theorem isDerivation_shift {p : Phrase} (h : p.IsDerivation) : (p.shift k).IsDerivation := by
  cases p with
  | text s => trivial
  | interpolation t i => exact Tag.Writes.shift h
  | conditional o g body c =>
    obtain ⟨⟨word, ho⟩, hb, hc⟩ := h
    exact ⟨⟨word, ho.shift⟩, bodyIsDerivation_shift hb, hc.shift⟩
  | alternative o g body m other c =>
    obtain ⟨⟨word, ho⟩, hb, hm, hother, hc⟩ := h
    exact ⟨⟨word, ho.shift⟩, bodyIsDerivation_shift hb, hm.shift, bodyIsDerivation_shift hother,
      hc.shift⟩
  | loop o binder p body c =>
    obtain ⟨ho, hb, hc⟩ := h
    exact ⟨ho.shift, bodyIsDerivation_shift hb, hc.shift⟩

theorem bodyIsDerivation_shift {ps : List Phrase} (h : BodyIsDerivation ps) :
    BodyIsDerivation (bodyShift k ps) := by
  cases ps with
  | nil => trivial
  | cons p ps => exact ⟨isDerivation_shift h.1, bodyIsDerivation_shift h.2⟩
end

/-- Lexemes further down have the derivation further down. -/
theorem Derives.shift {body : List Phrase} {ps : List Piece}
    (h : Derives body (withoutComments (assemble ps))) (k : Nat) :
    Derives (bodyShift k body) (withoutComments (assemble (ps.map (Piece.shift k)))) := by
  obtain ⟨hb, hl⟩ := h
  refine ⟨bodyIsDerivation_shift hb, ?_⟩
  rw [bodyLexemes_shift, hl, assemble_shift, withoutComments_shift]

mutual
theorem chunk_shift (p : Phrase) : (p.shift k).chunk = p.chunk.shift k := by
  cases p <;> simp [Phrase.shift, Phrase.chunk, Chunk.shift, bodyChunks_shift, chunksShift,
    Tag.shift]

theorem bodyChunks_shift (ps : List Phrase) :
    bodyChunks (bodyShift k ps) = chunksShift k (bodyChunks ps) := by
  cases ps with
  | nil => rfl
  | cons p ps => rw [bodyShift, bodyChunks, bodyChunks, chunksShift, chunk_shift, bodyChunks_shift]
end

/-! ### Rendering -/

section
variable (own : Model.Ownership)

/-- A failure some lines further down. -/
def furtherDown (k : Nat) (e : Nat × Failure) : Nat × Failure := (e.1 + k, e.2)

theorem atLine_add {α : Type} (n : Nat) (x : Except Failure α) :
    atLine (n + k) x = (atLine n x).mapError (furtherDown k) := by
  cases x <;> rfl

mutual
theorem renderChunk_shift (scope : Scope) (c : Chunk) :
    renderChunk own scope (c.shift k) = (renderChunk own scope c).mapError (furtherDown k) := by
  cases c with
  | text s => rfl
  | interpolation value guard line =>
    cases guard with
    | none => exact atLine_add line _
    | some g =>
      simp only [Chunk.shift, renderChunk, atLine_add, mapError_bind]
      congr 1
      funext wanted
      cases wanted <;> rfl
  | conditional guard whenTrue whenFalse line =>
    simp only [Chunk.shift, renderChunk, atLine_add, mapError_bind]
    congr 1
    funext answer
    cases answer with
    | true => exact renderChunks_shift scope whenTrue
    | false => exact renderChunks_shift scope whenFalse
  | iteration binder collection body line =>
    simp only [Chunk.shift, renderChunk, atLine_add, mapError_bind, mapError_mapM]
    congr 1
    funext items
    simp only [renderChunks_shift _ body]
    rfl

/-- Chunks further down make the same text or fail that much further down. -/
theorem renderChunks_shift (scope : Scope) (cs : List Chunk) :
    renderChunks own scope (chunksShift k cs) =
      (renderChunks own scope cs).mapError (furtherDown k) := by
  cases cs with
  | nil => rfl
  | cons c cs =>
    simp only [chunksShift, renderChunks_cons, renderChunk_shift scope c,
      renderChunks_shift scope cs, mapError_bind]
    rfl
end

end

end Scaffold.Template
