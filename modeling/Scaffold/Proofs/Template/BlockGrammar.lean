import Scaffold.Proofs.Expression.Scanning
import Scaffold.Template.Basic

/-! The block grammar of templates.  A derivation is a tree over the lexemes of a template; reading
the tags with a stack of open blocks succeeds exactly where there is one, and makes its chunks. -/
namespace Scaffold.Template
open Expression Scaffold.Text

/-! ### Tags -/

/-- A control tag that consists of a word and what follows it. -/
def Tag.Says (t : Tag) (word : String) (rest : List Char) : Prop :=
  t.kind = .control ∧ firstWord (trim t.body) = (word.toList, rest)

/-- What follows `each`: a name, blanks, `in`, blanks and a path. -/
def IsIteration (rest binder path : List Char) : Prop :=
  ∃ c more gap g collection, binder = c :: more ∧ Naming.isNameStart c = true ∧
    more.all Naming.isNameRest = true ∧ gap ≠ [] ∧ allBlank gap = true ∧ isBlank g = true ∧
    rest = binder ++ gap ++ 'i' :: 'n' :: g :: collection ∧ path = trim collection ∧ path ≠ []

/-- Tags that open a block, with what their block starts with. -/
inductive Tag.Opens : Tag → Opening → Prop
  | onIf {t : Tag} {rest : List Char} {g : Node} : t.Says "if" rest →
      parseGuard (String.ofList rest) = .ok g → t.Opens (.conditional "if" g)
  | onUnless {t : Tag} {rest : List Char} {g : Node} : t.Says "unless" rest →
      parseGuard (String.ofList rest) = .ok g → t.Opens (.conditional "unless" (.negation g))
  | onEach {t : Tag} {rest binder path : List Char} {p : Path} : t.Says "each" rest →
      IsIteration rest binder path → parsePath (String.ofList path) = .ok p →
      t.Opens (.iteration (String.ofList binder) p)

/-- Tags with a value to write. -/
def Tag.Writes (t : Tag) (i : Interpolation) : Prop :=
  t.kind = .interpolation ∧ parseInterpolation (String.ofList (trim t.body)) = .ok i

/-! ### Derivations -/

/-- A node of a derivation: `text | interpolation | cond | loop`, where `cond` is
`(if | unless) body [else body] end` and `loop` is `each body end`. -/
inductive Phrase where
  | text (s : List Char)
  | interpolation (t : Tag) (i : Interpolation)
  | conditional (opening : Tag) (guard : Node) (body : List Phrase) (closing : Tag)
  | alternative (opening : Tag) (guard : Node) (body : List Phrase) (middle : Tag)
      (other : List Phrase) (closing : Tag)
  | loop (opening : Tag) (binder : String) (collection : Path) (body : List Phrase) (closing : Tag)

mutual
/-- The lexemes that a node derives. -/
def Phrase.lexemes : Phrase → List Lexeme
  | .text s => [.text s]
  | .interpolation t _ => [.tag t]
  | .conditional o _ body c => .tag o :: (bodyLexemes body ++ [.tag c])
  | .alternative o _ body m other c =>
    .tag o :: (bodyLexemes body ++ .tag m :: (bodyLexemes other ++ [.tag c]))
  | .loop o _ _ body c => .tag o :: (bodyLexemes body ++ [.tag c])

/-- The lexemes that a body derives. -/
def bodyLexemes : List Phrase → List Lexeme
  | [] => []
  | p :: ps => p.lexemes ++ bodyLexemes ps
end

mutual
/-- Every tag of a node is what the grammar asks for at its place. -/
def Phrase.IsDerivation : Phrase → Prop
  | .text _ => True
  | .interpolation t i => t.Writes i
  | .conditional o g body c =>
    (∃ word, o.Opens (.conditional word g)) ∧ BodyIsDerivation body ∧ c.Says "end" []
  | .alternative o g body m other c => (∃ word, o.Opens (.conditional word g)) ∧
    BodyIsDerivation body ∧ m.Says "else" [] ∧ BodyIsDerivation other ∧ c.Says "end" []
  | .loop o binder p body c =>
    o.Opens (.iteration binder p) ∧ BodyIsDerivation body ∧ c.Says "end" []

def BodyIsDerivation : List Phrase → Prop
  | [] => True
  | p :: ps => p.IsDerivation ∧ BodyIsDerivation ps
end

mutual
/-- The chunk of a node: a branch that is missing is empty. -/
def Phrase.chunk : Phrase → Chunk
  | .text s => .text (String.ofList s)
  | .interpolation t i => .interpolation i.value i.guard t.line
  | .conditional o g body _ => .conditional g (bodyChunks body) [] o.line
  | .alternative o g body _ other _ => .conditional g (bodyChunks body) (bodyChunks other) o.line
  | .loop o binder p body _ => .iteration binder p (bodyChunks body) o.line

def bodyChunks : List Phrase → List Chunk
  | [] => []
  | p :: ps => p.chunk :: bodyChunks ps
end

@[simp] theorem bodyLexemes_append (ps qs : List Phrase) :
    bodyLexemes (ps ++ qs) = bodyLexemes ps ++ bodyLexemes qs := by
  induction ps with
  | nil => rfl
  | cons p ps ih => simp [bodyLexemes, ih]

@[simp] theorem bodyChunks_append (ps qs : List Phrase) :
    bodyChunks (ps ++ qs) = bodyChunks ps ++ bodyChunks qs := by
  induction ps with
  | nil => rfl
  | cons p ps ih => simp [bodyChunks, ih]

@[simp] theorem bodyIsDerivation_append {ps qs : List Phrase} :
    BodyIsDerivation (ps ++ qs) ↔ BodyIsDerivation ps ∧ BodyIsDerivation qs := by
  induction ps with
  | nil => simp [BodyIsDerivation]
  | cons p ps ih => simp [BodyIsDerivation, ih, and_assoc]

/-! ### Reading tags -/

/-- What a control tag does, by what it says. -/
inductive Tag.Does : Tag → Control → Prop
  | opens {t : Tag} {o : Opening} : t.Opens o → t.Does (.openBlock o)
  | otherwise {t : Tag} : t.Says "else" [] → t.Does .elseBranch
  | closes {t : Tag} : t.Says "end" [] → t.Does .closeBlock

theorem isIteration_of_splitIteration? {rest binder path : List Char}
    (h : splitIteration? rest = some (binder, path)) : IsIteration rest binder path := by
  unfold splitIteration? at h
  split at h
  next => simp at h
  next c more =>
    split at h
    next hc =>
      split at h
      next => simp at h
      next gap later hd =>
        split at h
        next hgap =>
          split at h
          next g collection ht =>
            split at h
            next hg =>
              simp only [Option.ite_none_left_eq_some, Option.some.injEq, Prod.mk.injEq] at h
              obtain ⟨hne, rfl, rfl⟩ := h
              have hmore : more = more.takeWhile Naming.isNameRest ++ gap ::
                  (later.takeWhile isBlank ++ 'i' :: 'n' :: g :: collection) := by
                rw [← ht, trimLeft, List.takeWhile_append_dropWhile, ← hd,
                  List.takeWhile_append_dropWhile]
              refine ⟨c, more.takeWhile Naming.isNameRest, gap :: later.takeWhile isBlank, g,
                collection, rfl, hc, List.all_takeWhile, by simp, ?_, hg, ?_, rfl, ?_⟩
              · simp [allBlank, hgap]
              · conv => lhs; rw [hmore]
                simp
              · simpa using hne
            next => simp at h
          next => simp at h
        next => simp at h
    next => simp at h

theorem splitIteration?_of_isIteration {rest binder path : List Char}
    (h : IsIteration rest binder path) : splitIteration? rest = some (binder, path) := by
  obtain ⟨c, more, gap, g, collection, rfl, hc, hm, hne, hgap, hg, rfl, rfl, hp⟩ := h
  obtain ⟨g₀, gap, rfl⟩ := List.exists_cons_of_ne_nil hne
  obtain ⟨hg₀, hgap⟩ := Bool.and_eq_true_iff.mp hgap
  have hmore : ∀ d ∈ more, Naming.isNameRest d = true := List.all_eq_true.mp hm
  have hblank : ∀ d ∈ gap, isBlank d = true := List.all_eq_true.mp hgap
  have hi : isBlank 'i' = false := by decide
  simp only [List.cons_append, List.append_assoc, splitIteration?, hc, ↓reduceIte,
    List.takeWhile_append_of_pos hmore, List.dropWhile_append_of_pos hmore,
    List.takeWhile_cons, List.dropWhile_cons, isNameRest_of_isBlank hg₀, Bool.false_eq_true,
    hg₀, trimLeft, List.dropWhile_append_of_pos hblank, hi, hg, List.append_nil]
  simpa using hp

theorem does_of_readControl {t : Tag} (ht : t.kind = .control) {c : Control}
    (h : readControl (trim t.body) = .ok c) : t.Does c := by
  obtain ⟨word, rest, hw⟩ : ∃ word rest, firstWord (trim t.body) = (word, rest) := ⟨_, _, rfl⟩
  simp only [readControl, hw] at h
  split at h
  next hif =>
    split at h
    next g hg =>
      cases h
      exact .opens (.onIf ⟨ht, hif ▸ hw⟩ hg)
    next => simp at h
  next =>
  split at h
  next hunless =>
    split at h
    next g hg =>
      cases h
      exact .opens (.onUnless ⟨ht, hunless ▸ hw⟩ hg)
    next => simp at h
  next =>
  split at h
  next heach =>
    split at h
    next => simp at h
    next binder path hs =>
      split at h
      next p hp =>
        cases h
        exact .opens (.onEach ⟨ht, heach ▸ hw⟩ (isIteration_of_splitIteration? hs) hp)
      next => simp at h
  next =>
  split at h
  next helse =>
    cases h
    exact .otherwise ⟨ht, by rw [hw, helse.1, helse.2]⟩
  next =>
  split at h
  next hend =>
    cases h
    exact .closes ⟨ht, by rw [hw, hend.1, hend.2]⟩
  next => simp at h

theorem Tag.Does.readControl_eq {t : Tag} {c : Control} (h : t.Does c) :
    readControl (trim t.body) = .ok c := by
  cases h with
  | opens ho =>
    cases ho with
    | onIf hs hg => simp [readControl, hs.2, hg]
    | onUnless hs hg => simp [readControl, hs.2, hg]
    | onEach hs hi hp => simp [readControl, hs.2, splitIteration?_of_isIteration hi, hp]
  | otherwise hs => simp [readControl, hs.2]
  | closes hs => simp [readControl, hs.2]

theorem Tag.Does.kind_eq {t : Tag} {c : Control} (h : t.Does c) : t.kind = .control := by
  cases h with
  | opens ho =>
    cases ho with
    | onIf hs _ => exact hs.1
    | onUnless hs _ => exact hs.1
    | onEach hs _ _ => exact hs.1
  | otherwise hs => exact hs.1
  | closes hs => exact hs.1

/-- A tag does one thing. -/
theorem Tag.Does.unique {t : Tag} {c d : Control} (hc : t.Does c) (hd : t.Does d) : c = d :=
  Except.ok.inj (hc.readControl_eq.symm.trans hd.readControl_eq)

theorem Tag.Writes.unique {t : Tag} {i j : Interpolation} (hi : t.Writes i) (hj : t.Writes j) :
    i = j :=
  Except.ok.inj (hi.2.symm.trans hj.2)

/-! ### One lexeme -/

theorem step_of_comment {t : Tag} (h : t.kind = .comment) (b : Builder) :
    b.step (.tag t) = .ok b := by
  simp [Builder.step, Builder.tag, h, mapError_ok]

theorem Tag.Writes.step_eq {t : Tag} {i : Interpolation} (h : t.Writes i) (b : Builder) :
    b.step (.tag t) = .ok (b.add (.interpolation i.value i.guard t.line)) := by
  simp [Builder.step, Builder.tag, h.1, h.2, mapError_ok]

theorem Tag.Does.step_eq {t : Tag} {c : Control} (h : t.Does c) (b : Builder) :
    b.step (.tag t) = (b.control t.line c).mapError (⟨t.line, ·⟩) := by
  simp [Builder.step, Builder.tag, h.kind_eq, h.readControl_eq]

/-- All that a step can do. -/
theorem step_cases {b b' : Builder} {l : Lexeme} (h : b.step l = .ok b') :
    (∃ s, l = .text s ∧ b' = b.add (.text (String.ofList s))) ∨
    (∃ t, l = .tag t ∧ t.kind = .comment ∧ b' = b) ∨
    (∃ t i, l = .tag t ∧ t.Writes i ∧ b' = b.add (.interpolation i.value i.guard t.line)) ∨
    (∃ t c, l = .tag t ∧ t.Does c ∧ b.control t.line c = .ok b') := by
  cases l with
  | text s => exact .inl ⟨s, rfl, (Except.ok.inj h).symm⟩
  | tag t =>
    right
    cases hk : t.kind with
    | comment =>
      rw [step_of_comment hk] at h
      exact .inl ⟨t, rfl, hk, (Except.ok.inj h).symm⟩
    | interpolation =>
      cases hi : parseInterpolation (String.ofList (trim t.body)) with
      | error e => simp [Builder.step, Builder.tag, hk, hi, mapError_error] at h
      | ok i =>
        have hw : t.Writes i := ⟨hk, hi⟩
        rw [hw.step_eq] at h
        exact .inr (.inl ⟨t, i, rfl, hw, (Except.ok.inj h).symm⟩)
    | control =>
      cases hc : readControl (trim t.body) with
      | error e => simp [Builder.step, Builder.tag, hk, hc, mapError_error] at h
      | ok c =>
        have hd := does_of_readControl hk hc
        rw [hd.step_eq] at h
        refine .inr (.inr ⟨t, c, rfl, hd, ?_⟩)
        cases hb : b.control t.line c with
        | error e => simp [hb, mapError_error] at h
        | ok b₁ => simpa [hb, mapError_ok] using h

/-! ### A derivation is accepted -/

theorem foldl_blockAdd_none (cs : List Chunk) (o : Opening) (line : Nat) (first : List Chunk) :
    cs.foldl Block.add ⟨o, line, first, none⟩ = ⟨o, line, cs.reverse ++ first, none⟩ := by
  induction cs generalizing first with
  | nil => rfl
  | cons c cs ih => simp [Block.add, ih]

theorem foldl_blockAdd_some (cs : List Chunk) (o : Opening) (line : Nat)
    (first second : List Chunk) : cs.foldl Block.add ⟨o, line, first, some second⟩ =
      ⟨o, line, first, some (cs.reverse ++ second)⟩ := by
  induction cs generalizing second with
  | nil => rfl
  | cons c cs ih => simp [Block.add, ih]

theorem foldl_add_block (cs : List Chunk) (block : Block) (outer : List Block)
    (root : List Chunk) : cs.foldl Builder.add ⟨block :: outer, root⟩ =
      ⟨cs.foldl Block.add block :: outer, root⟩ := by
  induction cs generalizing block with
  | nil => rfl
  | cons c cs ih => exact ih (block.add c)

theorem foldl_add_root (cs root : List Chunk) :
    cs.foldl Builder.add ⟨[], root⟩ = ⟨[], cs.reverse ++ root⟩ := by
  induction cs generalizing root with
  | nil => rfl
  | cons c cs ih => simp [Builder.add, ih]

theorem foldlM_append_ok {l₁ l₂ : List Lexeme} {b b' : Builder}
    (h : l₁.foldlM Builder.step b = .ok b') :
    (l₁ ++ l₂).foldlM Builder.step b = l₂.foldlM Builder.step b' := by
  rw [List.foldlM_append, h]
  rfl

theorem foldlM_cons_ok {l : Lexeme} {ls : List Lexeme} {b b' : Builder} (h : b.step l = .ok b') :
    (l :: ls).foldlM Builder.step b = ls.foldlM Builder.step b' := by
  rw [List.foldlM_cons, h]
  rfl

theorem Tag.Opens.step_eq {t : Tag} {o : Opening} (h : t.Opens o) (b : Builder) :
    b.step (.tag t) = .ok ⟨⟨o, t.line, [], none⟩ :: b.blocks, b.root⟩ :=
  (Tag.Does.opens h).step_eq b

theorem step_end {t : Tag} (h : t.Says "end" []) (block : Block) (outer : List Block)
    (root : List Chunk) : Builder.step ⟨block :: outer, root⟩ (.tag t) =
      .ok (Builder.add ⟨outer, root⟩ block.close) :=
  (Tag.Does.closes h).step_eq _

theorem step_else {t : Tag} (h : t.Says "else" []) (word : String) (g : Node) (line : Nat)
    (first : List Chunk) (outer : List Block) (root : List Chunk) :
    Builder.step ⟨⟨.conditional word g, line, first, none⟩ :: outer, root⟩ (.tag t) =
      .ok ⟨⟨.conditional word g, line, first, some []⟩ :: outer, root⟩ :=
  (Tag.Does.otherwise h).step_eq _

mutual
/-- From its first lexeme to its last, a node of a derivation adds its chunk, whatever is open
around it. -/
theorem foldlM_phrase {p : Phrase} (h : p.IsDerivation) (b : Builder) :
    p.lexemes.foldlM Builder.step b = .ok (b.add p.chunk) := by
  cases p with
  | text s => rfl
  | interpolation t i => exact foldlM_cons_ok (Tag.Writes.step_eq h b)
  | conditional o g body c =>
    -- The block is on top of the stack while its body is read, so that the chunks land in it.
    obtain ⟨⟨word, ho⟩, hb, hc⟩ := h
    rw [Phrase.lexemes, foldlM_cons_ok (ho.step_eq b), foldlM_append_ok (foldlM_body hb _),
      foldl_add_block, foldl_blockAdd_none, foldlM_cons_ok (step_end hc ..)]
    simp [Block.close, Phrase.chunk, pure, Except.pure]
  | alternative o g body m other c =>
    obtain ⟨⟨word, ho⟩, hb, hm, hother, hc⟩ := h
    rw [Phrase.lexemes, foldlM_cons_ok (ho.step_eq b), foldlM_append_ok (foldlM_body hb _),
      foldl_add_block, foldl_blockAdd_none, foldlM_cons_ok (step_else hm ..),
      foldlM_append_ok (foldlM_body hother _), foldl_add_block, foldl_blockAdd_some,
      foldlM_cons_ok (step_end hc ..)]
    simp [Block.close, Phrase.chunk, pure, Except.pure]
  | loop o binder p body c =>
    obtain ⟨ho, hb, hc⟩ := h
    rw [Phrase.lexemes, foldlM_cons_ok (ho.step_eq b), foldlM_append_ok (foldlM_body hb _),
      foldl_add_block, foldl_blockAdd_none, foldlM_cons_ok (step_end hc ..)]
    simp [Block.close, Phrase.chunk, pure, Except.pure]

theorem foldlM_body {ps : List Phrase} (h : BodyIsDerivation ps) (b : Builder) :
    (bodyLexemes ps).foldlM Builder.step b = .ok ((bodyChunks ps).foldl Builder.add b) := by
  cases ps with
  | nil => rfl
  | cons p ps =>
    rw [bodyLexemes, foldlM_append_ok (foldlM_phrase h.1 b), foldlM_body h.2]
    rfl
end

/-! ### What is accepted has a derivation -/

/-- The nodes of an open block: a derivation that is still to be closed. -/
inductive Frame where
  | conditional (opening : Tag) (word : String) (guard : Node) (body : List Phrase)
  | alternative (opening : Tag) (word : String) (guard : Node) (body : List Phrase) (middle : Tag)
      (other : List Phrase)
  | loop (opening : Tag) (binder : String) (collection : Path) (body : List Phrase)

namespace Frame

def block : Frame → Block
  | conditional o word g body => ⟨.conditional word g, o.line, (bodyChunks body).reverse, none⟩
  | alternative o word g body _ other =>
    ⟨.conditional word g, o.line, (bodyChunks body).reverse, some (bodyChunks other).reverse⟩
  | loop o binder p body => ⟨.iteration binder p, o.line, (bodyChunks body).reverse, none⟩

def lexemes : Frame → List Lexeme
  | conditional o _ _ body => .tag o :: bodyLexemes body
  | alternative o _ _ body m other => .tag o :: (bodyLexemes body ++ .tag m :: bodyLexemes other)
  | loop o _ _ body => .tag o :: bodyLexemes body

def IsOpen : Frame → Prop
  | conditional o word g body => o.Opens (.conditional word g) ∧ BodyIsDerivation body
  | alternative o word g body m other => o.Opens (.conditional word g) ∧ BodyIsDerivation body ∧
    m.Says "else" [] ∧ BodyIsDerivation other
  | loop o binder p body => o.Opens (.iteration binder p) ∧ BodyIsDerivation body

def add (p : Phrase) : Frame → Frame
  | conditional o word g body => conditional o word g (body ++ [p])
  | alternative o word g body m other => alternative o word g body m (other ++ [p])
  | loop o binder q body => loop o binder q (body ++ [p])

def close (t : Tag) : Frame → Phrase
  | conditional o _ g body => .conditional o g body t
  | alternative o _ g body m other => .alternative o g body m other t
  | loop o binder q body => .loop o binder q body t

variable (f : Frame)

theorem block_add (p : Phrase) : (f.add p).block = f.block.add p.chunk := by
  cases f <;> simp [add, block, Block.add, bodyChunks]

theorem lexemes_add (p : Phrase) : (f.add p).lexemes = f.lexemes ++ p.lexemes := by
  cases f <;> simp [add, lexemes, bodyLexemes]

theorem IsOpen.add {f : Frame} (h : f.IsOpen) {p : Phrase} (hp : p.IsDerivation) :
    (f.add p).IsOpen := by
  cases f <;> simp_all [Frame.add, IsOpen, BodyIsDerivation]

theorem chunk_close (t : Tag) : (f.close t).chunk = f.block.close := by
  cases f <;> simp [close, block, Block.close, Phrase.chunk]

theorem lexemes_close (t : Tag) : (f.close t).lexemes = f.lexemes ++ [.tag t] := by
  cases f <;> simp [close, lexemes, Phrase.lexemes]

theorem IsOpen.close {f : Frame} (h : f.IsOpen) {t : Tag} (ht : t.Says "end" []) :
    (f.close t).IsDerivation := by
  cases f with
  | conditional o word g body => exact ⟨⟨word, h.1⟩, h.2, ht⟩
  | alternative o word g body m other => exact ⟨⟨word, h.1⟩, h.2.1, h.2.2.1, h.2.2.2, ht⟩
  | loop o binder p body => exact ⟨h.1, h.2, ht⟩

end Frame

/-- The derivation of the lexemes read so far: the open blocks, the innermost first, and the nodes
outside of them. -/
structure Progress where
  frames : List Frame
  root : List Phrase

namespace Progress

def builder (p : Progress) : Builder := ⟨p.frames.map Frame.block, (bodyChunks p.root).reverse⟩

def lexemes (p : Progress) : List Lexeme :=
  bodyLexemes p.root ++ p.frames.reverse.flatMap Frame.lexemes

def IsOpen (p : Progress) : Prop := BodyIsDerivation p.root ∧ ∀ f ∈ p.frames, f.IsOpen

def add (p : Progress) (q : Phrase) : Progress :=
  match p.frames with
  | [] => { p with root := p.root ++ [q] }
  | f :: outer => { p with frames := f.add q :: outer }

theorem builder_add (p : Progress) (q : Phrase) : (p.add q).builder = p.builder.add q.chunk := by
  obtain ⟨frames, root⟩ := p
  cases frames with
  | nil => simp [add, builder, Builder.add, bodyChunks]
  | cons f outer => simp [add, builder, Builder.add, Frame.block_add]

theorem lexemes_add (p : Progress) (q : Phrase) : (p.add q).lexemes = p.lexemes ++ q.lexemes := by
  obtain ⟨frames, root⟩ := p
  cases frames with
  | nil => simp [add, lexemes, bodyLexemes]
  | cons f outer => simp [add, lexemes, Frame.lexemes_add]

theorem IsOpen.add {p : Progress} (h : p.IsOpen) {q : Phrase} (hq : q.IsDerivation) :
    (p.add q).IsOpen := by
  obtain ⟨frames, root⟩ := p
  obtain ⟨hroot, hframes⟩ := h
  cases frames with
  | nil => exact ⟨bodyIsDerivation_append.mpr ⟨hroot, hq, trivial⟩, by simp [Progress.add]⟩
  | cons f outer =>
    simp only [List.mem_cons, forall_eq_or_imp] at hframes
    refine ⟨hroot, ?_⟩
    simp only [Progress.add, List.mem_cons, forall_eq_or_imp]
    exact ⟨hframes.1.add hq, hframes.2⟩

end Progress

theorem exists_progress_of_control {p : Progress} (hp : p.IsOpen) {t : Tag} {c : Control}
    (hc : t.Does c) {b : Builder} (h : p.builder.control t.line c = .ok b) :
    ∃ q : Progress, q.IsOpen ∧ q.builder = b ∧ q.lexemes = p.lexemes ++ [.tag t] := by
  obtain ⟨frames, root⟩ := p
  cases hc with
  | @opens o ho =>
    cases h
    have hopen (f : Frame) (hf : f.IsOpen) : Progress.IsOpen ⟨f :: frames, root⟩ :=
      ⟨hp.1, List.forall_mem_cons.mpr ⟨hf, hp.2⟩⟩
    cases o with
    | conditional word g =>
      refine ⟨⟨.conditional t word g [] :: frames, root⟩, hopen _ ⟨ho, trivial⟩, rfl, ?_⟩
      simp [Progress.lexemes, Frame.lexemes, bodyLexemes]
    | iteration binder coll =>
      refine ⟨⟨.loop t binder coll [] :: frames, root⟩, hopen _ ⟨ho, trivial⟩, rfl, ?_⟩
      simp [Progress.lexemes, Frame.lexemes, bodyLexemes]
  | otherwise hs =>
    cases frames with
    | nil => simp [Progress.builder, Builder.control] at h
    | cons f outer =>
      cases f with
      | conditional o word g body =>
        cases h
        obtain ⟨ho, hb⟩ := hp.2 _ (List.mem_cons_self ..)
        refine ⟨⟨.alternative o word g body t [] :: outer, root⟩, ⟨hp.1, ?_⟩, rfl, ?_⟩
        · exact List.forall_mem_cons.mpr ⟨⟨ho, hb, hs, trivial⟩, (List.forall_mem_cons.mp hp.2).2⟩
        · simp [Progress.lexemes, Frame.lexemes, bodyLexemes]
      | alternative => simp [Progress.builder, Builder.control, Frame.block] at h
      | loop => simp [Progress.builder, Builder.control, Frame.block] at h
  | closes hs =>
    cases frames with
    | nil => simp [Progress.builder, Builder.control] at h
    | cons f outer =>
      cases h
      -- The closed block becomes a node of the block around it, or of the root.
      obtain ⟨hf, houter⟩ := List.forall_mem_cons.mp hp.2
      have ho : Progress.IsOpen ⟨outer, root⟩ := ⟨hp.1, houter⟩
      refine ⟨Progress.add ⟨outer, root⟩ (f.close t), ho.add (hf.close hs), ?_, ?_⟩
      · rw [Progress.builder_add, Frame.chunk_close]
        rfl
      · rw [Progress.lexemes_add, Frame.lexemes_close]
        simp [Progress.lexemes]

/-- The lexemes that count: a comment derives nothing. -/
def withoutComments (ls : List Lexeme) : List Lexeme :=
  ls.filter fun
    | .text _ => true
    | .tag t => t.kind != .comment

/-- A step that succeeds carries the derivation of what was read on by one lexeme. -/
theorem exists_progress_of_step {p : Progress} (hp : p.IsOpen) {l : Lexeme} {b : Builder}
    (h : p.builder.step l = .ok b) : ∃ q : Progress, q.IsOpen ∧ q.builder = b ∧
      q.lexemes = p.lexemes ++ withoutComments [l] := by
  obtain ⟨s, rfl, rfl⟩ | ⟨t, rfl, ht, rfl⟩ | ⟨t, i, rfl, hw, rfl⟩ | ⟨t, c, rfl, hd, hc⟩ :=
    step_cases h
  · refine ⟨p.add (.text s), hp.add trivial, p.builder_add _, ?_⟩
    rw [p.lexemes_add]
    rfl
  · exact ⟨p, hp, rfl, by simp [withoutComments, ht]⟩
  · refine ⟨p.add (.interpolation t i), hp.add hw, p.builder_add _, ?_⟩
    rw [p.lexemes_add]
    simp [withoutComments, hw.1, Phrase.lexemes]
  · obtain ⟨q, hq, hb, hl⟩ := exists_progress_of_control hp hd hc
    exact ⟨q, hq, hb, by simp [hl, withoutComments, hd.kind_eq]⟩

theorem exists_progress_of_foldlM {p : Progress} (hp : p.IsOpen) {ls : List Lexeme} {b : Builder}
    (h : ls.foldlM Builder.step p.builder = .ok b) : ∃ q : Progress, q.IsOpen ∧ q.builder = b ∧
      q.lexemes = p.lexemes ++ withoutComments ls := by
  induction ls generalizing p with
  | nil => exact ⟨p, hp, Except.ok.inj h, by simp [withoutComments]⟩
  | cons l ls ih =>
    rw [List.foldlM_cons] at h
    cases hs : p.builder.step l with
    | error e => simp [hs, bind, Except.bind] at h
    | ok b₁ =>
      obtain ⟨p₁, hp₁, rfl, hl⟩ := exists_progress_of_step hp hs
      rw [hs] at h
      obtain ⟨q, hq, hb, hl'⟩ := ih hp₁ h
      exact ⟨q, hq, hb, by rw [hl', hl, List.append_assoc, withoutComments, withoutComments,
        withoutComments, ← List.filter_append, List.singleton_append]⟩

/-- Comments change nothing. -/
theorem foldlM_withoutComments (ls : List Lexeme) (b : Builder) :
    (withoutComments ls).foldlM Builder.step b = ls.foldlM Builder.step b := by
  induction ls generalizing b with
  | nil => rfl
  | cons l ls ih =>
    cases l with
    | text s =>
      have hk : withoutComments (.text s :: ls) = .text s :: withoutComments ls := rfl
      rw [hk, List.foldlM_cons, List.foldlM_cons]
      exact congrArg _ (funext ih)
    | tag t =>
      by_cases ht : t.kind = .comment
      · have hk : withoutComments (.tag t :: ls) = withoutComments ls := by
          simp [withoutComments, ht]
        rw [hk, ih, foldlM_cons_ok (step_of_comment ht b)]
      · have hk : withoutComments (.tag t :: ls) = .tag t :: withoutComments ls := by
          simp [withoutComments, ht]
        rw [hk, List.foldlM_cons, List.foldlM_cons]
        exact congrArg _ (funext ih)

theorem chunksOf_bodyLexemes {body : List Phrase} (h : BodyIsDerivation body) :
    chunksOf (bodyLexemes body) = .ok (bodyChunks body) := by
  rw [chunksOf, foldlM_body h, foldl_add_root]
  simp [bind, Except.bind, Builder.finish]

/-- The tree of lexemes is that of a derivation, and there is one if they have a tree. -/
theorem chunksOf_eq_ok_iff {ls : List Lexeme} {cs : List Chunk} :
    chunksOf ls = .ok cs ↔
      ∃ body, BodyIsDerivation body ∧ bodyLexemes body = withoutComments ls ∧
        bodyChunks body = cs := by
  constructor
  · intro h
    cases hb : ls.foldlM Builder.step ⟨[], []⟩ with
    | error e => simp [chunksOf, hb, bind, Except.bind] at h
    | ok b =>
      have hstart : Progress.IsOpen ⟨[], []⟩ := ⟨trivial, by simp⟩
      obtain ⟨⟨frames, root⟩, hq, rfl, hl⟩ := exists_progress_of_foldlM hstart hb
      simp only [chunksOf, hb, bind, Except.bind] at h
      cases frames with
      | nil =>
        refine ⟨root, hq.1, by simpa [Progress.lexemes, bodyLexemes] using hl, ?_⟩
        simpa [Builder.finish, Progress.builder] using h
      | cons f outer => simp [Builder.finish, Progress.builder] at h
  · rintro ⟨body, hb, hl, rfl⟩
    rw [chunksOf, ← foldlM_withoutComments, ← hl]
    exact chunksOf_bodyLexemes hb

/-! ### There is one derivation at most -/

theorem Tag.Opens.unique {t : Tag} {o o' : Opening} (h : t.Opens o) (h' : t.Opens o') : o = o' :=
  Control.openBlock.inj ((Tag.Does.opens h).unique (.opens h'))

theorem Tag.Opens.not_writes {t : Tag} {o : Opening} {i : Interpolation} (h : t.Opens o)
    (hw : t.Writes i) : False := by
  have hk := (Tag.Does.opens h).kind_eq
  simp [hw.1] at hk

theorem Tag.Says.not_both {t : Tag} (h : t.Says "else" []) (h' : t.Says "end" []) : False := by
  cases (Tag.Does.otherwise h).unique (.closes h')

/-- Lexemes that no node starts with. -/
def EndsBody (ls : List Lexeme) : Prop :=
  ls = [] ∨ ∃ t more, ls = .tag t :: more ∧ (t.Says "else" [] ∨ t.Says "end" [])

theorem endsBody_else {t : Tag} (h : t.Says "else" []) (ls : List Lexeme) :
    EndsBody (.tag t :: ls) := .inr ⟨t, ls, rfl, .inl h⟩

theorem endsBody_end {t : Tag} (h : t.Says "end" []) (ls : List Lexeme) :
    EndsBody (.tag t :: ls) := .inr ⟨t, ls, rfl, .inr h⟩

/-- What stands behind the body of a block: the tag `end`, or `else`, another body and `end`. -/
def EndsBlock (d : Tag) : Option (List Phrase × Tag) → Prop
  | none => d.Says "end" []
  | some (other, c) => d.Says "else" [] ∧ BodyIsDerivation other ∧ c.Says "end" []

/-- The lexemes of another body and of the tag that closes it. -/
def branchLexemes : Option (List Phrase × Tag) → List Lexeme
  | none => []
  | some (other, c) => bodyLexemes other ++ [.tag c]

/-- A block by its parts: the tag that opens it, its body, the tag that ends this, and the other
body with the tag that closes it, if there is one. -/
inductive Phrase.IsBlock :
    Phrase → Tag → Opening → List Phrase → Tag → Option (List Phrase × Tag) → Prop
  | conditional {o d : Tag} {word : String} {g : Node} {body : List Phrase} :
      IsBlock (.conditional o g body d) o (.conditional word g) body d none
  | alternative {o d c : Tag} {word : String} {g : Node} {body other : List Phrase} :
      IsBlock (.alternative o g body d other c) o (.conditional word g) body d (some (other, c))
  | loop {o d : Tag} {binder : String} {collection : Path} {body : List Phrase} :
      IsBlock (.loop o binder collection body d) o (.iteration binder collection) body d none

section
variable {p q : Phrase} {o d : Tag} {a : Opening} {body : List Phrase}
  {branch : Option (List Phrase × Tag)}

theorem Phrase.IsBlock.unique (hp : p.IsBlock o a body d branch)
    (hq : q.IsBlock o a body d branch) : p = q := by
  cases hp <;> cases hq <;> rfl

theorem Phrase.IsBlock.lexemes_append (hp : p.IsBlock o a body d branch) (ls : List Lexeme) :
    p.lexemes ++ ls = .tag o :: (bodyLexemes body ++ .tag d :: (branchLexemes branch ++ ls)) := by
  cases hp <;> simp [Phrase.lexemes, branchLexemes]

/-- A node of a derivation is a text, an interpolation or a block. -/
theorem Phrase.IsDerivation.cases_block (hp : p.IsDerivation) :
    (∃ s, p = .text s) ∨ (∃ t i, p = .interpolation t i ∧ t.Writes i) ∨
      ∃ o a body d branch, p.IsBlock o a body d branch ∧ o.Opens a ∧ BodyIsDerivation body ∧
        EndsBlock d branch := by
  cases p with
  | text s => exact .inl ⟨s, rfl⟩
  | interpolation t i => exact .inr (.inl ⟨t, i, rfl, hp⟩)
  | conditional o g body c =>
    obtain ⟨⟨word, ho⟩, hb, hc⟩ := hp
    exact .inr (.inr ⟨o, _, body, c, none, .conditional, ho, hb, hc⟩)
  | alternative o g body m other c =>
    obtain ⟨⟨word, ho⟩, hb, hm, hother, hc⟩ := hp
    exact .inr (.inr ⟨o, _, body, m, some (other, c), .alternative, ho, hb, hm, hother, hc⟩)
  | loop o binder collection body c =>
    obtain ⟨ho, hb, hc⟩ := hp
    exact .inr (.inr ⟨o, _, body, c, none, .loop, ho, hb, hc⟩)

theorem endsBody_of_endsBlock (hd : EndsBlock d branch) (ls : List Lexeme) :
    EndsBody (.tag d :: ls) := by
  cases branch with
  | none => exact endsBody_end hd ls
  | some b => exact endsBody_else hd.1 ls

end

theorem not_endsBody_phrase {p : Phrase} (hp : p.IsDerivation) (ls : List Lexeme) :
    ¬ EndsBody (p.lexemes ++ ls) := by
  rintro (h | ⟨u, more, h, hu⟩)
  · cases p <;> simp [Phrase.lexemes] at h
  · have hk : u.kind = .control := hu.elim And.left And.left
    obtain ⟨s, rfl⟩ | ⟨t, i, rfl, hw⟩ | ⟨o, a, body, d, branch, hblock, ho, -⟩ := hp.cases_block
    · simp [Phrase.lexemes] at h
    · cases h
      simp [hw.1] at hk
    · rw [hblock.lexemes_append] at h
      cases h
      rcases hu with hs | hs
      · cases (Tag.Does.opens ho).unique (.otherwise hs)
      · cases (Tag.Does.opens ho).unique (.closes hs)

/-- A body that is read in one way. -/
def IsDetermined (body : List Phrase) : Prop :=
  ∀ ⦃qs : List Phrase⦄ ⦃r r' : List Lexeme⦄, BodyIsDerivation qs → EndsBody r → EndsBody r' →
    bodyLexemes body ++ r = bodyLexemes qs ++ r' → body = qs ∧ r = r'

/-- What stands behind a body is read in one way, given that the other body is. -/
theorem branch_unique {d : Tag} {branch branch' : Option (List Phrase × Tag)} {r r' : List Lexeme}
    (hd : EndsBlock d branch) (hd' : EndsBlock d branch')
    (hbranch : ∀ b ∈ branch, IsDetermined b.1)
    (h : branchLexemes branch ++ r = branchLexemes branch' ++ r') : branch = branch' ∧ r = r' := by
  cases branch with
  | none =>
    cases branch' with
    | none => exact ⟨rfl, h⟩
    | some b' => exact (hd'.1.not_both hd).elim
  | some b =>
    obtain ⟨helse, hb, hc⟩ := hd
    cases branch' with
    | none => exact (helse.not_both hd').elim
    | some b' =>
      obtain ⟨-, hb', hc'⟩ := hd'
      simp only [branchLexemes, List.append_assoc, List.cons_append, List.nil_append] at h
      obtain ⟨hother, hend⟩ := hbranch b rfl hb' (endsBody_end hc r) (endsBody_end hc' r') h
      obtain ⟨hclose, hr⟩ := List.cons.inj hend
      exact ⟨congrArg some (Prod.ext hother (Lexeme.tag.inj hclose)), hr⟩

/-- A block is read in one way, given that its bodies are. -/
theorem block_unique {p q : Phrase} {o d : Tag} {a : Opening} {body : List Phrase}
    {branch : Option (List Phrase × Tag)} {r r' : List Lexeme} (hp : p.IsBlock o a body d branch)
    (ho : o.Opens a) (hd : EndsBlock d branch) (hbody : IsDetermined body)
    (hbranch : ∀ b ∈ branch, IsDetermined b.1) (hq : q.IsDerivation)
    (h : p.lexemes ++ r = q.lexemes ++ r') : p = q ∧ r = r' := by
  rw [hp.lexemes_append] at h
  obtain ⟨s, rfl⟩ | ⟨t, i, rfl, hw⟩ | ⟨o', a', body', d', branch', hq, ho', hb', hd'⟩ :=
    hq.cases_block
  · cases h
  · cases h
    exact (ho.not_writes hw).elim
  -- Two blocks agree part by part: the opening tag, the body, the tag that ends it, the branch.
  · rw [hq.lexemes_append] at h
    obtain ⟨hopen, hrest⟩ := List.cons.inj h
    obtain rfl := Lexeme.tag.inj hopen
    obtain rfl := ho.unique ho'
    obtain ⟨rfl, hdd⟩ :=
      hbody hb' (endsBody_of_endsBlock hd _) (endsBody_of_endsBlock hd' _) hrest
    obtain ⟨hend, htail⟩ := List.cons.inj hdd
    obtain rfl := Lexeme.tag.inj hend
    obtain ⟨rfl, hr⟩ := branch_unique hd hd' hbranch htail
    exact ⟨hp.unique hq, hr⟩

mutual
theorem phrase_unique {p q : Phrase} (hp : p.IsDerivation) (hq : q.IsDerivation)
    {r r' : List Lexeme} (h : p.lexemes ++ r = q.lexemes ++ r') : p = q ∧ r = r' := by
  cases p with
  | text s => cases q <;> simp_all [Phrase.lexemes]
  | interpolation t i =>
    obtain ⟨s, rfl⟩ | ⟨t', i', rfl, hw⟩ | ⟨o, a, body, d, branch, hblock, ho, -⟩ := hq.cases_block
    · cases h
    · cases h
      exact ⟨congrArg _ (Tag.Writes.unique hp hw), rfl⟩
    · rw [hblock.lexemes_append] at h
      cases h
      exact (ho.not_writes hp).elim
  | conditional o g body c =>
    obtain ⟨⟨word, ho⟩, hb, hc⟩ := hp
    exact block_unique .conditional ho hc (body_unique hb) (fun _ hm => by cases hm) hq h
  | alternative o g body m other c =>
    obtain ⟨⟨word, ho⟩, hb, hm, hother, hc⟩ := hp
    refine block_unique .alternative ho ⟨hm, hother, hc⟩ (body_unique hb) (fun _ hm => ?_) hq h
    cases hm
    exact body_unique hother
  | loop o binder collection body c =>
    obtain ⟨ho, hb, hc⟩ := hp
    exact block_unique .loop ho hc (body_unique hb) (fun _ hm => by cases hm) hq h

/-- A body ends where no node starts, and is read in one way. -/
theorem body_unique {ps : List Phrase} (hp : BodyIsDerivation ps) : IsDetermined ps := by
  intro qs r r' hq hr hr' h
  cases ps with
  | nil =>
    cases qs with
    | nil => exact ⟨rfl, h⟩
    | cons q qs =>
      simp only [bodyLexemes, List.nil_append, List.append_assoc] at h
      exact absurd (h ▸ hr) (not_endsBody_phrase hq.1 _)
  | cons p ps =>
    cases qs with
    | nil =>
      simp only [bodyLexemes, List.nil_append, List.append_assoc] at h
      exact absurd (h.symm ▸ hr') (not_endsBody_phrase hp.1 _)
    | cons q qs =>
      simp only [bodyLexemes, List.append_assoc] at h
      obtain ⟨rfl, hrest⟩ := phrase_unique hp.1 hq.1 h
      obtain ⟨rfl, hend⟩ := body_unique hp.2 hq.2 hr hr' hrest
      exact ⟨rfl, hend⟩
end

/-! ### Texts and interpolations -/

/-- What a lexeme writes of itself. -/
def Lexeme.leaf? : Lexeme → Option Chunk
  | .text s => some (.text (String.ofList s))
  | .tag t =>
    match t.kind, parseInterpolation (String.ofList (trim t.body)) with
    | .interpolation, .ok i => some (.interpolation i.value i.guard t.line)
    | _, _ => none

mutual
/-- The texts and interpolations of a chunk, in order. -/
def Chunk.leaves : Chunk → List Chunk
  | .text s => [.text s]
  | .interpolation value guard line => [.interpolation value guard line]
  | .conditional _ whenTrue whenFalse _ => leavesOf whenTrue ++ leavesOf whenFalse
  | .iteration _ _ body _ => leavesOf body

def leavesOf : List Chunk → List Chunk
  | [] => []
  | c :: cs => c.leaves ++ leavesOf cs
end

theorem leaf?_of_kind_ne {t : Tag} (h : t.kind ≠ .interpolation) :
    Lexeme.leaf? (.tag t) = none := by
  unfold Lexeme.leaf?
  split <;> simp_all

theorem Tag.Does.leaf?_eq {t : Tag} {c : Control} (h : t.Does c) :
    Lexeme.leaf? (.tag t) = none := by
  apply leaf?_of_kind_ne
  simp [h.kind_eq]

mutual
theorem leaves_phrase {p : Phrase} (h : p.IsDerivation) :
    p.chunk.leaves = p.lexemes.filterMap Lexeme.leaf? := by
  cases p with
  | text s => rfl
  | interpolation t i => simp [Phrase.chunk, Chunk.leaves, Phrase.lexemes, Lexeme.leaf?, h.1, h.2]
  | conditional o g body c =>
    obtain ⟨⟨word, ho⟩, hb, hc⟩ := h
    simp [Phrase.chunk, Chunk.leaves, Phrase.lexemes, leavesOf, leaves_body hb,
      (Tag.Does.opens ho).leaf?_eq, (Tag.Does.closes hc).leaf?_eq]
  | alternative o g body m other c =>
    obtain ⟨⟨word, ho⟩, hb, hm, hother, hc⟩ := h
    simp [Phrase.chunk, Chunk.leaves, Phrase.lexemes, leaves_body hb, leaves_body hother,
      (Tag.Does.opens ho).leaf?_eq, (Tag.Does.otherwise hm).leaf?_eq,
      (Tag.Does.closes hc).leaf?_eq]
  | loop o binder p body c =>
    obtain ⟨ho, hb, hc⟩ := h
    simp [Phrase.chunk, Chunk.leaves, Phrase.lexemes, leaves_body hb,
      (Tag.Does.opens ho).leaf?_eq, (Tag.Does.closes hc).leaf?_eq]

theorem leaves_body {ps : List Phrase} (h : BodyIsDerivation ps) :
    leavesOf (bodyChunks ps) = (bodyLexemes ps).filterMap Lexeme.leaf? := by
  cases ps with
  | nil => rfl
  | cons p ps =>
    rw [bodyChunks, leavesOf, leaves_phrase h.1, leaves_body h.2, bodyLexemes,
      List.filterMap_append]
end

theorem filterMap_leaf?_withoutComments (ls : List Lexeme) :
    (withoutComments ls).filterMap Lexeme.leaf? = ls.filterMap Lexeme.leaf? := by
  induction ls with
  | nil => rfl
  | cons l ls ih =>
    cases l with
    | text s => exact congrArg (Chunk.text (String.ofList s) :: ·) ih
    | tag t =>
      by_cases ht : t.kind = .comment
      · rw [List.filterMap_cons_none (leaf?_of_kind_ne (by simp [ht])), ← ih]
        simp [withoutComments, ht]
      · have hk : withoutComments (.tag t :: ls) = .tag t :: withoutComments ls := by
          simp [withoutComments, ht]
        rw [hk, List.filterMap_cons, List.filterMap_cons, ih]

/-- A derivation of lexemes from the block grammar. -/
def Derives (body : List Phrase) (ls : List Lexeme) : Prop :=
  BodyIsDerivation body ∧ bodyLexemes body = ls

theorem parse_eq_ok_iff {source name : String} {t : Template} :
    parse source name = .ok t ↔ ∃ cs, chunksOf (lexemes source) = .ok cs ∧ t = ⟨name, cs⟩ := by
  rw [parse, parseChunks]
  cases chunksOf (lexemes source) <;> simp [eq_comm]

theorem parse_eq_ok_iff_exists_derives {source name : String} {t : Template} :
    parse source name = .ok t ↔
      ∃ body, Derives body (withoutComments (lexemes source)) ∧ t = ⟨name, bodyChunks body⟩ := by
  rw [parse_eq_ok_iff]
  constructor
  · rintro ⟨cs, hc, rfl⟩
    obtain ⟨body, hb, hl, rfl⟩ := chunksOf_eq_ok_iff.mp hc
    exact ⟨body, ⟨hb, hl⟩, rfl⟩
  · rintro ⟨body, ⟨hb, hl⟩, rfl⟩
    exact ⟨_, chunksOf_eq_ok_iff.mpr ⟨body, hb, hl, rfl⟩, rfl⟩

/-- A source is accepted exactly if its lexemes without comments have a derivation.  There is one
at most, the template has its tree, and every text and every interpolation is there once and in
order. -/
theorem parse_eq_ok_iff_derives (source name : String) :
    (∀ t, parse source name = .ok t ↔
      ∃ body, Derives body (withoutComments (lexemes source)) ∧ t = ⟨name, bodyChunks body⟩) ∧
    (∀ body body', Derives body (withoutComments (lexemes source)) →
      Derives body' (withoutComments (lexemes source)) → body = body') ∧
    ∀ t, parse source name = .ok t →
      leavesOf t.chunks = (lexemes source).filterMap Lexeme.leaf? := by
  refine ⟨fun t => parse_eq_ok_iff_exists_derives, fun body body' h h' => ?_, fun t ht => ?_⟩
  · refine (body_unique h.1 h'.1 (.inl rfl) (.inl rfl) ?_).1
    rw [h.2, h'.2]
  · obtain ⟨body, ⟨hb, hl⟩, rfl⟩ := parse_eq_ok_iff_exists_derives.mp ht
    rw [leaves_body hb, hl, filterMap_leaf?_withoutComments]

end Scaffold.Template
