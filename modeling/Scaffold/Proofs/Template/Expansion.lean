import Scaffold.Proofs.Computation
import Scaffold.Proofs.Template.BlockGrammar
import Scaffold.Proofs.Template.Rendering

/-! Derived forms of tags.  An inline guard stands for a conditional, and a negation for the guard
without it: wherever in a template one is put in place of the other, it is rendered alike. -/
namespace Scaffold.Template
open Model Expression

/-! ### Places in a tree of chunks -/

/-- Chunks with a place left open for one chunk, at any depth. -/
inductive Context where
  | here (before after : List Chunk)
  | first (before : List Chunk) (guard : Node) (inner : Context) (whenFalse : List Chunk)
      (line : Nat) (after : List Chunk)
  | second (before : List Chunk) (guard : Node) (whenTrue : List Chunk) (inner : Context)
      (line : Nat) (after : List Chunk)
  | loop (before : List Chunk) (binder : String) (collection : Path) (inner : Context) (line : Nat)
      (after : List Chunk)

/-- The chunks with `c` in the open place. -/
def Context.fill (c : Chunk) : Context → List Chunk
  | .here before after => before ++ c :: after
  | .first before guard inner whenFalse line after =>
    before ++ .conditional guard (inner.fill c) whenFalse line :: after
  | .second before guard whenTrue inner line after =>
    before ++ .conditional guard whenTrue (inner.fill c) line :: after
  | .loop before binder collection inner line after =>
    before ++ .iteration binder collection (inner.fill c) line :: after

/-- The scopes in which the open place is rendered, where the chunks around it are rendered in the
first one.  A branch is entered as its guard says, and the body of a loop once for each element,
with the element bound. -/
inductive Context.Reaches (own : Ownership) : Context → Scope → Scope → Prop
  | here (before after : List Chunk) (s : Scope) : Reaches own (.here before after) s s
  | first {guard : Node} {inner : Context} {s s' : Scope} (before whenFalse : List Chunk)
      (line : Nat) (after : List Chunk) : guard.evaluateGuard own s = .ok true →
      Reaches own inner s s' → Reaches own (.first before guard inner whenFalse line after) s s'
  | second {guard : Node} {inner : Context} {s s' : Scope} (before whenTrue : List Chunk)
      (line : Nat) (after : List Chunk) : guard.evaluateGuard own s = .ok false →
      Reaches own inner s s' → Reaches own (.second before guard whenTrue inner line after) s s'
  | loop {binder : String} {collection : Path} {inner : Context} {s s' : Scope}
      {items : List Value} {item : Value} (before : List Chunk) (line : Nat) (after : List Chunk) :
      (Node.path collection).evaluateSequence own s = .ok items → item ∈ items →
      Reaches own inner (s.child [(binder, item)]) s' →
      Reaches own (.loop before binder collection inner line after) s s'

variable {own : Ownership} {c d : Chunk} {scope : Scope}

section
variable {α : Type} {f : Nat × Failure → α}

theorem mapError_renderChunks_around (before after : List Chunk)
    (h : (renderChunk own scope c).mapError f = (renderChunk own scope d).mapError f) :
    (renderChunks own scope (before ++ c :: after)).mapError f =
      (renderChunks own scope (before ++ d :: after)).mapError f := by
  simp only [renderChunks_append, renderChunks_cons, mapError_bind, h]

/-- Chunks that are rendered alike in every scope in which a place is rendered, as far as `f` tells
failures apart, can stand there in each other's stead. -/
theorem Context.mapError_renderChunks_fill {k : Context}
    (h : ∀ s, k.Reaches own scope s →
      (renderChunk own s c).mapError f = (renderChunk own s d).mapError f) :
    (renderChunks own scope (k.fill c)).mapError f =
      (renderChunks own scope (k.fill d)).mapError f := by
  induction k generalizing scope with
  | here before after => exact mapError_renderChunks_around before after (h scope (.here ..))
  | first before guard inner whenFalse line after ih =>
    apply mapError_renderChunks_around
    simp only [renderChunk]
    cases hguard : guard.evaluateGuard own scope with
    | error e => rfl
    | ok b =>
      cases b with
      | false => rfl
      | true => exact ih fun s hs => h s (.first before whenFalse line after hguard hs)
  | second before guard whenTrue inner line after ih =>
    apply mapError_renderChunks_around
    simp only [renderChunk]
    cases hguard : guard.evaluateGuard own scope with
    | error e => rfl
    | ok b =>
      cases b with
      | false => exact ih fun s hs => h s (.second before whenTrue line after hguard hs)
      | true => rfl
  | loop before binder collection inner line after ih =>
    apply mapError_renderChunks_around
    simp only [renderChunk]
    cases hitems : (Node.path collection).evaluateSequence own scope with
    | error e => rfl
    | ok items =>
      have hbody : ∀ item ∈ items,
          (renderChunks own (scope.child [(binder, item)]) (inner.fill c)).mapError f =
            (renderChunks own (scope.child [(binder, item)]) (inner.fill d)).mapError f :=
        fun item hitem => ih fun s hs => h s (.loop before line after hitems hitem hs)
      have hatLine : atLine line (.ok items : Except Failure (List Value)) = pure items := rfl
      simp only [hatLine, pure_bind, mapError_bind, mapError_mapM, mapM_congr hbody]

end

/-- Chunks that are rendered alike in every scope in which a place is rendered can stand there in
each other's stead. -/
theorem Context.renderChunks_fill {k : Context}
    (h : ∀ s, k.Reaches own scope s → renderChunk own s c = renderChunk own s d) :
    renderChunks own scope (k.fill c) = renderChunks own scope (k.fill d) := by
  have hfill := mapError_renderChunks_fill (f := id) fun s hs => congrArg _ (h s hs)
  simpa only [mapError_id] using hfill

/-! ### Guards -/

/-- A guard and a simpler one that asks the same.  What a negation negates is a guard too. -/
inductive SimplerGuard : Node → Node → Prop
  | doubleNegation (g : Node) : SimplerGuard (.negation (.negation g)) g
  | unequal (l r : Node) : SimplerGuard (.negation (.comparison l r false)) (.comparison l r true)
  | negation {g h : Node} : SimplerGuard g h → SimplerGuard (.negation g) (.negation h)

theorem evaluateGuard_comparison (own : Ownership) (scope : Scope) (l r : Node) (negated : Bool) :
    (Node.comparison l r negated).evaluateGuard own scope = do
      let v ← l.evaluate own scope
      let w ← r.evaluate own scope
      return v.equals w != negated := by
  simp only [Node.evaluateGuard, Node.evaluate, bind_assoc, pure_bind]
  rfl

/-- A simpler guard has the same truth value, or fails with the same cause. -/
theorem SimplerGuard.evaluateGuard_eq {g h : Node} (hs : SimplerGuard g h) (own : Ownership)
    (scope : Scope) : g.evaluateGuard own scope = h.evaluateGuard own scope := by
  induction hs with
  | doubleNegation g =>
    rw [evaluateGuard_negation, evaluateGuard_negation]
    cases g.evaluateGuard own scope with
    | error e => rfl
    | ok b => exact congrArg Except.ok (Bool.not_not b)
  | unequal l r =>
    simp only [evaluateGuard_negation, evaluateGuard_comparison, bind_assoc, pure_bind,
      Bool.bne_false, Bool.bne_true]
  | negation _ ih => rw [evaluateGuard_negation, evaluateGuard_negation, ih]

/-! ### Tags -/

/-- A chunk and what it stands for. -/
inductive Chunk.Expands : Chunk → Chunk → Prop
  | inlineGuard (value guard : Node) (line : Nat) :
      Expands (.interpolation value (some guard) line)
        (.conditional guard [.interpolation value none line] [] line)
  | exchange (guard : Node) (whenTrue whenFalse : List Chunk) (line : Nat) :
      Expands (.conditional (.negation guard) whenTrue whenFalse line)
        (.conditional guard whenFalse whenTrue line)
  | guard {g h : Node} (whenTrue whenFalse : List Chunk) (line : Nat) : SimplerGuard g h →
      Expands (.conditional g whenTrue whenFalse line) (.conditional h whenTrue whenFalse line)
  | suffix {g h : Node} (value : Node) (line : Nat) : SimplerGuard g h →
      Expands (.interpolation value (some g) line) (.interpolation value (some h) line)

theorem renderChunks_single (own : Ownership) (scope : Scope) (c : Chunk) :
    renderChunks own scope [c] = renderChunk own scope c := by
  simp only [renderChunks_cons, renderChunks_nil, pure_bind, String.append_empty, bind_pure]

/-- A chunk is rendered as what it stands for. -/
theorem Chunk.Expands.renderChunk_eq (h : c.Expands d) (own : Ownership) (scope : Scope) :
    renderChunk own scope c = renderChunk own scope d := by
  cases h with
  | inlineGuard value guard line =>
    simp only [renderChunk, renderChunks_single, renderChunks_nil, pure_bind, if_true]
  | exchange guard whenTrue whenFalse line =>
    simp only [renderChunk, atLine_negation, bind_assoc, pure_bind]
    congr 1
    funext b
    cases b <;> rfl
  | guard whenTrue whenFalse line hs => simp only [renderChunk, hs.evaluateGuard_eq]
  | suffix value line hs => simp only [renderChunk, hs.evaluateGuard_eq]

/-- A block that `unless` opens stands for the one that `if` opens with the same guard, the bodies
exchanged. -/
theorem expands_unless {o o' : Tag} (hline : o.line = o'.line) (m e : Tag) (g : Node)
    (body other : List Phrase) : (Phrase.alternative o g.negation body m other e).chunk.Expands
      (Phrase.alternative o' g other m body e).chunk := by
  rw [Phrase.chunk, Phrase.chunk, hline]
  exact .exchange ..

/-- Wherever in a template a derived form stands, what it stands for makes the same of the
template: the same text in every scope, or the same failure with its line, path and cause.  So
`unless` is `if` with exchanged branches. -/
theorem render_expansion (own : Ownership) (name : String) (k : Context) (scope : Scope) :
    (∀ c d : Chunk, c.Expands d →
      render own ⟨name, k.fill c⟩ scope = render own ⟨name, k.fill d⟩ scope) ∧
    ∀ (o o' m e : Tag) (rest : List Char) (g : Node) (body other : List Phrase),
      o.Says "unless" rest → o'.Says "if" rest → o.line = o'.line →
      parseGuard (String.ofList rest) = .ok g →
      o.Opens (.conditional "unless" g.negation) ∧ o'.Opens (.conditional "if" g) ∧
      render own ⟨name, k.fill (Phrase.alternative o g.negation body m other e).chunk⟩ scope =
        render own ⟨name, k.fill (Phrase.alternative o' g other m body e).chunk⟩ scope := by
  have hrender (c d : Chunk) (h : c.Expands d) :
      render own ⟨name, k.fill c⟩ scope = render own ⟨name, k.fill d⟩ scope := by
    simp only [render, k.renderChunks_fill fun s _ => h.renderChunk_eq own s]
  refine ⟨hrender, fun o o' m e rest g body other hunless hif hline hguard => ?_⟩
  exact ⟨.onUnless hunless hguard, .onIf hif hguard,
    hrender _ _ (expands_unless hline m e g body other)⟩

/-- A value with an inline guard that is negated twice. -/
def listed : Chunk :=
  .interpolation (.path ⟨"x", []⟩) (some (.negation (.negation (.path ⟨"x", ["empty"]⟩)))) 2

/-- The same value with the guard alone. -/
def listedPlainly : Chunk := .interpolation (.path ⟨"x", []⟩) (some (.path ⟨"x", ["empty"]⟩)) 2

/-- A loop over `xs` with a place open behind a dash. -/
def listing : Context := .loop [] "x" ⟨"xs", []⟩ (.here [.text "- "] []) 1 []

theorem render_expansion_listing : listed.Expands listedPlainly ∧
    render .empty ⟨"list", listing.fill listed⟩ [[("xs", .list [.text "", .int 1])]] =
      render .empty ⟨"list", listing.fill listedPlainly⟩ [[("xs", .list [.text "", .int 1])]] ∧
    render .empty ⟨"list", listing.fill listed⟩ [[("xs", .list [.text "", .int 1])]] =
      .error ⟨"list", 2, .unresolved "x.empty" "empty" (.kind "int")⟩ := by
  have h : listed.Expands listedPlainly := .suffix _ _ (.doubleNegation _)
  exact ⟨h, (render_expansion ..).1 _ _ h, by decide⟩

end Scaffold.Template
