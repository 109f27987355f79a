import Scaffold.Proofs.Computation
import Scaffold.Proofs.Template.Rendering

/-! Lexical scope.  What a template makes of a scope depends on the values of its free names alone,
so that a chain of scopes can be replaced by one mapping, and what a loop binds stays within it. -/
namespace Scaffold

open Model Expression

/-! ### Free names -/

/-- The name that a path reads from the scope. -/
def Expression.Path.freeName (p : Path) : String := unmarked p.head

/-- The names that an expression reads from the scope. -/
def Expression.Node.freeNames : Node → List String
  | .text _ => []
  | .truth _ => []
  | .path p => [p.freeName]
  | .negation n => n.freeNames
  | .comparison l r _ => l.freeNames ++ r.freeNames

namespace Template

mutual
/-- The names that a chunk reads from the scope around it.  The variable of a loop is bound in its
body, not in its collection. -/
def Chunk.freeNames : Chunk → List String
  | .text _ => []
  | .interpolation value none _ => value.freeNames
  | .interpolation value (some guard) _ => guard.freeNames ++ value.freeNames
  | .conditional guard whenTrue whenFalse _ =>
    guard.freeNames ++ (freeNamesOf whenTrue ++ freeNamesOf whenFalse)
  | .iteration binder collection body _ =>
    collection.freeName :: (freeNamesOf body).filter (· ≠ binder)

def freeNamesOf : List Chunk → List String
  | [] => []
  | c :: cs => c.freeNames ++ freeNamesOf cs
end

end Template

/-- The free names of a template. -/
def Template.freeNames (t : Template) : List String := Template.freeNamesOf t.chunks

/-! ### Scopes that agree -/

namespace Scope

/-- Each of the names is bound to the same value in both scopes, or in neither. -/
def AgreeOn (names : List String) (s s' : Scope) : Prop := ∀ x ∈ names, s.find? x = s'.find? x

variable {s s' : Scope} {xs ys : List String} {x y : String} {v : Value}

theorem agreeOn_append : AgreeOn (xs ++ ys) s s' ↔ AgreeOn xs s s' ∧ AgreeOn ys s s' := by
  simp only [AgreeOn, List.mem_append, or_imp, forall_and]

theorem agreeOn_cons : AgreeOn (x :: xs) s s' ↔ s.find? x = s'.find? x ∧ AgreeOn xs s s' :=
  List.forall_mem_cons

theorem find?_child (s : Scope) (bindings : Bindings) (x : String) :
    (s.child bindings).find? x = (bindings.lookup x).or (s.find? x) := by
  rw [child, find?, List.findSome?_cons, find?]
  cases bindings.lookup x <;> rfl

theorem find?_child_self (s : Scope) (x : String) (v : Value) :
    (s.child [(x, v)]).find? x = some v := by
  rw [find?_child, List.lookup_cons_self, Option.some_or]

theorem find?_child_of_ne (h : y ≠ x) : (s.child [(x, v)]).find? y = s.find? y := by
  rw [find?_child, List.lookup_cons, beq_false_of_ne h, List.lookup_nil, Option.none_or]

/-- Scopes that agree on all names but one do so on this one too once it is bound. -/
theorem AgreeOn.child (h : AgreeOn (xs.filter (· ≠ x)) s s') :
    AgreeOn xs (s.child [(x, v)]) (s'.child [(x, v)]) := by
  intro y hy
  by_cases hyx : y = x
  · rw [hyx, find?_child_self, find?_child_self]
  · rw [find?_child_of_ne hyx, find?_child_of_ne hyx,
      h y (List.mem_filter.mpr ⟨hy, by simpa using hyx⟩)]

/-- The bindings of a chain of scopes as one mapping, in which those further in win. -/
def merged : Scope → Bindings
  | [] => []
  | inner :: outer => inner ++ (merged outer).filter fun b => (inner.lookup b.1).isNone

theorem lookup_filter {p : String × Value → Bool} (h : ∀ v, p (x, v) = true)
    (bindings : Bindings) : (bindings.filter p).lookup x = bindings.lookup x := by
  induction bindings with
  | nil => rfl
  | cons b bindings ih =>
    rw [List.lookup_cons]
    by_cases hb : p b = true
    · rw [List.filter_cons_of_pos hb, List.lookup_cons, ih]
    · have hx : x ≠ b.1 := by
        rintro rfl
        exact hb (h b.2)
      rw [List.filter_cons_of_neg hb, ih, beq_false_of_ne hx]

theorem lookup_merged (s : Scope) (x : String) : s.merged.lookup x = s.find? x := by
  induction s with
  | nil => rfl
  | cons inner outer ih =>
    have hchild : find? (inner :: outer) x = (inner.lookup x).or (find? outer x) :=
      find?_child outer inner x
    rw [merged, List.lookup_append, hchild]
    cases hinner : inner.lookup x with
    | some v => rfl
    | none => rw [Option.none_or, Option.none_or, lookup_filter fun _ => by simp [hinner], ih]

/-- A chain of scopes binds what its one mapping binds. -/
theorem find?_merged (s : Scope) (x : String) : find? [s.merged] x = s.find? x := by
  have hchild : find? [s.merged] x = (s.merged.lookup x).or none := find?_child [] s.merged x
  rw [hchild, Option.or_none, lookup_merged]

end Scope

/-! ### Evaluation -/

namespace Expression
variable {own : Ownership} {s s' : Scope}

theorem Path.resolve_congr {p : Path} (h : s.find? p.freeName = s'.find? p.freeName) :
    p.resolve own s = p.resolve own s' := by
  unfold Path.resolve
  rw [← freeName, h]

theorem Node.evaluate_congr {n : Node} (h : Scope.AgreeOn n.freeNames s s') :
    n.evaluate own s = n.evaluate own s' := by
  induction n with
  | text | truth => rfl
  | path p => exact Path.resolve_congr (h _ List.mem_cons_self)
  | negation n ih => rw [evaluate, evaluate, ih h]
  | comparison l r negated ihl ihr =>
    obtain ⟨hl, hr⟩ := Scope.agreeOn_append.mp h
    rw [evaluate, evaluate, ihl hl, ihr hr]

theorem Node.evaluateGuard_congr {n : Node} (h : Scope.AgreeOn n.freeNames s s') :
    n.evaluateGuard own s = n.evaluateGuard own s' := by
  rw [evaluateGuard, evaluateGuard, evaluate_congr h]

theorem Node.evaluateText_congr {n : Node} (h : Scope.AgreeOn n.freeNames s s') :
    n.evaluateText own s = n.evaluateText own s' := by
  rw [evaluateText, evaluateText, evaluate_congr h]

theorem Node.evaluateSequence_congr {n : Node} (h : Scope.AgreeOn n.freeNames s s') :
    n.evaluateSequence own s = n.evaluateSequence own s' := by
  rw [evaluateSequence, evaluateSequence, evaluate_congr h]

end Expression

/-! ### Rendering -/

namespace Template
variable {own : Ownership}

mutual
theorem renderChunk_congr {s s' : Scope} {c : Chunk} (h : Scope.AgreeOn c.freeNames s s') :
    renderChunk own s c = renderChunk own s' c := by
  cases c with
  | text t => rfl
  | interpolation value guard line =>
    cases guard with
    | none => rw [renderChunk, renderChunk, Node.evaluateText_congr h]
    | some g =>
      obtain ⟨hg, hv⟩ := Scope.agreeOn_append.mp h
      simp only [renderChunk, Node.evaluateGuard_congr hg, Node.evaluateText_congr hv]
  | conditional g whenTrue whenFalse line =>
    obtain ⟨hg, hbranches⟩ := Scope.agreeOn_append.mp h
    obtain ⟨ht, hf⟩ := Scope.agreeOn_append.mp hbranches
    simp only [renderChunk, Node.evaluateGuard_congr hg, renderChunks_congr ht,
      renderChunks_congr hf]
  | iteration binder collection body line =>
    obtain ⟨hc, hbody⟩ := Scope.agreeOn_cons.mp h
    have hitems : (Node.path collection).evaluateSequence own s =
        (Node.path collection).evaluateSequence own s' :=
      Node.evaluateSequence_congr (List.forall_mem_singleton.mpr hc)
    -- Inside of the loop the scopes agree on its variable as well.
    have hbody (item : Value) : renderChunks own (s.child [(binder, item)]) body =
        renderChunks own (s'.child [(binder, item)]) body :=
      renderChunks_congr hbody.child
    simp only [renderChunk, hitems, hbody]

theorem renderChunks_congr {s s' : Scope} {cs : List Chunk}
    (h : Scope.AgreeOn (freeNamesOf cs) s s') :
    renderChunks own s cs = renderChunks own s' cs := by
  cases cs with
  | nil => rfl
  | cons c cs =>
    obtain ⟨hc, hcs⟩ := Scope.agreeOn_append.mp h
    rw [renderChunks_cons, renderChunks_cons, renderChunk_congr hc, renderChunks_congr hcs]
end

theorem find?_scopeWith (s : Scope) (extra : Bindings) (x : String) :
    (scopeWith s extra).find? x = Scope.find? (extra :: s) x := by
  unfold scopeWith
  cases extra <;> rfl

/-- A template is rendered alike in two scopes that agree on its free names.  So a chain of scopes,
with further bindings on top, comes to the one mapping in which the inner bindings win; and
whatever a loop binds, what stands around it is rendered in the scope around it. -/
theorem render_lexical (own : Ownership) (t : Template) (s : Scope) :
    (∀ s', Scope.AgreeOn t.freeNames s s' → t.render own s = t.render own s') ∧
    (∀ extra, t.render own (scopeWith s extra) = t.render own [Scope.merged (extra :: s)]) ∧
    ∀ before binder collection body line after,
      renderChunks own s (before ++ .iteration binder collection body line :: after) = do
        let textBefore ← renderChunks own s before
        let textOfLoop ← renderChunk own s (.iteration binder collection body line)
        let textAfter ← renderChunks own s after
        return textBefore ++ (textOfLoop ++ textAfter) := by
  have hagree (s s' : Scope) (h : Scope.AgreeOn t.freeNames s s') :
      t.render own s = t.render own s' := by
    rw [render, render, renderChunks_congr h]
  refine ⟨hagree s, fun extra => ?_, fun before binder collection body line after => ?_⟩
  · apply hagree
    intro x _
    rw [find?_scopeWith, Scope.find?_merged]
  · simp only [renderChunks_append, renderChunks_cons, bind_assoc, pure_bind]

/-- A loop over `x` whose variable is `x` too, and the size of the outer `x` behind it. -/
def shadowing : Template := ⟨"shadowing", [
  .iteration "x" ⟨"x", []⟩ [.interpolation (.path ⟨"x", []⟩) none 1,
    .interpolation (.path ⟨"mark", []⟩) none 1] 1,
  .interpolation (.path ⟨"x", ["size"]⟩) none 1]⟩

/-- A chain in which the outer `mark` is hidden. -/
def nested : Scope :=
  [[("mark", .text ";")], [("mark", .text "!"), ("x", .list [.text "a", .text "b"])]]

theorem render_lexical_shadowing : Scope.AgreeOn shadowing.freeNames nested [nested.merged] ∧
    shadowing.render .empty nested = shadowing.render .empty [nested.merged] ∧
    shadowing.render .empty nested = .ok "a;b;2" := by
  have hagree : Scope.AgreeOn shadowing.freeNames nested [nested.merged] :=
    fun x _ => (Scope.find?_merged nested x).symm
  exact ⟨hagree, (render_lexical .empty shadowing nested).1 _ hagree, by decide⟩

end Template

end Scaffold
