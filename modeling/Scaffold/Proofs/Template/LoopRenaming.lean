import Mathlib.Data.List.DropRight
import Scaffold.Proofs.Expression.Evaluation
import Scaffold.Proofs.Template.Expansion
import Scaffold.Proofs.Template.LexicalScope

/-! Renaming of loop variables.  The variable of a loop can be replaced by any name that its body
does not mention: the loop that is renamed hides another name of the scope around it, and shows the
one that it used to hide, but its body asks for neither. -/
namespace Scaffold
open Model Expression

/-! ### Renaming -/

namespace Expression
variable {x y : String} {p : Path} {n : Node}

/-- The question marks that a segment ends in. -/
def marks (segment : String) : String :=
  String.ofList (segment.toList.rtakeWhile (· == '?'))

/-- The path with `y` in place of the name `x`.  Its segment asks for a truth value as before. -/
def Path.rename (x y : String) (p : Path) : Path :=
  if p.freeName = x then { p with head := y ++ marks p.head } else p

/-- The expression with `y` in place of the name `x`. -/
def Node.rename (x y : String) : Node → Node
  | .text s => .text s
  | .truth b => .truth b
  | .path p => .path (p.rename x y)
  | .negation n => .negation (n.rename x y)
  | .comparison l r negated => .comparison (l.rename x y) (r.rename x y) negated

theorem unmarked_append_marks (hy : isMarked y = false) (segment : String) :
    unmarked (y ++ marks segment) = y := by
  have hmarks : ∀ c ∈ (segment.toList.rtakeWhile (· == '?')).reverse, (c == '?') = true :=
    fun c hc => List.mem_rtakeWhile_imp (p := (· == '?')) (List.mem_reverse.mp hc)
  rw [unmarked, marks, String.toList_append, String.toList_ofList, List.reverse_append,
    List.dropWhile_append_of_pos hmarks]
  exact unmarked_of_isMarked hy

theorem isMarked_append_marks (hy : isMarked y = false) (segment : String) :
    isMarked (y ++ marks segment) = isMarked segment := by
  rw [isMarked, isMarked, marks, String.toList_append, String.toList_ofList]
  rcases List.eq_nil_or_concat' segment.toList with hs | ⟨l, c, hs⟩
  · rw [hs, List.rtakeWhile_nil, List.append_nil]
    exact hy
  · rw [hs, List.rtakeWhile_concat, List.getLast?_concat]
    by_cases hc : c = '?'
    · rw [if_pos (beq_iff_eq.mpr hc), ← List.append_assoc, List.getLast?_concat]
    · rw [if_neg (by simpa using hc), List.append_nil]
      exact hy.trans (by simpa using hc)

end Expression

/-! ### Scopes -/

namespace Scope
variable {s s' : Scope} {x y z : String} {v : Value}

/-- What the one scope shows under `x`, the other one shows under `y`.  Under further names both
show the same; nothing is said of `y` in the one and of `x` in the other. -/
structure Renames (x y : String) (s s' : Scope) : Prop where
  renamed : s'.find? y = s.find? x
  other : ∀ z, z ≠ x → z ≠ y → s'.find? z = s.find? z

/-- A scope below which a loop binds `x`, and the same scope below which it binds `y`. -/
theorem renames_child (s : Scope) (x y : String) (v : Value) :
    Renames x y (s.child [(x, v)]) (s.child [(y, v)]) where
  renamed := (find?_child_self s y v).trans (find?_child_self s x v).symm
  other _ hx hy := (find?_child_of_ne hy).trans (find?_child_of_ne hx).symm

/-- A further loop inside keeps two scopes apart as they are, unless its variable is `x` or `y`. -/
theorem Renames.child (h : Renames x y s s') (hx : z ≠ x) (hy : z ≠ y) (v : Value) :
    Renames x y (s.child [(z, v)]) (s'.child [(z, v)]) where
  renamed := by rw [find?_child_of_ne hy.symm, find?_child_of_ne hx.symm, h.renamed]
  other w hwx hwy := by
    rw [find?_child, find?_child, h.other w hwx hwy]

/-- Once both bind `x`, they agree on all names but `y`. -/
theorem Renames.agreeOn_child (h : Renames x y s s') {names : List String} (hy : y ∉ names)
    (v : Value) : AgreeOn names (s'.child [(x, v)]) (s.child [(x, v)]) := by
  apply AgreeOn.child
  intro z hz
  obtain ⟨hmem, hx⟩ := List.mem_filter.mp hz
  exact h.other z (of_decide_eq_true hx) fun hzy => hy (hzy ▸ hmem)

end Scope

/-! ### Evaluation -/

namespace Expression
variable {own : Ownership} {s s' : Scope} {x y : String} {p : Path} {n : Node}

/-- A renamed path leads to the same value, or fails as the path itself does. -/
theorem Path.resolve_rename (h : s.Renames x y s') (hy : isMarked y = false)
    (hfree : p.freeName ≠ y) (v : Value) :
    (p.rename x y).resolve own s' = .ok v ↔ p.resolve own s = .ok v := by
  rw [rename]
  by_cases hx : p.freeName = x
  · have hfind : s.find? (unmarked p.head) = s'.find? y := by
      rw [h.renamed, ← hx, freeName]
    rw [if_pos hx, resolve_eq_ok_iff, resolve_eq_ok_iff, unmarked_append_marks hy,
      isMarked_append_marks hy, hfind]
  · rw [if_neg hx, resolve_congr (h.other _ hx hfree)]

theorem mapError_asTruth {α : Type} (m n : Node) (v : Value) (a : α) :
    (asTruth m v).mapError (fun _ => a) = (asTruth n v).mapError fun _ => a := by
  cases v with
  | scalar c => cases c <;> rfl
  | _ => rfl

/-- A renamed expression has the same value, or none as well. -/
theorem Node.evaluate_rename (h : s.Renames x y s') (hy : isMarked y = false)
    (hfree : y ∉ n.freeNames) {α : Type} (a : α) :
    ((n.rename x y).evaluate own s').mapError (fun _ => a) =
      (n.evaluate own s).mapError fun _ => a := by
  induction n with
  | text | truth => rfl
  | path p =>
    have hp : p.freeName ≠ y := fun he => hfree (List.mem_singleton.mpr he.symm)
    exact (mapError_const_eq_iff a).mpr (Path.resolve_rename h hy hp)
  | negation n ih =>
    simp only [rename, evaluate, mapError_bind, ih hfree, mapError_asTruth (n.rename x y) n]
  | comparison l r negated ihl ihr =>
    obtain ⟨hl, hr⟩ := not_or.mp (List.mem_append.not.mp hfree)
    simp only [rename, evaluate, mapError_bind, ihl hl, ihr hr]

section
variable {α : Type} (a : α) (h : s.Renames x y s') (hy : isMarked y = false)
  (hfree : y ∉ n.freeNames)
include h hy hfree

theorem Node.evaluateGuard_rename :
    ((n.rename x y).evaluateGuard own s').mapError (fun _ => a) =
      (n.evaluateGuard own s).mapError fun _ => a :=
  mapError_bind_congr (evaluate_rename h hy hfree a) fun v => mapError_asTruth _ n v a

theorem Node.evaluateText_rename :
    ((n.rename x y).evaluateText own s').mapError (fun _ => a) =
      (n.evaluateText own s).mapError fun _ => a := by
  refine mapError_bind_congr (evaluate_rename h hy hfree a) fun v => ?_
  cases v with
  | scalar c => cases c <;> rfl
  | _ => rfl

theorem Node.evaluateSequence_rename :
    ((n.rename x y).evaluateSequence own s').mapError (fun _ => a) =
      (n.evaluateSequence own s).mapError fun _ => a := by
  refine mapError_bind_congr (evaluate_rename h hy hfree a) fun v => ?_
  cases v <;> rfl

end

end Expression

/-! ### Rendering -/

namespace Template
variable {own : Ownership} {x y : String}

mutual
/-- The chunk with `y` in place of the name `x`, where it is free. -/
def Chunk.rename (x y : String) : Chunk → Chunk
  | .text s => .text s
  | .interpolation value guard line =>
    .interpolation (value.rename x y) (guard.map (Node.rename x y)) line
  | .conditional guard whenTrue whenFalse line =>
    .conditional (guard.rename x y) (renameIn x y whenTrue) (renameIn x y whenFalse) line
  | .iteration binder collection body line =>
    .iteration binder (collection.rename x y) (if binder = x then body else renameIn x y body) line

def renameIn (x y : String) : List Chunk → List Chunk
  | [] => []
  | c :: cs => c.rename x y :: renameIn x y cs
end

mutual
/-- The names in a chunk: those that a path starts with, and the variables of loops. -/
def Chunk.names : Chunk → List String
  | .text _ => []
  | .interpolation value none _ => value.freeNames
  | .interpolation value (some guard) _ => guard.freeNames ++ value.freeNames
  | .conditional guard whenTrue whenFalse _ =>
    guard.freeNames ++ (namesOf whenTrue ++ namesOf whenFalse)
  | .iteration binder collection body _ => binder :: collection.freeName :: namesOf body

def namesOf : List Chunk → List String
  | [] => []
  | c :: cs => c.names ++ namesOf cs
end

mutual
theorem mem_names_of_mem_freeNames {z : String} {c : Chunk} (h : z ∈ c.freeNames) :
    z ∈ c.names := by
  cases c with
  | text s => exact h
  | interpolation value guard line => cases guard <;> exact h
  | conditional guard whenTrue whenFalse line =>
    simp only [Chunk.freeNames, Chunk.names, List.mem_append] at h ⊢
    exact h.imp_right fun h => h.imp mem_namesOf_of_mem_freeNamesOf mem_namesOf_of_mem_freeNamesOf
  | iteration binder collection body line =>
    obtain rfl | h := List.mem_cons.mp h
    · exact List.mem_cons_of_mem _ List.mem_cons_self
    · have hbody := mem_namesOf_of_mem_freeNamesOf (List.mem_of_mem_filter h)
      exact List.mem_cons_of_mem _ (List.mem_cons_of_mem _ hbody)

theorem mem_namesOf_of_mem_freeNamesOf {z : String} {cs : List Chunk} (h : z ∈ freeNamesOf cs) :
    z ∈ namesOf cs := by
  cases cs with
  | nil => exact h
  | cons c cs =>
    exact List.mem_append.mpr ((List.mem_append.mp h).imp mem_names_of_mem_freeNames
      mem_namesOf_of_mem_freeNamesOf)
end

theorem mapError_atLine {α : Type} {line : Nat} {a b : Except Failure α}
    (h : a.mapError (fun _ => line) = b.mapError fun _ => line) :
    (atLine line a).mapError Prod.fst = (atLine line b).mapError Prod.fst := by
  have hline (c : Except Failure α) :
      (atLine line c).mapError Prod.fst = c.mapError fun _ => line := by
    cases c <;> rfl
  rw [hline, hline, h]

/-- Loops are rendered alike if they are over the same elements and their bodies are rendered alike
for each of them. -/
theorem renderChunk_iteration {s s' : Scope} {v v' : String} {collection collection' : Path}
    {body body' : List Chunk} {line : Nat}
    (hitems : ((Node.path collection').evaluateSequence own s').mapError (fun _ => line) =
      ((Node.path collection).evaluateSequence own s).mapError fun _ => line)
    (hbody : ∀ item, (renderChunks own (s'.child [(v', item)]) body').mapError Prod.fst =
      (renderChunks own (s.child [(v, item)]) body).mapError Prod.fst) :
    (renderChunk own s' (.iteration v' collection' body' line)).mapError Prod.fst =
      (renderChunk own s (.iteration v collection body line)).mapError Prod.fst := by
  simp only [renderChunk]
  refine mapError_bind_congr (mapError_atLine hitems) fun items => ?_
  simp only [mapError_bind, mapError_mapM, hbody]

mutual
/-- A renamed chunk is rendered as before in a scope that is renamed alike: to the same text, or to
a failure at the same line. -/
theorem renderChunk_rename {s s' : Scope} {c : Chunk} (hy : isMarked y = false)
    (h : s.Renames x y s') (hfresh : y ∉ c.names) :
    (renderChunk own s' (c.rename x y)).mapError Prod.fst =
      (renderChunk own s c).mapError Prod.fst := by
  cases c with
  | text t => rfl
  | interpolation value guard line =>
    cases guard with
    | none =>
      simp only [Chunk.rename, Option.map_none, renderChunk, pure_bind, if_true]
      exact mapError_atLine (Node.evaluateText_rename line h hy hfresh)
    | some g =>
      simp only [Chunk.names, List.mem_append, not_or] at hfresh
      obtain ⟨hg, hv⟩ := hfresh
      simp only [Chunk.rename, Option.map_some, renderChunk]
      refine mapError_bind_congr (mapError_atLine (Node.evaluateGuard_rename line h hy hg))
        fun b => ?_
      cases b with
      | false => rfl
      | true => exact mapError_atLine (Node.evaluateText_rename line h hy hv)
  | conditional g whenTrue whenFalse line =>
    simp only [Chunk.names, List.mem_append, not_or] at hfresh
    obtain ⟨hg, ht, hf⟩ := hfresh
    simp only [Chunk.rename, renderChunk]
    refine mapError_bind_congr (mapError_atLine (Node.evaluateGuard_rename line h hy hg))
      fun b => ?_
    cases b with
    | false => exact renderChunks_rename hy h hf
    | true => exact renderChunks_rename hy h ht
  | iteration binder collection body line =>
    simp only [Chunk.names, List.mem_cons, not_or] at hfresh
    obtain ⟨hbinder, hcollection, hbody⟩ := hfresh
    have hc : y ∉ (Node.path collection).freeNames := fun hmem =>
      hcollection (List.mem_singleton.mp hmem)
    refine renderChunk_iteration (Node.evaluateSequence_rename line h hy hc) fun item => ?_
    by_cases hx : binder = x
    · -- The inner loop hides `x`, so that its body stays.
      have hfree : y ∉ freeNamesOf body := fun hmem => hbody (mem_namesOf_of_mem_freeNamesOf hmem)
      rw [if_pos hx, hx, renderChunks_congr (h.agreeOn_child hfree item)]
    · rw [if_neg hx]
      exact renderChunks_rename hy (h.child hx (Ne.symm hbinder) item) hbody

theorem renderChunks_rename {s s' : Scope} {cs : List Chunk} (hy : isMarked y = false)
    (h : s.Renames x y s') (hfresh : y ∉ namesOf cs) :
    (renderChunks own s' (renameIn x y cs)).mapError Prod.fst =
      (renderChunks own s cs).mapError Prod.fst := by
  cases cs with
  | nil => rfl
  | cons c cs =>
    simp only [namesOf, List.mem_append, not_or] at hfresh
    obtain ⟨hc, hcs⟩ := hfresh
    simp only [renameIn, renderChunks_cons, mapError_bind, renderChunk_rename hy h hc,
      renderChunks_rename hy h hcs]
end

theorem mapError_render (name : String) (cs : List Chunk) (scope : Scope) :
    (render own ⟨name, cs⟩ scope).mapError RenderFault.line =
      (renderChunks own scope cs).mapError Prod.fst := by
  rw [render]
  cases renderChunks own scope cs <;> rfl

/-- Wherever in a template a loop stands, its variable can be renamed to any name that its body
does not mention, with every place where the body reads it: in every scope the template makes the
same text, or fails at the same line.  A name without a question mark is what a path can read. -/
theorem render_loop_renamed (own : Ownership) (name : String) (k : Context) (x y : String)
    (collection : Path) (body : List Chunk) (line : Nat) (hy : isMarked y = false)
    (hfresh : y ∉ namesOf body) (scope : Scope) :
    (render own ⟨name, k.fill (.iteration y collection (renameIn x y body) line)⟩ scope).mapError
        RenderFault.line =
      (render own ⟨name, k.fill (.iteration x collection body line)⟩ scope).mapError
        RenderFault.line := by
  rw [mapError_render, mapError_render]
  refine k.mapError_renderChunks_fill fun s _ => renderChunk_iteration rfl fun item => ?_
  exact renderChunks_rename hy (s.renames_child x y item) hfresh

/-- The size of `item`, and its elements in a loop whose variable is `item` too. -/
def sized : List Chunk := [
  .interpolation (.path ⟨"item", ["size"]⟩) none 2, .text ":",
  .iteration "item" ⟨"item", []⟩ [.interpolation (.path ⟨"item", []⟩) none 3] 3]

/-- A place in front of a tag that writes `entry`. -/
def beforeEntry : Context := .here [] [.interpolation (.path ⟨"entry", []⟩) none 5]

def lists : Scope := [[("entry", .text "!"),
  ("xs", .list [.list [.text "a", .text "b"], .list [.text "c"]])]]

theorem render_loop_renamed_sized : isMarked "entry" = false ∧ "entry" ∉ namesOf sized ∧
    renameIn "item" "entry" sized = [
      .interpolation (.path ⟨"entry", ["size"]⟩) none 2, .text ":",
      .iteration "item" ⟨"entry", []⟩ [.interpolation (.path ⟨"item", []⟩) none 3] 3] ∧
    (render .empty ⟨"lists", beforeEntry.fill (.iteration "entry" ⟨"xs", []⟩
        (renameIn "item" "entry" sized) 1)⟩ lists).mapError RenderFault.line =
      (render .empty ⟨"lists", beforeEntry.fill (.iteration "item" ⟨"xs", []⟩ sized 1)⟩
        lists).mapError RenderFault.line ∧
    render .empty ⟨"lists", beforeEntry.fill (.iteration "item" ⟨"xs", []⟩ sized 1)⟩ lists =
      .ok "2:ab1:c!" := by
  have hy : isMarked "entry" = false := by decide
  have hfresh : "entry" ∉ namesOf sized := by decide
  exact ⟨hy, hfresh, by rfl, render_loop_renamed _ _ _ _ _ _ _ _ hy hfresh _, by decide⟩

end Template
end Scaffold
