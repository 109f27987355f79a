import Scaffold.Proofs.Yaml.Composition
import Scaffold.Proofs.Yaml.Plain
import Scaffold.Yaml.Reader

/-! What a text in YAML must hold to be refused for more than its form: an escape for a code that no
character has, more digits than a number may have, more marks of collections than may be nested, or
a scalar that does not fit its tag. -/
namespace Scaffold.Yaml

variable {α β : Type} {all : List Token} {x : Built α} {y : Built β} {fault : Fault}
  {points : List Nat} {tag : Tag} {depth : Nat}

/-! ### Scalars -/

/-- A scalar among tokens is none of what its tag says: a plain one of what it looks like, and
another one of what is written.  A moment is not read from a mapping with a default entry. -/
inductive Unfit (all : List Token) (fault : Fault) : Prop
  | plain {points : List Nat} : .scalar points true ∈ all →
      Misreads (Text.charsOf points) fault → Unfit all fault
  | tagged {tag : Tag} {points : List Nat} : IsTagged all → IsScalarOf all points →
      scalarOf tag points = .error fault → Unfit all fault
  | moment : IsTagged all → fault = .noText → Unfit all fault

/-- What is built fails for its form or for a scalar that does not fit. -/
def Blames (all : List Token) (x : Built α) : Prop :=
  ∀ depth fault, x = .error (depth, fault) → fault = .malformed ∨ Unfit all fault

namespace Blames

theorem ok (a : α) : Blames all (.ok a : Built α) := nofun

theorem misfit (depth : Nat) : Blames all (misfit depth : Built α) := by
  rintro _ _ ⟨⟩
  exact .inl rfl

theorem map (h : Blames all x) (f : α → β) : Blames all (x.map f) := by
  intro depth fault hx
  cases x with
  | ok a => cases hx
  | error e =>
    cases hx
    exact h _ _ rfl

theorem and (hx : Blames all x) (hy : Blames all y) : Blames all (x.and y) := by
  intro depth fault h
  cases x with
  | ok a =>
    cases y with
    | ok b => cases h
    | error f =>
      cases h
      exact hy _ _ rfl
  | error e =>
    cases y with
    | ok b =>
      cases h
      exact hx _ _ rfl
    | error f =>
      simp only [Built.and, Except.error.injEq] at h
      split at h
      · exact hy _ _ (by rw [h])
      · exact hx _ _ (by rw [h])

theorem cons {xs : Built (List α)} (hx : Blames all x) (hxs : Blames all xs) :
    Blames all (x.cons xs) :=
  (hx.and hxs).map _

theorem asKey {x : Built Value} (h : Blames all x) (depth : Nat) : Blames all (asKey depth x) := by
  unfold Yaml.asKey
  split
  · exact .ok _
  · exact .misfit depth
  · next n fault =>
    split
    · exact .misfit depth
    · rintro _ _ ⟨⟩
      exact h _ _ rfl

theorem gathered {es : List (Node × Node)} {merged own : Built (List (Scalar × Value))}
    (hmerged : Blames all merged) (hown : Blames all own) (depth : Nat) :
    Blames all (gathered depth es merged own) := by
  unfold Yaml.gathered
  split
  · exact (hmerged.and hown).map _
  · exact .misfit depth

theorem of_scalar {s : Except Fault Scalar}
    (h : ∀ fault, s = .error fault → fault = .malformed ∨ Unfit all fault) (depth : Nat) :
    Blames all ((s.map Value.scalar).mapError (depth, ·)) := by
  intro depth fault hfault
  obtain ⟨fault', hscalar, heq⟩ := mapError_eq_error_iff.mp hfault
  cases heq
  exact h _ (map_eq_error_iff.mp hscalar)

end Blames

/-! ### Nodes -/

theorem isScalarOf_defaultTextOf? {es : List (Node × Node)}
    (h : ∀ e ∈ es, e.2.textOf? = some points → IsScalarOf all points)
    (hpoints : defaultTextOf? es = some points) : IsScalarOf all points := by
  induction es with
  | nil => cases hpoints
  | cons e es ih =>
    obtain ⟨he, hes⟩ := List.forall_mem_cons.mp h
    rw [defaultTextOf?] at hpoints
    split at hpoints
    · exact he hpoints
    · exact ih hes hpoints

theorem isScalarOf_textOf? {node : Node} (h : node.IsMadeOf all)
    (hpoints : node.textOf? = some points) : IsScalarOf all points := by
  induction h with
  | scalar _ hscalar =>
    cases hpoints
    exact hscalar
  | list => cases hpoints
  | mapping _ _ _ _ ihvalues => exact isScalarOf_defaultTextOf? ihvalues hpoints

theorem unfit_of_scalar (h : (Node.scalar tag points).IsMadeOf all)
    (hfault : scalarOf tag points = .error fault) : fault = .malformed ∨ Unfit all fault := by
  cases h with
  | scalar htag hpoints =>
    rcases htag with (rfl | ⟨rfl, rfl | hplain⟩) | htagged
    · cases hfault
    · cases hfault
    · exact (misreads_of_plain hfault).imp_right (.plain hplain)
    · exact .inr (.tagged htagged hpoints hfault)

theorem unfit_of_default (htag : IsTagged all) (hpoints : IsScalarOf all points)
    (hfault : defaultOf tag points = .error fault) : fault = .malformed ∨ Unfit all fault := by
  unfold defaultOf at hfault
  split at hfault
  · cases hfault
    exact .inr (.moment htag rfl)
  · exact .inr (.tagged htag hpoints hfault)

-- By recursion on nodes, as their values are had: one case for each of their readers.
mutual
theorem blames_value : (node : Node) → node.IsMadeOf all → ∀ depth, Blames all (node.value depth)
  | .scalar tag points, h, depth => by
    unfold Node.value
    split
    · exact .misfit _
    · exact .misfit _
    · exact .misfit _
    · exact .misfit _
    · exact .of_scalar (fun _ => unfit_of_scalar h) depth
  | .list tag items, h, depth => by
    cases h with
    | list _ hitems =>
      unfold Node.value
      split
      · exact (blames_valuesOf items hitems (depth + 1)).map _
      · exact (blames_pairsOf items hitems (depth + 1)).map _
      · exact .misfit _
      · exact .misfit _
      · exact .misfit _
  | .mapping tag es, h, depth => by
    cases h with
    | mapping htag hkeys hvalues =>
      have hmerged := blames_mergedOf es hvalues (depth + 1)
      have hown := blames_ownOf es hkeys hvalues (depth + 1)
      unfold Node.value
      split
      · exact (hmerged.gathered hown _).map _
      · exact (hmerged.gathered hown _).map _
      · exact .misfit _
      · exact .misfit _
      · next hmapping _ _ _ =>
        split
        · next points hpoints =>
          have hscalar : IsScalarOf all points :=
            isScalarOf_defaultTextOf? (fun e he => isScalarOf_textOf? (hvalues e he)) hpoints
          exact .of_scalar (fun _ => unfit_of_default (htag.resolve_left hmapping) hscalar) depth
        · exact .misfit _

theorem blames_valuesOf : (items : List Node) → (∀ node ∈ items, node.IsMadeOf all) →
    ∀ depth, Blames all (valuesOf depth items)
  | [], _, _ => .ok _
  | node :: rest, h, depth => by
    obtain ⟨hnode, hrest⟩ := List.forall_mem_cons.mp h
    exact (blames_value node hnode depth).cons (blames_valuesOf rest hrest depth)

theorem blames_pairsOf : (items : List Node) → (∀ node ∈ items, node.IsMadeOf all) →
    ∀ depth, Blames all (pairsOf depth items)
  | [], _, _ => .ok _
  | .mapping _ [(k, v)] :: rest, h, depth => by
    obtain ⟨hnode, hrest⟩ := List.forall_mem_cons.mp h
    cases hnode with
    | mapping _ hkeys hvalues =>
      have hk := blames_value k (hkeys (k, v) List.mem_cons_self) depth
      have hv := blames_value v (hvalues (k, v) List.mem_cons_self) depth
      exact ((hk.and hv).map _).cons (blames_pairsOf rest hrest depth)
  | .scalar _ _ :: _, _, depth => .misfit depth
  | .list _ _ :: _, _, depth => .misfit depth
  | .mapping _ [] :: _, _, depth => .misfit depth
  | .mapping _ (_ :: _ :: _) :: _, _, depth => .misfit depth

theorem blames_ownOf : (es : List (Node × Node)) → (∀ e ∈ es, e.1.IsMadeOf all) →
    (∀ e ∈ es, e.2.IsMadeOf all) → ∀ depth, Blames all (ownOf depth es)
  | [], _, _, _ => .ok _
  | (k, v) :: es, hkeys, hvalues, depth => by
    obtain ⟨hk, hkeys⟩ := List.forall_mem_cons.mp hkeys
    obtain ⟨hv, hvalues⟩ := List.forall_mem_cons.mp hvalues
    have hown := blames_ownOf es hkeys hvalues depth
    unfold ownOf
    split
    · exact hown
    · refine Blames.cons (Blames.and (Blames.asKey ?_ depth) (blames_value v hv depth)) hown
      split
      · split
        · exact .ok _
        · exact .misfit depth
      · exact blames_value k hk depth

theorem blames_mergedOf : (es : List (Node × Node)) → (∀ e ∈ es, e.2.IsMadeOf all) →
    ∀ depth, Blames all (mergedOf depth es)
  | [], _, _ => .ok _
  | (k, v) :: es, hvalues, depth => by
    obtain ⟨hv, hvalues⟩ := List.forall_mem_cons.mp hvalues
    have hmerged := blames_mergedOf es hvalues depth
    unfold mergedOf
    split
    · exact ((blames_mergeable v hv depth).and hmerged).map _
    · exact hmerged

theorem blames_mergeable : (node : Node) → node.IsMadeOf all →
    ∀ depth, Blames all (node.mergeable depth)
  | .scalar _ _, _, depth => .misfit depth
  | .list _ items, h, depth => by
    cases h with
    | list _ hitems => exact blames_mergeableOf items hitems depth
  | .mapping _ es, h, depth => by
    cases h with
    | mapping _ hkeys hvalues =>
      exact ((blames_mergedOf es hvalues depth).and (blames_ownOf es hkeys hvalues depth)).map _

theorem blames_mergeableOf : (items : List Node) → (∀ node ∈ items, node.IsMadeOf all) →
    ∀ depth, Blames all (mergeableOf depth items)
  | [], _, _ => .ok _
  | node :: rest, h, depth => by
    obtain ⟨hnode, hrest⟩ := List.forall_mem_cons.mp h
    exact ((blames_mergeableOf rest hrest depth).and (blames_mergeable node hnode depth)).map _
end

/-! ### Documents -/

/-- What a text may be refused for: that it is broken off, more marks of collections than these may
be nested, a plain scalar that is not the number or the moment that it looks like, or a scalar or a
mapping that does not fit a tag, if a tag may be written. -/
inductive Forbids (source : List Char) : Fault → Prop
  | broken {fault : Fault} : Breaks source fault → Forbids source fault
  | tooDeep : maxDepth ≤ openings source → Forbids source .tooDeep
  | plain {points : List Nat} {fault : Fault} : .scalar points true ∈ tokens source →
      Misreads (Text.charsOf points) fault → Forbids source fault
  | tagged {tag : Tag} {points : List Nat} {fault : Fault} : '!' ∈ source →
      IsScalarOf (tokens source) points → scalarOf tag points = .error fault →
      Forbids source fault
  | moment : '!' ∈ source → Forbids source .noText

/-- A text that is refused holds what it is refused for. -/
theorem forbids_of_read {source : String} (h : read source = .error fault) :
    Forbids source.toList fault := by
  have htells := tellsOf_tokens source.toList
  unfold read at h
  rcases bind_eq_error_iff.mp h with hnode | ⟨root, hroot, h⟩
  · rcases fault_of_ofTokens? hnode with rfl | hbroken | ⟨rfl, hdepth⟩
    · exact .broken .malformed
    · exact .broken (htells.broken fault hbroken)
    · exact .tooDeep (hdepth.trans htells.openings_le)
  · cases root with
    | none => cases h
    | some node =>
      obtain ⟨⟨depth, fault⟩, hvalue, rfl⟩ := mapError_eq_error_iff.mp h
      rcases blames_value node (isMadeOf_of_ofTokens? hroot) 0 _ _ hvalue with rfl | hunfit
      · exact .broken .malformed
      · cases hunfit with
        | plain hpoints hmisreads => exact .plain hpoints hmisreads
        | tagged htagged hpoints hfault =>
          obtain ⟨mark, hmark⟩ := htagged
          exact .tagged (htells.tag mark hmark) hpoints hfault
        | moment htagged heq =>
          obtain ⟨mark, hmark⟩ := htagged
          exact heq ▸ .moment (htells.tag mark hmark)

end Scaffold.Yaml
