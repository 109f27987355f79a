import Scaffold.Proofs.Model.Forest

/-! What a refused construction leaves behind.  No task is linked to a component by a call that
fails, and no operation to a task, but for one that the fields of a component supply to a task
within them: that task was complete, and had taken possession of its operations, before the
component failed. -/
namespace Scaffold.Model

variable {own own' : Ownership} {es : List Entity} {c : EntityClass} {fields : Fields}
  {fault : ConstructionFault}

/-- A call that fails takes a course below the level of its class, out of what its fields supply. -/
theorem Stock.course_of_refused (h : construct own c fields = (.error fault, own')) :
    ∃ s', Course c.level ⟨own, {e | (Value.dict fields).Supplies c e}⟩ s' ∧ s'.own = own' := by
  obtain ⟨s', hcourse, hend⟩ :=
    completes_build (s := ⟨own, {e | (Value.dict fields).Supplies c e}⟩) c fun _ he => he
  unfold construct at h
  generalize (c.build fields).run own = b at hend h
  rcases hend with ⟨r, rfl⟩ | ⟨e, rfl, -⟩
  · cases h
    exact ⟨s', hcourse, rfl⟩
  · cases h

/-- What a call that fails does to the owner of an entity that was there: nothing, or the entity is
supplied by the fields and now belongs to an entity built on the way. -/
theorem Stock.IsCoherent.owner?_of_refused {s : Stock} (hs : s.IsCoherent)
    (hf : ∀ e, (Value.dict fields).Supplies c e → e ∈ s.built)
    (h : construct s.own c fields = (.error fault, own')) {p : Entity} (hp : p ∈ s.built) :
    own'.owner? p = s.own.owner? p ∨ s.own.owner? p = none ∧ (Value.dict fields).Supplies c p ∧
      ∃ e, own'.owner? p = some e ∧ s.own.fresh ≤ e.mark ∧ e.kind.level < c.level ∧
        p ∈ e.holdings := by
  obtain ⟨s', hcourse, rfl⟩ := course_of_refused h
  refine (hcourse.owner?_cases p).imp id ?_
  rintro ⟨hnone, e, he, hfresh, hlevel, q, hq, hbuilt, -, hm⟩
  -- The held entity carries an old mark, so it was supplied, and it is the very entity.
  rcases hcourse.mem_built hbuilt with hsupplied | ⟨hnew, -⟩
  · obtain rfl := hs.unique q (hf q hsupplied) p hp hm
    exact ⟨hnone, hsupplied, e, he, hfresh, hlevel, hq⟩
  · exact absurd (hs.marked p hp) (hm ▸ hnew).not_gt

/-- A construction that fails leaves all links of entities that were built before as they were, but
for operations without a task that are supplied to a task among the fields of a component: such a
one may now belong to a task that was built from the fields and holds it. -/
theorem links_of_refused (h : Reached own es)
    (hf : ∀ e, (Value.dict fields).Mentions e → e ∈ es)
    (hc : construct own c fields = (.error fault, own')) :
    (∀ t, Built own es (.task t) → own'.component? t = own.component? t) ∧
    ∀ o, Built own es (.operation o) → own'.task? o = own.task? o ∨
      c = .component ∧ (Value.dict fields).Supplies .component (.operation o) ∧
        own.task? o = none ∧ ∃ t, own'.task? o = some t ∧ own.fresh ≤ t.mark ∧
          o ∈ t.operations := by
  obtain ⟨s, hs, rfl, hes⟩ := h.exists_stock
  have hsupplies (e : Entity) (he : (Value.dict fields).Supplies c e) : e ∈ s.built :=
    hes e (hf e he.mentions)
  constructor
  · intro t ht
    rcases hs.owner?_of_refused hsupplies hc (ht.mem hs hes) with hsame |
      ⟨-, -, e, -, -, hlevel, hheld⟩
    · exact Option.map_injective (fun _ _ => Entity.component.inj) hsame
    · -- What holds a task is a component, and no class is above that of components.
      have hholder : e.kind.level = 4 := Entity.level_of_mem_holdings hheld
      have := c.level_lt
      omega
  · intro o ho
    rcases hs.owner?_of_refused hsupplies hc (ho.mem hs hes) with hsame |
      ⟨hnone, hsupplied, e, he, hfresh, hlevel, hheld⟩
    · exact .inl (Option.map_injective (fun _ _ => Entity.task.inj) hsame)
    · obtain ⟨t, ht, rfl⟩ := Option.map_eq_some_iff.mp he
      have hcomponent : c = .component := by
        cases c <;> simp [EntityClass.level, Entity.kind] at hlevel ⊢
      rw [hcomponent] at hsupplied
      exact .inr ⟨hcomponent, hsupplied, by simpa [Ownership.owner?] using hnone, t, ht, hfresh,
        Entity.operation_mem_holdings.mp hheld⟩

/-- Fields of a second task with an operation of the first. -/
def secondFields : Fields := [(.text "basename", .text "Second"),
  (.text "self_operations", .list [.entity (.operation reset)])]

theorem construct_second : construct navOwners .task secondFields =
    (.error (.invalid ⟨"Task", [⟨[], .broken (.operationOwned "reset" "Controller")⟩]⟩),
      ⟨6, [(0, controller), (1, controller)], [(2, nav)]⟩) := rfl

theorem links_of_refused_second : Reached navOwners navEntities ∧
    (∀ e, (Value.dict secondFields).Mentions e → e ∈ navEntities) ∧
    ∃ fault own', construct navOwners .task secondFields = (.error fault, own') ∧
      own'.component? controller = navOwners.component? controller ∧
      own'.task? reset = navOwners.task? reset := by
  have hmentions (e : Entity) (he : (Value.dict secondFields).Mentions e) : e ∈ navEntities := by
    simp [secondFields] at he
    simp [navEntities, he]
  have hlinks := links_of_refused reached_nav hmentions construct_second
  exact ⟨reached_nav, hmentions, _, _, construct_second,
    hlinks.1 controller (.atHand (by simp [navEntities])),
    (hlinks.2 reset (.atHand (by simp [navEntities]))).resolve_right (by simp)⟩

/-- A component is refused for its name, and the operation that was supplied to a task of it has a
task afterwards. -/
theorem refused_component_links_operation : Reached ⟨1, [], []⟩ [.operation reset] ∧
    (∀ e, (Value.dict (navFields "nav stack")).Mentions e → e ∈ [.operation reset]) ∧
    ∃ fault own', construct ⟨1, [], []⟩ .component (navFields "nav stack") =
        (.error fault, own') ∧
      Ownership.task? ⟨1, [], []⟩ reset = none ∧ own'.task? reset = some controller :=
  ⟨reached_reset, by simp [navFields], _, _, construct_navStack, rfl, rfl⟩

end Scaffold.Model
