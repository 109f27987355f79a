import Scaffold.Proofs.Model.Construction

/-! The links between entities form a forest.  Whatever was constructed, and whatever failed on the
way, an operation has at most one task and a task at most one component; each link leads to what
holds the entity, what an entity holds leads back to it, and no link is ever changed. -/
namespace Scaffold

open Model Naming Text

namespace Model

open Entity Ownership

/-! ### Coherent stocks -/

namespace Stock
variable {s s' : Stock} {e p : Entity}

/-- The entities of a stock are told by their marks, none of them lacks a part or breaks a rule of
its class, and the record of owners is that of what they hold. -/
structure IsCoherent (s : Stock) : Prop where
  marked : ∀ e ∈ s.built, e.mark < s.own.fresh
  unique : ∀ e ∈ s.built, ∀ e' ∈ s.built, e.mark = e'.mark → e = e'
  proper : ∀ e ∈ s.built, e.IsProper
  parts : ∀ e ∈ s.built, ∀ p ∈ e.parts, p ∈ s.built
  owns : ∀ e ∈ s.built, ∀ p ∈ e.holdings, s.own.owner? p = some e
  taskOf : ∀ m t, (m, t) ∈ s.own.taskOf → .task t ∈ s.built ∧ ∃ o ∈ t.operations, o.mark = m
  componentOf : ∀ m c, (m, c) ∈ s.own.componentOf →
    .component c ∈ s.built ∧ ∃ t ∈ c.tasks, t.mark = m

theorem mem_taskOf_give {own : Ownership} {m : Mark} {t : Task}
    (h : (m, t) ∈ (own.give e).taskOf) :
    (m, t) ∈ own.taskOf ∨ e = .task t ∧ ∃ o ∈ t.operations, o.mark = m := by
  cases e with
  | dataType | argument | operation | component => exact .inl h
  | task t' =>
    rcases List.mem_append.mp h with h | h
    · obtain ⟨o, ho, heq⟩ := List.mem_map.mp h
      cases heq
      exact .inr ⟨rfl, o, ho, rfl⟩
    · exact .inl h

theorem mem_componentOf_give {own : Ownership} {m : Mark} {c : Component}
    (h : (m, c) ∈ (own.give e).componentOf) :
    (m, c) ∈ own.componentOf ∨ e = .component c ∧ ∃ t ∈ c.tasks, t.mark = m := by
  cases e with
  | dataType | argument | operation | task => exact .inl h
  | component c' =>
    rcases List.mem_append.mp h with h | h
    · obtain ⟨t, ht, heq⟩ := List.mem_map.mp h
      cases heq
      exact .inr ⟨rfl, t, ht, rfl⟩
    · exact .inl h

theorem IsCoherent.add (h : s.IsCoherent) (ha : s.Allows e) : (s.add e).IsCoherent := by
  have hfresh {e' : Entity} (he' : e' ∈ s.built) : e'.mark ≠ e.mark :=
    ha.mark ▸ (h.marked e' he').ne
  constructor
  case marked =>
    rintro e' (rfl | he')
    · simp [Stock.add, ha.mark]
    · simpa [Stock.add] using Nat.lt_succ_of_lt (h.marked e' he')
  case unique =>
    rintro e₁ (rfl | he₁) e₂ (rfl | he₂) hm
    · rfl
    · exact absurd hm.symm (hfresh he₂)
    · exact absurd hm (hfresh he₁)
    · exact h.unique e₁ he₁ e₂ he₂ hm
  case proper =>
    rintro e' (rfl | he')
    · exact ha.proper
    · exact h.proper e' he'
  case parts =>
    rintro e' (rfl | he') p hp
    · exact .inr (ha.parts p hp)
    · exact .inr (h.parts e' he' p hp)
  case owns =>
    rintro e' (rfl | he') p hp
    · exact Ownership.owner?_give_of_mem hp
    · rcases ha.owner?_add (p := p) with heq | ⟨hnone, -⟩
      · exact heq.trans (h.owns e' he' p hp)
      · cases hnone.symm.trans (h.owns e' he' p hp)
  case taskOf =>
    intro m t hm
    rcases mem_taskOf_give hm with hm | ⟨rfl, ho⟩
    · exact ⟨.inr (h.taskOf m t hm).1, (h.taskOf m t hm).2⟩
    · exact ⟨.inl rfl, ho⟩
  case componentOf =>
    intro m c hm
    rcases mem_componentOf_give hm with hm | ⟨rfl, ht⟩
    · exact ⟨.inr (h.componentOf m c hm).1, (h.componentOf m c hm).2⟩
    · exact ⟨.inl rfl, ht⟩

theorem IsCoherent.draw (h : s.IsCoherent) : s.draw.IsCoherent where
  marked e he := (h.marked e he).trans (Nat.lt_succ_self _)
  unique := h.unique
  proper := h.proper
  parts := h.parts
  owns := h.owns
  taskOf := h.taskOf
  componentOf := h.componentOf

theorem IsCoherent.course {n : Nat} (h : s.IsCoherent) (hcourse : Course n s s') :
    s'.IsCoherent := by
  induction hcourse with
  | refl => exact h
  | tail _ hevent ih =>
    cases hevent with
    | draw => exact ih.draw
    | add _ ha => exact ih.add ha

theorem isCoherent_empty : IsCoherent ⟨.empty, ∅⟩ := by
  constructor <;> simp [Ownership.empty]

/-- A link leads to an entity that is there and holds what the link is from. -/
theorem IsCoherent.owned (h : s.IsCoherent) (hp : s.own.owner? p = some e) :
    e ∈ s.built ∧ ∃ q ∈ e.holdings, q.kind = p.kind ∧ q.mark = p.mark := by
  cases p with
  | dataType | argument | component => cases hp
  | operation o =>
    obtain ⟨t, ht, rfl⟩ := Option.map_eq_some_iff.mp hp
    obtain ⟨hbuilt, o', ho', hm⟩ := h.taskOf o.mark t (mem_taskOf ht)
    exact ⟨hbuilt, .operation o', operation_mem_holdings.mpr ho', rfl, hm⟩
  | task t =>
    obtain ⟨c, hc, rfl⟩ := Option.map_eq_some_iff.mp hp
    obtain ⟨hbuilt, t', ht', hm⟩ := h.componentOf t.mark c (mem_componentOf hc)
    exact ⟨hbuilt, .task t', task_mem_holdings.mpr ht', rfl, hm⟩

/-- What is held by an entity that is there is there. -/
theorem IsCoherent.holdings (h : s.IsCoherent) (he : e ∈ s.built) (hp : p ∈ e.holdings) :
    p ∈ s.built :=
  h.parts e he p (e.holdings_subset_parts hp)

/-- An entity that is there and has an owner is among what the owner holds. -/
theorem IsCoherent.mem_holdings (h : s.IsCoherent) (hp : p ∈ s.built)
    (howner : s.own.owner? p = some e) : p ∈ e.holdings := by
  obtain ⟨he, q, hq, -, hm⟩ := h.owned howner
  exact h.unique q (h.holdings he hq) p hp hm ▸ hq

/-- Entities of a coherent stock are sound. -/
theorem IsCoherent.isSound (h : s.IsCoherent) (he : e ∈ s.built) : e.IsSound s.own := by
  have htask {t : Task} (ht : .task t ∈ s.built) : t.IsSound s.own := by
    refine ⟨fun hname => ?_, fun o ho => ?_⟩
    · have hproper := (h.proper _ ht).1
      rw [hname] at hproper
      exact absurd hproper (by decide)
    · have hmem := operation_mem_holdings.mpr ho
      exact ⟨(h.proper _ (h.holdings ht hmem)).2,
        owner?_operation.mp (h.owns _ ht _ hmem)⟩
  cases e with
  | dataType | argument => trivial
  | operation o => exact (h.proper _ he).2
  | task t => exact htask he
  | component c =>
    intro t ht
    have hmem := task_mem_holdings.mpr ht
    exact ⟨htask (h.holdings he hmem), owner?_task.mp (h.owns _ he _ hmem)⟩

/-! ### Whole worlds -/

variable {c : EntityClass} {fields : Fields} {own' : Ownership}

/-- A call of a constructor, successful or not. -/
theorem follows_construct {r : Except ConstructionFault Entity}
    (hf : s.Supplied c (.dict fields)) (h : construct s.own c fields = (r, own')) :
    ∃ s', Course 5 s s' ∧ s'.own = own' ∧ ∀ e, r = .ok e → e ∈ s'.built := by
  obtain ⟨s', hcourse, hown, he⟩ := (completes_build c hf).follows c.level_lt
  unfold construct at h
  generalize (c.build fields).run s.own = b at hown he h
  obtain ⟨e | e, own₁⟩ := b
  · cases h
    exact ⟨s', hcourse, hown, fun _ h => by cases h⟩
  · cases h
    refine ⟨s', hcourse, hown, fun e' h => ?_⟩
    cases h
    exact he e rfl

/-- The reading of a description, successful or not. -/
theorem follows_componentOf {r : Except ComponentError Component} {data : Value} {source : String}
    (h : componentOf s.own data source = (r, own')) :
    ∃ s', Course 5 s s' ∧ s'.own = own' ∧ ∀ c, r = .ok c → .component c ∈ s'.built := by
  obtain ⟨s', hcourse, hown, hc⟩ := follows_describeComponent (n := 5) (by decide) s data
  unfold componentOf at h
  generalize (describeComponent data).run s.own = b at hown hc h
  obtain ⟨(fault | cause) | c, own₁⟩ := b
  · cases h
    exact ⟨s', hcourse, hown, fun _ h => by cases h⟩
  · cases h
    exact ⟨s', hcourse, hown, fun _ h => by cases h⟩
  · cases h
    refine ⟨s', hcourse, hown, fun c' h => ?_⟩
    cases h
    exact hc c rfl

end Stock

/-- What can be read from an entity: a text, a truth value, a part of it, several of them, or its
owner. -/
inductive Entity.Yields (own : Ownership) (e : Entity) : Value → Prop
  | text (s : String) : Yields own e (.text s)
  | truth (b : Bool) : Yields own e (.bool b)
  | part {p : Entity} : p ∈ e.parts → Yields own e (.entity p)
  | parts {ps : List Entity} : ps ⊆ e.parts → Yields own e (.tuple (ps.map .entity))
  | owner {p : Entity} : own.owner? e = some p → Yields own e (.entity p)
  | unowned : own.owner? e = none → Yields own e .null

namespace Entity
variable {own : Ownership} {e p : Entity} {name : String} {v : Value}

theorem yields_tuple {α : Type} {f : α → Entity} {as : List α} (h : as.map f ⊆ e.parts) :
    e.Yields own (.tuple (as.map fun a => .entity (f a))) := by
  have hmap : (as.map fun a => Value.entity (f a)) = (as.map f).map .entity := by
    rw [List.map_map]
    rfl
  rw [hmap]
  exact .parts h

theorem yields_owner {α : Type} {f : α → Entity} {a : Option α} (h : own.owner? e = a.map f) :
    e.Yields own ((a.map fun x => .entity (f x)).getD .null) := by
  cases a with
  | none => exact .unowned h
  | some x => exact .owner h

theorem yields_of_read? (h : e.read? own name = some v) : e.Yields own v := by
  cases e with
  | dataType t =>
    rw [Entity.read?, DataType.read?.eq_def] at h
    split at h <;> cases h
    all_goals exact .text _
  | argument a =>
    rw [Entity.read?, Argument.read?.eq_def] at h
    split at h <;> cases h
    case h_2 => exact .part (List.mem_singleton_self _)
    all_goals exact .text _
  | operation o =>
    rw [Entity.read?, Operation.read?.eq_def] at h
    split at h <;> cases h
    case h_2 => exact .truth _
    -- The return types have two names.
    case h_3 | h_4 => exact yields_tuple (List.subset_append_left _ _)
    case h_6 => exact yields_tuple (List.subset_append_right _ _)
    case h_11 => exact yields_owner rfl
    all_goals exact .text _
  | task t =>
    rw [Entity.read?, Task.read?.eq_def] at h
    split at h <;> cases h
    case h_3 | h_5 => exact .truth _
    case h_4 => exact yields_tuple (List.Subset.refl _)
    case h_6 => exact yields_owner rfl
    all_goals exact .text _
  | component c =>
    rw [Entity.read?, Component.read?.eq_def] at h
    split at h <;> cases h
    case h_2 => exact yields_tuple (List.Subset.refl _)
    all_goals exact .text _

/-- What is read from an entity is a part of it or its owner. -/
theorem mem_parts_or_owner?_of_read? (h : e.read? own name = some v) (hp : v.Mentions p) :
    p ∈ e.parts ∨ own.owner? e = some p := by
  cases yields_of_read? h with
  | text | truth | unowned => cases hp
  | part hpart =>
    cases hp
    exact .inl hpart
  | parts hparts =>
    obtain ⟨_, hv, hp⟩ := Value.mentions_tuple.mp hp
    obtain ⟨q, hq, rfl⟩ := List.mem_map.mp hv
    cases hp
    exact .inl (hparts hq)
  | owner howner =>
    cases hp
    exact .inr howner

end Entity

/-- A world that can be reached has a coherent stock with all that is at hand. -/
theorem Reached.exists_stock {own : Ownership} {es : List Entity} (h : Reached own es) :
    ∃ s : Stock, s.IsCoherent ∧ s.own = own ∧ ∀ e ∈ es, e ∈ s.built := by
  -- A call takes the stock before it along a course, whose events keep it coherent; reading adds
  -- nothing to it.
  induction h with
  | start => exact ⟨⟨.empty, ∅⟩, Stock.isCoherent_empty, rfl, by simp⟩
  | constructed _ hf hc ih =>
    obtain ⟨s, hs, rfl, hes⟩ := ih
    obtain ⟨s', hcourse, hown, he⟩ :=
      Stock.follows_construct (fun e he => hes e (hf e he.mentions)) hc
    exact ⟨s', hs.course hcourse, hown, List.forall_mem_cons.mpr
      ⟨he _ rfl, fun e hm => hcourse.built_subset (hes e hm)⟩⟩
  | refused _ hf hc ih =>
    obtain ⟨s, hs, rfl, hes⟩ := ih
    obtain ⟨s', hcourse, hown, -⟩ :=
      Stock.follows_construct (fun e he => hes e (hf e he.mentions)) hc
    exact ⟨s', hs.course hcourse, hown, fun e hm => hcourse.built_subset (hes e hm)⟩
  | described _ hc ih =>
    obtain ⟨s, hs, rfl, hes⟩ := ih
    obtain ⟨s', hcourse, hown, he⟩ := Stock.follows_componentOf hc
    exact ⟨s', hs.course hcourse, hown, List.forall_mem_cons.mpr
      ⟨he _ rfl, fun e hm => hcourse.built_subset (hes e hm)⟩⟩
  | undescribed _ hc ih =>
    obtain ⟨s, hs, rfl, hes⟩ := ih
    obtain ⟨s', hcourse, hown, -⟩ := Stock.follows_componentOf hc
    exact ⟨s', hs.course hcourse, hown, fun e hm => hcourse.built_subset (hes e hm)⟩
  | read _ he hr hm ih =>
    obtain ⟨s, hs, rfl, hes⟩ := ih
    refine ⟨s, hs, rfl, List.forall_mem_cons.mpr ⟨?_, hes⟩⟩
    rcases mem_parts_or_owner?_of_read? hr hm with hp | howner
    · exact hs.parts _ (hes _ he) _ hp
    · exact (hs.owned howner).1

/-- In a world that can be reached, all owners and all entities at hand are sound. -/
theorem Reached.isSound {own : Ownership} {es : List Entity} (h : Reached own es) :
    own.IsSound ∧ ∀ e ∈ es, e.IsSound own := by
  obtain ⟨s, hs, rfl, hes⟩ := h.exists_stock
  exact ⟨⟨fun o t ht => hs.isSound (hs.owned (owner?_operation.mpr ht)).1,
    fun t c hc => hs.isSound (hs.owned (owner?_task.mpr hc)).1⟩,
    fun e he => hs.isSound (hes e he)⟩

/-! ### The forest -/

/-- An entity that was built at some time: one at hand, a part of such a one, or one that the
record of owners names, whether or not anything else leads to it. -/
inductive Built (own : Ownership) (es : List Entity) : Entity → Prop
  | atHand {e : Entity} : e ∈ es → Built own es e
  | part {e p : Entity} : Built own es e → p ∈ e.parts → Built own es p
  | taskOwner {m : Mark} {t : Task} : (m, t) ∈ own.taskOf → Built own es (.task t)
  | componentOwner {m : Mark} {c : Component} : (m, c) ∈ own.componentOf →
      Built own es (.component c)

/-- The links between entities form a forest: they lead from what is held to what holds it, and
nothing is held twice. -/
structure IsForest (own : Ownership) (built : Entity → Prop) : Prop where
  task_of_mem : ∀ t, built (.task t) → ∀ o ∈ t.operations, own.task? o = some t
  component_of_mem : ∀ c, built (.component c) → ∀ t ∈ c.tasks, own.component? t = some c
  mem_of_task : ∀ o t, built (.operation o) → own.task? o = some t →
    built (.task t) ∧ o ∈ t.operations
  mem_of_component : ∀ t c, built (.task t) → own.component? t = some c →
    built (.component c) ∧ t ∈ c.tasks
  operations_disjoint : ∀ t t', built (.task t) → built (.task t') → ∀ o ∈ t.operations,
    ∀ o' ∈ t'.operations, o.mark = o'.mark → t = t' ∧ o = o'
  tasks_disjoint : ∀ c c', built (.component c) → built (.component c') → ∀ t ∈ c.tasks,
    ∀ t' ∈ c'.tasks, t.mark = t'.mark → c = c' ∧ t = t'
  methodNames_nodup : ∀ t, built (.task t) → (t.operations.map Operation.methodName).Nodup
  basenames_nodup : ∀ c, built (.component c) → (c.tasks.map Task.basename).Nodup

/-- Owners after calls of constructors, one after the other, whether they succeed or not. -/
def Ownership.after (own : Ownership) : List (EntityClass × Fields) → Ownership
  | [] => own
  | (c, fields) :: calls => (construct own c fields).2.after calls

/-- All that was built is in the stock. -/
theorem Built.mem {s : Stock} (hs : s.IsCoherent) {es : List Entity} (hes : ∀ e ∈ es, e ∈ s.built)
    {e : Entity} (h : Built s.own es e) : e ∈ s.built := by
  induction h with
  | atHand he => exact hes _ he
  | part _ hp ih => exact hs.parts _ ih _ hp
  | taskOwner hm => exact (hs.taskOf _ _ hm).1
  | componentOwner hm => exact (hs.componentOf _ _ hm).1

theorem Ownership.grows_construct (own : Ownership) (c : EntityClass) (fields : Fields) :
    own.Grows (construct own c fields).2 := by
  -- With all entities in stock, the fields may hold any.
  let s : Stock := ⟨own, Set.univ⟩
  have hsupplied : s.Supplied c (.dict fields) := fun _ _ => Set.mem_univ _
  obtain ⟨s', hcourse, hown, -⟩ := Stock.follows_construct hsupplied rfl
  exact hown ▸ hcourse.grows

/-- No call of a constructor changes a link. -/
theorem Ownership.grows_after (own : Ownership) (calls : List (EntityClass × Fields)) :
    own.Grows (own.after calls) := by
  induction calls generalizing own with
  | nil => exact .refl own
  | cons call calls ih => exact (own.grows_construct call.1 call.2).trans (ih _)

/-- Two entities that hold one and the same entity are one and the same. -/
theorem Stock.IsCoherent.holder_unique {s : Stock} (hs : s.IsCoherent) {e e' p p' : Entity}
    (he : e ∈ s.built) (he' : e' ∈ s.built) (hp : p ∈ e.holdings) (hp' : p' ∈ e'.holdings)
    (hm : p.mark = p'.mark) : e = e' ∧ p = p' := by
  have heq : p = p' := hs.unique p (hs.holdings he hp) p' (hs.holdings he' hp') hm
  have howner := hs.owns e he p hp
  rw [heq, hs.owns e' he' p' hp'] at howner
  exact ⟨(Option.some.inj howner).symm, heq⟩

/-- However entities were constructed, successfully or not, out of entities, mappings or both, the
links between them form a forest, and no call of a constructor changes a link afterwards. -/
theorem isForest_of_reached {own : Ownership} {es : List Entity} (h : Reached own es) :
    IsForest own (Built own es) ∧ ∀ calls, own.Grows (own.after calls) := by
  -- In a coherent stock a mark tells an entity, and what an entity holds tells the entity.
  obtain ⟨s, hs, rfl, hes⟩ := h.exists_stock
  have hbuilt {e : Entity} (he : Built s.own es e) : e ∈ s.built := he.mem hs hes
  refine ⟨?_, s.own.grows_after⟩
  constructor
  case task_of_mem =>
    intro t ht o ho
    exact owner?_operation.mp (hs.owns _ (hbuilt ht) _ (operation_mem_holdings.mpr ho))
  case component_of_mem =>
    intro c hc t ht
    exact owner?_task.mp (hs.owns _ (hbuilt hc) _ (task_mem_holdings.mpr ht))
  case mem_of_task =>
    intro o t ho howner
    refine ⟨.taskOwner (mem_taskOf howner), operation_mem_holdings.mp ?_⟩
    exact hs.mem_holdings (hbuilt ho) (owner?_operation.mpr howner)
  case mem_of_component =>
    intro t c ht howner
    refine ⟨.componentOwner (mem_componentOf howner), task_mem_holdings.mp ?_⟩
    exact hs.mem_holdings (hbuilt ht) (owner?_task.mpr howner)
  case operations_disjoint =>
    intro t t' ht ht' o ho o' ho' hm
    simpa using hs.holder_unique (hbuilt ht) (hbuilt ht') (operation_mem_holdings.mpr ho)
      (operation_mem_holdings.mpr ho') hm
  case tasks_disjoint =>
    intro c c' hc hc' t ht t' ht' hm
    simpa using hs.holder_unique (hbuilt hc) (hbuilt hc') (task_mem_holdings.mpr ht)
      (task_mem_holdings.mpr ht') hm
  case methodNames_nodup => exact fun t ht => (hs.proper _ (hbuilt ht)).2
  case basenames_nodup => exact fun c hc => (hs.proper _ (hbuilt hc)).2

/-! ### A task that outlives the component it was built for -/

def reset : Operation := ⟨0, "reset", [], false, [], ""⟩

def halt : Operation := ⟨1, "halt", [], false, [], ""⟩

def controller : Task := ⟨2, "Controller", false, [reset, halt], ""⟩

def nav : Component := ⟨4, "nav", [controller], ""⟩

/-- Fields of a component: a task of it is a mapping, which holds an operation that is there and
one that is a mapping again. -/
def navFields (name : String) : Fields := [(.text "name", .text name),
  (.text "tasks", .list [.dict [(.text "basename", .text "Controller"),
    (.text "self_operations", .list [.entity (.operation reset),
      .dict [(.text "method_name", .text "halt")]])]])]

theorem construct_reset : construct .empty .operation [(.text "method_name", .text "reset")] =
    (.ok (.operation reset), ⟨1, [], []⟩) := rfl

/-- The name is no identifier, so that there is no component, but the task was built before. -/
theorem construct_navStack : construct ⟨1, [], []⟩ .component (navFields "nav stack") =
    (.error (.invalid ⟨"Component", [⟨["name"], .broken (.notIdentifier "nav stack")⟩]⟩),
      ⟨4, [(0, controller), (1, controller)], []⟩) := rfl

theorem construct_nav : construct ⟨4, [(0, controller), (1, controller)], []⟩ .component
    [(.text "name", .text "nav"), (.text "tasks", .list [.entity (.task controller)])] =
      (.ok (.component nav), ⟨5, [(0, controller), (1, controller)], [(2, nav)]⟩) := rfl

theorem reached_reset : Reached ⟨1, [], []⟩ [.operation reset] :=
  .constructed .start (by simp) construct_reset

/-- Who owns whom once the task has found a component. -/
def navOwners : Ownership := ⟨5, [(0, controller), (1, controller)], [(2, nav)]⟩

/-- What is at hand then. -/
def navEntities : List Entity := [.component nav, .task controller, .operation reset]

theorem reached_nav : Reached navOwners navEntities := by
  have hrefused : Reached ⟨4, [(0, controller), (1, controller)], []⟩ [.operation reset] :=
    .refused reached_reset (by simp [navFields]) construct_navStack
  have htask : (Entity.operation reset).read? ⟨4, [(0, controller), (1, controller)], []⟩ "task" =
      some (.entity (.task controller)) := rfl
  have hcontroller : Reached ⟨4, [(0, controller), (1, controller)], []⟩
      [.task controller, .operation reset] := .read hrefused (by simp) htask (.entity _)
  exact .constructed hcontroller (by simp) construct_nav

theorem isForest_of_reached_nav : Reached navOwners navEntities ∧
    IsForest navOwners (Built navOwners navEntities) ∧
    ∀ calls, navOwners.Grows (navOwners.after calls) :=
  ⟨reached_nav, isForest_of_reached reached_nav⟩

end Model
end Scaffold
