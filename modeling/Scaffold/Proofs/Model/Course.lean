import Mathlib.Data.Set.Insert
import Mathlib.Logic.Relation
import Scaffold.Proofs.Model.Constructible

/-! The course of a construction.  Whatever its class and however its fields are given, a
construction draws marks and adds whole entities one after the other, parts before what they are
parts of, and the entity that was asked for comes last.  A construction that fails has gone a part
of that way. -/
namespace Scaffold

open Model Naming Text

namespace Model

/-! ### Entities and their parts -/

def Entity.kind : Entity → EntityClass
  | .dataType _ => .dataType
  | .argument _ => .argument
  | .operation _ => .operation
  | .task _ => .task
  | .component _ => .component

/-- How far up a class stands: the parts of its entities are of classes further down. -/
def EntityClass.level : EntityClass → Nat
  | .dataType => 0
  | .argument => 1
  | .operation => 2
  | .task => 3
  | .component => 4

/-- The entities that an entity consists of. -/
def Entity.parts : Entity → List Entity
  | .dataType _ => []
  | .argument a => [.dataType a.type]
  | .operation o => o.returnTypes.map .dataType ++ o.arguments.map .argument
  | .task t => t.operations.map .operation
  | .component c => c.tasks.map .task

/-- The parts that an entity takes possession of. -/
def Entity.holdings : Entity → List Entity
  | .task t => t.operations.map .operation
  | .component c => c.tasks.map .task
  | _ => []

/-- The fields of an entity keep the rules of its class. -/
def Entity.IsProper : Entity → Prop
  | .dataType t => allBlank t.cxxName.toList = false
  | .argument a => isIdentifier a.name = true
  | .operation o => isIdentifier o.methodName = true ∧ o.IsSound
  | .task t => isIdentifier t.basename = true ∧ (t.operations.map Operation.methodName).Nodup
  | .component c => isIdentifier c.name = true ∧ (c.tasks.map Task.basename).Nodup

theorem Entity.holdings_subset_parts (e : Entity) : e.holdings ⊆ e.parts := by
  cases e <;> simp [holdings, parts]

@[simp] theorem Entity.operation_mem_holdings {o : Operation} {t : Task} :
    .operation o ∈ (Entity.task t).holdings ↔ o ∈ t.operations := by
  simp [holdings]

@[simp] theorem Entity.task_mem_holdings {t : Task} {c : Component} :
    .task t ∈ (Entity.component c).holdings ↔ t ∈ c.tasks := by
  simp [holdings]

/-- What holds anything is a task, which holds operations, or a component, which holds tasks. -/
theorem Entity.kind_of_mem_holdings {e p : Entity} (h : p ∈ e.holdings) :
    e.kind = .task ∧ p.kind = .operation ∨ e.kind = .component ∧ p.kind = .task := by
  cases e with
  | dataType | argument | operation => cases h
  | task t =>
    obtain ⟨o, -, rfl⟩ := List.mem_map.mp h
    exact .inl ⟨rfl, rfl⟩
  | component c =>
    obtain ⟨t, -, rfl⟩ := List.mem_map.mp h
    exact .inr ⟨rfl, rfl⟩

theorem EntityClass.level_lt (c : EntityClass) : c.level < 5 := by
  cases c <;> decide

theorem Entity.level_of_mem_holdings {e p : Entity} (h : p ∈ e.holdings) :
    e.kind.level = p.kind.level + 1 := by
  rcases Entity.kind_of_mem_holdings h with ⟨he, hp⟩ | ⟨he, hp⟩ <;> rw [he, hp] <;> rfl

/-! ### Owners -/

namespace Ownership
variable {own : Ownership}

def owner? (own : Ownership) : Entity → Option Entity
  | .operation o => (own.task? o).map .task
  | .task t => (own.component? t).map .component
  | _ => none

/-- Owners after a mark was drawn. -/
def drawn (own : Ownership) : Ownership := { own with fresh := own.fresh + 1 }

/-- Owners after an entity took possession of its parts. -/
def give (own : Ownership) : Entity → Ownership
  | .task t => own.giveTask t
  | .component c => own.giveComponent c
  | _ => own

@[simp] theorem task?_drawn (o : Operation) : own.drawn.task? o = own.task? o := rfl

@[simp] theorem component?_drawn (t : Task) : own.drawn.component? t = own.component? t := rfl

@[simp] theorem owner?_drawn (e : Entity) : own.drawn.owner? e = own.owner? e := rfl

@[simp] theorem fresh_drawn : own.drawn.fresh = own.fresh + 1 := rfl

@[simp] theorem fresh_give (e : Entity) : (own.give e).fresh = own.fresh := by
  cases e <;> rfl

theorem owner?_operation {o : Operation} {t : Task} :
    own.owner? (.operation o) = some (.task t) ↔ own.task? o = some t := by
  simp [owner?]

theorem owner?_task {t : Task} {c : Component} :
    own.owner? (.task t) = some (.component c) ↔ own.component? t = some c := by
  simp [owner?]

theorem mem_taskOf {o : Operation} {t : Task} (h : own.task? o = some t) :
    (o.mark, t) ∈ own.taskOf := by
  obtain ⟨before, after, heq, -⟩ := List.lookup_eq_some_iff.mp h
  simp [heq]

theorem mem_componentOf {t : Task} {c : Component} (h : own.component? t = some c) :
    (t.mark, c) ∈ own.componentOf := by
  obtain ⟨before, after, heq, -⟩ := List.lookup_eq_some_iff.mp h
  simp [heq]

/-- Owners are told by class and mark alone. -/
theorem owner?_congr {p q : Entity} (hk : p.kind = q.kind) (hm : p.mark = q.mark) :
    own.owner? p = own.owner? q := by
  cases p <;> cases q <;> cases hk <;> try rfl
  case operation.operation => exact congrArg (fun m => (own.taskOf.lookup m).map Entity.task) hm
  case task.task => exact congrArg (fun m => (own.componentOf.lookup m).map Entity.component) hm

theorem lookup_map_const {α β : Type} (f : α → Mark) (b : β) (as : List α) (m : Mark) :
    (as.map fun a => (f a, b)).lookup m = if m ∈ as.map f then some b else none := by
  induction as with
  | nil => rfl
  | cons a as ih =>
    simp only [List.map_cons, List.lookup_cons, ih, List.mem_cons]
    by_cases h : m = f a
    · simp [h]
    · simp [h, beq_eq_false_iff_ne.mpr h]

theorem task?_giveTask (t : Task) (o : Operation) : (own.giveTask t).task? o =
    if o.mark ∈ t.operations.map Operation.mark then some t else own.task? o := by
  rw [task?, giveTask, List.lookup_append, lookup_map_const]
  split <;> rfl

theorem component?_giveComponent (c : Component) (t : Task) : (own.giveComponent c).component? t =
    if t.mark ∈ c.tasks.map Task.mark then some c else own.component? t := by
  rw [component?, giveComponent, List.lookup_append, lookup_map_const]
  split <;> rfl

theorem owner?_give_of_mem {e p : Entity} (h : p ∈ e.holdings) :
    (own.give e).owner? p = some e := by
  cases e with
  | dataType | argument | operation => cases h
  | task t =>
    obtain ⟨o, ho, rfl⟩ := List.mem_map.mp h
    rw [give, owner?, task?_giveTask, if_pos (List.mem_map_of_mem ho)]
    rfl
  | component c =>
    obtain ⟨t, ht, rfl⟩ := List.mem_map.mp h
    rw [give, owner?, component?_giveComponent, if_pos (List.mem_map_of_mem ht)]
    rfl

/-- Only what an entity takes possession of gets another owner. -/
theorem owner?_give (e p : Entity) : (own.give e).owner? p = own.owner? p ∨
    ∃ q ∈ e.holdings, q.kind = p.kind ∧ q.mark = p.mark := by
  cases e with
  | dataType | argument | operation => exact .inl rfl
  | task t =>
    cases p with
    | dataType | argument | task | component => exact .inl rfl
    | operation o =>
      rw [give, owner?, owner?, task?_giveTask]
      split
      next h =>
        obtain ⟨o', ho', hm⟩ := List.mem_map.mp h
        exact .inr ⟨.operation o', List.mem_map_of_mem ho', rfl, hm⟩
      next => exact .inl rfl
  | component c =>
    cases p with
    | dataType | argument | operation | component => exact .inl rfl
    | task t =>
      rw [give, owner?, owner?, component?_giveComponent]
      split
      next h =>
        obtain ⟨t', ht', hm⟩ := List.mem_map.mp h
        exact .inr ⟨.task t', List.mem_map_of_mem ht', rfl, hm⟩
      next => exact .inl rfl

/-- Ownership grows when all owners stay. -/
theorem grows_of_owner? {own' : Ownership}
    (h : ∀ p e, own.owner? p = some e → own'.owner? p = some e) : own.Grows own' :=
  ⟨fun _ _ ht => owner?_operation.mp (h _ _ (owner?_operation.mpr ht)),
    fun _ _ hc => owner?_task.mp (h _ _ (owner?_task.mpr hc))⟩

end Ownership

/-! ### Events -/

/-- Who owns whom, and which entities there are. -/
structure Stock where
  own : Ownership
  built : Set Entity

namespace Stock

/-- An entity may be added: it carries the next mark and keeps the rules of its class, its parts
are there, and what it takes possession of has no owner. -/
structure Allows (s : Stock) (e : Entity) : Prop where
  mark : e.mark = s.own.fresh
  proper : e.IsProper
  parts : ∀ p ∈ e.parts, p ∈ s.built
  free : ∀ p ∈ e.holdings, s.own.owner? p = none

def draw (s : Stock) : Stock := { s with own := s.own.drawn }

def add (s : Stock) (e : Entity) : Stock := ⟨s.own.drawn.give e, insert e s.built⟩

/-- What can happen at a time: a mark is drawn for nothing, or an entity is added, of a level below
`n`. -/
inductive Event (n : Nat) : Stock → Stock → Prop
  | draw (s : Stock) : Event n s s.draw
  | add {s : Stock} {e : Entity} : e.kind.level < n → s.Allows e → Event n s (s.add e)

abbrev Course (n : Nat) : Stock → Stock → Prop := Relation.ReflTransGen (Event n)

variable {n m : Nat} {s s' : Stock}

theorem Course.mono (h : Course n s s') (hnm : n ≤ m) : Course m s s' := by
  induction h with
  | refl => exact .refl
  | tail _ hevent ih =>
    cases hevent with
    | draw => exact ih.tail (.draw _)
    | add he ha => exact ih.tail (.add (he.trans_le hnm) ha)

theorem Course.trans {s'' : Stock} (h : Course n s s') (h' : Course n s' s'') : Course n s s'' :=
  Relation.ReflTransGen.trans h h'

theorem Course.built_subset (h : Course n s s') : s.built ⊆ s'.built := by
  induction h with
  | refl => exact subset_rfl
  | tail _ hevent ih =>
    cases hevent with
    | draw => exact ih
    | add => exact ih.trans (Set.subset_insert _ _)

theorem Course.fresh_le (h : Course n s s') : s.own.fresh ≤ s'.own.fresh := by
  induction h with
  | refl => exact le_rfl
  | tail _ hevent ih =>
    cases hevent with
    | draw => exact ih.trans (Nat.le_succ _)
    | add => exact ih.trans (by simp [Stock.add])

/-- What an entity that is added takes possession of had no owner. -/
theorem Allows.owner?_add {e p : Entity} (h : s.Allows e) :
    (s.add e).own.owner? p = s.own.owner? p ∨ s.own.owner? p = none ∧
      (s.add e).own.owner? p = some e ∧ ∃ q ∈ e.holdings, q.kind = p.kind ∧ q.mark = p.mark := by
  rcases s.own.drawn.owner?_give e p with heq | ⟨q, hq, hk, hm⟩
  · exact .inl heq
  · refine .inr ⟨?_, ?_, q, hq, hk, hm⟩
    · rw [← Ownership.owner?_congr hk hm, h.free q hq]
    · rw [add, ← Ownership.owner?_congr hk hm, Ownership.owner?_give_of_mem hq]

theorem Course.owner? (h : Course n s s') {p e : Entity} (hp : s.own.owner? p = some e) :
    s'.own.owner? p = some e := by
  induction h with
  | refl => exact hp
  | tail _ hevent ih =>
    cases hevent with
    | draw => exact ih
    | add _ ha =>
      -- What is added holds nothing that had an owner, so it does not hold this entity.
      rcases ha.owner?_add (p := p) with heq | ⟨hnone, -⟩
      · exact heq.trans ih
      · cases ih.symm.trans hnone

theorem Course.grows (h : Course n s s') : s.own.Grows s'.own :=
  Ownership.grows_of_owner? fun _ _ => h.owner?

/-- What has been added carries a mark drawn on the way. -/
theorem Course.mem_built (h : Course n s s') {e : Entity} (he : e ∈ s'.built) :
    e ∈ s.built ∨ s.own.fresh ≤ e.mark ∧ e.mark < s'.own.fresh := by
  induction h with
  | refl => exact .inl he
  | tail hbefore hevent ih =>
    have hfresh := Course.fresh_le (.single hevent)
    cases hevent with
    | draw => exact (ih he).imp id fun ⟨hle, hlt⟩ => ⟨hle, hlt.trans_le hfresh⟩
    | add _ ha =>
      rcases he with rfl | he
      · exact .inr ⟨ha.mark ▸ Course.fresh_le hbefore, by simp [Stock.add, ha.mark]⟩
      · exact (ih he).imp id fun ⟨hle, hlt⟩ => ⟨hle, hlt.trans_le hfresh⟩

/-- A link is as it was, or there was none and it leads to an entity that has been added, of a level
below `n`, and that holds what the link is from. -/
theorem Course.owner?_cases (h : Course n s s') (p : Entity) :
    s'.own.owner? p = s.own.owner? p ∨ s.own.owner? p = none ∧ ∃ e, s'.own.owner? p = some e ∧
      s.own.fresh ≤ e.mark ∧ e.kind.level < n ∧
      ∃ q ∈ e.holdings, q ∈ s'.built ∧ q.kind = p.kind ∧ q.mark = p.mark := by
  induction h with
  | refl => exact .inl rfl
  | @tail s₁ s₂ hbefore hevent ih =>
    have hgrown : ∀ e, s₁.own.owner? p = some e → s₂.own.owner? p = some e :=
      fun e he => Course.owner? (.single hevent) he
    have hsubset : s₁.built ⊆ s₂.built := Course.built_subset (.single hevent)
    rcases ih with hsame | ⟨hnone, e, he, hfresh, hlevel, q, hq, hbuilt, hqp⟩
    · -- The last event may bring the link; one that came before it is there to the end.
      cases hevent with
      | draw => exact .inl hsame
      | @add e hlevel ha =>
        rcases ha.owner?_add (p := p) with heq | ⟨hnone, hsome, q, hq, hqp⟩
        · exact .inl (heq.trans hsame)
        · exact .inr ⟨hsame ▸ hnone, e, hsome, ha.mark ▸ Course.fresh_le hbefore, hlevel, q, hq,
            hsubset (ha.parts q (e.holdings_subset_parts hq)), hqp⟩
    · exact .inr ⟨hnone, e, hgrown e he, hfresh, hlevel, q, hq, hsubset hbuilt, hqp⟩

end Stock
end Model
end Scaffold
