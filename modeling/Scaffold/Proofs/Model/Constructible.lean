import Scaffold.Access
import Scaffold.Description
import Scaffold.Proofs.Computation

/-! Worlds of entities that can be constructed: entities at hand, which constructors and
descriptions add to, and who owns whom; and what it is for them to be sound. -/
namespace Scaffold

open Model

/-- An entity within a value, at any depth. -/
inductive Value.Mentions : Value → Entity → Prop
  | entity (e : Entity) : Mentions (.entity e) e
  | list {items : List Value} {v : Value} {e : Entity} : v ∈ items → v.Mentions e →
      Mentions (.list items) e
  | tuple {items : List Value} {v : Value} {e : Entity} : v ∈ items → v.Mentions e →
      Mentions (.tuple items) e
  | dict {entries : List (Scalar × Value)} {k : Scalar} {v : Value} {e : Entity} :
      (k, v) ∈ entries → v.Mentions e → Mentions (.dict entries) e

namespace Value
variable {e e' : Entity}

@[simp] theorem mentions_scalar {s : Scalar} : ¬(Value.scalar s).Mentions e := by
  rintro ⟨⟩

@[simp] theorem mentions_entity : (Value.entity e').Mentions e ↔ e = e' :=
  ⟨fun h => by cases h; rfl, fun h => h ▸ .entity e⟩

@[simp] theorem mentions_list {vs : List Value} :
    (Value.list vs).Mentions e ↔ ∃ v ∈ vs, v.Mentions e :=
  ⟨fun | .list hv he => ⟨_, hv, he⟩, fun ⟨_, hv, he⟩ => .list hv he⟩

@[simp] theorem mentions_tuple {vs : List Value} :
    (Value.tuple vs).Mentions e ↔ ∃ v ∈ vs, v.Mentions e :=
  ⟨fun | .tuple hv he => ⟨_, hv, he⟩, fun ⟨_, hv, he⟩ => .tuple hv he⟩

@[simp] theorem mentions_dict {entries : List (Scalar × Value)} :
    (Value.dict entries).Mentions e ↔ ∃ entry ∈ entries, entry.2.Mentions e :=
  ⟨fun | .dict hv he => ⟨_, hv, he⟩, fun ⟨_, hv, he⟩ => .dict hv he⟩

end Value

namespace Model

/-- The entities at hand after constructor calls, successful or failing, over entities at hand and
plain values, after descriptions were read, and after something was read from an entity. -/
inductive Reached : Ownership → List Entity → Prop
  | start : Reached .empty []
  | constructed {own own' : Ownership} {es : List Entity} {e : Entity} {c : EntityClass}
      {fields : Fields} : Reached own es → (∀ e, (Value.dict fields).Mentions e → e ∈ es) →
      construct own c fields = (.ok e, own') → Reached own' (e :: es)
  | refused {own own' : Ownership} {es : List Entity} {fault : ConstructionFault}
      {c : EntityClass} {fields : Fields} : Reached own es →
      (∀ e, (Value.dict fields).Mentions e → e ∈ es) →
      construct own c fields = (.error fault, own') → Reached own' es
  | described {own own' : Ownership} {es : List Entity} {c : Component} {data : Value}
      {source : String} : Reached own es → componentOf own data source = (.ok c, own') →
      Reached own' (.component c :: es)
  | undescribed {own own' : Ownership} {es : List Entity} {error : ComponentError} {data : Value}
      {source : String} : Reached own es → componentOf own data source = (.error error, own') →
      Reached own' es
  | read {own : Ownership} {es : List Entity} {e e' : Entity} {name : String} {v : Value} :
      Reached own es → e ∈ es → e.read? own name = some v → v.Mentions e' → Reached own (e' :: es)

/-! ### Sound entities -/

/-- An operation with a return value declares a return type. -/
def Operation.IsSound (o : Operation) : Prop := o.hasReturnValue = true → o.returnTypes ≠ []

/-- A task has a name, and its operations are its own. -/
structure Task.IsSound (own : Ownership) (t : Task) : Prop where
  named : t.basename ≠ ""
  operations : ∀ o ∈ t.operations, o.IsSound ∧ own.task? o = some t

/-- The tasks of a component are its own. -/
def Component.IsSound (own : Ownership) (c : Component) : Prop :=
  ∀ t ∈ c.tasks, t.IsSound own ∧ own.component? t = some c

def Entity.IsSound (own : Ownership) : Entity → Prop
  | .dataType _ => True
  | .argument _ => True
  | .operation o => o.IsSound
  | .task t => t.IsSound own
  | .component c => c.IsSound own

/-- Whatever has an owner keeps it. -/
structure Ownership.Grows (own own' : Ownership) : Prop where
  task : ∀ o t, own.task? o = some t → own'.task? o = some t
  component : ∀ t c, own.component? t = some c → own'.component? t = some c

/-- Owners are sound. -/
structure Ownership.IsSound (own : Ownership) : Prop where
  task : ∀ o t, own.task? o = some t → t.IsSound own
  component : ∀ t c, own.component? t = some c → c.IsSound own

theorem Ownership.Grows.refl (own : Ownership) : own.Grows own := ⟨fun _ _ h => h, fun _ _ h => h⟩

theorem Ownership.Grows.trans {own own' own'' : Ownership} (h : own.Grows own')
    (h' : own'.Grows own'') : own.Grows own'' :=
  ⟨fun o t ht => h'.task o t (h.task o t ht), fun t c hc => h'.component t c (h.component t c hc)⟩

end Model
end Scaffold
