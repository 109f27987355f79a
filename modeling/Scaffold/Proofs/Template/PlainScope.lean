import Scaffold.Proofs.Expression.Evaluation
import Scaffold.Proofs.Model.Forest
import Scaffold.Proofs.Template.LexicalScope

/-! Scopes of plain values.  Whatever is read in them is plain again, or the size of a text or a
sequence, so that evaluation never meets a value that it has no answer for. -/
namespace Scaffold
open Model Expression

/-! ### Plain values -/

/-- An entity that was constructed, described, or read from such a one. -/
def Model.Entity.IsConstructible (own : Ownership) (e : Entity) : Prop :=
  ∃ es, Reached own es ∧ e ∈ es

/-- The values that templates are made for: whole numbers that can be written, and entities that can
be constructed, alone or within sequences and mappings. -/
inductive Value.IsPlain (own : Ownership) : Value → Prop
  | null : IsPlain own .null
  | bool (b : Bool) : IsPlain own (.bool b)
  | int {n : Int} : Number.hasTooManyDigits n = false → IsPlain own (.int n)
  | real (x : Number.Double) : IsPlain own (.real x)
  | text (s : String) : IsPlain own (.text s)
  | list {items : List Value} : (∀ v ∈ items, IsPlain own v) → IsPlain own (.list items)
  | tuple {items : List Value} : (∀ v ∈ items, IsPlain own v) → IsPlain own (.tuple items)
  | dict {entries : List (Scalar × Value)} : (∀ entry ∈ entries, IsPlain own entry.2) →
      IsPlain own (.dict entries)
  | entity {e : Entity} : e.IsConstructible own → IsPlain own (.entity e)

/-- A value that no operation of evaluation gets stuck on.  All that its class lists can be read,
unless it is an empty sequence; an operation with a return value has the type that its signature
starts with; a whole number has no more digits than can be written. -/
structure Value.IsSafe (own : Ownership) (v : Value) : Prop where
  readable : ∀ name ∈ v.accessors, v.read? own name = none → ownerOf v = .emptySequence
  sound : ∀ e, v.Mentions e → e.IsSound own
  writable : ∀ n, v = .int n → Number.hasTooManyDigits n = false

variable {own : Ownership} {v w : Value} {name : String}

namespace Model.Entity
variable {e e' : Entity}

theorem IsConstructible.isSound (h : e.IsConstructible own) : e.IsSound own := by
  obtain ⟨es, hreached, he⟩ := h
  exact hreached.isSound.2 e he

theorem IsConstructible.read (h : e.IsConstructible own) (hr : e.read? own name = some v)
    (hm : v.Mentions e') : e'.IsConstructible own := by
  obtain ⟨es, hreached, he⟩ := h
  exact ⟨e' :: es, hreached.read he hr hm, List.mem_cons_self⟩

/-- What is read from an entity that can be constructed is plain. -/
theorem IsConstructible.isPlain_of_read? (h : e.IsConstructible own)
    (hr : e.read? own name = some v) : v.IsPlain own := by
  have hmentions (p : Entity) (hp : v.Mentions p) : p.IsConstructible own := h.read hr hp
  cases yields_of_read? hr with
  | text s => exact .text s
  | truth b => exact .bool b
  | part | owner => exact .entity (hmentions _ (.entity _))
  | parts =>
    refine .tuple fun u hu => ?_
    obtain ⟨p, -, rfl⟩ := List.mem_map.mp hu
    exact .entity (hmentions p (.tuple hu (.entity p)))
  | unowned => exact .null

end Model.Entity

namespace Value

theorem IsPlain.isConstructible (h : v.IsPlain own) {e : Entity} (hm : v.Mentions e) :
    e.IsConstructible own := by
  induction hm with
  | entity e =>
    cases h with
    | entity he => exact he
  | list hv _ ih =>
    cases h with
    | list hitems => exact ih (hitems _ hv)
  | tuple hv _ ih =>
    cases h with
    | tuple hitems => exact ih (hitems _ hv)
  | dict hv _ ih =>
    cases h with
    | dict hentries => exact ih (hentries _ hv)

/-- What can be listed and not read is an empty sequence. -/
theorem ownerOf_of_read?_eq_none (hname : name ∈ v.accessors) (h : v.read? own name = none) :
    ownerOf v = .emptySequence := by
  obtain ⟨-, rfl | rfl⟩ := isEmptySequence_of_mem_accessors hname h
  · rfl
  · rfl

theorem IsPlain.isSafe (h : v.IsPlain own) : v.IsSafe own where
  readable _ hname hnone := ownerOf_of_read?_eq_none hname hnone
  sound _ hm := (h.isConstructible hm).isSound
  writable n hn := by
    subst hn
    cases h with
    | int hdigits => exact hdigits

/-- What is read from a plain value is plain or a size. -/
theorem IsPlain.read? (h : v.IsPlain own) (hr : v.read? own name = some w) :
    w.IsPlain own ∨ name = "size" ∧ ∃ n : Nat, w = .int n := by
  have hsequence {items : List Value} (hitems : ∀ u ∈ items, u.IsPlain own)
      (hr : readSequence? items name = some w) :
      w.IsPlain own ∨ name = "size" ∧ ∃ n : Nat, w = .int n := by
    rw [readSequence?.eq_def] at hr
    split at hr
    · exact .inl (hitems w (List.mem_of_head? hr))
    · exact .inl (hitems w (List.mem_of_getLast? hr))
    · cases hr
      exact .inr ⟨rfl, _, rfl⟩
    · cases hr
      exact .inl (.bool _)
    · cases hr
  cases h with
  | text s =>
    rw [Value.read?, readText?.eq_def] at hr
    split at hr <;> cases hr
    case h_3 => exact .inr ⟨rfl, _, rfl⟩
    case h_4 => exact .inl (.bool _)
    all_goals exact .inl (.text _)
  | list hitems => exact hsequence hitems hr
  | tuple hitems => exact hsequence hitems hr
  | entity he => exact .inl (he.isPlain_of_read? hr)
  | null | bool | int | real | dict => cases hr

end Value

/-- From a plain value, segments lead to a plain one or, the last of them, to the size of one. -/
theorem Expression.LeadsTo.isPlain {names : List String} (h : LeadsTo own v names w)
    (hv : v.IsPlain own) : w.IsPlain own ∨
    ∃ front segment u, names = front ++ [segment] ∧ LeadsTo own v front u ∧ u.IsPlain own ∧
      u.read? own "size" = some w := by
  induction h with
  | nil v => exact .inl hv
  | @cons v u w segment names hread hmark hleads ih =>
    rcases hv.read? hread with hu | ⟨hsize, n, rfl⟩
    · refine (ih hu).imp_right fun ⟨front, last, t, hnames, hfront, ht, hw⟩ => ?_
      exact ⟨segment :: front, last, t, congrArg _ hnames, .cons hread hmark hfront, ht, hw⟩
    · -- Nothing can be read from a number.
      cases hleads with
      | nil => exact .inr ⟨[], segment, v, rfl, .nil v, hv, hsize ▸ hread⟩
      | cons hnumber => cases hnumber

/-! ### Scopes -/

def Scope.IsPlain (own : Ownership) (s : Scope) : Prop := ∀ x v, s.find? x = some v → v.IsPlain own

/-- Whatever a path leads to in the scope is safe, or the size of what the path leads to without its
last segment; a size is no larger than what is held in memory, and can be written. -/
def Scope.IsSafe (own : Ownership) (s : Scope) : Prop :=
  ∀ (p : Path) (v : Value), p.resolve own s = .ok v → v.IsSafe own ∨
    ∃ front segment u, p.accessors = front ++ [segment] ∧
      Path.resolve own s ⟨p.head, front⟩ = .ok u ∧ u.IsSafe own ∧ u.read? own "size" = some v

namespace Scope
variable {s : Scope} {x : String}

theorem IsPlain.isSafe (h : s.IsPlain own) : s.IsSafe own := by
  intro p v hv
  obtain ⟨u, hu, hmark, hleads⟩ := Path.resolve_eq_ok_iff.mp hv
  refine (hleads.isPlain (h _ _ hu)).imp Value.IsPlain.isSafe ?_
  rintro ⟨front, segment, t, hnames, hfront, ht, hsize⟩
  exact ⟨front, segment, t, hnames, Path.resolve_eq_ok_iff.mpr ⟨u, hu, hmark, hfront⟩, ht.isSafe,
    hsize⟩

theorem IsPlain.child (h : s.IsPlain own) (hv : v.IsPlain own) :
    (s.child [(x, v)]).IsPlain own := by
  intro y w hw
  rw [find?_child, List.lookup_cons] at hw
  split at hw
  · cases hw
    exact hv
  · exact h y w hw

/-- The elements of a collection are plain. -/
theorem IsPlain.of_mem_evaluateSequence (h : s.IsPlain own) {p : Path} {items : List Value}
    (hitems : (Node.path p).evaluateSequence own s = .ok items) (hv : v ∈ items) :
    v.IsPlain own := by
  have hplain {w : Value} (hw : p.resolve own s = .ok w) :
      w.IsPlain own ∨ ∃ n : Nat, w = .int n := by
    obtain ⟨u, hu, -, hleads⟩ := Path.resolve_eq_ok_iff.mp hw
    obtain hw | ⟨front, segment, t, -, -, ht, hsize⟩ := hleads.isPlain (h _ _ hu)
    · exact .inl hw
    · exact (ht.read? hsize).imp_right And.right
  rw [Node.evaluateSequence, Node.evaluate] at hitems
  obtain ⟨w, hw, hitems⟩ := bind_eq_ok_iff.mp hitems
  obtain hw | ⟨n, rfl⟩ := hplain hw
  · cases hw with
    | list hall | tuple hall =>
      cases hitems
      exact hall v hv
    | null | bool | int | real | text | dict | entity => cases hitems
  · cases hitems

end Scope

end Scaffold
