import Scaffold.Expression.Evaluation
import Scaffold.Proofs.Computation

/-! Evaluation of expressions.  A path leads from value to value, whatever is said where it does
not; and a failure names the expression that failed or a part of it. -/
namespace Scaffold

open Model

/-! ### Accessors -/

namespace Value

variable {own : Ownership} {v w : Value} {name : String}

/-- A sequence without elements. -/
def IsEmptySequence (v : Value) : Prop := v = .list [] ∨ v = .tuple []

/-- What can be read is listed. -/
theorem mem_accessors_of_read? (h : v.read? own name = some w) : name ∈ v.accessors := by
  cases v with
  | scalar s =>
    cases s with
    | text s =>
      rw [Value.read?, readText?.eq_def] at h
      split at h
      case h_9 => cases h
      all_goals simp [accessors, textAccessors]
    | _ => cases h
  | list items | tuple items =>
    rw [Value.read?, readSequence?.eq_def] at h
    split at h
    case h_5 => cases h
    all_goals simp [accessors, sequenceAccessors]
  | set | dict => cases h
  | entity e =>
    cases e with
    | dataType t =>
      rw [Value.read?, Entity.read?, DataType.read?.eq_def] at h
      split at h
      case h_3 => cases h
      all_goals simp [accessors, Entity.accessors]
    | argument a =>
      rw [Value.read?, Entity.read?, Argument.read?.eq_def] at h
      split at h
      case h_5 => cases h
      all_goals simp [accessors, Entity.accessors]
    | operation o =>
      rw [Value.read?, Entity.read?, Operation.read?.eq_def] at h
      split at h
      case h_12 => cases h
      all_goals simp [accessors, Entity.accessors]
    | task t =>
      rw [Value.read?, Entity.read?, Task.read?.eq_def] at h
      split at h
      case h_8 => cases h
      all_goals simp [accessors, Entity.accessors]
    | component c =>
      rw [Value.read?, Entity.read?, Component.read?.eq_def] at h
      split at h
      case h_4 => cases h
      all_goals simp [accessors, Entity.accessors]

/-- What is listed can be read, but for the ends of an empty sequence. -/
theorem isEmptySequence_of_mem_accessors (hname : name ∈ v.accessors)
    (h : v.read? own name = none) : (name = "first" ∨ name = "last") ∧ v.IsEmptySequence := by
  have hsequence (items : List Value) (hname : name ∈ sequenceAccessors)
      (h : readSequence? items name = none) : (name = "first" ∨ name = "last") ∧ items = [] := by
    simp only [sequenceAccessors, List.mem_cons, List.not_mem_nil, or_false] at hname
    obtain rfl | rfl | rfl | rfl := hname
    · cases h
    · exact ⟨.inl rfl, List.head?_eq_none_iff.mp h⟩
    · exact ⟨.inr rfl, List.getLast?_eq_none_iff.mp h⟩
    · cases h
  cases v with
  | scalar s =>
    cases s with
    | text s =>
      simp only [accessors, textAccessors, List.mem_cons, List.not_mem_nil, or_false] at hname
      obtain rfl | rfl | rfl | rfl | rfl | rfl | rfl | rfl := hname <;> cases h
    | _ => cases hname
  | list items =>
    obtain ⟨hends, rfl⟩ := hsequence items hname h
    exact ⟨hends, .inl rfl⟩
  | tuple items =>
    obtain ⟨hends, rfl⟩ := hsequence items hname h
    exact ⟨hends, .inr rfl⟩
  | set | dict => cases hname
  | entity e =>
    cases e <;> simp only [accessors, Entity.accessors, List.mem_cons, List.not_mem_nil, or_false]
      at hname
    case dataType => obtain rfl | rfl := hname <;> cases h
    case argument => obtain rfl | rfl | rfl | rfl := hname <;> cases h
    case operation =>
      obtain rfl | rfl | rfl | rfl | rfl | rfl | rfl | rfl | rfl | rfl | rfl := hname <;> cases h
    case task => obtain rfl | rfl | rfl | rfl | rfl | rfl | rfl := hname <;> cases h
    case component => obtain rfl | rfl | rfl := hname <;> cases h

/-- Nothing is read where the value has no such accessor, and at the ends of an empty sequence. -/
theorem read?_eq_none_iff : v.read? own name = none ↔
    name ∉ v.accessors ∨ (name = "first" ∨ name = "last") ∧ v.IsEmptySequence := by
  constructor
  · intro h
    by_cases hname : name ∈ v.accessors
    · exact .inr (isEmptySequence_of_mem_accessors hname h)
    · exact .inl hname
  · rintro (hnot | ⟨rfl | rfl, rfl | rfl⟩)
    · cases h : v.read? own name with
      | none => rfl
      | some w => exact absurd (mem_accessors_of_read? h) hnot
    all_goals rfl

end Value

namespace Expression

variable {own : Ownership} {s : Scope} {v w : Value} {n : Node} {p : Path}
  {path segment : String} {names : List String} {e : Failure}

/-! ### Paths -/

theorem checked_eq_ok_iff :
    checked path segment v = .ok w ↔ (isMarked segment = true → isTruth v = true) ∧ v = w := by
  rw [checked]
  cases isMarked segment <;> cases isTruth v <;> simp

theorem readSegment_eq_ok_iff : readSegment own path v segment = .ok w ↔
    v.read? own (unmarked segment) = some w ∧ (isMarked segment = true → isTruth w = true) := by
  rw [readSegment]
  cases v.read? own (unmarked segment) with
  | none => simp
  | some u =>
    simp only [checked_eq_ok_iff, Option.some.injEq]
    constructor
    · rintro ⟨h, rfl⟩
      exact ⟨rfl, h⟩
    · rintro ⟨rfl, h⟩
      exact ⟨h, rfl⟩

/-- Segments that are read one after the other lead from one value to another. -/
inductive LeadsTo (own : Ownership) : Value → List String → Value → Prop
  | nil (v : Value) : LeadsTo own v [] v
  | cons {v u w : Value} {segment : String} {names : List String} :
      v.read? own (unmarked segment) = some u → (isMarked segment = true → isTruth u = true) →
      LeadsTo own u names w → LeadsTo own v (segment :: names) w

theorem unmarked_ofList {l : List Char} (h : l.getLast? ≠ some '?') :
    unmarked (String.ofList l) = String.ofList l := by
  rw [unmarked, String.toList_ofList]
  rcases List.eq_nil_or_concat l with rfl | ⟨l, c, rfl⟩
  · rfl
  · have hc : c ≠ '?' := by simpa using h
    simp [hc]

theorem isMarked_ofList {l : List Char} (h : l.getLast? ≠ some '?') :
    isMarked (String.ofList l) = false := by
  rw [isMarked, String.toList_ofList]
  exact beq_eq_false_iff_ne.mpr h

theorem unmarked_of_isMarked (h : isMarked segment = false) : unmarked segment = segment := by
  have hlast := unmarked_ofList (l := segment.toList) (beq_eq_false_iff_ne.mp h)
  rwa [String.ofList_toList] at hlast

/-- A segment without a question mark reads whatever the value shows under it. -/
theorem readSegment_ofList {l : List Char} (hl : l.getLast? ≠ some '?') {u : Value}
    (hread : v.read? own (String.ofList l) = some u) (path : String) :
    readSegment own path v (String.ofList l) = .ok u := by
  refine readSegment_eq_ok_iff.mpr ⟨?_, fun hmark => ?_⟩
  · rw [unmarked_ofList hl]
    exact hread
  · rw [isMarked_ofList hl] at hmark
    cases hmark

theorem LeadsTo.step {l : List Char} (hl : l.getLast? ≠ some '?') {u : Value}
    (hread : v.read? own (String.ofList l) = some u) (h : LeadsTo own u names w) :
    LeadsTo own v (String.ofList l :: names) w := by
  obtain ⟨hsegment, hmark⟩ := readSegment_eq_ok_iff.mp (readSegment_ofList hl hread "")
  exact .cons hsegment hmark h

theorem LeadsTo.truth {name : String} {b : Bool} (hname : unmarked segment = name)
    (hread : v.read? own name = some (.bool b)) : LeadsTo own v [segment] (.bool b) :=
  .cons (hname ▸ hread) (fun _ => rfl) (.nil _)

theorem foldlM_eq_ok_iff :
    names.foldlM (readSegment own path) v = .ok w ↔ LeadsTo own v names w := by
  induction names generalizing v with
  | nil =>
    constructor
    · intro h
      cases h
      exact .nil _
    · rintro ⟨⟩
      rfl
  | cons segment names ih =>
    rw [List.foldlM_cons, bind_eq_ok_iff]
    constructor
    · rintro ⟨u, hu, h⟩
      obtain ⟨hread, hmark⟩ := readSegment_eq_ok_iff.mp hu
      exact .cons hread hmark (ih.mp h)
    · rintro (_ | ⟨hread, hmark, hleads⟩)
      exact ⟨_, readSegment_eq_ok_iff.mpr ⟨hread, hmark⟩, ih.mpr hleads⟩

theorem Path.resolve_eq_ok_iff : p.resolve own s = .ok w ↔ ∃ v, s.find? (unmarked p.head) = some v ∧
    (isMarked p.head = true → isTruth v = true) ∧ LeadsTo own v p.accessors w := by
  rw [resolve]
  cases s.find? (unmarked p.head) with
  | none => simp
  | some v =>
    simp only [bind_eq_ok_iff, foldlM_eq_ok_iff, Option.some.injEq, exists_eq_left']
    constructor
    · rintro ⟨u, hu, hleads⟩
      obtain ⟨hmark, rfl⟩ := checked_eq_ok_iff.mp hu
      exact ⟨hmark, hleads⟩
    · rintro ⟨hmark, hleads⟩
      exact ⟨v, checked_eq_ok_iff.mpr ⟨hmark, rfl⟩, hleads⟩

/-- A path of one segment without a question mark comes to what the scope binds. -/
theorem Path.resolve_name (hmark : isMarked segment = false) (hfind : s.find? segment = some v) :
    Path.resolve own s ⟨segment, []⟩ = .ok v := by
  refine resolve_eq_ok_iff.mpr ⟨v, ?_, fun h => ?_, .nil v⟩
  · rw [unmarked_of_isMarked hmark, hfind]
  · rw [hmark] at h
    cases h

/-! ### Texts -/

/-- The text that a value is written as, if it has one. -/
def written? : Value → Option String
  | .text s => some s
  | .bool b => some (if b then "true" else "false")
  | .int k => some (toString k)
  | .real x => some x.text
  | _ => none

theorem Node.evaluateText_eq_ok_iff {text : String} :
    n.evaluateText own s = .ok text ↔ ∃ v, n.evaluate own s = .ok v ∧ written? v = some text := by
  rw [evaluateText, bind_eq_ok_iff]
  refine exists_congr fun v => and_congr_right fun _ => ?_
  cases v with
  | scalar c => cases c <;> simp [written?, pure, Except.pure, throw, throwThe, MonadExceptOf.throw]
  | _ => simp [written?, throw, throwThe, MonadExceptOf.throw]

/-! ### Failures -/

/-- The expressions that an expression is made of, itself among them. -/
def Node.parts : Node → List Node
  | .text s => [.text s]
  | .truth b => [.truth b]
  | .path p => [.path p]
  | .negation n => .negation n :: n.parts
  | .comparison l r negated => .comparison l r negated :: (l.parts ++ r.parts)

theorem Node.mem_parts (n : Node) : n ∈ n.parts := by
  cases n <;> exact List.mem_cons_self

theorem path_of_checked (h : checked path segment v = .error e) : e.path = path := by
  rw [checked] at h
  split at h <;> cases h
  rfl

theorem path_of_readSegment (h : readSegment own path v segment = .error e) : e.path = path := by
  rw [readSegment] at h
  split at h
  · exact path_of_checked h
  · cases h
    rfl

theorem path_of_foldlM (h : names.foldlM (readSegment own path) v = .error e) : e.path = path := by
  induction names generalizing v with
  | nil => cases h
  | cons segment names ih =>
    rw [List.foldlM_cons] at h
    obtain h | ⟨u, -, h⟩ := bind_eq_error_iff.mp h
    · exact path_of_readSegment h
    · exact ih h

/-- A path fails as a whole, whichever of its segments it is. -/
theorem Path.path_of_resolve (h : p.resolve own s = .error e) : e.path = p.shown := by
  rw [resolve] at h
  split at h
  · cases h
    rfl
  · obtain h | ⟨u, -, h⟩ := bind_eq_error_iff.mp h
    · exact path_of_checked h
    · exact path_of_foldlM h

theorem path_of_asTruth (h : asTruth n v = .error e) : e.path = n.shown := by
  unfold asTruth at h
  split at h <;> cases h
  rfl

/-- Where an expression has no value, a part of it is named. -/
theorem Node.exists_part_of_evaluate (h : n.evaluate own s = .error e) :
    ∃ m ∈ n.parts, e.path = m.shown := by
  induction n with
  | text | truth => cases h
  | path p => exact ⟨.path p, List.mem_cons_self, Path.path_of_resolve h⟩
  | negation n ih =>
    rw [evaluate] at h
    obtain h | ⟨v, -, h⟩ := bind_eq_error_iff.mp h
    · obtain ⟨m, hm, he⟩ := ih h
      exact ⟨m, List.mem_cons_of_mem _ hm, he⟩
    · obtain h | ⟨b, -, h⟩ := bind_eq_error_iff.mp h
      · exact ⟨n, List.mem_cons_of_mem _ n.mem_parts, path_of_asTruth h⟩
      · cases h
  | comparison l r negated ihl ihr =>
    rw [evaluate] at h
    obtain h | ⟨v, -, h⟩ := bind_eq_error_iff.mp h
    · obtain ⟨m, hm, he⟩ := ihl h
      exact ⟨m, List.mem_cons_of_mem _ (List.mem_append_left _ hm), he⟩
    · obtain h | ⟨w, -, h⟩ := bind_eq_error_iff.mp h
      · obtain ⟨m, hm, he⟩ := ihr h
        exact ⟨m, List.mem_cons_of_mem _ (List.mem_append_right _ hm), he⟩
      · cases h

/-- What is made of the value of an expression fails with a part of it, if all that can be wrong
with the value is said of the whole. -/
theorem Node.exists_part_of_bind {α : Type} {f : Value → Except Failure α}
    (hf : ∀ v e, f v = .error e → e.path = n.shown) (h : n.evaluate own s >>= f = .error e) :
    ∃ m ∈ n.parts, e.path = m.shown := by
  obtain h | ⟨v, -, h⟩ := bind_eq_error_iff.mp h
  · exact exists_part_of_evaluate h
  · exact ⟨n, n.mem_parts, hf v e h⟩

theorem Node.exists_part_of_evaluateGuard (h : n.evaluateGuard own s = .error e) :
    ∃ m ∈ n.parts, e.path = m.shown :=
  exists_part_of_bind (fun _ _ => path_of_asTruth) h

theorem Node.exists_part_of_evaluateText (h : n.evaluateText own s = .error e) :
    ∃ m ∈ n.parts, e.path = m.shown := by
  refine exists_part_of_bind (fun v e hv => ?_) h
  split at hv <;> cases hv
  rfl

theorem Node.exists_part_of_evaluateSequence (h : n.evaluateSequence own s = .error e) :
    ∃ m ∈ n.parts, e.path = m.shown := by
  refine exists_part_of_bind (fun v e hv => ?_) h
  split at hv <;> cases hv
  rfl

end Expression

end Scaffold
