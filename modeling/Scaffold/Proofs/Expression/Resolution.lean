import Mathlib.Data.List.Induction
import Scaffold.Proofs.Expression.Printing

/-! Resolution of paths, one segment after the other.  Question marks ask for truth values and
change no value; a path that cannot be resolved is refused at the first of its segments that cannot
be read. -/
namespace Scaffold.Expression
open Model

variable {own : Ownership} {s : Scope} {p q : Path} {v w : Value} {path segment : String}
  {e : Failure}

/-! ### Paths that are accepted -/

/-- A path that some text is parsed to. -/
def Path.IsAccepted (p : Path) : Prop := ∃ source, parsePath source = .ok p

theorem Path.isAccepted_iff : p.IsAccepted ↔ p.isWritable = true := by
  constructor
  · rintro ⟨source, h⟩
    obtain ⟨ts, hts, hpath⟩ := (recognizes_path.eq_ok_iff _ _).mp h
    exact isWritable_of_isPath hpath (isValid_of_scan (tokensOf_eq_ok_iff.mp hts))
  · intro h
    exact ⟨p.shown, parsePath_shown h⟩

/-- The paths within an expression are accepted on their own. -/
theorem Path.isAccepted_of_mem_parts {source : String} {n : Node} (h : parseGuard source = .ok n)
    (hp : .path p ∈ n.parts) : p.IsAccepted :=
  isAccepted_iff.mpr (hasWritablePaths_of_parseGuard h p hp)

/-! ### Question marks -/

/-- A segment without its question marks. -/
def withoutMarks (segment : String) : String :=
  String.ofList (segment.toList.filter (· != '?'))

/-- The same path without question marks. -/
def Path.withoutMarks (p : Path) : Path :=
  ⟨Expression.withoutMarks p.head, p.accessors.map Expression.withoutMarks⟩

theorem unmarked_concat (cs : List Char) :
    unmarked (String.ofList (cs ++ ['?'])) = unmarked (String.ofList cs) := by
  simp [unmarked]

/-- An accepted segment is a run of name characters, with a question mark behind it or none. -/
theorem exists_run_of_isSegment (h : isSegment segment = true) :
    ∃ run, '?' ∉ run ∧ (segment = String.ofList run ∨ segment = String.ofList (run ++ ['?'])) := by
  obtain ⟨c, run, hc, hrun, hword⟩ := isWord_iff_exists_run.mp (isSegment_iff.mp h).1
  refine ⟨c :: run, ?_, ?_⟩
  · intro hm
    have hall : ∀ d ∈ c :: run, Naming.isNameRest d = true :=
      List.forall_mem_cons.mpr ⟨isNameRest_of_isNameStart hc, hrun⟩
    exact absurd (hall '?' hm) (by decide)
  · rcases hword with hword | hword
    · exact .inl (by rw [← hword, String.ofList_toList])
    · exact .inr (by rw [← hword, String.ofList_toList])

/-- In an accepted segment, the only question mark is at the end. -/
theorem withoutMarks_eq_unmarked (h : isSegment segment = true) :
    withoutMarks segment = unmarked segment := by
  obtain ⟨run, hnot, hsegment⟩ := exists_run_of_isSegment h
  have hkept : run.filter (· != '?') = run := by
    apply List.filter_eq_self.mpr
    intro c hc
    simpa using ne_of_mem_of_not_mem hc hnot
  have hlast : run.getLast? ≠ some '?' := fun hm => hnot (List.mem_of_getLast? hm)
  rcases hsegment with rfl | rfl
  · rw [unmarked_ofList hlast, withoutMarks, String.toList_ofList, hkept]
  · rw [unmarked_concat, unmarked_ofList hlast, withoutMarks, String.toList_ofList,
      List.filter_append, hkept]
    simp

theorem isMarked_withoutMarks (segment : String) : isMarked (withoutMarks segment) = false := by
  apply isMarked_ofList
  intro hlast
  have hm := List.mem_of_getLast? hlast
  simp at hm

@[simp] theorem unmarked_withoutMarks (segment : String) :
    unmarked (withoutMarks segment) = withoutMarks segment :=
  unmarked_of_isMarked (isMarked_withoutMarks segment)

/-! ### Paths, one accessor after the other -/

namespace Path

/-- A path with one more accessor. -/
def read (p : Path) (segment : String) : Path := ⟨p.head, p.accessors ++ [segment]⟩

/-- The last segment of a path. -/
def last (p : Path) : String := p.accessors.getLast?.getD p.head

/-- The segments of a path are the first ones of another. -/
def Begins (q p : Path) : Prop := q.segments <+: p.segments

@[simp] theorem last_read (p : Path) (segment : String) : (p.read segment).last = segment := by
  simp [last, read]

theorem withoutMarks_read (p : Path) (segment : String) : (p.read segment).withoutMarks =
    p.withoutMarks.read (Expression.withoutMarks segment) := by
  simp [withoutMarks, read]

theorem isWritable_read : (p.read segment).isWritable = true ↔
    p.isWritable = true ∧ isSegment segment = true := by
  simp [isWritable, read, segments, and_assoc]

theorem read_induction {motive : Path → Prop} (name : ∀ head, motive ⟨head, []⟩)
    (read : ∀ p segment, motive p → motive (p.read segment)) (p : Path) : motive p := by
  obtain ⟨head, accessors⟩ := p
  induction accessors using List.reverseRecOn with
  | nil => exact name head
  | append_singleton names segment ih => exact read ⟨head, names⟩ segment ih

theorem segments_inj (h : q.segments = p.segments) : q = p := by
  cases q
  cases p
  simpa [segments] using h

theorem begins_name {head : String} : q.Begins ⟨head, []⟩ ↔ q = ⟨head, []⟩ := by
  constructor
  · intro h
    apply segments_inj
    exact h.eq_of_length_le (by simp [segments])
  · rintro rfl
    exact List.prefix_rfl

theorem begins_read : q.Begins (p.read segment) ↔ q = p.read segment ∨ q.Begins p := by
  have hsegments : (p.read segment).segments = p.segments ++ [segment] := rfl
  rw [Begins, hsegments, List.prefix_concat_iff, ← hsegments]
  constructor
  · exact Or.imp_left segments_inj
  · rintro (rfl | h)
    · exact .inl rfl
    · exact .inr h

/-- What a path leads to, where failures name it as `path`. -/
def follow (own : Ownership) (s : Scope) (path : String) (p : Path) : Except Failure Value := do
  match s.find? (unmarked p.head) with
  | none => .error (.unresolved path p.head .scope)
  | some v => p.accessors.foldlM (readSegment own path) (← checked path p.head v)

theorem resolve_eq_follow (p : Path) : p.resolve own s = p.follow own s p.shown := rfl

theorem follow_read (p : Path) (segment : String) : (p.read segment).follow own s path =
    p.follow own s path >>= (readSegment own path · segment) := by
  rw [follow, follow, read]
  cases s.find? (unmarked p.head) with
  | none => rfl
  | some v =>
    dsimp only
    cases checked path p.head v with
    | error e => rfl
    | ok u =>
      show List.foldlM _ u _ = List.foldlM _ u _ >>= _
      rw [List.foldlM_append]
      congr 1
      funext w
      simp [List.foldlM_cons]

theorem follow_name_eq_ok_iff {head : String} : Path.follow own s path ⟨head, []⟩ = .ok v ↔
    s.find? (unmarked head) = some v ∧ (isMarked head = true → isTruth v = true) := by
  rw [follow]
  cases s.find? (unmarked head) with
  | none => simp
  | some u =>
    simp only [List.foldlM_nil, bind_pure, checked_eq_ok_iff, Option.some.injEq]
    constructor
    · rintro ⟨hmark, rfl⟩
      exact ⟨rfl, hmark⟩
    · rintro ⟨rfl, hmark⟩
      exact ⟨hmark, rfl⟩

theorem follow_read_eq_ok_iff : (p.read segment).follow own s path = .ok w ↔
    ∃ v, p.follow own s path = .ok v ∧ v.read? own (unmarked segment) = some w ∧
      (isMarked segment = true → isTruth w = true) := by
  rw [follow_read, bind_eq_ok_iff]
  simp only [readSegment_eq_ok_iff]

/-- Only failures depend on how a path is named. -/
theorem follow_eq_ok_iff : p.follow own s path = .ok v ↔ p.resolve own s = .ok v := by
  rw [resolve_eq_follow]
  generalize p.shown = shown
  induction p using read_induction generalizing v with
  | name head => rw [follow_name_eq_ok_iff, follow_name_eq_ok_iff]
  | read p segment ih => simp only [follow_read_eq_ok_iff, ih]

theorem resolve_name_eq_ok_iff {head : String} : Path.resolve own s ⟨head, []⟩ = .ok v ↔
    s.find? (unmarked head) = some v ∧ (isMarked head = true → isTruth v = true) := by
  rw [resolve_eq_follow, follow_name_eq_ok_iff]

theorem resolve_read_eq_ok_iff : (p.read segment).resolve own s = .ok w ↔
    ∃ v, p.resolve own s = .ok v ∧ v.read? own (unmarked segment) = some w ∧
      (isMarked segment = true → isTruth w = true) := by
  rw [resolve_eq_follow, follow_read_eq_ok_iff]
  simp only [follow_eq_ok_iff]

/-! ### Truth values -/

theorem exists_truth (h : isTruth v = true) : ∃ b, v = .bool b := by
  unfold isTruth at h
  split at h
  · exact ⟨_, rfl⟩
  · cases h

/-- A path that ends in a question mark comes to a truth value. -/
theorem exists_truth_of_resolve (h : p.resolve own s = .ok v) (hmark : isMarked p.last = true) :
    ∃ b, v = .bool b := by
  induction p using read_induction with
  | name head => exact exists_truth ((resolve_name_eq_ok_iff.mp h).2 hmark)
  | read p segment =>
    rw [last_read] at hmark
    obtain ⟨u, -, -, htruth⟩ := resolve_read_eq_ok_iff.mp h
    exact exists_truth (htruth hmark)

/-- Nothing is read from a truth value, so that a question mark stands at the end or nowhere. -/
theorem resolve_ne_ok_of_isMarked (hq : q.Begins p) (hne : q ≠ p) (hmark : isMarked q.last = true) :
    p.resolve own s ≠ .ok v := by
  induction p using read_induction generalizing v with
  | name head => exact absurd (begins_name.mp hq) hne
  | read p segment ih =>
    intro h
    obtain ⟨u, hu, hread, -⟩ := resolve_read_eq_ok_iff.mp h
    rcases begins_read.mp hq with rfl | hq
    · exact hne rfl
    · by_cases hqp : q = p
      · subst hqp
        obtain ⟨b, rfl⟩ := exists_truth_of_resolve hu hmark
        cases hread
      · exact ih hq hqp hu

/-- Question marks change no value: they only ask for truth values. -/
theorem resolve_eq_ok_iff_withoutMarks (hp : p.isWritable = true) : p.resolve own s = .ok v ↔
    p.withoutMarks.resolve own s = .ok v ∧ ∀ q : Path, q.Begins p → isMarked q.last = true →
      ∃ b, q.withoutMarks.resolve own s = .ok (.bool b) := by
  induction p using read_induction generalizing v with
  | name head =>
    have hhead : Expression.withoutMarks head = unmarked head := by
      apply withoutMarks_eq_unmarked
      simpa [isWritable, segments] using hp
    have hplain (u : Value) : (Path.mk head []).withoutMarks.resolve own s = .ok u ↔
        s.find? (unmarked head) = some u := by
      rw [← hhead, withoutMarks, List.map_nil, resolve_name_eq_ok_iff, isMarked_withoutMarks,
        unmarked_withoutMarks]
      simp
    rw [resolve_name_eq_ok_iff, hplain]
    apply and_congr_right
    intro hv
    constructor
    · intro htruth q hq hmark
      obtain rfl := begins_name.mp hq
      obtain ⟨b, rfl⟩ := exists_truth (htruth hmark)
      exact ⟨b, (hplain _).mpr hv⟩
    · intro hall hmark
      obtain ⟨b, hb⟩ := hall ⟨head, []⟩ (begins_name.mpr rfl) hmark
      cases hv.symm.trans ((hplain _).mp hb)
      rfl
  | read p segment ih =>
    obtain ⟨hp, hsegment⟩ := isWritable_read.mp hp
    have hplain (u : Value) : (p.read segment).withoutMarks.resolve own s = .ok u ↔
        ∃ t, p.withoutMarks.resolve own s = .ok t ∧ t.read? own (unmarked segment) = some u := by
      rw [withoutMarks_read, resolve_read_eq_ok_iff, isMarked_withoutMarks, unmarked_withoutMarks,
        withoutMarks_eq_unmarked hsegment]
      simp
    rw [resolve_read_eq_ok_iff, hplain]
    constructor
    · rintro ⟨u, hu, hread, htruth⟩
      obtain ⟨hu, hall⟩ := (ih hp).mp hu
      refine ⟨⟨u, hu, hread⟩, ?_⟩
      intro q hq hmark
      rcases begins_read.mp hq with rfl | hq
      · rw [last_read] at hmark
        obtain ⟨b, rfl⟩ := exists_truth (htruth hmark)
        exact ⟨b, (hplain _).mpr ⟨u, hu, hread⟩⟩
      · exact hall q hq hmark
    · rintro ⟨⟨u, hu, hread⟩, hall⟩
      have hbegins (q : Path) (hq : q.Begins p) := hall q (begins_read.mpr (.inr hq))
      refine ⟨u, (ih hp).mpr ⟨hu, hbegins⟩, hread, ?_⟩
      intro hmark
      obtain ⟨b, hb⟩ := hall (p.read segment) (begins_read.mpr (.inl rfl)) (by rwa [last_read])
      cases ((hplain _).mpr ⟨u, hu, hread⟩).symm.trans hb
      rfl

/-! ### Segments that cannot be read -/

/-- The last segment of a path cannot be read: it is all of the path and not bound, or what stands
before it comes to a value that has no such accessor, or to an empty sequence whose first or last
element it asks for. -/
inductive IsUnreadable (own : Ownership) (s : Scope) : Path → Prop
  | unbound {head : String} : s.find? (Expression.withoutMarks head) = none →
      IsUnreadable own s ⟨head, []⟩
  | lacking {p : Path} {v : Value} {segment : String} : p.resolve own s = .ok v →
      Expression.withoutMarks segment ∉ v.accessors → IsUnreadable own s (p.read segment)
  | drained {p : Path} {v : Value} {segment : String} : p.resolve own s = .ok v →
      v.IsEmptySequence →
      Expression.withoutMarks segment = "first" ∨ Expression.withoutMarks segment = "last" →
      IsUnreadable own s (p.read segment)

theorem isUnreadable_name_iff {head : String} : IsUnreadable own s ⟨head, []⟩ ↔
    s.find? (Expression.withoutMarks head) = none := by
  constructor
  · intro h
    generalize hp : Path.mk head [] = p at h
    cases h with
    | unbound hnone =>
      cases hp
      exact hnone
    | lacking | drained => simp [read] at hp
  · exact .unbound

theorem read_inj {segment' : String} (h : q.read segment' = p.read segment) :
    q = p ∧ segment' = segment := by
  cases p
  cases q
  simp_all [read]

theorem isUnreadable_read_iff : IsUnreadable own s (p.read segment) ↔
    ∃ v, p.resolve own s = .ok v ∧ v.read? own (Expression.withoutMarks segment) = none := by
  simp only [Value.read?_eq_none_iff]
  constructor
  · intro h
    generalize hp : p.read segment = q at h
    cases h with
    | unbound => simp [read] at hp
    | lacking hv hnot =>
      obtain ⟨rfl, rfl⟩ := read_inj hp
      exact ⟨_, hv, .inl hnot⟩
    | drained hv hempty hends =>
      obtain ⟨rfl, rfl⟩ := read_inj hp
      exact ⟨_, hv, .inr ⟨hends, hempty⟩⟩
  · rintro ⟨v, hv, hnot | ⟨hends, hempty⟩⟩
    · exact .lacking hv hnot
    · exact .drained hv hempty hends

/-- In a path that can be resolved every segment can be read. -/
theorem not_isUnreadable_of_resolve (hp : p.isWritable = true) (h : p.resolve own s = .ok v)
    (hq : q.Begins p) : ¬ IsUnreadable own s q := by
  induction p using read_induction generalizing v with
  | name head =>
    obtain rfl := begins_name.mp hq
    have hhead : isSegment head = true := by simpa [isWritable, segments] using hp
    rw [isUnreadable_name_iff, withoutMarks_eq_unmarked hhead, (resolve_name_eq_ok_iff.mp h).1]
    exact Option.some_ne_none v
  | read p segment ih =>
    obtain ⟨hp, hsegment⟩ := isWritable_read.mp hp
    obtain ⟨u, hu, hread, -⟩ := resolve_read_eq_ok_iff.mp h
    rcases begins_read.mp hq with rfl | hq
    · rw [isUnreadable_read_iff, withoutMarks_eq_unmarked hsegment]
      rintro ⟨t, ht, hnone⟩
      cases hu.symm.trans ht
      exact Option.some_ne_none v (hread.symm.trans hnone)
    · exact ih hp hu hq

theorem readSegment_eq_unresolved_iff {path' segment' : String} {owner : Owner} :
    readSegment own path v segment = .error (.unresolved path' segment' owner) ↔
      v.read? own (unmarked segment) = none ∧ path' = path ∧ segment' = segment ∧
        owner = ownerOf v := by
  rw [readSegment]
  cases v.read? own (unmarked segment) with
  | none => simp [eq_comm]
  | some u =>
    dsimp only
    rw [checked]
    split <;> simp

/-- A path is refused as unresolved at the first of its segments that cannot be read. -/
theorem exists_follow_eq_unresolved_iff (hp : p.isWritable = true) {path' : String} :
    (∃ owner, p.follow own s path = .error (.unresolved path' segment owner)) ↔
      path' = path ∧ ∃ q : Path, q.Begins p ∧ q.last = segment ∧ IsUnreadable own s q ∧
        ∀ r : Path, r.Begins q → r ≠ q → ¬ IsUnreadable own s r := by
  induction p using read_induction with
  | name head =>
    have hhead : isSegment head = true := by simpa [isWritable, segments] using hp
    simp only [begins_name, exists_eq_left, isUnreadable_name_iff, withoutMarks_eq_unmarked hhead]
    rw [follow]
    cases s.find? (unmarked head) with
    | none => simp +contextual [last, eq_comm]
    | some v =>
      simp only [List.foldlM_nil, bind_pure]
      unfold checked
      split <;> simp
  | read p segment' ih =>
    obtain ⟨hbefore, hsegment⟩ := isWritable_read.mp hp
    simp only [follow_read, bind_eq_error_iff, readSegment_eq_unresolved_iff, exists_or, ih hbefore,
      begins_read]
    constructor
    · rintro (⟨rfl, q, hq, h⟩ | ⟨owner, v, hv, hnone, rfl, rfl, -⟩)
      · exact ⟨rfl, q, .inr hq, h⟩
      · rw [follow_eq_ok_iff] at hv
        refine ⟨rfl, p.read segment, .inl rfl, last_read p segment, ?_, ?_⟩
        · rw [isUnreadable_read_iff, withoutMarks_eq_unmarked hsegment]
          exact ⟨v, hv, hnone⟩
        · intro r hr hne
          have hrp : r.Begins p := (begins_read.mp hr).resolve_left hne
          exact not_isUnreadable_of_resolve hbefore hv hrp
    · rintro ⟨rfl, q, rfl | hq, hlast, h, hfirst⟩
      · rw [isUnreadable_read_iff, withoutMarks_eq_unmarked hsegment] at h
        obtain ⟨v, hv, hnone⟩ := h
        have hname := hlast.symm.trans (last_read _ _)
        exact .inr ⟨_, v, follow_eq_ok_iff.mpr hv, hnone, rfl, hname, rfl⟩
      · exact .inl ⟨rfl, q, hq, hlast, h, hfirst⟩

/-- A path that is accepted comes to a value if it does so without its question marks and there is a
truth value wherever one of them stands, and then to the same value.  It comes to none if a question
mark stands before its end.  Where it is refused as unresolved, it is named in full, with the first
segment that cannot be read as it is written; and it is refused so whenever there is such a
segment. -/
theorem resolve_of_isAccepted (hp : p.IsAccepted) (own : Ownership) (s : Scope) :
    (∀ v, p.resolve own s = .ok v ↔ p.withoutMarks.resolve own s = .ok v ∧
      ∀ q : Path, q.Begins p → isMarked q.last = true →
        ∃ b, q.withoutMarks.resolve own s = .ok (.bool b)) ∧
    (∀ q : Path, q.Begins p → q ≠ p → isMarked q.last = true → ∀ v, p.resolve own s ≠ .ok v) ∧
    ∀ path segment, (∃ owner, p.resolve own s = .error (.unresolved path segment owner)) ↔
      path = p.shown ∧ ∃ q : Path, q.Begins p ∧ q.last = segment ∧ IsUnreadable own s q ∧
        ∀ r : Path, r.Begins q → r ≠ q → ¬ IsUnreadable own s r := by
  have hwritable := isAccepted_iff.mp hp
  refine ⟨?_, ?_, ?_⟩
  · intro v
    exact resolve_eq_ok_iff_withoutMarks hwritable
  · intro q hq hne hmark v
    exact resolve_ne_ok_of_isMarked hq hne hmark
  · intro path segment
    rw [resolve_eq_follow]
    exact exists_follow_eq_unresolved_iff hwritable

/-- A path that reads one accessor twice, the second time with a question mark. -/
def firstOfFirst : Path := ⟨"xs", ["first", "first?"]⟩

/-- A scope in which it is the second of the two that cannot be read. -/
def nestedScope : Scope := [[("xs", .list [.list []])]]

theorem resolve_of_isAccepted_firstOfFirst : firstOfFirst.IsAccepted ∧
    firstOfFirst.resolve .empty nestedScope =
      .error (.unresolved "xs.first.first?" "first?" .emptySequence) ∧
    ∃ q : Path, q.Begins firstOfFirst ∧ q.last = "first?" ∧
      IsUnreadable .empty nestedScope q ∧
      ∀ r : Path, r.Begins q → r ≠ q → ¬ IsUnreadable .empty nestedScope r := by
  have haccepted : firstOfFirst.IsAccepted := isAccepted_iff.mpr (by decide)
  have herror : firstOfFirst.resolve .empty nestedScope =
      .error (.unresolved "xs.first.first?" "first?" .emptySequence) := by rfl
  obtain ⟨-, -, hunresolved⟩ := resolve_of_isAccepted haccepted .empty nestedScope
  exact ⟨haccepted, herror, ((hunresolved _ _).mp ⟨_, herror⟩).2⟩

end Path

end Scaffold.Expression
