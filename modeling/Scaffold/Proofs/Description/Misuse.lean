import Scaffold.Proofs.Description.RoundTrip

/-! What a reading of a description ends in, whatever the document holds: a component, a fault with
the source of the description, or a misuse, which lies in the mapping of some type. -/
namespace Scaffold

open Model

/-! ### The types of a description -/

/-- The description of the type of an argument. -/
def typeOfArgument : Value → List Value
  | .dict entries => [entryOr entries "type" .null]
  | _ => []

/-- The descriptions of types in that of an operation, in the order in which they are read. -/
def typesOfOperation : Value → List Value
  | .dict entries => specsOf (entryOr entries "returns" .null) ++
      (specsOf (entryOr entries "arguments" .null)).flatMap typeOfArgument
  | _ => []

/-- The descriptions of types in that of a task. -/
def typesOfTask : Value → List Value
  | .dict entries => (specsOf (entryOr entries "operations" .null)).flatMap typesOfOperation
  | _ => []

/-- The descriptions of types in that of a component. -/
def typesOfComponent : Value → List Value
  | .dict entries => (specsOf (entryOr entries "tasks" .null)).flatMap typesOfTask
  | _ => []

/-- Fields that give bytes for the name of a type, and no spelling to do without it. -/
def NamedByBytes (fields : Fields) : Prop :=
  ∃ bs, fieldOf? fields "name" = some (.scalar (.bytes bs)) ∧ bs ≠ [] ∧
    ∀ v, fieldOf? fields "cxx_name" = some v → v.isTruthy = false

/-- What is wrong with the mapping of a type: a key that is no name, or bytes for the name. -/
inductive Misuse.IsIn : Misuse → Value → Prop
  | keysNotNames {fields : Fields} {entry : Scalar × Value} : entry ∈ fields →
      entry.1.isText = false → IsIn .keysNotNames (.dict fields)
  | bytesForName {fields : Fields} : (∀ entry ∈ fields, entry.1.isText = true) →
      NamedByBytes fields → IsIn .bytesForName (.dict fields)

/-! ### Ends of computations -/

section
variable {ε σ α β : Type} {b : ExceptT ε (StateM σ) α} {Q Q' : α → Prop} {E E' : ε → Prop}

/-- From any state, a computation ends in a result with `Q` or in a failure with `E`. -/
def EndsIn (b : ExceptT ε (StateM σ) α) (Q : α → Prop) (E : ε → Prop) : Prop :=
  ∀ s, match (b.run s).1 with
    | .ok a => Q a
    | .error e => E e

namespace EndsIn

theorem pure {a : α} (h : Q a) : EndsIn (Pure.pure a : ExceptT ε (StateM σ) α) Q E := fun _ => h

theorem throw {e : ε} (h : E e) : EndsIn (throw e : ExceptT ε (StateM σ) α) Q E := fun _ => h

theorem mono (h : EndsIn b Q E) (hq : ∀ a, Q a → Q' a) (he : ∀ e, E e → E' e) :
    EndsIn b Q' E' := by
  intro s
  have hb := h s
  generalize b.run s = r at hb
  obtain ⟨e | a, s'⟩ := r
  · exact he e hb
  · exact hq a hb

theorem bind {f : α → ExceptT ε (StateM σ) β} {R : β → Prop} (h : EndsIn b Q E)
    (hf : ∀ a, Q a → EndsIn (f a) R E) : EndsIn (b >>= f) R E := by
  intro s
  have hb := h s
  rw [run_bind]
  generalize b.run s = r at hb
  obtain ⟨e | a, s'⟩ := r
  · exact hb
  · exact hf a hb s'

end EndsIn

end

/-! ### Constructions -/

namespace Model
variable {α β : Type} {b : Build α} {fields : Fields}

/-- A construction that asks no bytes how they start. -/
def SparesBytes (b : Build α) : Prop := EndsIn b (fun _ => True) (· ≠ .mixedStart)

theorem SparesBytes.pure (a : α) : SparesBytes (Pure.pure a) := EndsIn.pure trivial

theorem SparesBytes.bind {f : α → Build β} (h : SparesBytes b) (hf : ∀ a, SparesBytes (f a)) :
    SparesBytes (b >>= f) :=
  EndsIn.bind h fun a _ => hf a

theorem SparesBytes.of_run (h : ∀ own, ∃ a own', b.run own = (.ok a, own')) : SparesBytes b := by
  intro own
  obtain ⟨a, own', hrun⟩ := h own
  rw [hrun]
  trivial

theorem sparesBytes_settle (c : Check α) : SparesBytes (settle c) := by
  cases c with
  | ok a => exact .pure a
  | error fs => exact EndsIn.throw (by simp)

theorem SparesBytes.findings (h : SparesBytes b) : SparesBytes (findings b) := by
  intro own
  have hb := h own
  rw [Stock.run_findings]
  generalize b.run own = r at hb
  obtain ⟨(fs | ⟨t, m⟩ | _) | a, own'⟩ := r
  · trivial
  · exact hb
  · exact hb
  · trivial

theorem sparesBytes_required {name : String} {check : Value → Build α}
    (h : ∀ v, fieldOf? fields name = some v → SparesBytes (check v)) :
    SparesBytes (required fields name check) := by
  unfold required
  split
  next v hv => exact (h v hv).findings.bind fun _ => .pure _
  next => exact .pure _

theorem sparesBytes_optional {name : String} {default : α} {check : Value → Build α}
    (h : ∀ v, fieldOf? fields name = some v → SparesBytes (check v)) :
    SparesBytes (optional fields name default check) := by
  unfold optional
  split
  next v hv => exact (h v hv).findings.bind fun _ => .pure _
  next => exact .pure _

theorem sparesBytes_text (v : Value) : SparesBytes (text v) := sparesBytes_settle _

theorem sparesBytes_truth (v : Value) : SparesBytes (truth v) := sparesBytes_settle _

theorem sparesBytes_identifier (v : Value) : SparesBytes (identifier v) := by
  refine (sparesBytes_text v).bind fun s => ?_
  split
  · exact .pure s
  · exact sparesBytes_settle _

theorem sparesBytes_spelling (v : Value) : SparesBytes (spelling v) := by
  refine (sparesBytes_text v).bind fun s => ?_
  split
  · exact sparesBytes_settle _
  · exact .pure s

theorem sparesBytes_distinct (name : α → String) (rule : String → Rule) (as : List α) :
    SparesBytes (distinct name rule as) := by
  unfold distinct
  split
  · exact sparesBytes_settle _
  · exact .pure as

/-- Entities that are given as such are taken as they are. -/
theorem sparesBytes_tuple {accept : Value → Build α} {f : α → Entity} (as : List α)
    (h : ∀ a own, (accept (.entity (f a))).run own = (.ok a, own)) :
    SparesBytes (tuple accept (.list (as.map fun a => .entity (f a)))) :=
  .of_run fun own => ⟨as, own, run_tuple as h⟩

theorem sparesBytes_newMark : SparesBytes newMark := .of_run fun _ => ⟨_, _, rfl⟩

theorem not_namedByBytes {name : Value} (hname : fieldOf? fields "name" = some name)
    (h : ∀ bs, name ≠ .scalar (.bytes bs)) : ¬ NamedByBytes fields := by
  rintro ⟨bs, hbytes, -⟩
  exact h bs (Option.some.inj (hname.symm.trans hbytes))

/-- Only a name in bytes is asked how it starts and has no answer. -/
theorem endsIn_deriveCxxName (fields : Fields) : EndsIn (deriveCxxName fields)
    (fun _ => ¬ NamedByBytes fields) (fun r => r = .mixedStart → NamedByBytes fields) := by
  unfold deriveCxxName
  split
  next given name hcxx hname =>
    split
    next hskip =>
      refine .pure ?_
      rintro ⟨bs, hbytes, hne, hfalse⟩
      obtain rfl := Option.some.inj (hname.symm.trans hbytes)
      have hany : (fieldOf? fields "cxx_name").any Value.isTruthy = false := by
        simpa [Option.any_eq_false] using hfalse
      simp [hany, Value.isTruthy, hne] at hskip
    next hskip =>
      simp only [Bool.or_eq_true, not_or, Bool.not_eq_true, Bool.not_eq_false',
        Option.any_eq_false] at hskip
      split
      next s => exact .pure (not_namedByBytes hname (by simp))
      next points => exact .pure (not_namedByBytes hname (by simp))
      next bs =>
        exact .throw fun _ => ⟨bs, hname, by simpa [Value.isTruthy] using hskip.2, hskip.1⟩
      next => exact .throw (by simp)
  next hname =>
    refine .pure ?_
    rintro ⟨bs, hbytes, -⟩
    rw [hname] at hbytes
    cases hbytes

theorem endsIn_dataType_build (fields : Fields) : EndsIn (DataType.build fields)
    (fun _ => ¬ NamedByBytes fields) (fun r => r = .mixedStart → NamedByBytes fields) := by
  refine (endsIn_deriveCxxName fields).bind fun derived hfine => ?_
  -- Once the fields are derived, nothing more is asked of bytes.
  refine EndsIn.mono (Q := fun _ => True) (E := (· ≠ .mixedStart)) ?_ (fun _ _ => hfine)
    fun r hr heq => absurd heq hr
  refine (sparesBytes_required fun v _ => sparesBytes_spelling v).bind fun cxxName => ?_
  refine (sparesBytes_optional fun v _ => sparesBytes_text v).bind fun name => ?_
  exact sparesBytes_newMark.bind fun mark => sparesBytes_settle _

theorem sparesBytes_argument_build (htype : ∀ v, fieldOf? fields "type" = some v →
    SparesBytes (DataType.accept v)) : SparesBytes (Argument.build fields) := by
  refine (sparesBytes_required fun v _ => sparesBytes_identifier v).bind fun name => ?_
  refine (sparesBytes_required htype).bind fun type => ?_
  refine (sparesBytes_optional fun v _ => sparesBytes_text v).bind fun doc => ?_
  exact sparesBytes_newMark.bind fun mark => sparesBytes_settle _

theorem sparesBytes_operation_build (htypes : ∀ v, fieldOf? fields "return_types" = some v →
      SparesBytes (tuple DataType.accept v))
    (harguments : ∀ v, fieldOf? fields "arguments" = some v →
      SparesBytes (tuple Argument.accept v)) : SparesBytes (Operation.build fields) := by
  refine (sparesBytes_required fun v _ => sparesBytes_identifier v).bind fun methodName => ?_
  refine (sparesBytes_optional htypes).bind fun types => ?_
  refine (sparesBytes_optional fun v _ => sparesBytes_truth v).bind fun hasValue => ?_
  refine (sparesBytes_optional harguments).bind fun arguments => ?_
  refine (sparesBytes_optional fun v _ => sparesBytes_text v).bind fun doc => ?_
  refine sparesBytes_newMark.bind fun mark => (sparesBytes_settle _).bind fun o => ?_
  split
  · exact sparesBytes_settle _
  · exact .pure o

theorem sparesBytes_task_claim (t : Task) : SparesBytes t.claim := by
  refine (SparesBytes.of_run fun own => ⟨own, own, run_getThe own⟩).bind fun own => ?_
  split
  · exact sparesBytes_settle _
  · exact .of_run fun _ => ⟨_, _, rfl⟩

theorem sparesBytes_component_claim (c : Component) : SparesBytes c.claim := by
  refine (SparesBytes.of_run fun own => ⟨own, own, run_getThe own⟩).bind fun own => ?_
  split
  · exact sparesBytes_settle _
  · exact .of_run fun _ => ⟨_, _, rfl⟩

theorem sparesBytes_task_build (hoperations : ∀ v, fieldOf? fields "self_operations" = some v →
    SparesBytes (tuple Operation.accept v)) : SparesBytes (Task.build fields) := by
  refine (sparesBytes_required fun v _ => sparesBytes_identifier v).bind fun basename => ?_
  refine (sparesBytes_optional fun v _ => sparesBytes_truth v).bind fun fixed => ?_
  refine (sparesBytes_optional fun v hv => (hoperations v hv).bind fun os =>
    sparesBytes_distinct _ _ os).bind fun operations => ?_
  refine (sparesBytes_optional fun v _ => sparesBytes_text v).bind fun doc => ?_
  exact sparesBytes_newMark.bind fun mark => (sparesBytes_settle _).bind sparesBytes_task_claim

theorem sparesBytes_component_build (htasks : ∀ v, fieldOf? fields "tasks" = some v →
    SparesBytes (tuple Task.accept v)) : SparesBytes (Component.build fields) := by
  refine (sparesBytes_required fun v _ => sparesBytes_identifier v).bind fun name => ?_
  refine (sparesBytes_optional fun v hv => (htasks v hv).bind fun ts =>
    sparesBytes_distinct _ _ ts).bind fun tasks => ?_
  refine (sparesBytes_optional fun v _ => sparesBytes_text v).bind fun doc => ?_
  exact sparesBytes_newMark.bind fun mark => (sparesBytes_settle _).bind sparesBytes_component_claim

end Model

/-! ### Readings -/

/-- A reading of parts in which `specs` describe types: it succeeds if none of them is misused, and
ends in a misuse only if one of them is. -/
def Reads {α : Type} (b : Describe α) (specs : List Value) : Prop :=
  EndsIn b (fun _ => ∀ spec ∈ specs, ∀ cause : Misuse, ¬ cause.IsIn spec)
    fun fault => ∀ cause, fault = .misuse cause → ∃ spec ∈ specs, cause.IsIn spec

section
variable {α β : Type} {b : Describe α} {specs specs' : List Value}

theorem Reads.bind {f : α → Describe β} (h : Reads b specs) (hf : ∀ a, Reads (f a) specs') :
    Reads (b >>= f) (specs ++ specs') := by
  refine EndsIn.bind (h.mono (fun _ hfine => hfine) fun fault hfault cause hc => ?_)
    fun a hfine => (hf a).mono (fun _ hfine' => ?_) fun fault hfault cause hc => ?_
  · obtain ⟨spec, hspec, hin⟩ := hfault cause hc
    exact ⟨spec, List.mem_append_left _ hspec, hin⟩
  · exact List.forall_mem_append.mpr ⟨hfine, hfine'⟩
  · obtain ⟨spec, hspec, hin⟩ := hfault cause hc
    exact ⟨spec, List.mem_append_right _ hspec, hin⟩

theorem Reads.mapM {f : Value → Describe α} {g : Value → List Value} (h : ∀ v, Reads (f v) (g v))
    (vs : List Value) : Reads (vs.mapM f) (vs.flatMap g) := by
  induction vs with
  | nil => exact EndsIn.pure (by simp)
  | cons v vs ih =>
    rw [List.mapM_cons, List.flatMap_cons]
    refine (h v).bind fun a => ?_
    rw [← List.append_nil (vs.flatMap g)]
    exact ih.bind fun as => EndsIn.pure (by simp)

theorem reads_constructed {c : EntityClass} {b : Build α} (h : SparesBytes b) :
    Reads (constructed c b) [] := by
  intro own
  have hb := h own
  have hrun : (constructed c b).run own = constructed c b own := rfl
  rw [hrun, constructed]
  generalize b.run own = r at hb
  obtain ⟨(fs | ⟨t, m⟩ | _) | a, own'⟩ := r
  · simp
  · simp
  · exact absurd rfl hb
  · simp

end

/-- A type is built of a description in which bytes for the name are all that can be amiss. -/
theorem reads_dataType {fields : Fields} {spec : Value}
    (h : ∀ cause : Misuse, cause.IsIn spec ↔ cause = .bytesForName ∧ NamedByBytes fields) :
    Reads (constructed .dataType (DataType.build fields)) [spec] := by
  intro own
  have hb := endsIn_dataType_build fields own
  have hrun : (constructed .dataType (DataType.build fields)).run own =
      constructed .dataType (DataType.build fields) own := rfl
  rw [hrun, constructed]
  simp only [List.mem_singleton, forall_eq, exists_eq_left, h]
  generalize (DataType.build fields).run own = r at hb
  obtain ⟨(fs | ⟨t, m⟩ | _) | a, own'⟩ := r
  · simp
  · simp
  · rintro cause ⟨⟩
    exact ⟨rfl, hb rfl⟩
  · rintro cause ⟨-, hbytes⟩
    exact hb hbytes

theorem reads_describeType (spec : Value) : Reads (describeType spec) [spec] := by
  unfold describeType
  split
  next name =>
    refine reads_dataType fun cause => ⟨nofun, fun ⟨_, h⟩ => ?_⟩
    exact absurd h (not_namedByBytes rfl (by simp))
  next points =>
    refine reads_dataType fun cause => ⟨nofun, fun ⟨_, h⟩ => ?_⟩
    exact absurd h (not_namedByBytes rfl (by simp))
  next fields =>
    split
    next hkeys =>
      rw [List.all_eq_true] at hkeys
      refine reads_dataType fun cause => ⟨fun h => ?_, fun ⟨hcause, h⟩ => ?_⟩
      · cases h with
        | keysNotNames hentry hkey => exact absurd (hkeys _ hentry) (by simp [hkey])
        | bytesForName _ h => exact ⟨rfl, h⟩
      · rw [hcause]
        exact .bytesForName hkeys h
    next hkeys =>
      simp only [List.all_eq_true, not_forall, Bool.not_eq_true] at hkeys
      obtain ⟨entry, hentry, hkey⟩ := hkeys
      refine EndsIn.throw fun cause hcause => ⟨_, List.mem_singleton_self _, ?_⟩
      cases hcause
      exact .keysNotNames hentry hkey
  next => exact EndsIn.throw fun cause hcause => by cases hcause

/-- A part of a description is read from the entries of a mapping. -/
theorem Reads.entries {α : Type} {f : Fields → Describe α} {g : Value → List Value} (spec : Value)
    (h : ∀ entries, Reads (f entries) (g (.dict entries))) :
    Reads (entriesOf spec >>= f) (g spec) := by
  unfold entriesOf
  split
  next entries => exact h entries
  next => exact EndsIn.throw fun cause hcause => by cases hcause

theorem Reads.constructed_last {α β : Type} {b : Describe α} {f : α → Describe β}
    {specs : List Value} (h : Reads b specs) (hf : ∀ a, Reads (f a) []) :
    Reads (b >>= f) specs := by
  simpa using h.bind hf

theorem reads_describeArgument (spec : Value) :
    Reads (describeArgument spec) (typeOfArgument spec) := by
  refine Reads.entries (g := typeOfArgument) spec fun entries => ?_
  refine (reads_describeType _).constructed_last fun type => reads_constructed ?_
  refine sparesBytes_argument_build fun v hv => ?_
  cases hv
  exact .pure type

theorem reads_describeOperation (spec : Value) :
    Reads (describeOperation spec) (typesOfOperation spec) := by
  refine Reads.entries (g := typesOfOperation) spec fun entries => ?_
  have hreturns := Reads.mapM reads_describeType (specsOf (entryOr entries "returns" .null))
  rw [List.flatMap_singleton'] at hreturns
  refine hreturns.bind fun returns => ?_
  refine (Reads.mapM reads_describeArgument _).constructed_last fun arguments =>
    reads_constructed (sparesBytes_operation_build (fun v hv => ?_) fun v hv => ?_)
  · cases hv
    exact sparesBytes_tuple returns fun _ _ => rfl
  · cases hv
    exact sparesBytes_tuple arguments fun _ _ => rfl

theorem reads_describeTask (spec : Value) : Reads (describeTask spec) (typesOfTask spec) := by
  refine Reads.entries (g := typesOfTask) spec fun entries => ?_
  refine (Reads.mapM reads_describeOperation _).constructed_last fun operations =>
    reads_constructed (sparesBytes_task_build fun v hv => ?_)
  cases hv
  exact sparesBytes_tuple operations fun _ _ => rfl

theorem reads_describeComponent (data : Value) :
    Reads (describeComponent data) (typesOfComponent data) := by
  unfold describeComponent
  split
  next entries =>
    refine (Reads.mapM reads_describeTask _).constructed_last fun tasks =>
      reads_constructed (sparesBytes_component_build fun v hv => ?_)
    cases hv
    exact sparesBytes_tuple tasks fun _ _ => rfl
  next => exact EndsIn.throw fun cause hcause => by cases hcause

/-- A document that ends in a misuse misuses the mapping of a type. -/
theorem exists_isIn_of_misuse {own own' : Ownership} {data : Value} {source : String}
    {cause : Misuse} (h : componentOf own data source = (.error (.misuse cause), own')) :
    ∃ spec ∈ typesOfComponent data, cause.IsIn spec := by
  have hreads := reads_describeComponent data own
  unfold componentOf at h
  generalize (describeComponent data).run own = r at h hreads
  obtain ⟨(fault | misuse) | c, left⟩ := r
  · cases h
  · cases h
    exact hreads cause rfl
  · cases h

/-- An operation that returns a type with a number among the keys of its mapping. -/
def numberedKey : Value := .dict [(.text "name", .text "nav"), (.text "tasks", .list [
  .dict [(.text "name", .text "A"), (.text "operations", .list [
    .dict [(.text "name", .text "f"), (.text "returns", .list [
      .dict [(.int 1, .text "x")]])]])]])]

end Scaffold
