import Scaffold.Proofs.Model.Forest

/-! Descriptions of components.  A component can be described in many ways, since at each place a
shorthand may stand for what is written out; whichever way was taken, the component that is read
from the description agrees with the one described, down to the order of its parts. -/
namespace Scaffold

open Model Naming Text

/-! ### Descriptions -/

/-- An entry that gives a text, and may be left out if the text is empty. -/
def GivesText (given : Option Value) (s : String) : Prop :=
  given = some (.text s) ∨ given = none ∧ s = ""

/-- An entry that gives a truth value, and may be left out if the value is the default. -/
def GivesTruth (default : Bool) (given : Option Value) (b : Bool) : Prop :=
  given = some (.bool b) ∨ given = none ∧ b = default

/-- An entry that gives a list: of descriptions of its elements, one for each in order; without
the list around it, if there is one element; or of nothing, if there is none. -/
inductive GivesList {α : Type} (R : Value → α → Prop) : Option Value → List α → Prop
  | omitted : GivesList R none []
  | null : GivesList R (some .null) []
  | single {v : Value} {a : α} : R v a → GivesList R (some v) [a]
  | list {vs : List Value} {as : List α} : List.Forall₂ R vs as →
      GivesList R (some (.list vs)) as

/-- A description of a type: its name, if the spelling follows from it, or a mapping, which leaves
out at most what follows. -/
inductive DescribesType : Value → DataType → Prop
  | name {t : DataType} : t.name ≠ "" → t.cxxName = cxxName t.name →
      DescribesType (.text t.name) t
  | mapping {entries : Fields} {t : DataType} : entries.all (·.1.isText) = true →
      GivesText (fieldOf? entries "name") t.name →
      (fieldOf? entries "cxx_name" = some (.text t.cxxName) ∨
        fieldOf? entries "cxx_name" = none ∧ t.name ≠ "" ∧ t.cxxName = cxxName t.name) →
      DescribesType (.dict entries) t

/-- A description of an argument. -/
inductive DescribesArgument : Value → Argument → Prop
  | mapping {entries : Fields} {type : Value} {a : Argument} :
      fieldOf? entries "name" = some (.text a.name) →
      fieldOf? entries "type" = some type → DescribesType type a.type →
      GivesText (fieldOf? entries "doc") a.doc → DescribesArgument (.dict entries) a

/-- A description of an operation. -/
inductive DescribesOperation : Value → Operation → Prop
  | mapping {entries : Fields} {o : Operation} :
      fieldOf? entries "name" = some (.text o.methodName) →
      GivesList DescribesType (fieldOf? entries "returns") o.returnTypes →
      GivesTruth (!o.returnTypes.isEmpty) (fieldOf? entries "has_return_value")
        o.hasReturnValue →
      GivesList DescribesArgument (fieldOf? entries "arguments") o.arguments →
      GivesText (fieldOf? entries "doc") o.doc → DescribesOperation (.dict entries) o

/-- A description of a task. -/
inductive DescribesTask : Value → Task → Prop
  | mapping {entries : Fields} {t : Task} :
      fieldOf? entries "name" = some (.text t.basename) →
      GivesTruth false (fieldOf? entries "fixed_initial_state") t.fixedInitialState →
      GivesList DescribesOperation (fieldOf? entries "operations") t.operations →
      GivesText (fieldOf? entries "doc") t.doc → DescribesTask (.dict entries) t

/-- A description of a component. -/
inductive DescribesComponent : Value → Component → Prop
  | mapping {entries : Fields} {c : Component} :
      fieldOf? entries "name" = some (.text c.name) →
      GivesList DescribesTask (fieldOf? entries "tasks") c.tasks →
      GivesText (fieldOf? entries "doc") c.doc → DescribesComponent (.dict entries) c

/-! ### The description with everything written out -/

namespace Model

def DataType.description (t : DataType) : Value :=
  .dict [(.text "name", .text t.name), (.text "cxx_name", .text t.cxxName)]

def Argument.description (a : Argument) : Value :=
  .dict [(.text "name", .text a.name), (.text "type", a.type.description),
    (.text "doc", .text a.doc)]

def Operation.description (o : Operation) : Value :=
  .dict [(.text "name", .text o.methodName), (.text "doc", .text o.doc),
    (.text "returns", .list (o.returnTypes.map DataType.description)),
    (.text "has_return_value", .bool o.hasReturnValue),
    (.text "arguments", .list (o.arguments.map Argument.description))]

def Task.description (t : Task) : Value :=
  .dict [(.text "name", .text t.basename),
    (.text "fixed_initial_state", .bool t.fixedInitialState), (.text "doc", .text t.doc),
    (.text "operations", .list (t.operations.map Operation.description))]

def Component.description (c : Component) : Value :=
  .dict [(.text "name", .text c.name), (.text "doc", .text c.doc),
    (.text "tasks", .list (c.tasks.map Task.description))]

end Model

theorem givesList_map {α : Type} {R : Value → α → Prop} {f : α → Value} (h : ∀ a, R (f a) a)
    (as : List α) : GivesList R (some (.list (as.map f))) as :=
  .list (List.forall₂_map_left_iff.mpr (List.forall₂_same.mpr fun a _ => h a))

theorem describesType_description (t : DataType) : DescribesType t.description t :=
  .mapping rfl (.inl rfl) (.inl rfl)

theorem describesArgument_description (a : Argument) : DescribesArgument a.description a :=
  .mapping rfl rfl (describesType_description a.type) (.inl rfl)

theorem describesOperation_description (o : Operation) : DescribesOperation o.description o :=
  .mapping rfl (givesList_map describesType_description _) (.inl rfl)
    (givesList_map describesArgument_description _) (.inl rfl)

theorem describesTask_description (t : Task) : DescribesTask t.description t :=
  .mapping rfl (.inl rfl) (givesList_map describesOperation_description _) (.inl rfl)

/-- Every component can be described. -/
theorem describesComponent_description (c : Component) : DescribesComponent c.description c :=
  .mapping rfl (givesList_map describesTask_description _) (.inl rfl)

/-! ### Constructors given what a description holds -/

namespace Model
variable {α : Type} {own own' : Ownership} {fields : Fields} {name : String}

theorem run_required {v : Value} {a : α} {check : Value → Build α}
    (hf : fieldOf? fields name = some v) (hv : (check v).run own = (.ok a, own')) :
    (required fields name check).run own = (.ok (.ok a), own') := by
  simp only [required, hf, run_bind, Stock.run_findings, hv]
  rfl

theorem run_optional {v : Value} {a default : α} {check : Value → Build α}
    (hf : fieldOf? fields name = some v) (hv : (check v).run own = (.ok a, own')) :
    (optional fields name default check).run own = (.ok (.ok a), own') := by
  simp only [optional, hf, run_bind, Stock.run_findings, hv]
  rfl

theorem run_optional_default {default : α} {check : Value → Build α}
    (hf : fieldOf? fields name = none) :
    (optional fields name default check).run own = (.ok (.ok default), own) := by
  simp only [optional, hf]
  rfl

theorem run_optional_text {s : String} (h : GivesText (fieldOf? fields name) s) :
    (optional fields name "" text).run own = (.ok (.ok s), own) := by
  rcases h with h | ⟨h, rfl⟩
  · exact run_optional h rfl
  · exact run_optional_default h

theorem run_truth (b : Bool) : (truth (.bool b)).run own = (.ok b, own) := rfl

theorem run_identifier {s : String} (h : isIdentifier s = true) :
    (identifier (.text s)).run own = (.ok s, own) := by
  have htext : (text (.text s)).run own = (.ok s, own) := rfl
  rw [identifier, run_bind_of_ok htext, if_pos h]
  rfl

theorem run_spelling {s : String} (h : allBlank s.toList = false) :
    (spelling (.text s)).run own = (.ok s, own) := by
  have htext : (text (.text s)).run own = (.ok s, own) := rfl
  rw [spelling, run_bind_of_ok htext, if_neg (by simp [h])]
  rfl

theorem run_buildAll {accept : Value → Build α} {f : α → Entity} (i : Nat) (as : List α)
    (h : ∀ a own, (accept (.entity (f a))).run own = (.ok a, own)) :
    (buildAll accept i (as.map fun a => .entity (f a))).run own = (.ok (.ok as), own) := by
  induction as generalizing i with
  | nil => rfl
  | cons a as ih =>
    simp only [List.map_cons, buildAll, run_bind, Stock.run_findings, h, ih]
    rfl

theorem run_tuple {accept : Value → Build α} {f : α → Entity} (as : List α)
    (h : ∀ a own, (accept (.entity (f a))).run own = (.ok a, own)) :
    (tuple accept (.list (as.map fun a => .entity (f a)))).run own = (.ok as, own) := by
  simp only [tuple, run_bind, run_buildAll 0 as h]
  rfl

theorem run_tuple_distinct {accept : Value → Build α} {f : α → Entity} {key : α → String}
    {rule : String → Rule} {as : List α}
    (haccept : ∀ a own, (accept (.entity (f a))).run own = (.ok a, own))
    (h : (as.map key).Nodup) : (tuple accept (.list (as.map fun a => .entity (f a))) >>=
      fun as => distinct key rule as).run own = (.ok as, own) := by
  rw [run_bind_of_ok (run_tuple as haccept), distinct,
    Stock.firstRepeated?_eq_none.mpr ⟨h, by simp⟩]
  rfl

theorem sameElement_text {s t : String} :
    (Scalar.text s).sameElement (.text t) = true ↔ s = t := by
  simp [Scalar.sameElement, Scalar.equals]

/-- An entry that is set for want of one is the only change. -/
theorem fieldOf?_setEntry {key : String} (h : fieldOf? fields key = none) (v : Value) :
    fieldOf? (setEntry fields (.text key) v) name =
      if name = key then some v else fieldOf? fields name := by
  have hnone : fields.find? (·.1.sameElement (.text key)) = none := Option.map_eq_none_iff.mp h
  have habsent : fields.any (·.1.sameElement (.text key)) = false := by
    rw [List.any_eq_false]
    exact List.find?_eq_none.mp hnone
  rw [setEntry, if_neg (by rw [habsent]; decide), fieldOf?, entryOf?, List.find?_append]
  split
  next hkey =>
    rw [hkey, hnone]
    simp [sameElement_text.mpr]
  next hkey =>
    have hother : (Scalar.text key).sameElement (.text name) = false :=
      Bool.eq_false_iff.mpr fun heq => hkey (sameElement_text.mp heq).symm
    simp [fieldOf?, entryOf?, hother]

/-- What the fields of a type come to when those of `t` are given, or all but the spelling that
follows from its name. -/
theorem run_deriveCxxName {t : DataType} (hblank : allBlank t.cxxName.toList = false)
    (hname : GivesText (fieldOf? fields "name") t.name)
    (hcxx : fieldOf? fields "cxx_name" = some (.text t.cxxName) ∨
      fieldOf? fields "cxx_name" = none ∧ t.name ≠ "" ∧ t.cxxName = cxxName t.name) :
    ∃ fields', (∀ own, (deriveCxxName fields).run own = (.ok fields', own)) ∧
      fieldOf? fields' "cxx_name" = some (.text t.cxxName) ∧
      GivesText (fieldOf? fields' "name") t.name := by
  rcases hcxx with hcxx | ⟨hcxx, hne, heq⟩
  · have htruthy : (Value.text t.cxxName).isTruthy = true := by
      have hne : t.cxxName ≠ "" := fun h => by
        rw [h] at hblank
        exact absurd hblank (by decide)
      simpa [Value.isTruthy] using hne
    refine ⟨fields, ?_, hcxx, hname⟩
    rcases hname with hname | ⟨hname, -⟩
    · simp [deriveCxxName, hcxx, hname, htruthy, run_pure]
    · simp [deriveCxxName, hcxx, hname, run_pure]
  · obtain hname | ⟨-, hempty⟩ := hname
    · refine ⟨setEntry fields (.text "cxx_name") (.text (cxxName t.name)), ?_, ?_, ?_⟩
      · have htruthy : (Value.text t.name).isTruthy = true := by simpa [Value.isTruthy] using hne
        simp [deriveCxxName, hcxx, hname, htruthy, run_pure]
      · rw [fieldOf?_setEntry hcxx, if_pos rfl, heq]
      · rw [GivesText, fieldOf?_setEntry hcxx, if_neg (by decide)]
        exact .inl hname
    · exact absurd hempty hne

theorem run_dataType_build {t : DataType} (hblank : allBlank t.cxxName.toList = false)
    (hname : GivesText (fieldOf? fields "name") t.name)
    (hcxx : fieldOf? fields "cxx_name" = some (.text t.cxxName) ∨
      fieldOf? fields "cxx_name" = none ∧ t.name ≠ "" ∧ t.cxxName = cxxName t.name) :
    (DataType.build fields).run own = (.ok { t with mark := own.fresh }, own.drawn) := by
  obtain ⟨fields', hderive, hcxx', hname'⟩ := run_deriveCxxName hblank hname hcxx
  rw [DataType.build, run_bind_of_ok (hderive own), hcxx', Option.isSome_some, if_pos rfl,
    run_bind_of_ok (run_required hcxx' (run_spelling hblank)),
    run_bind_of_ok (run_optional_text hname')]
  rfl

section
variable {word doc : String}

theorem run_argument_build {type : DataType} (hid : isIdentifier word = true)
    (hname : fieldOf? fields "name" = some (.text word))
    (htype : fieldOf? fields "type" = some (.entity (.dataType type)))
    (hdoc : fieldOf? fields "doc" = some (.text doc)) :
    (Argument.build fields).run own = (.ok ⟨own.fresh, word, type, doc⟩, own.drawn) := by
  have haccept : (DataType.accept (.entity (.dataType type))).run own = (.ok type, own) := rfl
  rw [Argument.build, run_bind_of_ok (run_required hname (run_identifier hid)),
    run_bind_of_ok (run_required htype haccept), run_bind_of_ok (run_optional_text (.inl hdoc))]
  rfl

theorem run_operation_build {types : List DataType} {value : Bool} {arguments : List Argument}
    (hid : isIdentifier word = true) (hsound : value = true → types ≠ [])
    (hname : fieldOf? fields "method_name" = some (.text word))
    (htypes : fieldOf? fields "return_types" =
      some (.list (types.map fun t => .entity (.dataType t))))
    (hvalue : GivesTruth (!types.isEmpty) (fieldOf? fields "has_return_value") value)
    (harguments : fieldOf? fields "arguments" =
      some (.list (arguments.map fun a => .entity (.argument a))))
    (hdoc : fieldOf? fields "doc" = some (.text doc)) :
    (Operation.build fields).run own =
      (.ok ⟨own.fresh, word, types, value, arguments, doc⟩, own.drawn) := by
  have hvalue : (optional fields "has_return_value"
      ((fieldOf? fields "return_types").any Value.isTruthy) truth).run own =
        (.ok (.ok value), own) := by
    rcases hvalue with hvalue | ⟨hvalue, hdefault⟩
    · exact run_optional hvalue (run_truth _)
    · rw [run_optional_default hvalue, htypes, hdefault]
      simp [Value.isTruthy]
  have hdeclared : (value && types.isEmpty) = false := by
    cases value
    · rfl
    · simpa using hsound rfl
  rw [Operation.build, run_bind_of_ok (run_required hname (run_identifier hid)),
    run_bind_of_ok (run_optional htypes (run_tuple _ fun _ _ => rfl)), run_bind_of_ok hvalue,
    run_bind_of_ok (run_optional harguments (run_tuple _ fun _ _ => rfl)),
    run_bind_of_ok (run_optional_text (.inl hdoc))]
  change (if (value && types.isEmpty) = true then _ else _ : Build Operation).run own.drawn = _
  rw [hdeclared]
  rfl

theorem run_task_build {fixed : Bool} {operations : List Operation}
    (hid : isIdentifier word = true)
    (hnodup : (operations.map Operation.methodName).Nodup)
    (hname : fieldOf? fields "basename" = some (.text word))
    (hfixed : fieldOf? fields "fixed_initial_state" = some (.bool fixed))
    (hoperations : fieldOf? fields "self_operations" =
      some (.list (operations.map fun o => .entity (.operation o))))
    (hdoc : fieldOf? fields "doc" = some (.text doc))
    (hfree : ∀ o ∈ operations, own.task? o = none) :
    (Task.build fields).run own = (.ok ⟨own.fresh, word, fixed, operations, doc⟩,
      own.drawn.giveTask ⟨own.fresh, word, fixed, operations, doc⟩) := by
  rw [Task.build, run_bind_of_ok (run_required hname (run_identifier hid)),
    run_bind_of_ok (run_optional hfixed (run_truth _)),
    run_bind_of_ok (run_optional hoperations (run_tuple_distinct (fun _ _ => rfl) hnodup)),
    run_bind_of_ok (run_optional_text (.inl hdoc))]
  change (Task.claim ⟨own.fresh, word, fixed, operations, doc⟩).run own.drawn = _
  rcases Stock.run_task_claim ⟨own.fresh, word, fixed, operations, doc⟩ own.drawn with
    ⟨⟨o, ho, howner⟩, -⟩ | ⟨-, hrun⟩
  · exact absurd (hfree o ho) howner
  · exact hrun

theorem run_component_build {tasks : List Task} (hid : isIdentifier word = true)
    (hnodup : (tasks.map Task.basename).Nodup)
    (hname : fieldOf? fields "name" = some (.text word))
    (htasks : fieldOf? fields "tasks" = some (.list (tasks.map fun t => .entity (.task t))))
    (hdoc : fieldOf? fields "doc" = some (.text doc))
    (hfree : ∀ t ∈ tasks, own.component? t = none) :
    (Component.build fields).run own = (.ok ⟨own.fresh, word, tasks, doc⟩,
      own.drawn.giveComponent ⟨own.fresh, word, tasks, doc⟩) := by
  rw [Component.build, run_bind_of_ok (run_required hname (run_identifier hid)),
    run_bind_of_ok (run_optional htasks (run_tuple_distinct (fun _ _ => rfl) hnodup)),
    run_bind_of_ok (run_optional_text (.inl hdoc))]
  change (Component.claim ⟨own.fresh, word, tasks, doc⟩).run own.drawn = _
  rcases Stock.run_component_claim ⟨own.fresh, word, tasks, doc⟩ own.drawn with
    ⟨⟨t, ht, howner⟩, -⟩ | ⟨-, hrun⟩
  · exact absurd (hfree t ht) howner
  · exact hrun

end

end Model

/-! ### Owners during a reading -/

namespace Model
variable {ε α : Type} {n : Nat} {own : Ownership}

/-- All that has an owner carries a mark that has been drawn. -/
def Ownership.IsDrawn (own : Ownership) : Prop :=
  ∀ p e, own.owner? p = some e → p.mark < own.fresh

theorem Stock.Course.isDrawn {s : Stock} (h : Course n ⟨own, ∅⟩ s) (hown : own.IsDrawn) :
    s.own.IsDrawn := by
  intro p e he
  rcases h.owner?_cases p with hsame | ⟨-, _, -, -, -, q, -, hbuilt, -, hm⟩
  · exact (hown p e (hsame ▸ he)).trans_le h.fresh_le
  · rcases h.mem_built hbuilt with hold | ⟨-, hlt⟩
    · cases hold
    · exact hm ▸ hlt

/-- What has been added on the way, and nothing of a level for its holder was, has no owner. -/
theorem Stock.Course.owner?_eq_none {s : Stock} (h : Course n ⟨own, ∅⟩ s) (hown : own.IsDrawn)
    {p : Entity} (hp : p ∈ s.built) (hn : n ≤ p.kind.level + 1) : s.own.owner? p = none := by
  rcases h.owner?_cases p with hsame | ⟨-, e, -, -, hlevel, q, hq, -, hk, -⟩
  · rw [hsame]
    by_contra hne
    obtain ⟨e, he⟩ := Option.ne_none_iff_exists'.mp hne
    rcases h.mem_built hp with hold | ⟨hle, -⟩
    · cases hold
    · exact absurd (hown p e he) hle.not_gt
  · have hholder := Entity.level_of_mem_holdings hq
    rw [hk] at hholder
    omega

/-- The course of a computation that succeeds. -/
theorem Stock.Follows.of_run {b : ExceptT ε (StateM Ownership) α} {Q : Stock → α → Prop} {a : α}
    {own' : Ownership} (h : Follows n ⟨own, ∅⟩ b Q) (hrun : b.run own = (.ok a, own')) :
    ∃ s, Course n ⟨own, ∅⟩ s ∧ s.own = own' ∧ Q s a := by
  obtain ⟨s, hcourse, hown, hq⟩ := h
  rw [hrun] at hown hq
  exact ⟨s, hcourse, hown, hq a rfl⟩

theorem Reached.isDrawn {es : List Entity} (h : Reached own es) : own.IsDrawn := by
  obtain ⟨s, hs, rfl, -⟩ := h.exists_stock
  intro p e he
  obtain ⟨hbuilt, q, hq, -, hm⟩ := hs.owned he
  exact hm ▸ hs.marked q (hs.holdings hbuilt hq)

end Model

/-! ### Reading a description -/

section
variable {α β : Type} {own : Ownership}

/-- What a description of a list holds: one description for each element. -/
theorem specsOf_of_givesList {R : Value → α → Prop} (hR : ∀ v a, R v a → specsOf v = [v])
    {entries : Fields} {name : String} {as : List α} (h : GivesList R (fieldOf? entries name) as) :
    List.Forall₂ R (specsOf (entryOr entries name .null)) as := by
  rw [entryOr]
  generalize fieldOf? entries name = given at h
  cases h with
  | omitted | null => exact .nil
  | single h => simpa [hR _ _ h] using h
  | list h => exact h

theorem entryOr_of_eq_some {entries : Fields} {name : String} {v default : Value}
    (h : fieldOf? entries name = some v) : entryOr entries name default = v := by
  simp [entryOr, h]

theorem entryOr_eq_of_givesText {entries : Fields} {name s : String}
    (h : GivesText (fieldOf? entries name) s) : entryOr entries name (.text "") = .text s := by
  rcases h with h | ⟨h, rfl⟩ <;> simp [entryOr, h]

theorem run_constructed {b : Build α} {own' : Ownership} {a : α} (h : b.run own = (.ok a, own'))
    (c : EntityClass) : (constructed c b).run own = (.ok a, own') := by
  change constructed c b own = _
  simp only [constructed, h]

/-- Readings of all elements of a list, when each succeeds. -/
theorem run_mapM {f : Value → Describe β} {g : β → Entity} {S : Value → α → Prop}
    {R : β → α → Prop} (hf : ∀ s v, Stock.Follows 5 s (f v) fun s b => g b ∈ s.built)
    {vs : List Value} {as : List α} (hs : List.Forall₂ S vs as)
    (h : ∀ own v, ∀ a ∈ as, own.IsDrawn → S v a → ∃ b own', (f v).run own = (.ok b, own') ∧ R b a)
    (hown : own.IsDrawn) :
    ∃ bs own', (vs.mapM f).run own = (.ok bs, own') ∧ List.Forall₂ R bs as := by
  induction hs generalizing own with
  | nil => exact ⟨[], own, rfl, .nil⟩
  | @cons v a vs as hv hvs ih =>
    obtain ⟨b, own₁, hb, hr⟩ := h own v a List.mem_cons_self hown hv
    obtain ⟨s, hcourse, rfl, -⟩ := (hf ⟨own, ∅⟩ v).of_run hb
    obtain ⟨bs, own₂, hbs, hrs⟩ :=
      ih (fun own v a ha => h own v a (List.mem_cons_of_mem _ ha)) (hcourse.isDrawn hown)
    refine ⟨b :: bs, own₂, ?_, .cons hr hrs⟩
    rw [List.mapM_cons, run_bind_of_ok hb, run_bind_of_ok hbs]
    rfl

theorem map_eq_of_forall₂ {R : β → α → Prop} {f : β → String} {g : α → String} {bs : List β}
    {as : List α} (h : List.Forall₂ R bs as) (hfg : ∀ b a, R b a → f b = g a) :
    bs.map f = as.map g := by
  rw [← List.forall₂_eq_eq_eq, List.forall₂_map_left_iff, List.forall₂_map_right_iff]
  exact h.imp hfg

theorem isEqv_of_forall₂ {r : α → α → Bool} {as bs : List α}
    (h : List.Forall₂ (fun a b => r a b = true) as bs) : as.isEqv bs r = true := by
  induction h with
  | nil => rfl
  | cons ha _ ih => simp [List.isEqv, ha, ih]

end

variable {own : Ownership}

theorem run_describeType {v : Value} {t : DataType} (h : DescribesType v t)
    (hproper : (Entity.dataType t).IsProper) :
    (describeType v).run own = (.ok { t with mark := own.fresh }, own.drawn) := by
  cases h with
  | name hne heq =>
    exact run_constructed (run_dataType_build hproper (.inl rfl) (.inl (by rw [heq]; rfl))) _
  | mapping hkeys hname hcxx =>
    rw [describeType, if_pos hkeys]
    exact run_constructed (run_dataType_build hproper hname hcxx) _

theorem run_describeArgument {s : Stock} (hs : s.IsCoherent) {v : Value} {a : Argument}
    (h : DescribesArgument v a) (ha : .argument a ∈ s.built) :
    ∃ b own', (describeArgument v).run own = (.ok b, own') ∧ b.agrees a = true := by
  have hproper : (Entity.dataType a.type).IsProper :=
    hs.proper _ (hs.parts _ ha _ (by simp [Entity.parts]))
  cases h with
  | @mapping entries type _ hname hgiven hdescribes hdoc =>
    refine ⟨⟨own.fresh + 1, a.name, { a.type with mark := own.fresh }, a.doc⟩, own.drawn.drawn, ?_,
      by simp [Argument.agrees, DataType.agrees]⟩
    simp only [describeArgument, entriesOf, pure_bind, run_bind, entryOr, hgiven, Option.getD_some,
      run_describeType hdescribes hproper]
    refine run_constructed (run_argument_build (hs.proper _ ha) ?word rfl ?doc) _
    case word => exact congrArg some (entryOr_of_eq_some hname)
    case doc => exact congrArg some (entryOr_eq_of_givesText hdoc)

theorem run_describeOperation {s : Stock} (hs : s.IsCoherent) {v : Value} {o : Operation}
    (h : DescribesOperation v o) (ho : .operation o ∈ s.built) (hown : own.IsDrawn) :
    ∃ p own', (describeOperation v).run own = (.ok p, own') ∧ p.agrees o = true := by
  have htypes (t : DataType) (ht : t ∈ o.returnTypes) : (Entity.dataType t).IsProper :=
    hs.proper _ (hs.parts _ ho _ (List.mem_append_left _ (List.mem_map_of_mem ht)))
  have harguments (a : Argument) (ha : a ∈ o.arguments) : .argument a ∈ s.built :=
    hs.parts _ ho _ (List.mem_append_right _ (List.mem_map_of_mem ha))
  cases h with
  | @mapping entries _ hname hreturns hvalue hgiven hdoc =>
    obtain ⟨ts, own₁, hts, htsAgree⟩ := run_mapM (R := fun t' t => t'.agrees t = true)
      (Stock.follows_describeType (by decide))
      (specsOf_of_givesList (fun _ _ h => by cases h <;> rfl) hreturns)
      (fun own v t ht _ hv => ⟨_, _, run_describeType hv (htypes t ht), by simp [DataType.agrees]⟩)
      hown
    -- The arguments are read with the owners that the reading of the types left.
    obtain ⟨s₁, hcourse, rfl, -⟩ :=
      (Stock.follows_mapM (Stock.follows_describeType (n := 5) (by decide)) _).of_run hts
    obtain ⟨as, own₂, has, hasAgree⟩ := run_mapM (R := fun a' a => a'.agrees a = true)
      (Stock.follows_describeArgument (by decide))
      (specsOf_of_givesList (fun _ _ h => by cases h; rfl) hgiven)
      (fun own v a ha _ hv => run_describeArgument hs hv (harguments a ha)) (hcourse.isDrawn hown)
    have hempty : ts.isEmpty = o.returnTypes.isEmpty := by
      rw [Bool.eq_iff_iff, List.isEmpty_iff_length_eq_zero, List.isEmpty_iff_length_eq_zero,
        htsAgree.length_eq]
    refine ⟨⟨own₂.fresh, o.methodName, ts, o.hasReturnValue, as, o.doc⟩, own₂.drawn, ?_, ?_⟩
    · simp only [describeOperation, entriesOf, pure_bind, run_bind, hts, has]
      refine run_constructed (run_operation_build (hs.proper _ ho).1 ?sound ?word rfl ?value rfl
        ?doc) _
      case word => exact congrArg some (entryOr_of_eq_some hname)
      case doc => exact congrArg some (entryOr_eq_of_givesText hdoc)
      case sound =>
        intro hv hnil
        refine (hs.proper _ ho).2 hv (List.isEmpty_iff.mp ?_)
        rw [← hempty, hnil]
        rfl
      case value =>
        rcases hvalue with hvalue | ⟨hvalue, hdefault⟩
        · rw [hvalue]
          exact .inl rfl
        · rw [hvalue]
          exact .inr ⟨rfl, by rw [hdefault, hempty]⟩
    · simp [Operation.agrees, isEqv_of_forall₂ htsAgree, isEqv_of_forall₂ hasAgree]

theorem Model.Operation.methodName_eq_of_agrees {o p : Operation} (h : o.agrees p = true) :
    o.methodName = p.methodName := by
  simp only [Operation.agrees, Bool.and_eq_true, beq_iff_eq] at h
  exact h.1.1.1.1

theorem Model.Task.basename_eq_of_agrees {t u : Task} (h : t.agrees u = true) :
    t.basename = u.basename := by
  simp only [Task.agrees, Bool.and_eq_true, beq_iff_eq] at h
  exact h.1.1.1

theorem run_describeTask {s : Stock} (hs : s.IsCoherent) {v : Value} {t : Task}
    (h : DescribesTask v t) (ht : .task t ∈ s.built) (hown : own.IsDrawn) :
    ∃ u own', (describeTask v).run own = (.ok u, own') ∧ u.agrees t = true := by
  have hoperations (o : Operation) (ho : o ∈ t.operations) : .operation o ∈ s.built :=
    hs.parts _ ht _ (List.mem_map_of_mem ho)
  obtain ⟨hid, hnodup⟩ := hs.proper _ ht
  cases h with
  | @mapping entries _ hname hfixed hgiven hdoc =>
    obtain ⟨os, own₁, hos, hosAgree⟩ := run_mapM (R := fun p o => p.agrees o = true)
      (Stock.follows_describeOperation (by decide))
      (specsOf_of_givesList (fun _ _ h => by cases h; rfl) hgiven)
      (fun own v o ho hown hv => run_describeOperation hs hv (hoperations o ho) hown) hown
    -- Only operations and what they consist of were built, so that no task has taken any of them.
    obtain ⟨s₁, hcourse, rfl, hbuilt⟩ :=
      (Stock.follows_mapM (Stock.follows_describeOperation (n := 3) (by decide)) _).of_run hos
    have hfree (o : Operation) (ho : o ∈ os) : s₁.own.task? o = none :=
      Option.map_eq_none_iff.mp (hcourse.owner?_eq_none hown (hbuilt o ho) le_rfl)
    have hnames : os.map Operation.methodName = t.operations.map Operation.methodName :=
      map_eq_of_forall₂ hosAgree fun _ _ => Operation.methodName_eq_of_agrees
    have hfixed : entryOr entries "fixed_initial_state" (.bool false) =
        .bool t.fixedInitialState := by
      rcases hfixed with hfixed | ⟨hfixed, hfalse⟩
      · exact entryOr_of_eq_some hfixed
      · simp [entryOr, hfixed, hfalse]
    let u : Task := ⟨s₁.own.fresh, t.basename, t.fixedInitialState, os, t.doc⟩
    refine ⟨u, s₁.own.drawn.giveTask u, ?_, by simp [u, Task.agrees, isEqv_of_forall₂ hosAgree]⟩
    simp only [describeTask, entriesOf, pure_bind, run_bind, hos]
    refine run_constructed (run_task_build hid (hnames ▸ hnodup) ?word ?fixed rfl ?doc hfree) _
    case word => exact congrArg some (entryOr_of_eq_some hname)
    case fixed => exact congrArg some hfixed
    case doc => exact congrArg some (entryOr_eq_of_givesText hdoc)

theorem run_describeComponent {s : Stock} (hs : s.IsCoherent) {v : Value} {c : Component}
    (h : DescribesComponent v c) (hc : .component c ∈ s.built) (hown : own.IsDrawn) :
    ∃ d own', (describeComponent v).run own = (.ok d, own') ∧ d.agrees c = true := by
  have htasks (t : Task) (ht : t ∈ c.tasks) : .task t ∈ s.built :=
    hs.parts _ hc _ (List.mem_map_of_mem ht)
  obtain ⟨hid, hnodup⟩ := hs.proper _ hc
  cases h with
  | @mapping entries _ hname hgiven hdoc =>
    obtain ⟨ts, own₁, hts, htsAgree⟩ := run_mapM (R := fun u t => u.agrees t = true)
      (Stock.follows_describeTask (by decide))
      (specsOf_of_givesList (fun _ _ h => by cases h; rfl) hgiven)
      (fun own v t ht hown hv => run_describeTask hs hv (htasks t ht) hown) hown
    -- No component was built, so that none has taken any of the tasks.
    obtain ⟨s₁, hcourse, rfl, hbuilt⟩ :=
      (Stock.follows_mapM (Stock.follows_describeTask (n := 4) (by decide)) _).of_run hts
    have hfree (t : Task) (ht : t ∈ ts) : s₁.own.component? t = none :=
      Option.map_eq_none_iff.mp (hcourse.owner?_eq_none hown (hbuilt t ht) le_rfl)
    have hnames : ts.map Task.basename = c.tasks.map Task.basename :=
      map_eq_of_forall₂ htsAgree fun _ _ => Task.basename_eq_of_agrees
    let d : Component := ⟨s₁.own.fresh, c.name, ts, c.doc⟩
    refine ⟨d, s₁.own.drawn.giveComponent d, ?_, by
      simp [d, Component.agrees, isEqv_of_forall₂ htsAgree]⟩
    simp only [describeComponent, run_bind, hts]
    refine run_constructed (run_component_build hid (hnames ▸ hnodup) ?word rfl ?doc hfree) _
    case word => exact congrArg some (entryOr_of_eq_some hname)
    case doc => exact congrArg some (entryOr_eq_of_givesText hdoc)

/-- Every component that can be constructed can be described, and whatever describes it is read,
whoever owns what by then, as a component that agrees with it. -/
theorem componentOf_of_describes {own : Ownership} {es : List Entity} (h : Reached own es)
    {c : Component} (hc : .component c ∈ es) :
    (∃ d, DescribesComponent d c) ∧ ∀ d, DescribesComponent d c → ∀ own₁ es₁ source,
      Reached own₁ es₁ → ∃ c' own₂, componentOf own₁ d source = (.ok c', own₂) ∧
        c'.agrees c = true := by
  obtain ⟨s, hs, rfl, hes⟩ := h.exists_stock
  refine ⟨⟨c.description, describesComponent_description c⟩, fun d hd own₁ es₁ source h₁ => ?_⟩
  obtain ⟨c', own₂, hrun, hagrees⟩ := run_describeComponent hs hd (hes _ hc) h₁.isDrawn
  exact ⟨c', own₂, by rw [componentOf, hrun], hagrees⟩

/-! ### A component and a short description of it -/

def status : DataType := ⟨0, "Status", "Status"⟩

def mode : DataType := ⟨1, "nav::Mode", "/nav/Mode"⟩

def getStatus : Operation := ⟨3, "getStatus", [status], true, [⟨2, "mode", mode, ""⟩], ""⟩

def clear : Operation := ⟨4, "clear", [], false, [], ""⟩

def planner : Task := ⟨5, "Planner", false, [getStatus, clear], "Plans."⟩

def survey : Component := ⟨6, "survey", [planner], ""⟩

/-- Who owns whom once the component is there. -/
def surveyOwners : Ownership := ⟨7, [(3, planner), (4, planner)], [(5, survey)]⟩

/-- A description with a name for each type, no list around a single element, and nothing said that
goes without saying. -/
def surveyDescription : Value := .dict [(.text "tasks", .dict [
    (.text "doc", .text "Plans."), (.text "name", .text "Planner"), (.text "operations", .list [
      .dict [(.text "name", .text "getStatus"), (.text "returns", .text "Status"),
        (.text "arguments", .dict [(.text "name", .text "mode"),
          (.text "type", .text "/nav/Mode")])],
      .dict [(.text "name", .text "clear"), (.text "returns", .null)]])]),
  (.text "name", .text "survey")]

theorem reached_survey : Reached surveyOwners [.component survey] := by
  have hrun : (describeComponent survey.description).run .empty = (.ok survey, surveyOwners) := rfl
  have hread : componentOf .empty survey.description "survey.yml" = (.ok survey, surveyOwners) := by
    rw [componentOf, hrun]
  exact .described .start hread

theorem describesComponent_surveyDescription : DescribesComponent surveyDescription survey := by
  have hmode : DescribesType (.text mode.name) mode := .name (by decide) rfl
  have hstatus : DescribesType (.text status.name) status := .name (by decide) rfl
  have hargument : DescribesArgument (.dict [(.text "name", .text "mode"),
      (.text "type", .text "/nav/Mode")]) ⟨2, "mode", mode, ""⟩ :=
    .mapping rfl rfl hmode (.inr ⟨rfl, rfl⟩)
  refine .mapping rfl (.single (.mapping rfl (.inr ⟨rfl, rfl⟩) (.list (.cons ?_ (.cons ?_ .nil)))
    (.inl rfl))) (.inr ⟨rfl, rfl⟩)
  · exact .mapping rfl (.single hstatus) (.inr ⟨rfl, rfl⟩) (.single hargument) (.inr ⟨rfl, rfl⟩)
  · exact .mapping rfl .null (.inr ⟨rfl, rfl⟩) .omitted (.inr ⟨rfl, rfl⟩)

theorem componentOf_of_describes_survey : Reached surveyOwners [.component survey] ∧
    DescribesComponent surveyDescription survey ∧
    ∃ c own, componentOf surveyOwners surveyDescription "survey.yml" = (.ok c, own) ∧
      c.agrees survey = true :=
  ⟨reached_survey, describesComponent_surveyDescription,
    (componentOf_of_describes reached_survey (by simp)).2 surveyDescription
      describesComponent_surveyDescription surveyOwners _ "survey.yml" reached_survey⟩

end Scaffold
