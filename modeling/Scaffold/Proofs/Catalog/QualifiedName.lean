import Scaffold.Proofs.Catalog.Session
import Scaffold.Proofs.Files.Below
import Scaffold.Proofs.Model.Identifier

/-! Qualified names of tasks.  In a catalog that a program can come to have, taking the name of a
task and looking up a name undo each other: no name that is let pass has a colon in it, and the
tasks of a component that is known are its own. -/
namespace Scaffold

open Model Naming

theorem Naming.IsLetPass.ne_empty {s : String} (h : IsLetPass s) : s ≠ "" := by
  rintro rfl
  exact absurd (isIdentifier_iff.mpr h) (by decide)

namespace Catalog

/-! ### Cuts -/

/-- What a qualified name is cut at. -/
def separator : List Char := [':', ':']

/-- A text is cut at its first separator: none begins any earlier. -/
def IsCut (cs owner basename : List Char) : Prop :=
  cs = owner ++ separator ++ basename ∧ ¬ separator <:+: owner ++ [':']

variable {cs owner basename : List Char}

/-- A text is cut behind what has no colon in it. -/
theorem isCut_of_notMem (h : ':' ∉ owner) :
    IsCut (owner ++ separator ++ basename) owner basename := by
  refine ⟨rfl, fun hinfix => ?_⟩
  have hcount := hinfix.sublist.count_le ':'
  rw [List.count_append, List.count_eq_zero_of_not_mem h] at hcount
  exact absurd hcount (by decide)

theorem isCut_nil : IsCut cs [] basename ↔ cs = separator ++ basename := by
  rw [IsCut, List.nil_append, and_iff_left]
  decide

/-- A cut is further on if there is no separator at the very start. -/
theorem isCut_cons {c d : Char} (h : ¬ separator <+: c :: cs) :
    IsCut (c :: cs) (d :: owner) basename ↔ c = d ∧ IsCut cs owner basename := by
  rw [IsCut, IsCut, List.cons_append, List.cons_append, List.cons_append, List.cons.injEq,
    List.infix_cons_iff]
  constructor
  · rintro ⟨⟨hc, hcs⟩, hnot⟩
    exact ⟨hc, hcs, fun hinfix => hnot (.inr hinfix)⟩
  · rintro ⟨rfl, rfl, hnot⟩
    refine ⟨⟨rfl, rfl⟩, ?_⟩
    rintro (hsep | hinfix)
    · have happ : c :: (owner ++ separator ++ basename) =
          c :: (owner ++ [':']) ++ (':' :: basename) := by
        simp [separator]
      rw [happ] at h
      exact h (hsep.trans (List.prefix_append _ _))
    · exact hnot hinfix

/-- A text that starts with a separator is cut there. -/
theorem isCut_separator_append {rest : List Char} :
    IsCut (separator ++ rest) owner basename ↔ owner = [] ∧ basename = rest := by
  constructor
  · rintro ⟨heq, hnot⟩
    have hstart : ¬ separator <+: owner ++ [':'] := fun h => hnot h.isInfix
    rcases owner with _ | ⟨d, _ | ⟨e, owner⟩⟩
    · exact ⟨rfl, (List.append_cancel_left heq).symm⟩
    · obtain ⟨rfl, -⟩ := List.cons.inj heq
      exact (hstart ⟨[], rfl⟩).elim
    · obtain ⟨rfl, htail⟩ := List.cons.inj heq
      obtain ⟨rfl, -⟩ := List.cons.inj htail
      exact (hstart ⟨owner ++ [':'], rfl⟩).elim
  · rintro ⟨rfl, rfl⟩
    exact isCut_nil.mpr rfl

theorem splitQualified?_eq_some_iff :
    splitQualified? cs = some (owner, basename) ↔ IsCut cs owner basename := by
  fun_induction splitQualified? cs generalizing owner with
  | case1 rest =>
    refine Iff.trans ?_ isCut_separator_append.symm
    rw [Option.some.injEq, Prod.mk.injEq, eq_comm, eq_comm (a := rest)]
  | case2 c rest hnot ih =>
    have hstart : ¬ separator <+: c :: rest := by
      rintro ⟨tail, heq⟩
      obtain ⟨hc, hrest⟩ := List.cons.inj heq
      exact hnot tail hc.symm hrest.symm
    cases owner with
    | nil =>
      have hcut : ¬ IsCut (c :: rest) [] basename :=
        fun hcut => hstart ⟨basename, (isCut_nil.mp hcut).symm⟩
      simp [hcut]
    | cons d owner =>
      rw [isCut_cons hstart, ← ih, Option.map_eq_some_iff]
      constructor
      · rintro ⟨⟨owner', basename'⟩, hsplit, heq⟩
        cases heq
        exact ⟨rfl, hsplit⟩
      · rintro ⟨rfl, hsplit⟩
        exact ⟨_, hsplit, rfl⟩
  | case3 => simp [IsCut, separator]

theorem eq_of_isCut {name owner basename : String}
    (h : IsCut name.toList owner.toList basename.toList) : owner ++ "::" ++ basename = name := by
  apply String.ext
  rw [h.1, String.toList_append, String.toList_append]
  rfl

/-! ### Worlds with a catalog -/

/-- The components that are known. -/
def components (c : Catalog) : List Entity := c.known.map fun e => .component e.2

/-- The catalogs that a program can come to have, with the owners and the entities at hand.  It
makes them, registers what is at hand, and looks up whatever it likes, with any files there at the
time; in between the world goes on, as long as nothing at hand gets lost. -/
inductive Attained : Catalog → Ownership → List Entity → Prop
  | fresh {own : Ownership} {es : List Entity} (directories : List FilePath) :
      Reached own es → Attained (fresh directories) own es
  | world {c : Catalog} {own own' : Ownership} {es es' : List Entity} :
      Attained c own es → Reached own' es' → es ⊆ es' → Attained c own' es'
  | registered {c : Catalog} {own : Ownership} {es : List Entity} {x : Component} :
      Attained c own es → .component x ∈ es → Attained (c.register x) own es
  | component {c c' : Catalog} {own own' : Ownership} {es : List Entity} (disk : FileTree)
      (name : String) : Attained c own es → (c.component disk own name).2 = (c', own') →
      Attained c' own' (c'.components ++ es)
  | task {c c' : Catalog} {own own' : Ownership} {es : List Entity} (disk : FileTree)
      (name : String) : Attained c own es → (c.task disk own name).2 = (c', own') →
      Attained c' own' (c'.components ++ es)

variable {c c' : Catalog} {own own' : Ownership} {es : List Entity} {disk : FileTree}
  {x : Component} {t : Task} {name : String}

theorem components_register : (c.register x).components ⊆ .component x :: c.components := by
  have hentries : ∀ e ∈ (c.register x).known, Entity.component e.2 ∈ .component x :: c.components :=
    forall_mem_setComponent List.mem_cons_self
      fun e he => List.mem_cons_of_mem _ (List.mem_map_of_mem he)
  intro e he
  obtain ⟨entry, hentry, rfl⟩ := List.mem_map.mp he
  exact hentries entry hentry

/-- What a lookup makes known is at hand afterwards. -/
theorem reached_component (h : Reached own es) (hes : c.components ⊆ es) (disk : FileTree)
    (name : String) : ∃ es', es ⊆ es' ∧ Reached (c.component disk own name).2.2 es' ∧
      (c.component disk own name).2.1.components ⊆ es' := by
  have hcases := component_cases disk c own name
  generalize c.component disk own name = result at hcases
  cases hcases with
  | known | unasked | missing => exact ⟨es, List.Subset.refl es, h, hes⟩
  | unloaded _ _ hload => exact ⟨es, List.Subset.refl es, h.unloaded hload, hes⟩
  | misnamed _ _ hload =>
    exact ⟨_, List.subset_cons_self _ _, h.loaded hload, List.subset_cons_of_subset _ hes⟩
  | loaded _ _ hload =>
    exact ⟨_, List.subset_cons_self _ _, h.loaded hload,
      List.Subset.trans components_register (List.cons_subset_cons _ hes)⟩

/-- A catalog in a world: each component is known under its own name, and was built. -/
structure IsWithin (c : Catalog) (own : Ownership) (es : List Entity) : Prop where
  sound : c.IsSound
  subset : c.components ⊆ es
  reached : ∃ es', es ⊆ es' ∧ Reached own es'

theorem IsWithin.component (h : c.IsWithin own es) (disk : FileTree) (name : String) :
    (c.component disk own name).2.1.IsWithin (c.component disk own name).2.2
      ((c.component disk own name).2.1.components ++ es) := by
  obtain ⟨es', hsub, hreached⟩ := h.reached
  obtain ⟨es'', hsub', hreached', hknown⟩ :=
    reached_component hreached (List.Subset.trans h.subset hsub) disk name
  exact ⟨h.sound.component disk own name, List.subset_append_left _ _,
    es'', List.append_subset.mpr ⟨hknown, List.Subset.trans hsub hsub'⟩, hreached'⟩

theorem IsWithin.task (h : c.IsWithin own es) (disk : FileTree) (name : String) :
    (c.task disk own name).2.1.IsWithin (c.task disk own name).2.2
      ((c.task disk own name).2.1.components ++ es) := by
  rw [catalog_task]
  split
  · obtain ⟨es', hsub, hreached⟩ := h.reached
    have hall := List.append_subset.mpr ⟨List.Subset.trans h.subset hsub, hsub⟩
    exact ⟨h.sound, List.subset_append_left _ _, es', hall, hreached⟩
  · next owner _ _ => exact h.component disk owner

theorem Attained.isWithin (h : Attained c own es) : c.IsWithin own es := by
  induction h with
  | fresh directories h =>
    exact ⟨isSound_fresh directories, List.nil_subset _, _, List.Subset.refl _, h⟩
  | world _ h hsub ih =>
    exact ⟨ih.sound, List.Subset.trans ih.subset hsub, _, List.Subset.refl _, h⟩
  | registered _ hx ih =>
    have hsub := List.cons_subset.mpr ⟨hx, ih.subset⟩
    exact ⟨ih.sound.register _, List.Subset.trans components_register hsub, ih.reached⟩
  | component disk name _ heq ih =>
    have hnext := ih.component disk name
    rw [heq] at hnext
    exact hnext
  | task disk name _ heq ih =>
    have hnext := ih.task disk name
    rw [heq] at hnext
    exact hnext

/-! ### Names of known tasks -/

theorem IsSound.lookup_eq_some_iff (h : c.IsSound) :
    c.known.lookup name = some x ↔ (name, x) ∈ c.known :=
  lookup_eq_some_iff_mem h.nodup

/-- The tasks of a component are told by their names. -/
theorem findTask_eq_ok_iff {basename : String} (h : (x.tasks.map Task.basename).Nodup) :
    x.findTask basename = .ok t ↔ t ∈ x.tasks ∧ t.basename = basename := by
  constructor
  · intro hfind
    rw [Component.findTask] at hfind
    split at hfind
    next t' heq =>
      obtain rfl := Except.ok.inj hfind
      exact ⟨List.mem_of_find?_eq_some heq, by simpa using List.find?_some heq⟩
    next => cases hfind
  · rintro ⟨ht, rfl⟩
    rw [Component.findTask]
    cases heq : x.tasks.find? (·.basename == t.basename) with
    | none => exact absurd (beq_self_eq_true t.basename) (List.find?_eq_none.mp heq t ht)
    | some t' =>
      have hname : t'.basename = t.basename := by simpa using List.find?_some heq
      rw [List.inj_on_of_nodup_map h (List.mem_of_find?_eq_some heq) ht hname]

/-- What is known was built, and so are the tasks of it. -/
theorem IsWithin.exists_reached (h : c.IsWithin own es) {e : String × Component}
    (he : e ∈ c.known) : ∃ es', Reached own es' ∧ .component e.2 ∈ es' := by
  obtain ⟨es', hsub, hreached⟩ := h.reached
  exact ⟨es', hreached, hsub (h.subset (List.mem_map.mpr ⟨e, he, rfl⟩))⟩

theorem nodup_basenames (h : Reached own es) (hx : .component x ∈ es) :
    (x.tasks.map Task.basename).Nodup := by
  obtain ⟨s, hs, rfl, hes⟩ := h.exists_stock
  exact (hs.proper _ (hes _ hx)).2

section
variable (h : Reached own es) (hx : .component x ∈ es) (ht : t ∈ x.tasks)
include h hx ht

theorem component?_of_mem_tasks : own.component? t = some x :=
  (h.isSound.2 _ hx t ht).2

theorem name_of_mem_tasks : t.name own = x.name ++ "::" ++ t.basename := by
  rw [Task.name, component?_of_mem_tasks h hx ht]

/-- No name of a component has a colon in it. -/
theorem isCut_name : IsCut (t.name own).toList x.name.toList t.basename.toList := by
  have hname : IsLetPass x.name := Built.isLetPass h (.atHand hx) rfl
  have hcolon : ':' ∉ x.name.toList := hname.notMem (by decide) (by decide)
  rw [name_of_mem_tasks h hx ht, String.toList_append, String.toList_append]
  exact isCut_of_notMem hcolon

theorem basename_ne_empty : t.basename ≠ "" := by
  have htask : Built own es (.task t) := .part (.atHand hx) (List.mem_map_of_mem ht)
  have hbasename : IsLetPass t.basename := Built.isLetPass h htask rfl
  exact hbasename.ne_empty

end

theorem task_of_isCut {owner basename : String} (h : IsCut name.toList owner.toList basename.toList)
    (hbasename : basename ≠ "") (hx : c.component disk own owner = (.ok x, c', own')) :
    c.task disk own name = ((x.findTask basename).mapError .notFound, c', own') := by
  have hsplit := splitQualified?_eq_some_iff.mpr h
  obtain ⟨first, rest, hcons⟩ :=
    List.exists_cons_of_ne_nil (mt String.toList_eq_nil_iff.mp hbasename)
  rw [hcons] at hsplit
  rw [task, hsplit]
  dsimp only
  rw [String.ofList_toList, hx, ← hcons, String.ofList_toList]

theorem cases_of_task (h : c.task disk own name = (.ok t, c', own')) :
    ∃ (owner basename : String) (x : Component),
      IsCut name.toList owner.toList basename.toList ∧
      c.component disk own owner = (.ok x, c', own') ∧ x.findTask basename = .ok t := by
  rw [task] at h
  split at h
  · cases h
  · cases h
  · next owner basename hne hsplit =>
    have hcut := splitQualified?_eq_some_iff.mp hsplit
    split at h
    · cases h
    · next x c₁ own₁ hx =>
      rcases hfind : x.findTask (String.ofList basename) with e | t' <;> rw [hfind] at h <;> cases h
      refine ⟨String.ofList owner, String.ofList basename, x, ?_, hx, hfind⟩
      rwa [String.toList_ofList, String.toList_ofList]

/-- In every catalog that a program can come to have, whatever the files are by then: the name of
each task of each component that is known leads back to the task; and if a name leads to a task,
then it is the name of that task, and the part of it before its first separator is the name under
which the component of the task is known. -/
theorem task_of_attained (h : Attained c own es) :
    (∀ disk, ∀ e ∈ c.known, ∀ t ∈ e.2.tasks, c.task disk own (t.name own) = (.ok t, c, own)) ∧
    ∀ disk name t c' own', c.task disk own name = (.ok t, c', own') →
      t.name own' = name ∧ ∃ (owner basename : String) (x : Component),
        IsCut name.toList owner.toList basename.toList ∧
        c'.known.lookup owner = some x ∧ own'.component? t = some x := by
  have hwithin := h.isWithin
  constructor
  · intro disk e he t ht
    obtain ⟨es', hreached, hx⟩ := hwithin.exists_reached he
    have hentry : (e.2.name, e.2) ∈ c.known := by
      rw [hwithin.sound.named e he]
      exact he
    have hknown : c.component disk own e.2.name = (.ok e.2, c, own) :=
      component_of_known (hwithin.sound.lookup_eq_some_iff.mpr hentry)
    have hfind : e.2.findTask t.basename = .ok t :=
      (findTask_eq_ok_iff (nodup_basenames hreached hx)).mpr ⟨ht, rfl⟩
    rw [task_of_isCut (isCut_name hreached hx ht) (basename_ne_empty hreached hx ht) hknown, hfind]
    rfl
  · intro disk name t c' own' htask
    obtain ⟨owner, basename, x, hcut, hcomponent, hfind⟩ := cases_of_task htask
    have hnext := hwithin.component disk owner
    have hknown : (c.component disk own owner).2.1.known.lookup owner = some x :=
      known_of_ok (congrArg Prod.fst hcomponent)
    rw [hcomponent] at hnext hknown
    have hentry := hnext.sound.lookup_eq_some_iff.mp hknown
    obtain ⟨es', hreached, hx⟩ := hnext.exists_reached hentry
    obtain ⟨ht, rfl⟩ := (findTask_eq_ok_iff (nodup_basenames hreached hx)).mp hfind
    have hname : x.name = owner := hnext.sound.named _ hentry
    refine ⟨?_, owner, t.basename, x, hcut, hknown, component?_of_mem_tasks hreached hx ht⟩
    rw [name_of_mem_tasks hreached hx ht, hname]
    exact eq_of_isCut hcut

/-- A catalog in which one component was registered. -/
def registry : Catalog := (fresh []).register Model.nav

theorem attained_registry : Attained registry navOwners navEntities :=
  .registered (.fresh [] reached_nav) List.mem_cons_self

theorem task_of_attained_registry : Attained registry navOwners navEntities ∧
    registry.task sampleSession.disk navOwners "nav::Controller" =
      (.ok controller, registry, navOwners) ∧
    controller.name navOwners = "nav::Controller" := by
  obtain ⟨hthere, hback⟩ := task_of_attained attained_registry
  have htask := hthere sampleSession.disk ("nav", Model.nav) List.mem_cons_self controller
    List.mem_cons_self
  have hname : controller.name navOwners = "nav::Controller" := by decide
  rw [hname] at htask
  exact ⟨attained_registry, htask, (hback _ _ _ _ _ htask).1⟩

end Catalog

end Scaffold
