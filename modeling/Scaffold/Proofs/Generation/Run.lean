import Mathlib.Data.List.Flatten
import Mathlib.Data.List.Infix
import Mathlib.Data.List.Nodup
import Mathlib.Data.List.Pairwise
import Mathlib.Data.List.Perm.Basic
import Mathlib.Data.List.TakeWhile
import Scaffold.Proofs.Generation.Draft
import Scaffold.Proofs.Generation.Rendered
import Scaffold.Proofs.Template.Outline

/-! Runs of a generator as the writing of drafts: those of the tasks that can be rendered, one after
the other, up to a task that ends the run. -/
namespace Scaffold

open Model Template

namespace Generator

/-! ### What a run works on -/

/-- The tasks that take part in a run; none do if one that is named is not there. -/
def participants (c : Component) (s : Settings) : List Task :=
  match (fresh c s).selected with
  | .ok tasks => tasks
  | .error _ => []

/-- The output paths of a run, as seen from the output directory: one for each participating task
and each template that has one. -/
def outputs (c : Component) (s : Settings) : List FilePath :=
  (participants c s).flatMap (outputsOf s)

/-- The target paths of a run. -/
def targetPaths (c : Component) (s : Settings) : List FilePath :=
  (outputs c s).map s.outputDir.join

/-- The reference paths of a run. -/
def referencePaths (c : Component) (s : Settings) : List FilePath :=
  (outputs c s).map s.referencePath.join

/-- The places that the target and the reference paths of a run denote. -/
def outputPlaces (c : Component) (s : Settings) (here : Place) : List Place :=
  (targetPaths c s ++ referencePaths c s).map (·.denoted here)

/-- The target and the reference paths of a run denote pairwise different files. -/
def Apart (c : Component) (s : Settings) (here : Place) : Prop :=
  (outputPlaces c s here).Nodup

/-- The drafts of a task: none if it cannot be rendered. -/
def draftsOf (own : Ownership) (disk : FileTree) (s : Settings) (t : Task) : List Draft :=
  match renderings own disk s t with
  | .ok texts => texts.map fun x => ⟨t.name own, x.1, x.2⟩
  | .error _ => []

/-- The drafts of a task that are written: one for each path. -/
def writtenOf (own : Ownership) (disk : FileTree) (s : Settings) (t : Task) : List Draft :=
  match renderings own disk s t with
  | .ok texts => (collected texts).map fun x => ⟨t.name own, x.1, x.2⟩
  | .error _ => []

/-- The failure of a task that cannot be rendered. -/
def failure? (own : Ownership) (disk : FileTree) (s : Settings) (t : Task) : Option TaskFailure :=
  match renderings own disk s t with
  | .error (.render e) => some (failureOf (t.name own) e)
  | _ => none

/-- The fault with which a task ends the run. -/
def fault? (own : Ownership) (disk : FileTree) (s : Settings) (t : Task) :
    Option GenerationFault :=
  match renderings own disk s t with
  | .error (.output e) => some (.output e)
  | .error (.template e) => some (.template e)
  | _ => none

/-- The drafts of a run. -/
def drafts (own : Ownership) (disk : FileTree) (c : Component) (s : Settings) : List Draft :=
  (participants c s).flatMap (draftsOf own disk s)

/-- Every template of a run can be had. -/
def IsLoaded (disk : FileTree) (s : Settings) : Prop :=
  ∀ template ∈ s.taskTemplates.templates, ∃ parsed, (folderOf s).load disk template = .ok parsed

variable {own : Ownership} {disk : FileTree} {c : Component} {s : Settings} {t : Task}
  {d : Draft} {ds : List Draft} {here : Place} {r : Registry}
  {result : Except GenerationFault Report} {t' : FileTree}

theorem exists_findTask_iff {name : String} : (∃ t, c.findTask name = .ok t) ↔
    ∃ t ∈ c.tasks, t.basename = name := by
  unfold Component.findTask
  cases hfound : c.tasks.find? (·.basename == name) with
  | none => simpa using List.find?_eq_none.mp hfound
  | some t =>
    have ht : t.basename = name := by simpa using List.find?_some hfound
    simpa using ⟨t, List.mem_of_find?_eq_some hfound, ht⟩

/-- Tasks take part if every task that is named is there. -/
theorem selected_eq_ok_iff {tasks : List Task} : (fresh c s).selected = .ok tasks ↔
    (∀ name ∈ s.tasks, ∃ t ∈ c.tasks, t.basename = name) ∧
      tasks = c.tasks.filter (s.selects ·.basename) := by
  have hthere : (∃ ts, s.tasks.mapM c.findTask = .ok ts) ↔
      ∀ name ∈ s.tasks, ∃ t ∈ c.tasks, t.basename = name := by
    rw [exists_mapM_eq_ok_iff]
    exact forall₂_congr fun name _ => exists_findTask_iff
  have hrun : (fresh c s).selected =
      (s.tasks.mapM c.findTask).map fun _ => c.tasks.filter (s.selects ·.basename) := rfl
  rw [hrun, ← hthere]
  cases s.tasks.mapM c.findTask with
  | error e => simp [Except.map]
  | ok ts => simp [Except.map, eq_comm]

theorem participants_of_selected {tasks : List Task} (h : (fresh c s).selected = .ok tasks) :
    participants c s = tasks := by
  rw [participants, h]

theorem rel_draftsOf {texts : Renderings} (h : renderings own disk s t = .ok texts) :
    List.Forall₂ (fun template x => rendering own disk s t template = .ok x)
      s.taskTemplates.templates texts := by
  rcases mapM_except_cases (rendering own disk s t) s.taskTemplates.templates with
    ⟨texts', htexts, hall⟩ | ⟨_, _, _, e, -, -, -, he⟩
  · rw [← renderings, h] at htexts
    rw [Except.ok.inj htexts]
    exact hall
  · rw [← renderings, h] at he
    cases he

/-- A draft is what one of the templates makes of its task. -/
theorem rendering_of_mem_drafts (h : d ∈ drafts own disk c s) :
    ∃ t ∈ participants c s, ∃ template ∈ s.taskTemplates.templates,
      d.task = t.name own ∧ rendering own disk s t template = .ok (d.relative, d.text) := by
  obtain ⟨t, ht, hd⟩ := List.mem_flatMap.mp h
  rw [draftsOf] at hd
  split at hd
  · next texts htexts =>
    obtain ⟨x, hx, rfl⟩ := List.mem_map.mp hd
    obtain ⟨i, hi, rfl⟩ := List.mem_iff_getElem.mp hx
    have hall := List.forall₂_iff_get.mp (rel_draftsOf htexts)
    have hi' : i < s.taskTemplates.templates.length := hall.1 ▸ hi
    exact ⟨t, ht, _, List.get_mem s.taskTemplates.templates ⟨i, hi'⟩, rfl, hall.2 i hi' hi⟩
  · cases hd

/-- The drafts of a task have its output paths. -/
theorem map_relative_draftsOf (own : Ownership) (disk : FileTree) (s : Settings) (t : Task) :
    ((draftsOf own disk s t).map Draft.relative).Sublist (outputsOf s t) := by
  rw [draftsOf]
  split
  · next texts htexts =>
    rw [List.map_map, outputsOf]
    have hall := rel_draftsOf htexts
    clear htexts
    generalize s.taskTemplates.templates = templates at hall ⊢
    induction hall with
    | nil => exact .slnil
    | cons hx _ ih =>
      rw [List.filterMap_cons_some (by rw [outputPath_of_rendering hx]; rfl)]
      exact ih.cons_cons _
  · exact List.nil_sublist _

theorem writtenOf_of_nodup (own : Ownership) (disk : FileTree) (h : (outputsOf s t).Nodup) :
    writtenOf own disk s t = draftsOf own disk s t := by
  have hpaths := (map_relative_draftsOf own disk s t).nodup h
  unfold draftsOf at hpaths ⊢
  unfold writtenOf
  split
  · next texts htexts =>
    rw [htexts, List.map_map] at hpaths
    rw [collected_of_nodup hpaths]
  · rfl

theorem of_rendered {texts : Renderings} (h : renderings own disk s t = .ok texts) :
    draftsOf own disk s t = texts.map (fun x => ⟨t.name own, x.1, x.2⟩) ∧
      failure? own disk s t = none ∧ fault? own disk s t = none := by
  unfold draftsOf failure? fault?
  rw [h]
  exact ⟨rfl, rfl, rfl⟩

theorem of_failed {e : RenderFault} (h : renderings own disk s t = .error (.render e)) :
    draftsOf own disk s t = [] ∧ failure? own disk s t = some (failureOf (t.name own) e) ∧
      fault? own disk s t = none := by
  unfold draftsOf failure? fault?
  rw [h]
  exact ⟨rfl, rfl, rfl⟩

section
variable {disk' : FileTree} {s' : Settings}

theorem draftsOf_congr (h : renderings own disk' s' t = renderings own disk s t) :
    draftsOf own disk' s' t = draftsOf own disk s t := by
  unfold draftsOf
  rw [h]

theorem failure?_congr (h : renderings own disk' s' t = renderings own disk s t) :
    failure? own disk' s' t = failure? own disk s t := by
  unfold failure?
  rw [h]

theorem fault?_congr (h : renderings own disk' s' t = renderings own disk s t) :
    fault? own disk' s' t = fault? own disk s t := by
  unfold fault?
  rw [h]

/-- What becomes of tasks depends on their renderings only. -/
theorem outcomes_congr (h : renderings own disk' s' = renderings own disk s) :
    draftsOf own disk' s' = draftsOf own disk s ∧ failure? own disk' s' = failure? own disk s ∧
      fault? own disk' s' = fault? own disk s :=
  ⟨funext fun t => draftsOf_congr (congrFun h t), funext fun t => failure?_congr (congrFun h t),
    funext fun t => fault?_congr (congrFun h t)⟩

theorem drafts_congr (h : renderings own disk' s = renderings own disk s) :
    drafts own disk' c s = drafts own disk c s := by
  rw [drafts, drafts, (outcomes_congr h).1]

theorem IsLoaded.congr (hl : IsLoaded disk s) (h : ∀ template ∈ s.taskTemplates.templates,
    (folderOf s).load disk' template = (folderOf s).load disk template) : IsLoaded disk' s := by
  intro template ht
  rw [h template ht]
  exact hl template ht

end

/-! ### Paths that are apart -/

theorem map_relative_drafts (own : Ownership) (disk : FileTree) (c : Component) (s : Settings) :
    ((drafts own disk c s).map Draft.relative).Sublist (outputs c s) := by
  rw [drafts, outputs, List.map_flatMap]
  induction participants c s with
  | nil => exact .slnil
  | cons t rest ih => exact (map_relative_draftsOf own disk s t).append ih

theorem mem_outputs_of_mem_drafts (h : d ∈ drafts own disk c s) : d.relative ∈ outputs c s :=
  (map_relative_drafts own disk c s).subset (List.mem_map_of_mem h)

theorem flatMap_placesOf_perm (c : Component) (s : Settings) (here : Place) :
    ((outputs c s).flatMap (placesOf s here)).Perm (outputPlaces c s here) := by
  have h := List.map_append_flatMap_perm (outputs c s) (fun p => (s.outputDir.join p).denoted here)
    fun p => [(s.referencePath.join p).denoted here]
  rw [← List.map_eq_flatMap] at h
  simp only [outputPlaces, targetPaths, referencePaths, List.map_append, List.map_map]
  exact h.symm

theorem flatMap_places (s : Settings) (here : Place) (ds : List Draft) :
    ds.flatMap (·.places s here) = (ds.map Draft.relative).flatMap (placesOf s here) := by
  rw [List.flatMap_map]
  rfl

/-- No place is that of two drafts of a run, or both target and reference of one. -/
theorem Apart.nodup_places (h : Apart c s here) (hds : ds <+: drafts own disk c s) :
    (ds.flatMap (·.places s here)).Nodup := by
  have hall : ((outputs c s).flatMap (placesOf s here)).Nodup :=
    (flatMap_placesOf_perm c s here).nodup_iff.mpr h
  have hsub : (ds.map Draft.relative).Sublist (outputs c s) :=
    (hds.sublist.map _).trans (map_relative_drafts own disk c s)
  rw [flatMap_places]
  exact hall.sublist (hsub.flatMap _)

theorem places_subset (hds : ds <+: drafts own disk c s) :
    ds.flatMap (·.places s here) ⊆ outputPlaces c s here := by
  have hsub : (ds.map Draft.relative).Sublist (outputs c s) :=
    (hds.sublist.map _).trans (map_relative_drafts own disk c s)
  rw [flatMap_places]
  exact List.Subset.trans (hsub.flatMap _).subset (flatMap_placesOf_perm c s here).subset

theorem Apart.target_notMem {path : FilePath} (h : Apart c s here) (hpath : path ∈ outputs c s) :
    (s.outputDir.join path).denoted here ∉ (referencePaths c s).map (·.denoted here) := by
  rw [Apart, outputPlaces, List.map_append, List.nodup_append] at h
  have htarget : (s.outputDir.join path).denoted here ∈ (targetPaths c s).map (·.denoted here) :=
    List.mem_map_of_mem (List.mem_map_of_mem hpath)
  exact fun hreference => h.2.2 _ htarget _ hreference rfl

/-- Two tasks of a run have no place in common. -/
theorem Apart.disjoint {t' : Task} (h : Apart c s here) (ht : t ∈ participants c s)
    (ht' : t' ∈ participants c s) (hne : t ≠ t') :
    List.Disjoint ((outputsOf s t).flatMap (placesOf s here))
      ((outputsOf s t').flatMap (placesOf s here)) := by
  have hall : ((outputs c s).flatMap (placesOf s here)).Nodup :=
    (flatMap_placesOf_perm c s here).nodup_iff.mpr h
  rw [outputs, List.flatMap_assoc, List.nodup_flatMap] at hall
  have hsymm : Std.Symm (Function.onFun List.Disjoint fun t =>
      (outputsOf s t).flatMap (placesOf s here)) :=
    ⟨fun _ _ hd _ hx hy => hd hy hx⟩
  exact hall.2.forall ht ht' hne

theorem Apart.nodup_outputsOf (h : Apart c s here) (ht : t ∈ participants c s) :
    (outputsOf s t).Nodup := by
  have hall : ((outputs c s).map (fun p => (s.outputDir.join p).denoted here)).Nodup := by
    rw [Apart, outputPlaces, List.map_append, List.nodup_append] at h
    simpa only [targetPaths, List.map_map, Function.comp_def] using h.1
  exact (List.nodup_flatMap.mp (hall.of_map _)).1 t ht

/-! ### Runs -/

theorem run_writeDrafts_append (s : Settings) (ds es : List Draft) (t : FileTree) :
    (writeDrafts s (ds ++ es)).run t = match (writeDrafts s ds).run t with
      | (.error e, t') => (.error e, t')
      | (.ok files, t') => match (writeDrafts s es).run t' with
        | (.error e, t'') => (.error e, t'')
        | (.ok rest, t'') => (.ok (files ++ rest), t'') := by
  induction ds generalizing t with
  | nil =>
    rw [List.nil_append, run_writeDrafts_nil]
    dsimp only
    rcases (writeDrafts s es).run t with ⟨e | files, t'⟩ <;> rfl
  | cons d ds ih =>
    rw [List.cons_append, run_writeDrafts_cons, run_writeDrafts_cons]
    rcases (d.write s).run t with ⟨e | f, t'⟩
    · rfl
    · dsimp only
      rw [ih]
      rcases (writeDrafts s ds).run t' with ⟨e | files, t''⟩
      · rfl
      · dsimp only
        rcases (writeDrafts s es).run t'' with ⟨e | rest, u⟩ <;> rfl

theorem writeDrafts_append_eq_ok {es : List Draft} {files : List GeneratedFile} {t t' : FileTree}
    (h : (writeDrafts s (ds ++ es)).run t = (.ok files, t')) :
    ∃ entries m rest, (writeDrafts s ds).run t = (.ok entries, m) ∧
      (writeDrafts s es).run m = (.ok rest, t') ∧ files = entries ++ rest := by
  rw [run_writeDrafts_append] at h
  rcases hds : (writeDrafts s ds).run t with ⟨e | entries, m⟩
  · rw [hds] at h
    cases h
  · rw [hds] at h
    dsimp only at h
    rcases hes : (writeDrafts s es).run m with ⟨e | rest, m'⟩
    · rw [hes] at h
      cases h
    · rw [hes] at h
      cases h
      exact ⟨entries, m, rest, rfl, hes, rfl⟩

theorem writeRenderings_eq (s : Settings) (task : String) (texts : Renderings) :
    writeRenderings s task texts = writeDrafts s (texts.map fun x => ⟨task, x.1, x.2⟩) := by
  rw [writeDrafts, List.mapM_map]
  rfl

/-- The drafts of a task by what it was rendered to: none if it failed. -/
def outcomeDrafts (own : Ownership) (x : Task × Except TaskFault Renderings) : List Draft :=
  match x.2 with
  | .ok texts => texts.map fun y => ⟨x.1.name own, y.1, y.2⟩
  | .error _ => []

/-- The failure that is reported of a task by what it was rendered to. -/
def outcomeFailure? (own : Ownership) (x : Task × Except TaskFault Renderings) :
    Option TaskFailure :=
  match x.2 with
  | .error (.render e) => some (failureOf (x.1.name own) e)
  | _ => none

/-- The fault with which a task ends the run by what it was rendered to. -/
def outcomeFault? (x : Task × Except TaskFault Renderings) : Option GenerationFault :=
  match x.2 with
  | .error (.output e) => some (.output e)
  | .error (.template e) => some (.template e)
  | _ => none

/-- The drafts before the first outcome that ends the run are written; then the run ends, or all is
reported. -/
theorem run_writeAll_outcomes (own : Ownership) (s : Settings)
    (outcomes : List (Task × Except TaskFault Renderings)) (t : FileTree) :
    (writeAll own s outcomes).run t =
      match (writeDrafts s ((outcomes.takeWhile fun x => (outcomeFault? x).isNone).flatMap
          (outcomeDrafts own))).run t with
      | (.error e, t') => (.error (.file e), t')
      | (.ok files, t') => match outcomes.findSome? outcomeFault? with
        | some e => (.error e, t')
        | none => (.ok ⟨files, outcomes.filterMap (outcomeFailure? own)⟩, t') := by
  induction outcomes generalizing t with
  | nil => rfl
  | cons outcome rest ih =>
    rw [List.takeWhile_cons, List.findSome?_cons, List.filterMap_cons]
    obtain ⟨task, (e | e | e) | texts⟩ := outcome
    · simp only [outcomeFault?, outcomeFailure?, outcomeDrafts, Option.isNone_none, if_true,
        List.flatMap_cons, List.nil_append, writeAll, run_bind, ih]
      rcases (writeDrafts s _).run t with ⟨e | files, m⟩
      · rfl
      · dsimp only
        cases rest.findSome? outcomeFault? <;> rfl
    · rfl
    · rfl
    · simp only [outcomeFault?, outcomeFailure?, outcomeDrafts, Option.isNone_none, if_true,
        List.flatMap_cons, run_writeDrafts_append, writeAll, run_bind, run_adapt,
        writeRenderings_eq, ih]
      rcases (writeDrafts s (texts.map _)).run t with ⟨e | files, m⟩
      · rfl
      · simp only [Except.mapError]
        rcases (writeDrafts s _).run m with ⟨e | files', m'⟩
        · rfl
        · dsimp only
          cases rest.findSome? outcomeFault? <;> rfl

/-- The files that the writing of outcomes leaves. -/
theorem tree_writeAll (own : Ownership) (s : Settings)
    (outcomes : List (Task × Except TaskFault Renderings)) (t : FileTree) :
    ((writeAll own s outcomes).run t).2 =
      ((writeDrafts s ((outcomes.takeWhile fun x => (outcomeFault? x).isNone).flatMap
        (outcomeDrafts own))).run t).2 := by
  rw [run_writeAll_outcomes]
  split
  · next hw => rw [hw]
  · next hw =>
    rw [hw]
    split <;> rfl

/-- A report on outcomes has the files of their drafts. -/
theorem files_of_writeAll {outcomes : List (Task × Except TaskFault Renderings)} {t : FileTree}
    {report : Report} (h : (writeAll own s outcomes).run t = (.ok report, t')) :
    (writeDrafts s ((outcomes.takeWhile fun x => (outcomeFault? x).isNone).flatMap
      (outcomeDrafts own))).run t = (.ok report.files, t') := by
  rw [run_writeAll_outcomes] at h
  split at h
  · cases h
  · next hw =>
    split at h
    · cases h
    · cases h
      exact hw

/-- What becomes of a task is read off its renderings. -/
theorem outcome_renderings (own : Ownership) (disk : FileTree) (s : Settings) :
    (fun t => outcomeDrafts own (t, (renderings own disk s t).map collected)) =
        writtenOf own disk s ∧
      (fun t => outcomeFailure? own (t, (renderings own disk s t).map collected)) =
        failure? own disk s ∧
      (fun t => outcomeFault? (t, (renderings own disk s t).map collected)) =
        fault? own disk s := by
  refine ⟨funext fun t => ?_, funext fun t => ?_, funext fun t => ?_⟩
  · unfold outcomeDrafts writtenOf
    cases renderings own disk s t <;> rfl
  · unfold outcomeFailure? failure?
    rcases renderings own disk s t with (e | e | e) | texts <;> rfl
  · unfold outcomeFault? fault?
    rcases renderings own disk s t with (e | e | e) | texts <;> rfl

/-- The drafts of the tasks before the first that ends the run are written; then the run ends, or
all is reported. -/
theorem run_writeAll (own : Ownership) (disk : FileTree) (s : Settings) (tasks : List Task)
    (t : FileTree) :
    (writeAll own s (tasks.map fun t => (t, (renderings own disk s t).map collected))).run t =
      match (writeDrafts s ((tasks.takeWhile fun t => (fault? own disk s t).isNone).flatMap
          (writtenOf own disk s))).run t with
      | (.error e, t') => (.error (.file e), t')
      | (.ok files, t') => match tasks.findSome? (fault? own disk s) with
        | some e => (.error e, t')
        | none => (.ok ⟨files, tasks.filterMap (failure? own disk s)⟩, t') := by
  obtain ⟨hdrafts, hfailure, hfault⟩ := outcome_renderings own disk s
  rw [run_writeAll_outcomes, List.takeWhile_map, List.flatMap_map, List.findSome?_map,
    List.filterMap_map, ← hdrafts, ← hfailure, ← hfault]
  rfl

/-- A generator that is another one but for the templates that it knows. -/
structure Keeps (g g' : Generator) : Prop where
  component : g'.component = g.component
  settings : g'.settings = g.settings
  folder : g'.registry.folder = g.registry.folder

theorem Keeps.trans {g g' g'' : Generator} (h : g.Keeps g') (h' : g'.Keeps g'') : g.Keeps g'' :=
  ⟨h'.component.trans h.component, h'.settings.trans h.settings, h'.folder.trans h.folder⟩

theorem prepare_keeps (g : Generator) (disk : FileTree) : g.Keeps (g.prepare disk).2 := by
  have hfolder := folder_readTemplates disk g.registry g.settings.taskTemplates.templates
  unfold prepare
  split
  · exact ⟨rfl, rfl, rfl⟩
  · dsimp only
    split <;> exact ⟨rfl, rfl, hfolder⟩

/-- Where output paths are apart, every draft of a task is written. -/
theorem Apart.flatMap_writtenOf {tasks : List Task} (h : Apart c s here) (own : Ownership)
    (disk : FileTree) (hsub : tasks ⊆ participants c s) :
    tasks.flatMap (writtenOf own disk s) = tasks.flatMap (draftsOf own disk s) :=
  List.flatMap_congr fun _ ht => writtenOf_of_nodup own disk (h.nodup_outputsOf (hsub ht))

/-- How a run ends, with the files that it leaves.  The drafts that were written are those of a run
that did not end before, as far as it came. -/
inductive Ends (own : Ownership) (disk : FileTree) (c : Component) (s : Settings) :
    Except GenerationFault Report → FileTree → Prop
  | notFound {e : NotFound} : (fresh c s).selected = .error e →
      Ends own disk c s (.error (.notFound e)) disk
  | unloaded {template : String} {e : LookupFault} : template ∈ s.taskTemplates.templates →
      (folderOf s).load disk template = .error e → Ends own disk c s (.error (.template e)) disk
  | unwritten {ds : List Draft} {e : FileFault} {t' : FileTree} : ds <+: drafts own disk c s →
      (writeDrafts s ds).run disk = (.error e, t') → Ends own disk c s (.error (.file e)) t'
  | stopped {ds : List Draft} {files : List GeneratedFile} {t : Task} {e : GenerationFault}
      {t' : FileTree} : ds <+: drafts own disk c s →
      (writeDrafts s ds).run disk = (.ok files, t') → IsLoaded disk s → t ∈ participants c s →
      fault? own disk s t = some e → Ends own disk c s (.error e) t'
  | reported {files : List GeneratedFile} {t' : FileTree} :
      (fresh c s).selected = .ok (participants c s) → IsLoaded disk s →
      (∀ t ∈ participants c s, fault? own disk s t = none) →
      (writeDrafts s (drafts own disk c s)).run disk = (.ok files, t') →
      Ends own disk c s
        (.ok ⟨files, (participants c s).filterMap (failure? own disk s)⟩) t'

/-- Whatever the end of a run, its files are those that the writing of drafts left. -/
theorem Ends.exists_drafts (h : Ends own disk c s result t') :
    ∃ ds, ds <+: drafts own disk c s ∧ ((writeDrafts s ds).run disk).2 = t' := by
  cases h with
  | notFound => exact ⟨[], List.nil_prefix, rfl⟩
  | unloaded => exact ⟨[], List.nil_prefix, rfl⟩
  | unwritten hds hw => exact ⟨_, hds, by rw [hw]⟩
  | stopped hds hw => exact ⟨_, hds, by rw [hw]⟩
  | reported _ _ _ hw => exact ⟨_, List.prefix_refl _, by rw [hw]⟩

/-- A run that has all that it needs writes the renderings of its tasks. -/
theorem generate_of_loaded (own : Ownership) (hf : r.IsFaithful disk s.taskTemplates.templates)
    (hr : r.folder = folderOf s) (hs : (fresh c s).selected = .ok (participants c s))
    (hl : IsLoaded disk s)
    (hrun : (writeAll own s ((participants c s).map fun t =>
      (t, (renderings own disk s t).map collected))).run disk = (result, t')) :
    ∃ r', generate own disk ⟨c, s, r⟩ = (result, ⟨c, s, r'⟩, t') ∧ r'.folder = folderOf s ∧
      r'.IsFaithful disk s.taskTemplates.templates := by
  have hs' : selected ⟨c, s, r⟩ = .ok (participants c s) := hs
  obtain ⟨read, r', hread, hr', hf', hcases⟩ := readTemplates_cases hf (fun _ h => h)
  rw [hr] at hcases hr'
  have hok : read = .ok () := by
    rcases hcases with ⟨hok, -⟩ | ⟨template, ht, e, he, -⟩
    · exact hok
    · obtain ⟨parsed, hp⟩ := hl template ht
      rw [he] at hp
      cases hp
  have houtcomes : ((participants c s).map fun t =>
      (t, (renderTask own disk ⟨c, s, r'⟩ t).1)) =
        (participants c s).map fun t => (t, (renderings own disk s t).map collected) :=
    List.map_congr_left fun t _ => by rw [renderTask_eq hf' hr']
  refine ⟨r', ?_, hr', hf'⟩
  rw [generate, prepare, hs']
  simp only [hread, hok, houtcomes, hrun]

/-- If no task ends a run and all its drafts can be written, it reports on all of them. -/
theorem generate_of_written {files : List GeneratedFile}
    (hf : r.IsFaithful disk s.taskTemplates.templates) (hr : r.folder = folderOf s)
    (h : Apart c s disk.here) (hs : (fresh c s).selected = .ok (participants c s))
    (hl : IsLoaded disk s) (hfault : ∀ t ∈ participants c s, fault? own disk s t = none)
    (hw : (writeDrafts s (drafts own disk c s)).run disk = (.ok files, t')) :
    ∃ r', generate own disk ⟨c, s, r⟩ =
      (.ok ⟨files, (participants c s).filterMap (failure? own disk s)⟩, ⟨c, s, r'⟩, t') := by
  have hall : (participants c s).takeWhile (fun t => (fault? own disk s t).isNone) =
      participants c s :=
    List.takeWhile_eq_self_iff.mpr fun t ht => by rw [hfault t ht]; rfl
  have hrun := run_writeAll own disk s (participants c s) disk
  rw [hall, h.flatMap_writtenOf own disk (List.Subset.refl _),
    List.findSome?_eq_none_iff.mpr hfault, ← drafts, hw] at hrun
  obtain ⟨r', hgen, -, -⟩ := generate_of_loaded own hf hr hs hl hrun
  exact ⟨r', hgen⟩

theorem ends_writeAll (h : Apart c s disk.here)
    (hs : (fresh c s).selected = .ok (participants c s)) (hl : IsLoaded disk s)
    (hrun : (writeAll own s ((participants c s).map fun t =>
      (t, (renderings own disk s t).map collected))).run disk = (result, t')) :
    Ends own disk c s result t' := by
  rw [run_writeAll, h.flatMap_writtenOf own disk (List.takeWhile_subset _)] at hrun
  have hprefix : ((participants c s).takeWhile fun t => (fault? own disk s t).isNone).flatMap
      (draftsOf own disk s) <+: drafts own disk c s :=
    List.IsPrefix.flatMap (List.takeWhile_prefix _) _
  split at hrun
  · next hw =>
    cases hrun
    exact .unwritten hprefix hw
  · next hw =>
    split at hrun
    · next hfault =>
      cases hrun
      obtain ⟨t, ht, hfault⟩ := List.exists_of_findSome?_eq_some hfault
      exact .stopped hprefix hw hl ht hfault
    · next hnone =>
      cases hrun
      have hnone : ∀ t ∈ participants c s, fault? own disk s t = none :=
        List.findSome?_eq_none_iff.mp hnone
      rw [List.takeWhile_eq_self_iff.mpr fun t ht => by rw [hnone t ht]; rfl] at hw
      exact .reported hs hl hnone hw

/-- What a run comes to: a task that was named is not there, a template is not had, or the tasks
are written.  The generator keeps nothing but templates as they are. -/
theorem generate_cases (own : Ownership) (hf : r.IsFaithful disk s.taskTemplates.templates)
    (hr : r.folder = folderOf s) :
    ∃ result r' t', generate own disk ⟨c, s, r⟩ = (result, ⟨c, s, r'⟩, t') ∧
      r'.folder = folderOf s ∧ r'.IsFaithful disk s.taskTemplates.templates ∧
      ((∃ e, (fresh c s).selected = .error e ∧ result = .error (.notFound e) ∧ t' = disk) ∨
        (∃ template ∈ s.taskTemplates.templates, ∃ e, (folderOf s).load disk template = .error e ∧
          (fresh c s).selected = .ok (participants c s) ∧ result = .error (.template e) ∧
          t' = disk) ∨
        ((fresh c s).selected = .ok (participants c s) ∧ IsLoaded disk s ∧
          (writeAll own s ((participants c s).map fun t =>
            (t, (renderings own disk s t).map collected))).run disk = (result, t'))) := by
  cases hs : (fresh c s).selected with
  | error e =>
    have hs' : selected ⟨c, s, r⟩ = .error e := hs
    refine ⟨.error (.notFound e), r, disk, ?_, hr, hf, .inl ⟨e, rfl, rfl, rfl⟩⟩
    rw [generate, prepare, hs']
  | ok tasks =>
    obtain rfl : participants c s = tasks := participants_of_selected hs
    obtain ⟨read, r', hread, hr', hf', ⟨-, hl⟩ | ⟨template, ht, e, he, rfl⟩⟩ :=
      readTemplates_cases hf (fun _ h => h)
    · rw [hr] at hl
      obtain ⟨r'', hrun, hr'', hf''⟩ := generate_of_loaded own hf hr hs hl rfl
      exact ⟨_, r'', _, hrun, hr'', hf'', .inr (.inr ⟨rfl, hl, rfl⟩)⟩
    · have hs' : selected ⟨c, s, r⟩ = .ok (participants c s) := hs
      rw [hr] at he
      refine ⟨.error (.template e), r', disk, ?_, hr'.trans hr, hf',
        .inr (.inl ⟨template, ht, e, he, rfl, rfl, rfl⟩)⟩
      rw [generate, prepare, hs']
      simp only [hread]

/-- A run has an end, and the generator keeps nothing but templates as they are. -/
theorem ends_generate (own : Ownership) (hf : r.IsFaithful disk s.taskTemplates.templates)
    (hr : r.folder = folderOf s) (h : Apart c s disk.here) :
    ∃ result r' t', generate own disk ⟨c, s, r⟩ = (result, ⟨c, s, r'⟩, t') ∧
      r'.folder = folderOf s ∧ r'.IsFaithful disk s.taskTemplates.templates ∧
      Ends own disk c s result t' := by
  obtain ⟨result, r', t', hgen, hr', hf', hcases⟩ := generate_cases (c := c) own hf hr
  refine ⟨result, r', t', hgen, hr', hf', ?_⟩
  rcases hcases with ⟨e, hs, rfl, rfl⟩ | ⟨template, ht, e, he, -, rfl, rfl⟩ | ⟨hs, hl, hrun⟩
  · exact .notFound hs
  · exact .unloaded ht he
  · exact ends_writeAll h hs hl hrun

theorem ends_of_fresh {g' : Generator} (h : Apart c s disk.here)
    (hrun : (fresh c s).generate own disk = (result, g', t')) :
    Ends own disk c s result t' ∧ ∃ r', g' = ⟨c, s, r'⟩ ∧ r'.folder = folderOf s ∧
      r'.IsFaithful disk s.taskTemplates.templates := by
  have hf : (Registry.fresh (folderOf s)).IsFaithful disk s.taskTemplates.templates :=
    Registry.isFaithful_fresh disk _ _
  obtain ⟨result', r', t'', hgen, hr', hf', hends⟩ := ends_generate own hf rfl h
  rw [fresh, hgen] at hrun
  cases hrun
  exact ⟨hends, r', rfl, hr', hf'⟩

/-! ### A run of four tasks

Two files were edited, one is missing, and the template fails on the fourth task. -/

def sampleOutline : List Outline := [
  .line [.text "task ", .inset (.path ⟨"task", ["basename"]⟩)],
  .block 0 (.onTrue ⟨"task", ["fixed_initial_state"]⟩)
    [.line [.inset (.path ⟨"task", ["shape"]⟩)]]]

def sampleDrive : Task := ⟨0, "Drive", false, [], ""⟩

def sampleHalt : Task := ⟨1, "Halt", true, [], ""⟩

def sampleStop : Task := ⟨2, "Stop", false, [], ""⟩

def sampleTurn : Task := ⟨3, "Turn", false, [], ""⟩

def sampleComponent : Component :=
  ⟨4, "nav", [sampleDrive, sampleHalt, sampleStop, sampleTurn], ""⟩

def sampleOwnership : Ownership :=
  ⟨5, [], sampleComponent.tasks.map fun t => (t.mark, sampleComponent)⟩

def sampleSettings (out : FilePath) : Settings := { Settings.default with
  outputDir := out
  templateDir := some (.ofString "lib")
  taskTemplates := .ofList [("t", "\x7bbasename\x7d.txt")] }

def sampleDisk : FileTree := ⟨["w"], [(["w", "lib"], .directory),
  (["w", "lib", "t"], .file (sourceOf sampleOutline).toUTF8), (["w", "out"], .directory),
  (["w", "out", "Drive.txt"], .file "edited".toUTF8),
  (["w", "out", "Stop.txt"], .file "edited".toUTF8)]⟩

def sampleDrafts : List Draft := [
  ⟨"nav::Drive", .ofString "Drive.txt", "task Drive\n"⟩,
  ⟨"nav::Stop", .ofString "Stop.txt", "task Stop\n"⟩,
  ⟨"nav::Turn", .ofString "Turn.txt", "task Turn\n"⟩]

def sampleFault : RenderFault := ⟨"t", 3, .unresolved "task.shape" "shape" (.kind "Task")⟩

theorem sample_selected (out : FilePath) : (fresh sampleComponent (sampleSettings out)).selected =
    .ok sampleComponent.tasks := by
  rfl

theorem sample_participants (out : FilePath) :
    participants sampleComponent (sampleSettings out) = sampleComponent.tasks :=
  participants_of_selected (sample_selected out)

theorem sample_templates (out : FilePath) :
    (sampleSettings out).taskTemplates.templates = ["t"] := by
  rfl

theorem sample_outputPath (out : FilePath) {basename path : String}
    (h : Pattern.fill "\x7bbasename\x7d.txt" [("basename", basename)] = .ok path) :
    (sampleSettings out).outputPath "t" basename = .ok (.ofString path) := by
  have hpattern : (sampleSettings out).taskTemplates.pattern? "t" =
      some "\x7bbasename\x7d.txt" := by rfl
  rw [Settings.outputPath, hpattern]
  simp only [h]

theorem sample_outputPaths (out : FilePath) :
    (sampleSettings out).outputPath "t" "Drive" = .ok (.ofString "Drive.txt") ∧
      (sampleSettings out).outputPath "t" "Halt" = .ok (.ofString "Halt.txt") ∧
      (sampleSettings out).outputPath "t" "Stop" = .ok (.ofString "Stop.txt") ∧
      (sampleSettings out).outputPath "t" "Turn" = .ok (.ofString "Turn.txt") := by
  refine ⟨sample_outputPath out ?_, sample_outputPath out ?_, sample_outputPath out ?_,
    sample_outputPath out ?_⟩ <;> decide +kernel

theorem sample_outputs (out : FilePath) : outputs sampleComponent (sampleSettings out) =
    [.ofString "Drive.txt", .ofString "Halt.txt", .ofString "Stop.txt", .ofString "Turn.txt"] := by
  obtain ⟨hdrive, hhalt, hstop, hturn⟩ := sample_outputPaths out
  rw [outputs, sample_participants, sampleComponent]
  simp only [List.flatMap_cons, List.flatMap_nil, outputsOf, sample_templates,
    List.filterMap_cons, List.filterMap_nil, sampleDrive, sampleHalt, sampleStop, sampleTurn,
    hdrive, hhalt, hstop, hturn, Except.toOption, List.append_nil, List.cons_append,
    List.nil_append]

theorem drive_mem_outputs (out : FilePath) :
    .ofString "Drive.txt" ∈ outputs sampleComponent (sampleSettings out) := by
  rw [sample_outputs]
  exact List.mem_cons_self

/-- A file with the outline is read as its template, under whatever name it is asked for. -/
theorem load_sampleOutline (out : FilePath) {disk : FileTree} {name : String}
    (hbytes : disk.readBytes ((FilePath.ofString "lib").join (.ofString name)) =
      .ok (sourceOf sampleOutline).toUTF8) :
    (folderOf (sampleSettings out)).load disk name = .ok ⟨name, outlineChunks sampleOutline⟩ := by
  have hwritable : bodyIsWritable sampleOutline = true := by rfl
  have hreturns : '\r' ∉ (sourceOf sampleOutline).toList := by
    rw [sourceOf, String.toList_ofList]
    decide
  have hsource : (folderOf (sampleSettings out)).source disk name =
      .ok (some (sourceOf sampleOutline)) :=
    Folder.source_eq_some_iff.mpr
      (FileTree.readText_eq_ok_iff.mpr ⟨_, hbytes, FileTree.decode_toUTF8 hreturns⟩)
  rw [Folder.load, hsource]
  simp only [parse_sourceOf hwritable]
  rfl

theorem sample_load (out : FilePath) :
    (folderOf (sampleSettings out)).load sampleDisk "t" =
      .ok ⟨"t", outlineChunks sampleOutline⟩ :=
  load_sampleOutline out (by rfl)

theorem sample_loaded (out : FilePath) : IsLoaded sampleDisk (sampleSettings out) := by
  intro template ht
  rw [sample_templates, List.mem_singleton] at ht
  rw [ht]
  exact ⟨_, sample_load out⟩

theorem sample_renderings_eq (out : FilePath) (t : Task) {path : FilePath}
    (hpath : (sampleSettings out).outputPath "t" t.basename = .ok path) :
    renderings sampleOwnership sampleDisk (sampleSettings out) t =
      match Template.render sampleOwnership ⟨"t", outlineChunks sampleOutline⟩
        [taskBindings sampleOwnership t] with
      | .ok text => .ok [(path, text)]
      | .error e => .error (.render e) := by
  rw [renderings, sample_templates, List.mapM_cons, List.mapM_nil,
    rendering_eq hpath (sample_load out)]
  cases Template.render sampleOwnership ⟨"t", outlineChunks sampleOutline⟩
    [taskBindings sampleOwnership t] <;> rfl

/-- What becomes of each of the tasks. -/
theorem sample_renderings (out : FilePath) :
    renderings sampleOwnership sampleDisk (sampleSettings out) sampleDrive =
      .ok [(.ofString "Drive.txt", "task Drive\n")] ∧
    renderings sampleOwnership sampleDisk (sampleSettings out) sampleHalt =
      .error (.render sampleFault) ∧
    renderings sampleOwnership sampleDisk (sampleSettings out) sampleStop =
      .ok [(.ofString "Stop.txt", "task Stop\n")] ∧
    renderings sampleOwnership sampleDisk (sampleSettings out) sampleTurn =
      .ok [(.ofString "Turn.txt", "task Turn\n")] := by
  obtain ⟨hdrive, hhalt, hstop, hturn⟩ := sample_outputPaths out
  rw [sample_renderings_eq out sampleDrive hdrive, sample_renderings_eq out sampleHalt hhalt,
    sample_renderings_eq out sampleStop hstop, sample_renderings_eq out sampleTurn hturn]
  exact ⟨rfl, rfl, rfl, rfl⟩

theorem sample_drafts (out : FilePath) :
    drafts sampleOwnership sampleDisk sampleComponent (sampleSettings out) = sampleDrafts := by
  obtain ⟨hdrive, hhalt, hstop, hturn⟩ := sample_renderings out
  rw [drafts, sample_participants, sampleComponent]
  simp only [List.flatMap_cons, List.flatMap_nil, (of_rendered hdrive).1, (of_failed hhalt).1,
    (of_rendered hstop).1, (of_rendered hturn).1]
  rfl

theorem sample_failures (out : FilePath) :
    (participants sampleComponent (sampleSettings out)).filterMap
      (failure? sampleOwnership sampleDisk (sampleSettings out)) =
        [failureOf "nav::Halt" sampleFault] := by
  obtain ⟨hdrive, hhalt, hstop, hturn⟩ := sample_renderings out
  have hname : sampleHalt.name sampleOwnership = "nav::Halt" := by rfl
  rw [sample_participants, sampleComponent, List.filterMap_cons_none (of_rendered hdrive).2.1,
    List.filterMap_cons_some (of_failed hhalt).2.1,
    List.filterMap_cons_none (of_rendered hstop).2.1,
    List.filterMap_cons_none (of_rendered hturn).2.1, List.filterMap_nil, hname]

theorem sample_fault (out : FilePath) (t : Task)
    (ht : t ∈ participants sampleComponent (sampleSettings out)) :
    fault? sampleOwnership sampleDisk (sampleSettings out) t = none := by
  obtain ⟨hdrive, hhalt, hstop, hturn⟩ := sample_renderings out
  rw [sample_participants, sampleComponent] at ht
  simp only [List.mem_cons, List.not_mem_nil, or_false] at ht
  rcases ht with rfl | rfl | rfl | rfl
  · exact (of_rendered hdrive).2.2
  · exact (of_failed hhalt).2.2
  · exact (of_rendered hstop).2.2
  · exact (of_rendered hturn).2.2

/-- The run comes to its end if its three drafts can be written. -/
theorem sample_run {out : FilePath} {files : List GeneratedFile}
    (hapart : Apart sampleComponent (sampleSettings out) sampleDisk.here)
    (hfiles : ((writeDrafts (sampleSettings out) sampleDrafts).run sampleDisk).1 = .ok files) :
    ∃ g, (fresh sampleComponent (sampleSettings out)).generate sampleOwnership sampleDisk =
      (.ok ⟨files, [failureOf "nav::Halt" sampleFault]⟩, g,
        ((writeDrafts (sampleSettings out) sampleDrafts).run sampleDisk).2) := by
  have hselected : (fresh sampleComponent (sampleSettings out)).selected =
      .ok (participants sampleComponent (sampleSettings out)) := by
    rw [sample_participants]
    exact sample_selected out
  have hw : (writeDrafts (sampleSettings out)
      (drafts sampleOwnership sampleDisk sampleComponent (sampleSettings out))).run sampleDisk =
        (.ok files, ((writeDrafts (sampleSettings out) sampleDrafts).run sampleDisk).2) := by
    rw [sample_drafts]
    exact Prod.ext hfiles rfl
  obtain ⟨r, hgen⟩ := generate_of_written (Registry.isFaithful_fresh sampleDisk _ _) rfl hapart
    hselected (sample_loaded out) (sample_fault out) hw
  rw [sample_failures] at hgen
  exact ⟨_, hgen⟩

def sampleReport : Report where
  files := [
    ⟨"nav::Drive", .ofString "Drive.txt", .kept, some (.ofString "templates/Drive.txt")⟩,
    ⟨"nav::Stop", .ofString "Stop.txt", .kept, some (.ofString "templates/Stop.txt")⟩,
    ⟨"nav::Turn", .ofString "Turn.txt", .created, none⟩]
  failures := [failureOf "nav::Halt" sampleFault]

theorem sample_outputPlaces :
    outputPlaces sampleComponent (sampleSettings (.ofString "out")) sampleDisk.here =
      [["w", "out", "Drive.txt"], ["w", "out", "Halt.txt"], ["w", "out", "Stop.txt"],
        ["w", "out", "Turn.txt"], ["w", "out", "templates", "Drive.txt"],
        ["w", "out", "templates", "Halt.txt"], ["w", "out", "templates", "Stop.txt"],
        ["w", "out", "templates", "Turn.txt"]] := by
  rw [outputPlaces, targetPaths, referencePaths, sample_outputs]
  rfl

theorem sample_apart :
    Apart sampleComponent (sampleSettings (.ofString "out")) sampleDisk.here := by
  rw [Apart, sample_outputPlaces]
  decide

theorem sample_run_out : ∃ g,
    (fresh sampleComponent (sampleSettings (.ofString "out"))).generate sampleOwnership sampleDisk =
      (.ok sampleReport, g,
        ((writeDrafts (sampleSettings (.ofString "out")) sampleDrafts).run sampleDisk).2) := by
  have hfiles : ((writeDrafts (sampleSettings (.ofString "out")) sampleDrafts).run sampleDisk).1 =
      .ok sampleReport.files := by
    decide +kernel
  exact sample_run sample_apart hfiles

theorem sample_targetPaths : targetPaths sampleComponent (sampleSettings (.ofString "out")) =
    [.ofString "out/Drive.txt", .ofString "out/Halt.txt", .ofString "out/Stop.txt",
      .ofString "out/Turn.txt"] := by
  rw [targetPaths, sample_outputs]
  rfl

theorem sample_shows : ∀ p ∈ targetPaths sampleComponent (sampleSettings (.ofString "out")),
    sampleDisk.Shows p := by
  rw [sample_targetPaths]
  simp only [List.forall_mem_cons, List.not_mem_nil, false_imp_iff, forall_const, and_true]
  exact ⟨rfl, rfl, rfl, rfl⟩

/-! The same files, by a way through a directory that is missing.  Nothing is found at the first
target before that directory is made for it. -/

def sampleDetour : FilePath := .ofString "build/../out"

theorem detour_outputPlaces :
    outputPlaces sampleComponent (sampleSettings sampleDetour) sampleDisk.here =
      outputPlaces sampleComponent (sampleSettings (.ofString "out")) sampleDisk.here := by
  rw [sample_outputPlaces, outputPlaces, targetPaths, referencePaths, sample_outputs]
  rfl

theorem detour_apart : Apart sampleComponent (sampleSettings sampleDetour) sampleDisk.here := by
  rw [Apart, detour_outputPlaces]
  exact sample_apart

def detourFiles : List GeneratedFile := [
  ⟨"nav::Drive", .ofString "Drive.txt", .created, none⟩,
  ⟨"nav::Stop", .ofString "Stop.txt", .kept, some (.ofString "templates/Stop.txt")⟩,
  ⟨"nav::Turn", .ofString "Turn.txt", .created, none⟩]

theorem detour_written :
    ((writeDrafts (sampleSettings sampleDetour) sampleDrafts).run sampleDisk).1 =
        .ok detourFiles ∧
      FileTree.entry? ((writeDrafts (sampleSettings sampleDetour) sampleDrafts).run sampleDisk).2
        ["w", "out", "Drive.txt"] = some (.file "task Drive\n".toUTF8) := by
  decide +kernel

end Generator

end Scaffold
