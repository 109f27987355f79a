import Scaffold.Proofs.CommandLine.Showing
import Scaffold.Proofs.Description.Loading
import Scaffold.Proofs.Generation.Regeneration
import Scaffold.Proofs.Settings.RoundTrip

/-! The exit status of a run.  All that a run needs is had before its first write, so that a run
which lacks something of it leaves the files alone.  A task that cannot be rendered costs the run
its success and the settings file, but not the files of the other tasks. -/
namespace Scaffold

open FileTree Model Template

namespace Generator

variable {own : Ownership} {disk : FileTree} {c : Component} {s : Settings} {t : Task}
  {d : Draft}

/-! ### Tasks that are rendered -/

/-- A task is rendered unless it fails or ends the run. -/
theorem exists_renderings_iff : (∃ texts, renderings own disk s t = .ok texts) ↔
    failure? own disk s t = none ∧ fault? own disk s t = none := by
  unfold failure? fault?
  rcases renderings own disk s t with (e | e | e) | texts <;> simp

theorem exists_of_failure? (h : failure? own disk s t ≠ none) :
    ∃ e, renderings own disk s t = .error (.render e) := by
  unfold failure? at h
  split at h
  · next e he => exact ⟨e, he⟩
  · exact absurd rfl h

/-- Once the templates are known, a task ends the run only for want of an output path. -/
theorem eq_output_of_fault? {e : GenerationFault} (hl : IsLoaded disk s)
    (h : fault? own disk s t = some e) : ∃ e', e = .output e' := by
  unfold fault? at h
  split at h
  · next e' _ => exact ⟨e', (Option.some.inj h).symm⟩
  · next e' herror =>
    rcases mapM_except_cases (rendering own disk s t) s.taskTemplates.templates with
      ⟨texts, htexts, -⟩ | ⟨before, template, after, e, htemplates, -, he, hfirst⟩
    · rw [← renderings, herror] at htexts
      cases htexts
    · rw [← renderings, herror] at hfirst
      cases hfirst
      obtain ⟨parsed, hparsed⟩ := hl template (by simp [htemplates])
      rcases ho : s.outputPath template t.basename with e | path
      · simp [rendering, ho, Except.mapError, bind, Except.bind] at he
      · rw [rendering_eq ho hparsed] at he
        split at he <;> cases he
  · cases h

theorem writtenOf_subset (own : Ownership) (disk : FileTree) (s : Settings) (t : Task) :
    writtenOf own disk s t ⊆ draftsOf own disk s t := by
  unfold writtenOf draftsOf
  split
  · exact List.map_subset _ (collected_subset _)
  · exact List.Subset.refl _

/-- The tasks of a run that are rendered. -/
def rendered (own : Ownership) (disk : FileTree) (c : Component) (s : Settings) : List Task :=
  (participants c s).filter fun t => (failure? own disk s t).isNone && (fault? own disk s t).isNone

/-- Tasks that are not rendered have nothing that is written. -/
theorem flatMap_writtenOf_rendered (own : Ownership) (disk : FileTree) (c : Component)
    (s : Settings) : (rendered own disk c s).flatMap (writtenOf own disk s) =
      (participants c s).flatMap (writtenOf own disk s) := by
  unfold rendered
  induction participants c s with
  | nil => rfl
  | cons t rest ih =>
    rw [List.filter_cons, List.flatMap_cons, ← ih]
    split
    · rfl
    · next hnot =>
      have hwritten : writtenOf own disk s t = [] := by
        unfold writtenOf
        split
        · next texts htexts =>
          have hnone := exists_renderings_iff.mp ⟨texts, htexts⟩
          simp [hnone] at hnot
        · rfl
      rw [hwritten, List.nil_append]

/-- Only the places of the output paths of a run are written. -/
theorem changesWithin_written (own : Ownership) (disk : FileTree) (c : Component) (s : Settings) :
    disk.ChangesWithin ((writeDrafts s ((participants c s).flatMap (writtenOf own disk s))).run
      disk).2 (outputPlaces c s disk.here) := by
  refine (changesWithin_writeDrafts s _ disk).mono fun place hplace => ?_
  obtain ⟨d, hd, hplace⟩ := List.mem_flatMap.mp hplace
  obtain ⟨t, ht, hd⟩ := List.mem_flatMap.mp hd
  have hd : d ∈ drafts own disk c s :=
    List.mem_flatMap.mpr ⟨t, ht, writtenOf_subset own disk s t hd⟩
  exact places_subset (List.prefix_refl (drafts own disk c s))
    (List.mem_flatMap.mpr ⟨d, hd, hplace⟩)

end Generator

namespace CommandLine

open Console Generator
open Settings (of_run_save)

variable {screen : Screen} {a : Arguments} {environment : List (String × String)}
  {took : Seconds} {disk disk' left : FileTree} {c : Component} {own : Ownership} {s : Settings}
  {o : Outcome} {n : Nat} {files : List GeneratedFile}

/-! ### What a run needs -/

/-- The tasks that settings ask for are there, and the templates can be had. -/
structure CanGenerate (disk : FileTree) (c : Component) (s : Settings) : Prop where
  tasks : ∀ name ∈ s.tasks, ∃ t ∈ c.tasks, t.basename = name
  templates : ∀ template ∈ s.taskTemplates.templates,
    ∃ parsed, (folderOf s).load disk template = .ok parsed

/-- All that a run for arguments needs before it renders: the description of a component, the
settings, the tasks that these ask for, and the templates. -/
structure IsReady (a : Arguments) (environment : List (String × String)) (disk : FileTree)
    (c : Component) (own : Ownership) (s : Settings) : Prop
    extends CanGenerate disk c s where
  present : disk.hasEntry (.ofString a.project) = .ok true
  described : loadComponent .empty disk (.ofString a.project) = (.ok c, own)
  configured : ∃ base, baseSettings a environment disk = .ok base ∧ s = a.override base

theorem CanGenerate.selected (h : CanGenerate disk c s) :
    (fresh c s).selected = .ok (participants c s) := by
  have hs := selected_eq_ok_iff.mpr ⟨h.tasks, rfl⟩
  rw [hs, participants_of_selected hs]

/-! ### What a run leaves -/

/-- What a run with its settings comes to if it exits.  Either it could not generate and wrote
nothing; or the drafts of the tasks that could be rendered were written and reported on, and the
settings were saved after them if no task failed, in a run that is no dry one. -/
inductive Exits (own : Ownership) (disk : FileTree) (c : Component) (s : Settings) :
    Nat → List Notice → FileTree → Prop
  | unready {notices : List Notice} : ¬ CanGenerate disk c s → Exits own disk c s 1 notices disk
  | failed {files : List GeneratedFile} {closing : List Notice} {left : FileTree} :
      CanGenerate disk c s → (∀ t ∈ participants c s, fault? own disk s t = none) →
      (∃ t ∈ participants c s, failure? own disk s t ≠ none) →
      (writeDrafts s ((participants c s).flatMap (writtenOf own disk s))).run disk =
        (.ok files, left) →
      Exits own disk c s 1 (.header ("Generating " ++ c.name) ::
        (noticesOf c s ⟨files, (participants c s).filterMap (failure? own disk s)⟩ ++ closing)) left
  | succeeded {files : List GeneratedFile} {closing : List Notice} {took : Seconds}
      {left disk' : FileTree} :
      CanGenerate disk c s → (∀ t ∈ participants c s, fault? own disk s t = none) →
      (∀ t ∈ participants c s, failure? own disk s t = none) →
      (writeDrafts s ((participants c s).flatMap (writtenOf own disk s))).run disk =
        (.ok files, left) →
      (s.dryRun = true ∧ disk' = left ∧ closing = completion took ∨
        s.dryRun = false ∧ (s.save none).run left = (.ok s.filePath, disk') ∧
          closing = .line ("Settings saved to " ++ s.filePath.text) :: completion took) →
      Exits own disk c s 0 (.header ("Generating " ++ c.name) ::
        (noticesOf c s ⟨files, (participants c s).filterMap (failure? own disk s)⟩ ++ closing))
        disk'

section
variable {notices : List Notice}

theorem Exits.canGenerate (h : Exits own disk c s n notices disk') :
    CanGenerate disk c s ∨ n = 1 ∧ disk' = disk := by
  cases h with
  | unready => exact .inr ⟨rfl, rfl⟩
  | failed hcan => exact .inl hcan
  | succeeded hcan => exact .inl hcan

theorem Exits.le_one (h : Exits own disk c s n notices disk') : n ≤ 1 := by
  cases h <;> decide

/-- A run that can generate has status 0 if all its tasks are rendered. -/
theorem Exits.eq_zero_iff (h : Exits own disk c s n notices disk') (hcan : CanGenerate disk c s) :
    n = 0 ↔ ∀ t ∈ participants c s, ∃ texts, renderings own disk s t = .ok texts := by
  cases h with
  | unready hnot => exact absurd hcan hnot
  | failed _ _ hfailed =>
    obtain ⟨t, ht, hfailure⟩ := hfailed
    simp only [Nat.one_ne_zero, false_iff]
    exact fun hall => hfailure (exists_renderings_iff.mp (hall t ht)).1
  | succeeded _ hfault hfailure =>
    simp only [true_iff]
    exact fun t ht => exists_renderings_iff.mpr ⟨hfailure t ht, hfault t ht⟩

theorem Exits.exists_failed (h : Exits own disk c s 1 notices disk')
    (hcan : CanGenerate disk c s) :
    ∃ t ∈ participants c s, ∃ e, renderings own disk s t = .error (.render e) := by
  cases h with
  | unready hnot => exact absurd hcan hnot
  | failed _ _ hfailed =>
    obtain ⟨t, ht, hfailure⟩ := hfailed
    exact ⟨t, ht, exists_of_failure? hfailure⟩

/-- A run that can generate writes the drafts of its tasks, and then its settings or nothing. -/
theorem Exits.written (h : Exits own disk c s n notices disk') (hcan : CanGenerate disk c s) :
    ∃ files closing left,
      (writeDrafts s ((participants c s).flatMap (writtenOf own disk s))).run disk =
        (.ok files, left) ∧
      notices = .header ("Generating " ++ c.name) :: (noticesOf c s
        ⟨files, (participants c s).filterMap (failure? own disk s)⟩ ++ closing) ∧
      (n = 0 ∧ s.dryRun = false → (s.save none).run left = (.ok s.filePath, disk')) ∧
      (¬ (n = 0 ∧ s.dryRun = false) → disk' = left) := by
  cases h with
  | unready hnot => exact absurd hcan hnot
  | failed _ _ _ hwrite => exact ⟨_, _, _, hwrite, rfl, by simp, fun _ => rfl⟩
  | succeeded _ _ _ hwrite hend =>
    refine ⟨_, _, _, hwrite, rfl, ?_⟩
    rcases hend with ⟨hdry, rfl, -⟩ | ⟨hdry, hsave, -⟩
    · simp [hdry]
    · exact ⟨fun _ => hsave, fun hnot => absurd ⟨rfl, hdry⟩ hnot⟩

end

/-- The end of a run after the writing of its drafts. -/
theorem exits_conclude (hcan : CanGenerate disk c s)
    (hfault : ∀ t ∈ participants c s, fault? own disk s t = none)
    (hwrite : (writeDrafts s ((participants c s).flatMap (writtenOf own disk s))).run disk =
      (.ok files, left))
    (h : conclude screen s ⟨files, (participants c s).filterMap (failure? own disk s)⟩ took left =
      (o, disk'))
    (hexit : o.ending = .exit n) :
    Exits own disk c s n (.header ("Generating " ++ c.name) ::
      (noticesOf c s ⟨files, (participants c s).filterMap (failure? own disk s)⟩ ++ o.notices))
      disk' := by
  unfold conclude at h
  cases hfailures : (participants c s).filterMap (failure? own disk s) with
  | cons f fs =>
    have hsome : ∃ t ∈ participants c s, failure? own disk s t ≠ none := by
      by_contra hall
      push Not at hall
      rw [List.filterMap_eq_nil_iff.mpr hall] at hfailures
      cases hfailures
    rw [hfailures] at h
    obtain ⟨rfl, rfl, rfl⟩ := of_exiting_exit h hexit
    rw [← hfailures]
    exact .failed hcan hfault hsome hwrite
  | nil =>
    have hall := List.filterMap_eq_nil_iff.mp hfailures
    rw [hfailures] at h
    rw [← hfailures]
    simp only [Report.success, List.isEmpty_nil, Bool.not_true, Bool.false_eq_true, if_false] at h
    cases hdry : s.dryRun with
    | true =>
      rw [hdry, if_pos rfl] at h
      obtain ⟨rfl, rfl, rfl⟩ := of_exiting_exit h hexit
      exact .succeeded hcan hfault hall hwrite (.inl ⟨hdry, rfl, rfl⟩)
    | false =>
      rw [hdry, if_neg Bool.false_ne_true] at h
      rcases hsave : (s.save none).run left with ⟨e | path, left'⟩ <;> rw [hsave] at h
      · cases h
        cases hexit
      · obtain ⟨rfl, rfl, rfl⟩ := of_exiting_exit h hexit
        obtain rfl : path = s.filePath := (of_run_save hsave).1
        exact .succeeded hcan hfault hall hwrite (.inr ⟨hdry, hsave, rfl⟩)

theorem exits_generate (h : generate screen c own s took disk = (o, disk'))
    (hexit : o.ending = .exit n) : Exits own disk c s n o.notices disk' := by
  obtain ⟨result, r', t', hgen, -, -, hcases⟩ := generate_cases (c := c) (s := s) own
    (Registry.isFaithful_fresh disk s.taskTemplates.templates (folderOf s)) rfl
  unfold generate fresh at h
  rw [hgen] at h
  obtain ⟨later, hlater, hexit, rfl⟩ := of_showing_exit h hexit
  rcases hcases with ⟨e, hs, rfl, rfl⟩ | ⟨template, ht, e, he, -, rfl, rfl⟩ | ⟨hs, hl, hrun⟩
  · obtain ⟨rfl, rfl⟩ := of_stop_exit hlater hexit
    refine .unready fun hcan => ?_
    rw [hcan.selected] at hs
    cases hs
  · obtain ⟨rfl, rfl⟩ := of_stop_exit hlater hexit
    refine .unready fun hcan => ?_
    obtain ⟨parsed, hparsed⟩ := hcan.templates template ht
    rw [he] at hparsed
    cases hparsed
  · have hcan : CanGenerate disk c s := ⟨(selected_eq_ok_iff.mp hs).1, hl⟩
    rw [run_writeAll] at hrun
    cases hfault : (participants c s).findSome? (fault? own disk s) with
    | some e =>
      obtain ⟨t, -, hfault'⟩ := List.exists_of_findSome?_eq_some hfault
      obtain ⟨e', rfl⟩ := eq_output_of_fault? hl hfault'
      rw [hfault] at hrun
      split at hrun <;> cases hrun <;> cases hlater <;> cases hexit
    | none =>
      have hnone := List.findSome?_eq_none_iff.mp hfault
      rw [hfault, List.takeWhile_eq_self_iff.mpr fun t ht => by rw [hnone t ht]; rfl] at hrun
      split at hrun
      · cases hrun
        cases hlater
        cases hexit
      · next files left hwrite =>
        cases hrun
        obtain ⟨closing, hclosing, hexit, rfl⟩ := of_showing_exit hlater hexit
        exact exits_conclude hcan hnone hwrite hclosing hexit

/-! ### Runs of the command line -/

theorem runFor_of_ready (screen : Screen) (took : Seconds)
    (h : IsReady a environment disk c own s) :
    runFor screen a environment took disk = generate screen c own s took disk := by
  obtain ⟨base, hbase, rfl⟩ := h.configured
  unfold runFor
  simp only [h.present, hbase, h.described]

/-- A run that exits without all that it needs has status 1 and leaves the files alone. -/
theorem ready_or_unchanged (h : runFor screen a environment took disk = (o, disk'))
    (hexit : o.ending = .exit n) :
    (∃ c own s, IsReady a environment disk c own s) ∨ n = 1 ∧ disk' = disk := by
  unfold runFor at h
  dsimp only at h
  split at h
  · cases h
    cases hexit
  · exact .inr (of_stop_exit h hexit)
  · next hpresent =>
    split at h
    · exact .inr (of_stop_exit h hexit)
    · next base hbase =>
      split at h
      · exact .inr (of_stop_exit h hexit)
      · next c own hload =>
        refine (exits_generate h hexit).canGenerate.imp_left fun hcan => ?_
        exact ⟨c, own, _, hcan, hpresent, hload, base, hbase, rfl⟩

theorem exits_of_ready (h : runFor screen a environment took disk = (o, disk'))
    (hexit : o.ending = .exit n) (hready : IsReady a environment disk c own s) :
    Exits own disk c s n o.notices disk' :=
  exits_generate (runFor_of_ready screen took hready ▸ h) hexit

/-! ### A project

A component that is described in one file, with settings in another. -/

def sampleDescription : Value := .dict [(.text "name", .text "nav"),
  (.text "tasks", .list (sampleComponent.tasks.map fun t => .dict [(.text "name", .text t.basename),
    (.text "fixed_initial_state", .bool t.fixedInitialState)]))]

/-- The settings of a run for some of the tasks. -/
def settingsFor (tasks : List String) : Settings :=
  { sampleSettings (.ofString "out") with tasks := tasks }

def projectOf (description settings : ByteArray) : FileTree :=
  (sampleDisk.set ["w", "nav.json"] (.file description)).set ["w", "conf.json"] (.file settings)

/-- The files of a run with settings, before it: the component is described in one of them, and
the settings are in another. -/
def projectFor (s : Settings) : FileTree :=
  projectOf (Json.write Json.indented sampleDescription).toUTF8 s.toJson.toUTF8

def sampleArguments : Arguments :=
  ⟨"nav.json", none, none, some (.text "conf.json"), none, false, false⟩

theorem sample_parse : parse ["nav.json", "--config=conf.json"] = .ok (.run sampleArguments) := by
  decide +kernel

theorem readBytes_projectOf (description settings : ByteArray) :
    (projectOf description settings).readBytes (.ofString "nav.json") = .ok description ∧
      (projectOf description settings).readBytes (.ofString "conf.json") = .ok settings :=
  ⟨rfl, rfl⟩

theorem changesWithin_projectOf (description settings : ByteArray) :
    sampleDisk.ChangesWithin (projectOf description settings)
      [["w", "nav.json"], ["w", "conf.json"]] := by
  have hdescription : sampleDisk.ChangesWithin
      (sampleDisk.set ["w", "nav.json"] (.file description)) [["w", "nav.json"]] :=
    changesWithin_set (by decide)
  have hsettings : FileTree.entry? (sampleDisk.set ["w", "nav.json"] (.file description))
      ["w", "conf.json"] = none := by
    rw [entry?_set_ne (by decide)]
    decide
  exact hdescription.trans (changesWithin_set (by simp [hsettings]))

theorem here_projectFor (s : Settings) : (projectFor s).here = sampleDisk.here :=
  (changesWithin_projectOf _ _).here

theorem loadComponent_projectFor (s : Settings) :
    loadComponent .empty (projectFor s) (.ofString "nav.json") =
      (.ok sampleComponent, sampleOwnership) := by
  have hfits (room : Nat) : Json.fits (room + 3) sampleDescription = true := by rfl
  have hsuffix : (FilePath.ofString "nav.json").suffix = ".json" := by decide
  have hcomponent : componentOf .empty sampleDescription.settled
      (FilePath.ofString "nav.json").text = (.ok sampleComponent, sampleOwnership) := by rfl
  exact loadComponent_of_readBytes hsuffix (hfits 982) (readBytes_projectOf _ _).1 hcomponent

theorem load_projectFor (s : Settings) : Settings.load (projectFor s) (.ofString "conf.json") =
    .ok s.saved :=
  Settings.load_of_readBytes (readBytes_projectOf _ _).2

/-- The templates are what they are without the description and the settings. -/
theorem folder_projectFor (s : Settings) (tasks : List String) :
    ∀ template ∈ (settingsFor tasks).taskTemplates.templates,
      (folderOf (settingsFor tasks)).load (projectFor s) template =
        (folderOf (settingsFor tasks)).load sampleDisk template := by
  have hpaths : templatePaths (sampleSettings (.ofString "out")) =
      [(FilePath.ofString "lib").join (.ofString "t")] := rfl
  have hinputs : ∀ p ∈ templatePaths (sampleSettings (.ofString "out")),
      p.denoted sampleDisk.here ∉ [["w", "nav.json"], ["w", "conf.json"]] := by
    rw [hpaths]
    decide
  exact load_again (changesWithin_projectOf _ _) hinputs (sample_loaded (.ofString "out"))

/-- A run for some of the tasks has all that it needs. -/
theorem ready_projectFor {tasks : List String} (environment : List (String × String))
    (h : ∀ name ∈ tasks, ∃ t ∈ sampleComponent.tasks, t.basename = name) :
    IsReady sampleArguments environment (projectFor (settingsFor tasks)) sampleComponent
      sampleOwnership (settingsFor tasks) where
  tasks := h
  templates template ht := by
    obtain ⟨parsed, hparsed⟩ := sample_loaded (.ofString "out") template ht
    exact ⟨parsed, (folder_projectFor _ tasks template ht).trans hparsed⟩
  present := hasEntry_of_readBytes (readBytes_projectOf _ _).1
  described := loadComponent_projectFor _
  configured := by
    have hgiven : given? sampleArguments.config = some "conf.json" := by decide
    refine ⟨settingsFor tasks, ?_, rfl⟩
    unfold baseSettings
    simp only [hgiven, load_projectFor]
    rfl

/-- What becomes of the tasks is what it is without the description and the settings. -/
theorem renderings_projectFor (s : Settings) (tasks : List String) :
    renderings sampleOwnership (projectFor s) (settingsFor tasks) =
      renderings sampleOwnership sampleDisk (sampleSettings (.ofString "out")) :=
  renderings_congr sampleOwnership (folder_projectFor s tasks)

/-- A run for some of the tasks comes to its report if its drafts can be written. -/
theorem exists_generate_projectFor {tasks : List String} {files : List GeneratedFile}
    (h : ∀ name ∈ tasks, ∃ t ∈ sampleComponent.tasks, t.basename = name)
    (hapart : Apart sampleComponent (settingsFor tasks) sampleDisk.here)
    (hsub : participants sampleComponent (settingsFor tasks) ⊆ sampleComponent.tasks)
    (hfiles : ((writeDrafts (settingsFor tasks)
      (drafts sampleOwnership sampleDisk sampleComponent (settingsFor tasks))).run
        (projectFor (settingsFor tasks))).1 = .ok files) :
    ∃ g, (fresh sampleComponent (settingsFor tasks)).generate sampleOwnership
      (projectFor (settingsFor tasks)) =
        (.ok ⟨files, (participants sampleComponent (settingsFor tasks)).filterMap
          (failure? sampleOwnership sampleDisk (settingsFor tasks))⟩, g,
        ((writeDrafts (settingsFor tasks)
          (drafts sampleOwnership sampleDisk sampleComponent (settingsFor tasks))).run
            (projectFor (settingsFor tasks))).2) := by
  have hready := ready_projectFor [] h
  rw [← here_projectFor (settingsFor tasks)] at hapart
  have hrenderings := renderings_congr sampleOwnership (folder_projectFor (settingsFor tasks) tasks)
  obtain ⟨-, hfailures, -⟩ := outcomes_congr hrenderings
  have hfault : ∀ t ∈ participants sampleComponent (settingsFor tasks),
      fault? sampleOwnership (projectFor (settingsFor tasks)) (settingsFor tasks) t = none := by
    intro t ht
    have hall := sample_fault (.ofString "out")
    rw [sample_participants] at hall
    rw [fault?_congr (congrFun (renderings_projectFor _ _) t)]
    exact hall t (hsub ht)
  rw [← drafts_congr hrenderings] at hfiles ⊢
  rw [← hfailures]
  generalize projectFor (settingsFor tasks) = disk at *
  rcases hw : (writeDrafts (settingsFor tasks)
    (drafts sampleOwnership disk sampleComponent (settingsFor tasks))).run disk with ⟨result, left⟩
  rw [hw] at hfiles
  cases hfiles
  obtain ⟨r, hgen⟩ := generate_of_written (Registry.isFaithful_fresh disk _ _) rfl hapart
    hready.selected hready.templates hfault hw
  exact ⟨_, hgen⟩

theorem settingsFor_nil : settingsFor [] = sampleSettings (.ofString "out") := rfl

theorem ending_projectFor : ∃ o left,
    run .recording ["nav.json", "--config=conf.json"] [] (.whole 0) (projectFor (settingsFor [])) =
      (o, left) ∧ o.ending = .exit 1 := by
  have hnone : ∀ name ∈ ([] : List String), ∃ t ∈ sampleComponent.tasks, t.basename = name :=
    List.forall_mem_nil _
  have hfiles : ((writeDrafts (settingsFor [])
      (drafts sampleOwnership sampleDisk sampleComponent (settingsFor []))).run
        (projectFor (settingsFor []))).1 = .ok sampleReport.files := by
    rw [settingsFor_nil, sample_drafts]
    decide +kernel
  obtain ⟨g, hgen⟩ := exists_generate_projectFor hnone sample_apart
    (List.Subset.refl _) hfiles
  have hready := ready_projectFor [] hnone
  rw [settingsFor_nil, sample_failures] at hgen
  rw [settingsFor_nil] at hready ⊢
  rw [run, sample_parse]
  dsimp only
  rw [runFor_of_ready _ _ hready, generate, hgen]
  dsimp only
  rw [showing_recording, showing_recording]
  exact ⟨_, _, rfl, rfl⟩

/-- On whatever screen, a run that exits has status 0 if it has all that it needs and all its tasks
are rendered, and else status 1.  Without all that it needs it changes nothing.  With all that it
needs it writes and reports the drafts of the tasks that are rendered, each of them and nothing
else; its settings are saved after them if the status is 0 and the run is no dry one.  In every
other case nothing more is written, and the settings file is what it was: the proviso there is for
an output of a task at the very path of that file. -/
theorem exit_status {argv : List String} (hparse : parse argv = .ok (.run a))
    (hrun : run screen argv environment took disk = (o, disk')) (hexit : o.ending = .exit n) :
    n ≤ 1 ∧
    (n = 0 ↔ ∃ c own s, IsReady a environment disk c own s ∧
      ∀ t ∈ participants c s, ∃ texts, renderings own disk s t = .ok texts) ∧
    ((∀ c own s, ¬ IsReady a environment disk c own s) → disk' = disk) ∧
    ∀ c own s, IsReady a environment disk c own s →
      (n = 1 → ∃ t ∈ participants c s, ∃ e, renderings own disk s t = .error (.render e)) ∧
      ∃ ds files closing left, ds = (rendered own disk c s).flatMap (writtenOf own disk s) ∧
        (writeDrafts s ds).run disk = (.ok files, left) ∧
        List.Forall₂ (fun d f => ∃ status, f = d.file s status) ds files ∧
        disk.ChangesWithin left (ds.flatMap (·.places s disk.here)) ∧
        o.notices = .header ("Generating " ++ c.name) :: (noticesOf c s
          ⟨files, (participants c s).filterMap (failure? own disk s)⟩ ++ closing) ∧
        (n = 0 ∧ a.dryRun = false → (s.save none).run left = (.ok s.filePath, disk') ∧
          disk'.readBytes s.filePath = .ok s.toJson.toUTF8) ∧
        (¬ (n = 0 ∧ a.dryRun = false) → disk' = left ∧
          (s.filePath.denoted disk.here ∉ outputPlaces c s disk.here → ∀ content,
            disk'.entry? (s.filePath.denoted disk.here) = some (.file content) ↔
              disk.entry? (s.filePath.denoted disk.here) = some (.file content))) := by
  have hrunFor : runFor screen a environment took disk = (o, disk') := by
    rw [← hrun, run, hparse]
  have hend {c own s} (hready : IsReady a environment disk c own s) :=
    exits_of_ready hrunFor hexit hready
  have hcases := ready_or_unchanged hrunFor hexit
  refine ⟨?_, ⟨?_, ?_⟩, ?_, ?_⟩
  · rcases hcases with ⟨c, own, s, hready⟩ | ⟨rfl, -⟩
    · exact (hend hready).le_one
    · exact Nat.le_refl 1
  · rintro rfl
    obtain ⟨c, own, s, hready⟩ := hcases.resolve_right (by simp)
    exact ⟨c, own, s, hready, ((hend hready).eq_zero_iff hready.toCanGenerate).mp rfl⟩
  · rintro ⟨c, own, s, hready, hall⟩
    exact ((hend hready).eq_zero_iff hready.toCanGenerate).mpr hall
  · intro hnot
    exact (hcases.resolve_left fun ⟨c, own, s, hready⟩ => hnot c own s hready).2
  · intro c own s hready
    have hexits := hend hready
    refine ⟨fun hn => (hn ▸ hexits).exists_failed hready.toCanGenerate, ?_⟩
    obtain ⟨files, closing, left, hwrite, hnotices, hsaved, hunsaved⟩ :=
      hexits.written hready.toCanGenerate
    obtain ⟨base, -, rfl⟩ := hready.configured
    have hc := changesWithin_writeDrafts (a.override base)
      ((participants c (a.override base)).flatMap (writtenOf own disk (a.override base))) disk
    rw [hwrite] at hc
    rw [flatMap_writtenOf_rendered]
    refine ⟨_, files, closing, left, rfl, hwrite, rel_of_writeDrafts hwrite, hc, hnotices,
      fun h => ?_, fun h => ⟨hunsaved h, ?_⟩⟩
    · exact ⟨hsaved h, (of_run_save (hsaved h)).2.1⟩
    · intro hplace content
      have hc := changesWithin_written own disk c (a.override base)
      rw [hwrite] at hc
      rw [hunsaved h]
      exact hc.file_iff hplace

/-- One of the tasks cannot be rendered, so that the settings are not left behind. -/
theorem exit_status_sample : ∃ o left,
    run .recording ["nav.json", "--config=conf.json"] [] (.whole 0) (projectFor (settingsFor [])) =
      (o, left) ∧ o.ending = .exit 1 ∧
    (∃ t ∈ participants sampleComponent (settingsFor []), ∃ e, renderings sampleOwnership
      (projectFor (settingsFor [])) (settingsFor []) t = .error (.render e)) ∧
    ∀ content, left.entry? ["w", "out", ".skelgen.json"] ≠ some (.file content) := by
  obtain ⟨o, left, hrun, hexit⟩ := ending_projectFor
  have hready := ready_projectFor [] (List.forall_mem_nil _)
  obtain ⟨-, -, -, hall⟩ := exit_status sample_parse hrun hexit
  obtain ⟨hfailed, ds, files, closing, left', -, -, -, -, -, -, hunsaved⟩ :=
    hall sampleComponent sampleOwnership (settingsFor []) hready
  refine ⟨o, left, hrun, hexit, hfailed rfl, fun content hcontent => ?_⟩
  have hfile : (settingsFor []).filePath.denoted sampleDisk.here =
      ["w", "out", ".skelgen.json"] := by
    decide
  have hplace : ["w", "out", ".skelgen.json"] ∉
      outputPlaces sampleComponent (settingsFor []) sampleDisk.here := by
    rw [settingsFor_nil, sample_outputPlaces]
    decide
  have hkept := (hunsaved (by simp)).2
  rw [here_projectFor, hfile] at hkept
  have hbefore := (hkept hplace content).mp hcontent
  have hc : sampleDisk.ChangesWithin (projectFor (settingsFor [])) _ :=
    changesWithin_projectOf _ _
  rw [hc.file_iff (by decide)] at hbefore
  have hmissing : sampleDisk.entry? ["w", "out", ".skelgen.json"] = none := by
    decide
  rw [hmissing] at hbefore
  cases hbefore

end CommandLine

end Scaffold
