import Scaffold.Proofs.Generation.Run

/-! What a run gives account of.  Every task that takes part has a report entry for each template, or
a failure at the first template that fails on it; of a task with a failure nothing is written. -/
namespace Scaffold

open FileTree Model Template

namespace Generator

variable {own : Ownership} {disk disk' : FileTree} {c : Component} {s : Settings} {t : Task}
  {tasks : List Task} {files : List GeneratedFile} {result : Except GenerationFault Report}
  {g' : Generator}

/-- The report entries and the failures of a run account for tasks, in their order: a task has an
entry for each template, in their order, or a failure at the first template that fails on it. -/
inductive Accounted (own : Ownership) (disk : FileTree) (s : Settings) :
    List Task → List GeneratedFile → List TaskFailure → Prop
  | nil : Accounted own disk s [] [] []
  | rendered {t : Task} {tasks : List Task} {entries files : List GeneratedFile}
      {failures : List TaskFailure} :
      List.Forall₂ (fun template f => ∃ path text status,
        rendering own disk s t template = .ok (path, text) ∧
          f = Draft.file s ⟨t.name own, path, text⟩ status) s.taskTemplates.templates entries →
      Accounted own disk s tasks files failures →
      Accounted own disk s (t :: tasks) (entries ++ files) failures
  | failed {t : Task} {tasks : List Task} {before after : List String} {template : String}
      {e : RenderFault} {files : List GeneratedFile} {failures : List TaskFailure} :
      s.taskTemplates.templates = before ++ template :: after →
      (∀ earlier ∈ before, ∃ x, rendering own disk s t earlier = .ok x) →
      rendering own disk s t template = .error (.render e) →
      Accounted own disk s tasks files failures →
      Accounted own disk s (t :: tasks) files
        (⟨t.name own, template, e.line, e.cause.message⟩ :: failures)

/-- If the output paths use the basename alone, a task is rendered by all templates, or there is a
first one that fails on it. -/
theorem renderings_of_usesOnly (hl : IsLoaded disk s)
    (hpatterns : ∀ e ∈ s.taskTemplates.entries, Pattern.usesOnly "basename" e.2 = true)
    (own : Ownership) (t : Task) :
    (∃ texts, renderings own disk s t = .ok texts) ∨
      ∃ before template after e, s.taskTemplates.templates = before ++ template :: after ∧
        (∀ earlier ∈ before, ∃ x, rendering own disk s t earlier = .ok x) ∧
        rendering own disk s t template = .error (.render e) ∧ e.template = template ∧
        renderings own disk s t = .error (.render e) := by
  rcases mapM_except_cases (rendering own disk s t) s.taskTemplates.templates with
    ⟨texts, htexts, -⟩ | ⟨before, template, after, e, htemplates, hbefore, he, herror⟩
  · exact .inl ⟨texts, htexts⟩
  · have ht : template ∈ s.taskTemplates.templates := by simp [htemplates]
    rcases rendering_cases own (outputPath_of_usesOnly hpatterns ht t.basename)
      (hl template ht) with ⟨x, hx⟩ | ⟨e', he', hname⟩
    · rw [hx] at he
      cases he
    · obtain rfl : e = .render e' := Except.error.inj (he.symm.trans he')
      exact .inr ⟨before, template, after, e', htemplates, hbefore, he, hname, herror⟩

theorem fault?_eq_none (hl : IsLoaded disk s)
    (hpatterns : ∀ e ∈ s.taskTemplates.entries, Pattern.usesOnly "basename" e.2 = true)
    (own : Ownership) (t : Task) : fault? own disk s t = none := by
  rcases renderings_of_usesOnly hl hpatterns own t with
    ⟨texts, h⟩ | ⟨_, _, _, e, -, -, -, -, h⟩
  · exact (of_rendered h).2.2
  · exact (of_failed h).2.2

/-- Of a task with a failure nothing is to be written. -/
theorem draftsOf_of_failure (h : (failure? own disk s t).isSome = true) :
    draftsOf own disk s t = [] := by
  unfold failure? at h
  unfold draftsOf
  cases hr : renderings own disk s t with
  | error e => rfl
  | ok texts =>
    rw [hr] at h
    cases h

/-- The drafts of a task that is rendered are reported on, template by template. -/
theorem entries_of_writeDrafts {texts : Renderings} {m m' : FileTree}
    (htexts : renderings own disk s t = .ok texts)
    (h : (writeDrafts s (draftsOf own disk s t)).run m = (.ok files, m')) :
    List.Forall₂ (fun template f => ∃ path text status,
      rendering own disk s t template = .ok (path, text) ∧
        f = Draft.file s ⟨t.name own, path, text⟩ status) s.taskTemplates.templates files := by
  have hfiles := rel_of_writeDrafts h
  rw [(of_rendered htexts).1] at hfiles
  have hrel := rel_draftsOf htexts
  clear htexts h
  generalize s.taskTemplates.templates = templates at hrel ⊢
  induction hrel generalizing files with
  | nil =>
    cases hfiles
    exact .nil
  | cons hx _ ih =>
    cases hfiles with
    | cons hf hfiles =>
      obtain ⟨status, rfl⟩ := hf
      exact .cons ⟨_, _, status, hx, rfl⟩ (ih hfiles)

theorem accounted_of_writeDrafts (hl : IsLoaded disk s)
    (hpatterns : ∀ e ∈ s.taskTemplates.entries, Pattern.usesOnly "basename" e.2 = true)
    {m m' : FileTree}
    (h : (writeDrafts s (tasks.flatMap (draftsOf own disk s))).run m = (.ok files, m')) :
    Accounted own disk s tasks files (tasks.filterMap (failure? own disk s)) := by
  induction tasks generalizing m files with
  | nil =>
    cases h
    exact .nil
  | cons t tasks ih =>
    rcases renderings_of_usesOnly hl hpatterns own t with
      ⟨texts, htexts⟩ | ⟨before, template, after, e, htemplates, hbefore, he, hname, hr⟩
    · rw [List.flatMap_cons] at h
      obtain ⟨entries, m₁, rest, hentries, hrest, rfl⟩ := writeDrafts_append_eq_ok h
      rw [List.filterMap_cons_none (of_rendered htexts).2.1]
      exact .rendered (entries_of_writeDrafts htexts hentries) (ih hrest)
    · obtain ⟨hnone, hfailure, -⟩ := of_failed hr
      rw [failureOf, hname] at hfailure
      rw [List.flatMap_cons, hnone, List.nil_append] at h
      rw [List.filterMap_cons_some hfailure]
      exact .failed htemplates hbefore he (ih h)

/-- What is written of other tasks leaves the places of a task that is not rendered alone, but for
directories that lead to the outputs of those. -/
theorem entry?_of_failed (hapart : Apart c s disk.here) (ht : t ∈ participants c s)
    (hnone : draftsOf own disk s t = [])
    (h : (writeDrafts s (drafts own disk c s)).run disk = (.ok files, disk')) {place : Place}
    (hplace : place ∈ (outputsOf s t).flatMap (placesOf s disk.here)) :
    disk'.entry? place = disk.entry? place ∨
      disk.entry? place = none ∧ disk'.entry? place = some .directory ∧
        ∃ d ∈ drafts own disk c s, d.LeadsThrough s disk.here place := by
  have hchange := changesWithin_writeDrafts s (drafts own disk c s) disk
  have hadds := addsAlong_writeDrafts s (drafts own disk c s) disk
  rw [h] at hchange hadds
  have hother : place ∉ (drafts own disk c s).flatMap (·.places s disk.here) := by
    intro hmem
    obtain ⟨d, hd, hplaced⟩ := List.mem_flatMap.mp hmem
    obtain ⟨t', ht', hd⟩ := List.mem_flatMap.mp hd
    have hne : t ≠ t' := by
      rintro rfl
      rw [hnone] at hd
      cases hd
    have hrelative : d.relative ∈ outputsOf s t' :=
      (map_relative_draftsOf own disk s t').subset (List.mem_map_of_mem hd)
    exact hapart.disjoint ht ht' hne hplace (List.mem_flatMap.mpr ⟨_, hrelative, hplaced⟩)
  rcases hchange.elsewhere place hother with hsame | ⟨hnone, hdirectory⟩
  · exact .inl hsame
  · rcases hadds place hdirectory with hbefore | hway
    · rw [hnone] at hbefore
      cases hbefore
    · exact .inr ⟨hnone, hdirectory, hway⟩

def nestedSettings : Settings := { sampleSettings (.ofString "out") with
  taskTemplates := .ofList [("t", "\x7bbasename\x7d"), ("u", "Halt/\x7bbasename\x7d")]
  tasks := ["Halt", "Stop"] }

def nestedDisk : FileTree :=
  sampleDisk.set ["w", "lib", "u"] (.file (sourceOf sampleOutline).toUTF8)

def nestedDrafts : List Draft := [
  ⟨"nav::Stop", .ofString "Stop", "task Stop\n"⟩,
  ⟨"nav::Stop", .ofString "Halt/Stop", "task Stop\n"⟩]

theorem nested_templates : nestedSettings.taskTemplates.templates = ["t", "u"] := by
  rfl

theorem nested_selected :
    (fresh sampleComponent nestedSettings).selected = .ok [sampleHalt, sampleStop] := by
  rfl

theorem nested_outputPaths :
    (nestedSettings.outputPath "t" "Halt" = .ok (.ofString "Halt") ∧
      nestedSettings.outputPath "u" "Halt" = .ok (.ofString "Halt/Halt")) ∧
    nestedSettings.outputPath "t" "Stop" = .ok (.ofString "Stop") ∧
      nestedSettings.outputPath "u" "Stop" = .ok (.ofString "Halt/Stop") := by
  have hpath {template pattern basename path : String}
      (hpattern : nestedSettings.taskTemplates.pattern? template = some pattern)
      (hfill : Pattern.fill pattern [("basename", basename)] = .ok path) :
      nestedSettings.outputPath template basename = .ok (.ofString path) := by
    rw [Settings.outputPath, hpattern]
    simp only [hfill]
  have hfirst : nestedSettings.taskTemplates.pattern? "t" = some "\x7bbasename\x7d" := by rfl
  have hsecond : nestedSettings.taskTemplates.pattern? "u" = some "Halt/\x7bbasename\x7d" := by
    rfl
  refine ⟨⟨hpath hfirst ?_, hpath hsecond ?_⟩, hpath hfirst ?_, hpath hsecond ?_⟩ <;>
    decide +kernel

theorem nested_load {template : String} (ht : template ∈ nestedSettings.taskTemplates.templates) :
    (folderOf nestedSettings).load nestedDisk template =
      .ok ⟨template, outlineChunks sampleOutline⟩ := by
  rw [nested_templates] at ht
  simp only [List.mem_cons, List.not_mem_nil, or_false] at ht
  rcases ht with rfl | rfl <;> exact load_sampleOutline (.ofString "out") (by rfl)

theorem nested_loaded : IsLoaded nestedDisk nestedSettings :=
  fun _ ht => ⟨_, nested_load ht⟩

theorem nested_renderings :
    renderings sampleOwnership nestedDisk nestedSettings sampleHalt =
      .error (.render sampleFault) ∧
    renderings sampleOwnership nestedDisk nestedSettings sampleStop =
      .ok [(.ofString "Stop", "task Stop\n"), (.ofString "Halt/Stop", "task Stop\n")] := by
  obtain ⟨⟨hhalt, -⟩, hstop, hnested⟩ := nested_outputPaths
  have ht : "t" ∈ nestedSettings.taskTemplates.templates := by decide
  have hu : "u" ∈ nestedSettings.taskTemplates.templates := by decide
  unfold renderings
  simp only [nested_templates, List.mapM_cons, List.mapM_nil,
    rendering_eq (t := sampleHalt) hhalt (nested_load ht),
    rendering_eq (t := sampleStop) hstop (nested_load ht),
    rendering_eq (t := sampleStop) hnested (nested_load hu)]
  exact ⟨rfl, rfl⟩

theorem nested_outputPlaces : outputPlaces sampleComponent nestedSettings nestedDisk.here =
    [["w", "out", "Halt"], ["w", "out", "Halt", "Halt"], ["w", "out", "Stop"],
      ["w", "out", "Halt", "Stop"], ["w", "out", "templates", "Halt"],
      ["w", "out", "templates", "Halt", "Halt"], ["w", "out", "templates", "Stop"],
      ["w", "out", "templates", "Halt", "Stop"]] := by
  obtain ⟨⟨h₁, h₂⟩, h₃, h₄⟩ := nested_outputPaths
  have houtputs : outputs sampleComponent nestedSettings = [.ofString "Halt",
      .ofString "Halt/Halt", .ofString "Stop", .ofString "Halt/Stop"] := by
    rw [outputs, participants_of_selected nested_selected]
    simp only [List.flatMap_cons, List.flatMap_nil, outputsOf, nested_templates,
      List.filterMap_cons, List.filterMap_nil, sampleHalt, sampleStop, h₁, h₂, h₃, h₄,
      Except.toOption, List.append_nil, List.cons_append, List.nil_append]
  rw [outputPlaces, targetPaths, referencePaths, houtputs]
  rfl

theorem nested_apart : Apart sampleComponent nestedSettings nestedDisk.here := by
  rw [Apart, nested_outputPlaces]
  decide

theorem nested_drafts : drafts sampleOwnership nestedDisk sampleComponent nestedSettings =
    nestedDrafts := by
  obtain ⟨hhalt, hstop⟩ := nested_renderings
  rw [drafts, participants_of_selected nested_selected]
  simp only [List.flatMap_cons, List.flatMap_nil, (of_failed hhalt).1, (of_rendered hstop).1]
  rfl

end Generator

end Scaffold
