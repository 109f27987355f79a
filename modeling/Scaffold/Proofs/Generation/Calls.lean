import Scaffold.Proofs.Generation.Run

/-! A generator that is run again and again, with and without another output directory.  Each run
is one under the directory that was given last, before it or with it: the generator keeps it. -/
namespace Scaffold

open FileTree Model Template

/-! ### Runs under a directory -/

/-- A run works under the output directory of settings: it writes drafts at some paths as seen from
there, which are compared with what is found there, and it changes no other place. -/
structure WorksIn (s : Settings) (paths : List FilePath) (disk : FileTree)
    (result : Except GenerationFault Report) (disk' : FileTree) : Prop where
  drafts : ∃ ds : List Draft, (∀ d ∈ ds, d.relative ∈ paths) ∧
    ((writeDrafts s ds).run disk).2 = disk' ∧
    ∀ report, result = .ok report → (writeDrafts s ds).run disk = (.ok report.files, disk')
  changes : disk.ChangesWithin disk' (paths.flatMap (placesOf s disk.here))

section
variable {s : Settings} {paths : List FilePath} {disk disk' : FileTree}
  {result : Except GenerationFault Report}

theorem worksIn_of_drafts (ds : List Draft) (hpaths : ∀ d ∈ ds, d.relative ∈ paths)
    (htree : ((writeDrafts s ds).run disk).2 = disk')
    (hfiles : ∀ report, result = .ok report →
      (writeDrafts s ds).run disk = (.ok report.files, disk')) :
    WorksIn s paths disk result disk' := by
  refine ⟨⟨ds, hpaths, htree, hfiles⟩, ?_⟩
  rw [← htree]
  refine (changesWithin_writeDrafts s ds disk).mono fun place hplace => ?_
  obtain ⟨d, hd, hmem⟩ := List.mem_flatMap.mp hplace
  exact List.mem_flatMap.mpr ⟨d.relative, hpaths d hd, hmem⟩

end

namespace Generator

variable {own : Ownership} {disk disk' : FileTree} {c : Component} {s : Settings}
  {g g' : Generator} {tasks : List Task} {result : Except GenerationFault Report}

theorem generate_keeps (g : Generator) (own : Ownership) (disk : FileTree) :
    g.Keeps (g.generate own disk).2.1 := by
  have hprepare := g.prepare_keeps disk
  unfold generate
  generalize g.prepare disk = prepared at hprepare ⊢
  obtain ⟨e | tasks, g'⟩ := prepared <;> exact hprepare

/-- The tasks of a run that was prepared are those that take part in it. -/
theorem tasks_of_prepare (h : g.prepare disk = (.ok tasks, g')) :
    tasks = participants g.component g.settings := by
  have hselected : (fresh g.component g.settings).selected = g.selected := rfl
  rw [prepare] at h
  cases hs : g.selected with
  | error e =>
    rw [hs] at h
    cases h
  | ok selected =>
    rw [hs] at h
    dsimp only at h
    split at h
    · cases h
    · cases h
      exact (participants_of_selected (hselected.trans hs)).symm

/-- What a generator renders for the tasks of a run has output paths of the run. -/
theorem mem_outputs_of_outcomes {t : Task} {d : Draft}
    (ht : t ∈ participants g.component g.settings)
    (hd : d ∈ outcomeDrafts own (t, (g.renderTask own disk t).1)) :
    d.relative ∈ outputs g.component g.settings := by
  cases hrender : (g.renderTask own disk t).1 with
  | error e =>
    rw [hrender] at hd
    cases hd
  | ok texts =>
    rw [hrender] at hd
    obtain ⟨x, hx, rfl⟩ := List.mem_map.mp hd
    rcases mem_paths_of_renderFrom hrender x hx with hnone | hpath
    · cases hnone
    · exact List.mem_flatMap.mpr ⟨t, ht, hpath⟩

/-- A run works under the output directory of its generator. -/
theorem worksIn_generate (h : g.generate own disk = (result, g', disk')) :
    WorksIn g.settings (outputs g.component g.settings) disk result disk' := by
  rw [generate] at h
  rcases hprepare : g.prepare disk with ⟨e | tasks, g₁⟩
  · rw [hprepare] at h
    cases h
    exact worksIn_of_drafts [] (by simp) rfl fun report hreport => by cases hreport
  · obtain ⟨hcomponent, hsettings, -⟩ := g.prepare_keeps disk
    obtain rfl := tasks_of_prepare hprepare
    rw [hprepare] at h hcomponent hsettings
    dsimp only at h hcomponent hsettings
    rw [← hcomponent, ← hsettings] at h ⊢
    rcases hwrite : (writeAll own g₁.settings ((participants g₁.component g₁.settings).map fun t =>
      (t, (g₁.renderTask own disk t).1))).run disk with ⟨r, left⟩
    rw [hwrite] at h
    cases h
    refine worksIn_of_drafts _ ?_ (by rw [← tree_writeAll, hwrite])
      fun report hreport => files_of_writeAll (hreport ▸ hwrite)
    intro d hd
    obtain ⟨outcome, houtcome, hd⟩ := List.mem_flatMap.mp hd
    obtain ⟨t, ht, rfl⟩ := List.mem_map.mp (List.takeWhile_subset _ houtcome)
    exact mem_outputs_of_outcomes ht hd

/-! ### Calls -/

/-- A call of a generator: the owners and the files that it meets, and the output directory if one
is given. -/
structure Call where
  own : Ownership
  disk : FileTree
  output : Option FilePath

/-- The generator that calls leave. -/
def after (g : Generator) (calls : List Call) : Generator :=
  calls.foldl (fun g call => (g.generateTo call.own call.disk call.output).2.1) g

/-- The directory that was given last; one of the settings if none was. -/
def lastGiven (configured : FilePath) (calls : List Call) : FilePath :=
  (calls.filterMap Call.output).getLast?.getD configured

theorem lastGiven_cons (configured : FilePath) (call : Call) (calls : List Call) :
    lastGiven configured (call :: calls) = lastGiven (call.output.getD configured) calls := by
  rw [lastGiven, lastGiven]
  cases houtput : call.output with
  | none => rw [List.filterMap_cons_none houtput, Option.getD_none]
  | some dir =>
    rw [List.filterMap_cons_some houtput, List.getLast?_cons, Option.getD_some, Option.getD_some]

theorem lastGiven_concat (configured : FilePath) (calls : List Call) (call : Call) :
    lastGiven configured (calls ++ [call]) = call.output.getD (lastGiven configured calls) := by
  rw [lastGiven, lastGiven, List.filterMap_append]
  cases houtput : call.output with
  | none => rw [List.filterMap_cons_none houtput, List.filterMap_nil, List.append_nil,
      Option.getD_none]
  | some dir => rw [List.filterMap_cons_some houtput, List.filterMap_nil, List.getLast?_concat,
      Option.getD_some, Option.getD_some]

/-- Calls that give no directory, or the one that is configured, change nothing. -/
theorem lastGiven_eq {configured : FilePath} {calls : List Call}
    (h : ∀ call ∈ calls, ∀ dir, call.output = some dir → dir = configured) :
    lastGiven configured calls = configured := by
  rw [lastGiven]
  cases hlast : (calls.filterMap Call.output).getLast? with
  | none => rfl
  | some dir =>
    obtain ⟨call, hcall, houtput⟩ := List.mem_filterMap.mp (List.mem_of_getLast? hlast)
    exact h call hcall dir houtput

/-- The generator that a call runs. -/
theorem generateTo_eq (g : Generator) (own : Ownership) (disk : FileTree)
    (output : Option FilePath) : g.generateTo own disk output =
      (g.withOutput (output.getD g.settings.outputDir)).generate own disk := by
  cases output <;> rfl

theorem Keeps.withOutput (h : g.Keeps g') (dir : FilePath) :
    (g.withOutput dir).Keeps (g'.withOutput dir) where
  component := h.component
  settings := congrArg (fun s => { s with outputDir := dir }) h.settings
  folder := h.folder

/-- Calls leave a generator as it was but for the directory, which is the one that was given last,
and the templates that it knows. -/
theorem after_keeps (g : Generator) (calls : List Call) :
    (g.withOutput (lastGiven g.settings.outputDir calls)).Keeps (g.after calls) := by
  induction calls generalizing g with
  | nil => exact ⟨rfl, rfl, rfl⟩
  | cons call rest ih =>
    have hcall := generate_keeps (g.withOutput (call.output.getD g.settings.outputDir))
      call.own call.disk
    rw [← generateTo_eq] at hcall
    have hrest := ih (g.generateTo call.own call.disk call.output).2.1
    have hdir : (g.generateTo call.own call.disk call.output).2.1.settings.outputDir =
        call.output.getD g.settings.outputDir := congrArg Settings.outputDir hcall.settings
    rw [hdir, ← lastGiven_cons] at hrest
    exact (hcall.withOutput (lastGiven g.settings.outputDir (call :: rest))).trans hrest

/-- Every call of a generator, after any others, is a run of a generator with the directory that
was given last, by itself or before it, and works under that directory.  It is the one of the
settings if no call gave another one. -/
theorem generateTo_worksIn (calls : List Call) (call : Call)
    (h : ((fresh c s).after calls).generateTo call.own call.disk call.output =
      (result, g', disk')) :
    (∃ r : Registry, r.folder = folderOf s ∧ generate call.own call.disk
        ⟨c, { s with outputDir := lastGiven s.outputDir (calls ++ [call]) }, r⟩ =
          (result, g', disk')) ∧
      WorksIn { s with outputDir := lastGiven s.outputDir (calls ++ [call]) } (outputs c s) call.disk
        result disk' ∧
      ((∀ other ∈ calls ++ [call], ∀ dir, other.output = some dir → dir = s.outputDir) →
        WorksIn s (outputs c s) call.disk result disk') := by
  obtain ⟨hcomponent, hsettings, hfolder⟩ := after_keeps (fresh c s) calls
  have hgenerator : ((fresh c s).after calls).withOutput
      (call.output.getD ((fresh c s).after calls).settings.outputDir) =
        ⟨c, { s with outputDir := lastGiven s.outputDir (calls ++ [call]) },
          ((fresh c s).after calls).registry⟩ := by
    rw [withOutput, hcomponent, hsettings, lastGiven_concat]
    rfl
  rw [generateTo_eq, hgenerator] at h
  have hworks : WorksIn { s with outputDir := lastGiven s.outputDir (calls ++ [call]) }
      (outputs c s) call.disk result disk' := worksIn_generate h
  refine ⟨⟨_, hfolder, h⟩, hworks, fun hgiven => ?_⟩
  rw [lastGiven_eq hgiven] at hworks
  exact hworks

/-! ### Two calls over the same files -/

/-- Over the files of its run a generator does the same once more. -/
theorem generate_repeats {report : Report} (hapart : Apart c s disk.here)
    (h : (fresh c s).generate own disk = (.ok report, g', disk')) :
    ∃ g'', g'.generate own disk = (.ok report, g'', disk') := by
  obtain ⟨hends, r, rfl, hr, hf⟩ := ends_of_fresh hapart h
  cases hends with
  | reported hs hl hfault hwrite =>
    obtain ⟨r', hgen⟩ := generate_of_written hf hr hapart hs hl hfault hwrite
    exact ⟨_, hgen⟩

/-- A call with a directory and one without, over the sample files: both have the same report. -/
theorem sample_calls (configured : FilePath) : ∃ g₁ g₂ left,
    (fresh sampleComponent (sampleSettings configured)).generateTo sampleOwnership sampleDisk
      (some (.ofString "out")) = (.ok sampleReport, g₁, left) ∧
    g₁.generateTo sampleOwnership sampleDisk none = (.ok sampleReport, g₂, left) := by
  obtain ⟨g₁, hfirst⟩ := sample_run_out
  obtain ⟨g₂, hsecond⟩ := generate_repeats sample_apart hfirst
  exact ⟨g₁, g₂, _, hfirst, hsecond⟩

/-- Two calls, with the directory that is configured and with none, work under it. -/
theorem generateTo_worksIn_sample : ∃ g₁ g₂ left,
    (fresh sampleComponent (sampleSettings (.ofString "out"))).generateTo sampleOwnership sampleDisk
      (some (.ofString "out")) = (.ok sampleReport, g₁, left) ∧
    g₁.generateTo sampleOwnership sampleDisk none = (.ok sampleReport, g₂, left) ∧
    WorksIn (sampleSettings (.ofString "out"))
      (outputs sampleComponent (sampleSettings (.ofString "out"))) sampleDisk (.ok sampleReport)
      left := by
  obtain ⟨g₁, g₂, left, hfirst, hsecond⟩ := sample_calls (.ofString "out")
  let calls : List Call := [⟨sampleOwnership, sampleDisk, some (.ofString "out")⟩]
  have hafter : (fresh sampleComponent (sampleSettings (.ofString "out"))).after calls = g₁ :=
    congrArg (·.2.1) hfirst
  rw [← hafter] at hsecond
  have hworks := generateTo_worksIn calls ⟨sampleOwnership, sampleDisk, none⟩ hsecond
  rw [hafter] at hsecond
  refine ⟨g₁, g₂, left, hfirst, hsecond, hworks.2.2 ?_⟩
  simp [calls, sampleSettings]

/-- The second call is given no directory, and it does not work under the one that is configured:
there it would have found nothing of the file that it reports as kept. -/
theorem generateTo_keeps_directory : ∃ g₁ g₂ left,
    (fresh sampleComponent (sampleSettings (.ofString "new"))).generateTo sampleOwnership sampleDisk
      (some (.ofString "out")) = (.ok sampleReport, g₁, left) ∧
    g₁.generateTo sampleOwnership sampleDisk none = (.ok sampleReport, g₂, left) ∧
    ¬WorksIn (sampleSettings (.ofString "new"))
      (outputs sampleComponent (sampleSettings (.ofString "new"))) sampleDisk (.ok sampleReport)
      left := by
  obtain ⟨g₁, g₂, left, hfirst, hsecond⟩ := sample_calls (.ofString "new")
  refine ⟨g₁, g₂, left, hfirst, hsecond, fun hworks => ?_⟩
  obtain ⟨ds, -, -, hfiles⟩ := hworks.drafts
  have hwrite := hfiles sampleReport rfl
  cases ds with
  | nil => cases hwrite
  | cons d ds =>
    obtain ⟨f, m, rest, hd, -, hreport⟩ := writeDrafts_cons_eq_ok hwrite
    obtain ⟨found, hfound, rfl, -⟩ := Draft.write_eq_ok hd
    obtain ⟨hfile, -⟩ := List.cons.inj hreport
    -- Nothing is found at the target under the directory that is configured.
    have hrelative : FilePath.ofString "Drive.txt" = d.relative := congrArg GeneratedFile.path hfile
    have hnone : foundText sampleDisk (d.target (sampleSettings (.ofString "new"))) = .ok none := by
      rw [Draft.target, ← hrelative]
      rfl
    rw [hnone] at hfound
    cases hfound
    have hstatus := congrArg GeneratedFile.status hfile
    cases hstatus

end Generator

end Scaffold
