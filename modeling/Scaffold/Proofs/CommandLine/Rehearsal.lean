import Scaffold.Proofs.CommandLine.Showing
import Scaffold.Proofs.Generation.Run

/-! Dry runs.  A dry run writes nothing, and it reports what the run would report: no write of a run
has a part in what a later one finds at its target. -/
namespace Scaffold

open FileTree Model Template

/-! ### Dry runs of drafts -/

section
variable {s : Settings} {ds : List Draft} {t₀ t t' : FileTree} {places : List Place}
  {files : List GeneratedFile}

/-- The settings of a dry run. -/
def Settings.rehearsed (s : Settings) : Settings := { s with dryRun := true }

/-- What a run reports on drafts a dry run reports too, from the tree before the run. -/
theorem run_writeDrafts_rehearsed (hp : Pending s t₀ t places ds)
    (h : (writeDrafts s ds).run t = (.ok files, t')) :
    (writeDrafts s.rehearsed ds).run t₀ = (.ok files, t₀) := by
  induction ds generalizing t places files with
  | nil =>
    cases h
    rfl
  | cons d ds ih =>
    obtain ⟨f, m, rest, hd, hds, rfl⟩ := writeDrafts_cons_eq_ok h
    obtain ⟨found, hfound, rfl, -⟩ := Draft.write_eq_ok hd
    have hone : (d.write s.rehearsed).run t₀ = (.ok (d.file s (statusOf s found d.text)), t₀) := by
      have htarget₀ : d.target s.rehearsed = d.target s := rfl
      rw [Draft.run_write_of_dryRun rfl, htarget₀, hp.found_before List.mem_cons_self hfound]
      rfl
    have hlater := hp.tail
    rw [hd] at hlater
    rw [run_writeDrafts_cons, hone]
    simp only [ih hlater hds]

end

/-! ### Dry runs of a generator -/

namespace Generator

variable {own : Ownership} {disk disk' : FileTree} {c : Component} {s : Settings}
  {report : Report} {g' : Generator}

/-- A dry run reports what it would write, if it finds no fault. -/
theorem generate_rehearsed_of_written {files : List GeneratedFile} (hapart : Apart c s disk.here)
    (hs : (fresh c s).selected = .ok (participants c s)) (hl : IsLoaded disk s)
    (hfault : ∀ t ∈ participants c s, fault? own disk s t = none)
    (hw : (writeDrafts s.rehearsed (drafts own disk c s)).run disk = (.ok files, disk)) :
    ∃ g, (fresh c s.rehearsed).generate own disk =
      (.ok ⟨files, (participants c s).filterMap (failure? own disk s)⟩, g, disk) := by
  have hf : (Registry.fresh (folderOf s)).IsFaithful disk s.taskTemplates.templates :=
    Registry.isFaithful_fresh disk _ _
  -- Nothing that a run works on depends on whether it is a dry one.
  obtain ⟨r, hgen⟩ := generate_of_written (s := s.rehearsed) hf rfl hapart hs hl hfault hw
  exact ⟨_, hgen⟩

theorem generate_rehearsed (hapart : Apart c s disk.here)
    (hshows : ∀ p ∈ targetPaths c s, disk.Shows p)
    (hrun : (fresh c s).generate own disk = (.ok report, g', disk')) :
    ∃ g'', (fresh c s.rehearsed).generate own disk = (.ok report, g'', disk) := by
  cases (ends_of_fresh hapart hrun).1 with
  | @reported files _ hs hl hfault hwrite =>
    have hshown : ∀ d ∈ drafts own disk c s, disk.Shows (d.target s) := by
      intro d hd
      exact hshows _ (List.mem_map_of_mem (mem_outputs_of_mem_drafts hd))
    have hdry : (writeDrafts s.rehearsed (drafts own disk c s)).run disk = (.ok files, disk) :=
      run_writeDrafts_rehearsed (.start (hapart.nodup_places (List.prefix_refl _)) hshown) hwrite
    exact generate_rehearsed_of_written hapart hs hl hfault hdry

/-- Whatever a generator meets, a dry run leaves the files alone. -/
theorem tree_generate_of_dryRun (g : Generator) (hdry : g.settings.dryRun = true)
    (own : Ownership) (disk : FileTree) : (g.generate own disk).2.2 = disk := by
  have hsettings := (g.prepare_keeps disk).settings
  unfold generate
  rcases hprepare : g.prepare disk with ⟨e | tasks, g'⟩
  · rfl
  · rw [hprepare] at hsettings
    exact (tree_writeAll own _ _ disk).trans
      (tree_writeDrafts_of_dryRun (hsettings ▸ hdry) _ disk)

end Generator

/-! ### Dry runs of the command line -/

namespace CommandLine

open Console

variable {a : Arguments} {p : Progress} {words : List Word} {s : Settings} {disk : FileTree}

/-- Among the words of a command line, before any double hyphen, is the option for a dry run, in
full or shortened. -/
def AsksDryRun (argv : List String) : Prop :=
  ∃ w ∈ argv.takeWhile (· ≠ "--"), ∃ short, wordOf w = .ok (.option .dryRun short none)

theorem mem_words_of_asksDryRun {argv : List String} (h : AsksDryRun argv)
    (hwords : wordsOf argv = .ok words) : ∃ short, Word.option .dryRun short none ∈ words := by
  obtain ⟨w, hw, short, hword⟩ := h
  refine ⟨short, ?_⟩
  induction argv generalizing words with
  | nil => cases hw
  | cons first rest ih =>
    rw [List.takeWhile_cons] at hw
    rw [wordsOf] at hwords
    by_cases hfirst : first = "--"
    · simp [hfirst] at hw
    · rw [if_pos (by simpa using hfirst)] at hw
      rw [if_neg hfirst] at hwords
      cases ho : wordOf first with
      | error e =>
        rw [ho] at hwords
        cases hwords
      | ok one =>
        cases hos : wordsOf rest with
        | error e =>
          rw [ho, hos] at hwords
          cases hwords
        | ok others =>
          rw [ho, hos] at hwords
          obtain rfl : one :: others = words := Except.ok.inj hwords
          rcases List.mem_cons.mp hw with rfl | hw
          · rw [hword] at ho
            rw [Except.ok.inj ho]
            exact List.mem_cons_self
          · exact List.mem_cons_of_mem _ (ih hos hw)

theorem dryRun_give (a : Arguments) (value : String) (f : Flag) :
    (a.give value f).dryRun = a.dryRun := by
  cases f <;> rfl

theorem dryRun_turnOn {f : Flag} (h : a.dryRun = true ∨ f = .dryRun) :
    (a.turnOn f).dryRun = true := by
  rcases h with h | rfl
  · cases f with
    | dryRun => rfl
    | _ => exact h
  · rfl

/-- Reading words does not pass over the option for a dry run. -/
theorem dryRun_of_readWords (h : readWords p words = .ok (.run a))
    (hw : p.arguments.dryRun = true ∨ ∃ short, Word.option .dryRun short none ∈ words) :
    a.dryRun = true := by
  fun_induction readWords p words with
  | case1 p =>
    unfold Progress.finish at h
    split at h
    · cases h
    · split at h
      · cases h
        simpa using hw
      · cases h
  | case2 p s _ rest _ ih => exact ih h (by simpa [Progress.pass] using hw)
  | case3 p s rest _ ih => exact ih h (by simpa using hw)
  | case4 p s rest _ _ ih => exact ih h (by simpa using hw)
  | case5 p s rest _ ih => exact ih h (by simpa using hw)
  | case6 p rest _ ih => exact ih h (by simpa [Progress.pass] using hw)
  | case7 p s rest ih => exact ih h (by simpa [Progress.pass] using hw)
  | case8 p f short hvalue v rest ih =>
    refine ih h (hw.imp ?_ ?_)
    · exact fun hp => (dryRun_give p.arguments _ f).trans hp
    · simp
  | case9 p f short hvalue s rest ih =>
    refine ih h (hw.imp ?_ ?_)
    · exact fun hp => (dryRun_give p.arguments _ f).trans hp
    · rintro ⟨short', hmem⟩
      refine ⟨short', ?_⟩
      simp only [List.mem_cons, Word.option.injEq, reduceCtorEq, false_or] at hmem
      rcases hmem with ⟨rfl, -, -⟩ | hmem
      · cases hvalue
      · exact hmem
  | case12 p f short rest _ _ ih =>
    refine ih h ?_
    rcases hw with hp | ⟨short', hmem⟩
    · exact .inl (dryRun_turnOn (.inl hp))
    · rcases List.mem_cons.mp hmem with hhead | hmem
      · cases hhead
        exact .inl (dryRun_turnOn (.inr rfl))
      · exact .inr ⟨short', hmem⟩
  -- In the other cases reading ends, and not with a run.
  | case10 | case11 | case13 | case14 | case15 => cases h

theorem dryRun_of_parse {argv : List String} (hasks : AsksDryRun argv)
    (h : parse argv = .ok (.run a)) : a.dryRun = true := by
  unfold parse at h
  cases hwords : wordsOf argv with
  | error e =>
    rw [hwords] at h
    cases h
  | ok words =>
    rw [hwords] at h
    exact dryRun_of_readWords h (.inr (mem_words_of_asksDryRun hasks hwords))

theorem tree_conclude_of_dryRun (screen : Screen) (hdry : s.dryRun = true) (r : Report)
    (took : Seconds) : (conclude screen s r took disk).2 = disk := by
  unfold conclude
  rw [hdry]
  split
  · exact tree_exiting screen 1 _ _
  · rw [if_pos rfl]
    exact tree_exiting screen 0 _ _

theorem tree_generate_of_dryRun (screen : Screen) (hdry : s.dryRun = true) (c : Component)
    (own : Ownership) (took : Seconds) : (generate screen c own s took disk).2 = disk := by
  have htree := (Generator.fresh c s).tree_generate_of_dryRun hdry own disk
  unfold generate
  rcases hgen : (Generator.fresh c s).generate own disk with ⟨e | report, g, disk'⟩
  · rw [hgen] at htree
    obtain rfl : disk' = disk := htree
    exact tree_showing (tree_stop screen _ _) _
  · rw [hgen] at htree
    obtain rfl : disk' = disk := htree
    refine tree_showing ?_ _
    exact tree_showing (tree_conclude_of_dryRun screen hdry report took) _

/-- A command line that asks for a dry run changes no entry, whatever the run meets. -/
theorem tree_run_of_asksDryRun {argv : List String} (hasks : AsksDryRun argv) (screen : Screen)
    (environment : List (String × String)) (took : Seconds) (disk : FileTree) :
    (run screen argv environment took disk).2 = disk := by
  unfold run
  split
  · rfl
  · rfl
  · next a hparse =>
    have hdry : ∀ s, (a.override s).dryRun = true := fun _ => dryRun_of_parse hasks hparse
    unfold runFor
    dsimp only
    split
    · rfl
    · exact tree_stop screen _ _
    · split
      · exact tree_stop screen _ _
      · split
        · exact tree_stop screen _ _
        · exact tree_generate_of_dryRun screen (hdry _) _ _ took

theorem asksDryRun_of_mem {argv : List String} (h : "--dry-run" ∈ argv.takeWhile (· ≠ "--")) :
    AsksDryRun argv :=
  ⟨_, h, false, by rfl⟩

/-- If the tree shows what is at the targets of a run, a dry run changes nothing and reports what
the run reports.  A command line with the option for a dry run changes nothing in any case, on
whatever screen. -/
theorem dryRun_rehearses (disk : FileTree) :
    (∀ (own : Ownership) (c : Component) (s : Settings) (report : Report) (g : Generator)
      (disk' : FileTree), Generator.Apart c s disk.here →
      (∀ p ∈ Generator.targetPaths c s, disk.Shows p) →
      (Generator.fresh c s).generate own disk = (.ok report, g, disk') →
      ∃ g', (Generator.fresh c s.rehearsed).generate own disk = (.ok report, g', disk)) ∧
    ∀ (screen : Screen) (argv : List String) (environment : List (String × String))
      (took : Seconds), AsksDryRun argv → (run screen argv environment took disk).2 = disk := by
  constructor
  · intro own c s report g disk' hapart hshows hrun
    exact Generator.generate_rehearsed hapart hshows hrun
  · intro screen argv environment took hasks
    exact tree_run_of_asksDryRun hasks screen environment took disk

open Generator in
theorem dryRun_rehearses_sample :
    (∃ g, (fresh sampleComponent (sampleSettings (.ofString "out")).rehearsed).generate
      sampleOwnership sampleDisk = (.ok sampleReport, g, sampleDisk)) ∧
    (run .terminal ["nav.json", "--dry-run"] [] (.whole 0) sampleDisk).2 = sampleDisk := by
  obtain ⟨g, hrun⟩ := sample_run_out
  constructor
  · exact (dryRun_rehearses sampleDisk).1 _ _ _ _ _ _ sample_apart sample_shows hrun
  · exact (dryRun_rehearses sampleDisk).2 .terminal _ [] (.whole 0) (asksDryRun_of_mem (by decide))

open Generator in
/-- By the detour a dry run does not see the second of the files that were edited; the run itself
sees it, since writing the first one made the directory that was missing. -/
theorem dryRun_by_detour_differs :
    ((outputPlaces sampleComponent (sampleSettings sampleDetour) sampleDisk.here).Pairwise
      fun p q => ¬ p <+: q ∧ ¬ q <+: p) ∧
    ∃ report g disk' report' g',
      (fresh sampleComponent (sampleSettings sampleDetour)).generate sampleOwnership sampleDisk =
        (.ok report, g, disk') ∧
      (fresh sampleComponent (sampleSettings sampleDetour).rehearsed).generate sampleOwnership
        sampleDisk = (.ok report', g', sampleDisk) ∧
      report.files.map (·.status) = [.created, .kept, .created] ∧
      report'.files.map (·.status) = [.created, .created, .created] := by
  have hselected : (fresh sampleComponent (sampleSettings sampleDetour)).selected =
      .ok (participants sampleComponent (sampleSettings sampleDetour)) := by
    rw [sample_participants]
    exact sample_selected sampleDetour
  have hdry : (writeDrafts (sampleSettings sampleDetour).rehearsed
      (drafts sampleOwnership sampleDisk sampleComponent (sampleSettings sampleDetour))).run
        sampleDisk = (.ok [
          ⟨"nav::Drive", .ofString "Drive.txt", .created, none⟩,
          ⟨"nav::Stop", .ofString "Stop.txt", .created, none⟩,
          ⟨"nav::Turn", .ofString "Turn.txt", .created, none⟩], sampleDisk) := by
    rw [sample_drafts]
    exact Prod.ext (by decide) (tree_writeDrafts_of_dryRun rfl _ _)
  obtain ⟨g, hrun⟩ := sample_run detour_apart detour_written.1
  obtain ⟨g', hrehearsed⟩ := generate_rehearsed_of_written detour_apart hselected
    (sample_loaded sampleDetour) (sample_fault sampleDetour) hdry
  refine ⟨?_, _, g, _, _, g', hrun, hrehearsed, rfl, rfl⟩
  rw [detour_outputPlaces, sample_outputPlaces]
  decide

end CommandLine

end Scaffold
