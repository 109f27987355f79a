import Scaffold.CommandLine.Consulted
import Scaffold.Proofs.CommandLine.ExitStatus
import Scaffold.Proofs.Console.Markup

/-! Runs from saved settings.  A run leaves its settings beside its output; a run from them, in
whatever environment, finds all its drafts settled, and writes nothing but what is there. -/
namespace Scaffold

open FileTree Model Template

/-! ### Drafts under saved settings -/

section
variable {s : Settings} {d : Draft} {ds : List Draft} {t t' : FileTree} {places : List Place}
  {status : FileStatus} {files : List GeneratedFile}

/-- What a run settled is settled for a run that does not overwrite. -/
theorem Draft.Settled.saved (h : d.Settled s t status) : d.Settled s.saved t status := by
  cases h with
  | target hs hx => exact .target hs hx
  | reference _ hne hx hr => exact .reference rfl hne hx hr

theorem settled_saved (h : List.Forall₂
      (fun d f => ∃ status, f = d.file s status ∧ d.Settled s t status) ds files)
    (hc : t.ChangesWithin t' places)
    (hd : ∀ d ∈ ds, ∀ place ∈ d.places s t.here, place ∉ places) :
    List.Forall₂ (fun d f => ∃ status, f = d.file s.saved status ∧ d.Settled s.saved t' status)
      ds files := by
  induction h with
  | nil => exact .nil
  | cons hfirst _ ih =>
    obtain ⟨hfirst', hrest⟩ := List.forall_mem_cons.mp hd
    obtain ⟨status, rfl, hsettled⟩ := hfirst
    exact .cons ⟨status, rfl, (hsettled.mono hc hfirst').saved⟩ (ih hrest)

end

namespace CommandLine

open Console Generator
open Settings (of_run_save run_save_again)

variable {screen : Screen} {a : Arguments} {environment : List (String × String)}
  {took : Seconds} {disk disk' left : FileTree} {c : Component} {own : Ownership} {s : Settings}
  {o : Outcome} {files : List GeneratedFile} {g : Generator}

/-! ### Arguments that name the settings file -/

/-- The arguments of a run for the same project from the settings that were saved. -/
def Arguments.fromSaved (a : Arguments) (s : Settings) : Arguments :=
  ⟨a.project, none, none, some (.text s.filePath.text), none, false, false⟩

theorem given?_filePath (s : Settings) :
    given? (some (.text s.filePath.text)) = some s.filePath.text := by
  have hsize := one_le_utf8ByteSize_text s.filePath
  have hne : s.filePath.text.isEmpty = false := by
    rw [Bool.eq_false_iff]
    intro hempty
    rw [String.isEmpty_iff.mp hempty] at hsize
    exact absurd hsize (by decide)
  rw [given?, hne]
  rfl

theorem filePath_text_ne (s : Settings) : s.filePath.text ≠ "--" := by
  intro htext
  have hpath := s.filePath.ofString_text
  rw [htext] at hpath
  have hlast := congrArg (·.parts.getLast?) hpath
  have hparts : s.filePath.parts = s.outputDir.parts ++ [Settings.fileName] := rfl
  have hdouble : (FilePath.ofString "--").parts.getLast? = some "--" := by decide
  rw [hparts, List.getLast?_concat, hdouble] at hlast
  exact absurd (Option.some.inj hlast) (by decide)

theorem wordOf_config (value : String) :
    wordOf ("--config=" ++ value) = .ok (.option .config false (some value.toList)) := by
  have hchars : ("--config=" ++ value).toList = "--config".toList ++ '=' :: value.toList := by
    rw [String.toList_append]
    rfl
  have hplain : ∀ c ∈ "--config".toList, (c != '=') = true := List.all_eq_true.mp rfl
  have hsplit : splitValue ("--config=" ++ value).toList =
      ("--config".toList, some value.toList) := by
    rw [splitValue, hchars, List.takeWhile_append_of_pos hplain,
      List.dropWhile_append_of_pos hplain]
    rfl
  have hnone : flagOf? ("--config=" ++ value).toList = none := by
    have hspellings : ∀ p ∈ spellings, '=' ∉ p.1.toList := by decide
    rw [flagOf?, String.ofList_toList, List.lookup_eq_none_iff]
    intro p hp
    rw [bne_iff_ne]
    intro heq
    refine hspellings p hp ?_
    rw [← heq, hchars]
    simp
  have hlength : ("--config=" ++ value).toList.length ≠ 1 := by
    have height : "--config".toList.length = 8 := by decide
    rw [hchars, List.length_append, height]
    omega
  have hhead : ("--config=" ++ value).toList.head? = some '-' := by
    rw [hchars]
    rfl
  have hflag : flagOf? "--config".toList = some .config := by decide
  unfold wordOf
  simp only [hhead, hnone, hlength, hsplit, hflag, ne_eq, not_true_eq_false, if_false]
  rfl

/-- Words that ask for a run from saved settings. -/
theorem parse_fromSaved (a : Arguments) (s : Settings) :
    parse ["--config=" ++ s.filePath.text, "--", a.project] = .ok (.run (a.fromSaved s)) := by
  have hne : "--config=" ++ s.filePath.text ≠ "--" := by
    intro heq
    have hlength := congrArg String.length heq
    have hnine : "--config=".length = 9 := by decide
    have htwo : "--".length = 2 := by decide
    rw [String.length_append, hnine, htwo] at hlength
    omega
  have hwords : wordsOf ["--config=" ++ s.filePath.text, "--", a.project] =
      .ok [.option .config false (some s.filePath.text.toList), .separator, .plain a.project] := by
    rw [wordsOf, if_neg hne, wordOf_config]
    rfl
  have hgiven : Given.ofText (String.ofList s.filePath.text.toList) = .text s.filePath.text := by
    rw [String.ofList_toList, Given.ofText, if_neg (filePath_text_ne s)]
  have hgive : (⟨"", none, none, none, none, false, false⟩ : Arguments).give
      (String.ofList s.filePath.text.toList) .config =
        ⟨"", none, none, some (.text s.filePath.text), none, false, false⟩ := by
    rw [Arguments.give, hgiven]
  rw [parse, hwords]
  change readWords Progress.start _ = _
  have hvalue : Flag.config.takesValue = true := rfl
  rw [readWords, if_pos hvalue, Progress.change, Progress.start, hgive]
  · rfl
  · exact nofun

theorem baseSettings_fromSaved (environment : List (String × String))
    (h : disk.readBytes s.filePath = .ok s.toJson.toUTF8) :
    baseSettings (a.fromSaved s) environment disk = .ok s.saved := by
  unfold baseSettings Arguments.fromSaved
  simp only [given?_filePath, FilePath.ofString_text, Settings.load_of_readBytes h]

/-! ### The second run -/

/-- What a run tells that writes files without failures and saves its settings. -/
def noticesOfSuccess (c : Component) (s : Settings) (files : List GeneratedFile)
    (took : Seconds) : List Notice :=
  .header ("Generating " ++ c.name) :: (noticesOf c s ⟨files, []⟩ ++
    .line ("Settings saved to " ++ s.filePath.text) :: completion took)

/-- A run whose report is without failures saves its settings and succeeds, if all that it tells
can be shown. -/
theorem generate_of_report (hgen : (fresh c s).generate own disk = (.ok ⟨files, []⟩, g, left))
    (hreal : s.dryRun = false) (hsave : (s.save none).run left = (.ok s.filePath, disk'))
    (hshown : ∀ notice ∈ noticesOfSuccess c s files took, screen notice = .ok ()) :
    generate screen c own s took disk = (⟨noticesOfSuccess c s files took, .exit 0⟩, disk') := by
  have hsuccess : (⟨files, []⟩ : Report).success = true := rfl
  obtain ⟨hheader, hlater⟩ := List.forall_mem_cons.mp hshown
  obtain ⟨hreport, hclosing⟩ := List.forall_mem_append.mp hlater
  unfold generate
  rw [hgen]
  simp only [conclude, exiting, hsuccess, hreal, hsave, Bool.not_true, Bool.false_eq_true,
    if_false]
  rw [showing_of_shown hclosing, showing_of_shown hreport,
    showing_of_shown (List.forall_mem_singleton.mpr hheader)]
  simp [noticesOfSuccess, Outcome.after]

theorem noticesOf_saved (hreal : s.dryRun = false) (c : Component) (report : Report) :
    noticesOf c s.saved report = noticesOf c s report := by
  unfold noticesOf tableOf
  rw [hreal]
  rfl

theorem not_mem_status (status : FileStatus) : '[' ∉ status.text.toList := by
  cases status <;> decide

/-- The same files are kept again, and what is told of them is the same. -/
theorem warnings_again (files : List GeneratedFile) (failures : List TaskFailure) :
    ((Report.again ⟨files, failures⟩).withStatus .kept).map warningOf =
      (Report.withStatus ⟨files, failures⟩ .kept).map warningOf := by
  have hkept (f : GeneratedFile) : (f.again.status = .kept) ↔ f.status = .kept := by
    unfold GeneratedFile.again
    cases f.status <;> simp [FileStatus.again]
  unfold Report.withStatus Report.again
  rw [List.filter_map, List.map_map]
  simp only [Function.comp_def, hkept]
  rfl

/-- What is told of a run from saved settings can be shown if what was told of the first run was. -/
theorem shown_again (hwords : screen.ShowsWords) (took' : Seconds)
    (h : ∀ notice ∈ noticesOfSuccess c s files took, screen notice = .ok ()) :
    ∀ notice ∈ noticesOfSuccess c s (files.map .again) took', screen notice = .ok () := by
  obtain ⟨hheader, hlater⟩ := List.forall_mem_cons.mp h
  obtain ⟨hreport, hclosing⟩ := List.forall_mem_append.mp hlater
  obtain ⟨htable, hwarnings⟩ := List.forall_mem_cons.mp hreport
  obtain ⟨hsaved, hcompletion⟩ := List.forall_mem_cons.mp hclosing
  refine List.forall_mem_cons.mpr ⟨hheader, List.forall_mem_append.mpr
    ⟨List.forall_mem_cons.mpr ⟨?_, ?_⟩, List.forall_mem_cons.mpr ⟨hsaved, ?_⟩⟩⟩
  · refine hwords.table htable ?_ ?_
    · rw [List.map_map, List.map_map, List.map_map]
      rfl
    · intro row hrow
      obtain ⟨f, -, rfl⟩ := List.mem_map.mp hrow
      exact not_mem_status f.status
  · have hsame := warnings_again files []
    unfold Report.again at hsame
    rw [hsame]
    exact hwarnings
  · obtain ⟨-, hend⟩ := List.forall_mem_cons.mp hcompletion
    refine List.forall_mem_cons.mpr ⟨hwords.success ?_, hend⟩
    rw [String.toList_append, List.mem_append, not_or]
    exact ⟨by decide, took'.not_mem_shown⟩

section
variable (hwrite : (writeDrafts s (drafts own disk c s)).run disk = (.ok files, left))
  (hsave : (s.save none).run left = (.ok s.filePath, disk'))
include hwrite hsave

/-- A run writes at its output places and in its settings file. -/
theorem changesWithin_run : disk.ChangesWithin disk'
    (outputPlaces c s disk.here ++ [s.filePath.denoted disk.here]) := by
  have hc := changesWithin_writeDrafts s (drafts own disk c s) disk
  rw [hwrite] at hc
  have hleft := hc.mono (places_subset (List.prefix_refl _))
  have hsaved := (of_run_save hsave).2.2
  rw [hleft.here] at hsaved
  exact hleft.trans hsaved

/-- The drafts of a run are settled in the tree that it leaves. -/
theorem settled_of_run (hreal : s.dryRun = false)
    (hplaces : (outputPlaces c s disk.here ++ [s.filePath.denoted disk.here]).Nodup)
    (hplain : ∀ d ∈ drafts own disk c s, '\r' ∉ d.text.toList) :
    List.Forall₂ (fun d f => ∃ status, f = d.file s.saved status ∧ d.Settled s.saved disk' status)
      (drafts own disk c s) files := by
  obtain ⟨hapart, -, hdisjoint⟩ := List.nodup_append.mp hplaces
  have hapart : Apart c s disk.here := hapart
  have hsettled := settled_of_writeDrafts hreal hplain
    (hapart.nodup_places (List.prefix_refl _)) hwrite
  have hhere : left.here = disk.here := by
    have hc := changesWithin_writeDrafts s (drafts own disk c s) disk
    rw [hwrite] at hc
    exact hc.here
  refine settled_saved hsettled (of_run_save hsave).2.2 fun d hd place hplace hmem => ?_
  rw [hhere] at hplace hmem
  exact hdisjoint place (places_subset (List.prefix_refl _) (List.mem_flatMap.mpr ⟨d, hd, hplace⟩))
    place hmem rfl

/-- A run with the saved settings, over what the first run left. -/
theorem generate_saved (hcan : CanGenerate disk c s)
    (hfault : ∀ t ∈ participants c s, fault? own disk s t = none)
    (hfailure : ∀ t ∈ participants c s, failure? own disk s t = none) (hreal : s.dryRun = false)
    (hplaces : (outputPlaces c s disk.here ++ [s.filePath.denoted disk.here]).Nodup)
    (hinputs : ∀ p ∈ templatePaths s, p.denoted disk.here ∉
      outputPlaces c s disk.here ++ [s.filePath.denoted disk.here])
    (hplain : ∀ d ∈ drafts own disk c s, '\r' ∉ d.text.toList)
    (hshown : ∀ notice ∈ noticesOfSuccess c s.saved (files.map .again) took,
      screen notice = .ok ()) :
    CanGenerate disk' c s.saved ∧ ∃ disk'', generate screen c own s.saved took disk' =
      (⟨noticesOfSuccess c s.saved (files.map .again) took, .exit 0⟩, disk'') ∧
      disk'.Agrees disk'' := by
  have hc := changesWithin_run hwrite hsave
  have hload := load_again hc hinputs hcan.templates
  -- Nothing that a run works on depends on whether it overwrites.
  have hrenderings : renderings own disk' s.saved = renderings own disk s :=
    renderings_congr own hload
  obtain ⟨hdraftsOf, hfailure', hfault'⟩ := outcomes_congr hrenderings
  have hparticipants : participants c s.saved = participants c s := rfl
  have hdrafts : drafts own disk' c s.saved = drafts own disk c s := by
    rw [drafts, drafts, hparticipants, hdraftsOf]
  have hcan' : CanGenerate disk' c s.saved := ⟨hcan.tasks, IsLoaded.congr hcan.templates hload⟩
  have hapart : Apart c s disk.here := (List.nodup_append.mp hplaces).1
  obtain ⟨left', hagain, hagrees⟩ := run_writeDrafts_of_settled
    (settled_of_run hwrite hsave hreal hplaces hplain) (.refl disk')
  rw [← hdrafts] at hagain
  rw [← hfault'] at hfault
  rw [← hfailure'] at hfailure
  have hnone : (participants c s.saved).filterMap (failure? own disk' s.saved) = [] :=
    List.filterMap_eq_nil_iff.mpr hfailure
  obtain ⟨r, hgen⟩ := generate_of_written (s := s.saved)
    (Registry.isFaithful_fresh disk' _ _) rfl (hc.here ▸ hapart) hcan'.selected hcan'.templates
    hfault hagain
  rw [hnone] at hgen
  have hfile : left'.readBytes s.filePath = .ok s.toJson.toUTF8 :=
    hagrees.changesWithin.readBytes List.not_mem_nil (of_run_save hsave).2.1
  obtain ⟨disk'', hsave', hagrees'⟩ := run_save_again none hfile
  exact ⟨hcan', disk'', generate_of_report hgen rfl hsave' hshown, hagrees.trans hagrees'⟩

end

/-! ### Runs for the tasks that are rendered -/

def sampleNames : List String := ["Drive", "Stop", "Turn"]

theorem sampleNames_there :
    ∀ name ∈ sampleNames, ∃ t ∈ sampleComponent.tasks, t.basename = name := by
  decide

theorem participants_sampleNames : participants sampleComponent (settingsFor sampleNames) =
    [sampleDrive, sampleStop, sampleTurn] :=
  participants_of_selected rfl

theorem outputPlaces_sampleNames :
    outputPlaces sampleComponent (settingsFor sampleNames) sampleDisk.here =
      [["w", "out", "Drive.txt"], ["w", "out", "Stop.txt"], ["w", "out", "Turn.txt"],
        ["w", "out", "templates", "Drive.txt"], ["w", "out", "templates", "Stop.txt"],
        ["w", "out", "templates", "Turn.txt"]] := by
  obtain ⟨hdrive, -, hstop, hturn⟩ := sample_outputPaths (.ofString "out")
  have houtputs : outputs sampleComponent (settingsFor sampleNames) =
      [.ofString "Drive.txt", .ofString "Stop.txt", .ofString "Turn.txt"] := by
    have hone {t : Task} {path : FilePath} (h : (sampleSettings (.ofString "out")).outputPath "t"
        t.basename = .ok path) : outputsOf (settingsFor sampleNames) t = [path] := by
      have hsettings : outputsOf (settingsFor sampleNames) t =
          outputsOf (sampleSettings (.ofString "out")) t := rfl
      rw [hsettings, outputsOf, sample_templates, List.filterMap_cons_some (by rw [h]; rfl),
        List.filterMap_nil]
    rw [outputs, participants_sampleNames]
    simp only [List.flatMap_cons, List.flatMap_nil, List.append_nil, List.cons_append,
      List.nil_append, hone (t := sampleDrive) hdrive, hone (t := sampleStop) hstop,
      hone (t := sampleTurn) hturn]
  rw [outputPlaces, targetPaths, referencePaths, houtputs]
  rfl

theorem drafts_sampleNames : drafts sampleOwnership sampleDisk sampleComponent
    (settingsFor sampleNames) = sampleDrafts := by
  obtain ⟨hdrive, -, hstop, hturn⟩ := sample_renderings (.ofString "out")
  have hone (t : Task) : draftsOf sampleOwnership sampleDisk (settingsFor sampleNames) t =
      draftsOf sampleOwnership sampleDisk (sampleSettings (.ofString "out")) t :=
    draftsOf_congr rfl
  rw [drafts, participants_sampleNames]
  simp only [List.flatMap_cons, List.flatMap_nil, hone, (of_rendered hdrive).1,
    (of_rendered hstop).1, (of_rendered hturn).1]
  rfl

theorem run_sampleNames : ∃ o left, run .terminal ["nav.json", "--config=conf.json"] [] (.whole 0)
    (projectFor (settingsFor sampleNames)) = (o, left) ∧ o.ending = .exit 0 := by
  have hapart : Apart sampleComponent (settingsFor sampleNames) sampleDisk.here := by
    rw [Apart, outputPlaces_sampleNames]
    decide
  have hsub : participants sampleComponent (settingsFor sampleNames) ⊆ sampleComponent.tasks := by
    rw [participants_sampleNames]
    decide
  have hfiles : ((writeDrafts (settingsFor sampleNames)
      (drafts sampleOwnership sampleDisk sampleComponent (settingsFor sampleNames))).run
        (projectFor (settingsFor sampleNames))).1 = .ok sampleReport.files := by
    rw [drafts_sampleNames]
    decide +kernel
  have hfailures : (participants sampleComponent (settingsFor sampleNames)).filterMap
      (failure? sampleOwnership sampleDisk (settingsFor sampleNames)) = [] := by
    obtain ⟨hdrive, -, hstop, hturn⟩ := sample_renderings (.ofString "out")
    have hone (t : Task) : failure? sampleOwnership sampleDisk (settingsFor sampleNames) t =
        failure? sampleOwnership sampleDisk (sampleSettings (.ofString "out")) t :=
      failure?_congr rfl
    rw [participants_sampleNames]
    simp only [List.filterMap_cons, List.filterMap_nil, hone, (of_rendered hdrive).2.1,
      (of_rendered hstop).2.1, (of_rendered hturn).2.1]
  have hsaved : (((settingsFor sampleNames).save none).run ((writeDrafts (settingsFor sampleNames)
      sampleDrafts).run (projectFor (settingsFor sampleNames))).2).1 =
        .ok (settingsFor sampleNames).filePath := by
    decide +kernel
  obtain ⟨g, hgen⟩ := exists_generate_projectFor sampleNames_there hapart hsub hfiles
  rw [hfailures, drafts_sampleNames] at hgen
  rw [run, sample_parse]
  dsimp only
  rw [runFor_of_ready _ _ (ready_projectFor [] sampleNames_there)]
  generalize projectFor (settingsFor sampleNames) = disk at *
  generalize ((writeDrafts (settingsFor sampleNames) sampleDrafts).run disk).2 = left at *
  rcases hsave : ((settingsFor sampleNames).save none).run left with ⟨result, disk'⟩
  rw [hsave] at hsaved
  obtain rfl : result = .ok (settingsFor sampleNames).filePath := hsaved
  refine ⟨_, _, generate_of_report hgen rfl hsave fun notice hnotice => terminal_of_plain ?_, rfl⟩
  revert notice
  decide +kernel

/-- A run that succeeded is repeated by a run for the same project from the settings that it saved.
In any environment the second run succeeds, leaves all entries as they are, and reports the same
files, unchanged or still kept.  Of the screen only this is asked: it shows other words beside the
files of a table, and a success told in words, as a terminal does. -/
theorem run_again {argv : List String} {disk₁ : FileTree} (hwords : screen.ShowsWords)
    (hparse : parse argv = .ok (.run a))
    (hrun : run screen argv environment took disk = (o, disk₁)) (hexit : o.ending = .exit 0)
    (hreal : a.dryRun = false) (hready : IsReady a environment disk c own s)
    (hplaces : (outputPlaces c s disk.here ++ [s.filePath.denoted disk.here]).Nodup)
    (hinputs : ∀ p ∈ FilePath.ofString a.project :: templatePaths s, p.denoted disk.here ∉
      outputPlaces c s disk.here ++ [s.filePath.denoted disk.here])
    (hplain : ∀ d ∈ drafts own disk c s, '\r' ∉ d.text.toList) :
    ∃ files closing, o.notices =
        .header ("Generating " ++ c.name) :: (noticesOf c s ⟨files, []⟩ ++ closing) ∧
      parse ["--config=" ++ s.filePath.text, "--", a.project] = .ok (.run (a.fromSaved s)) ∧
      ∀ argv' environment' took', parse argv' = .ok (.run (a.fromSaved s)) →
        ∃ disk₂, run screen argv' environment' took' disk₁ =
          (⟨.header ("Generating " ++ c.name) :: (noticesOf c s (Report.again ⟨files, []⟩) ++
            .line ("Settings saved to " ++ s.filePath.text) :: completion took'), .exit 0⟩,
            disk₂) ∧ disk₁.Agrees disk₂ := by
  have hrunFor : runFor screen a environment took disk = (o, disk₁) := by
    rw [← hrun, run, hparse]
  have hexits := exits_of_ready hrunFor hexit hready
  have hshown : o.IsShown screen := by
    have h := isShown_generate screen c own s took disk
    rwa [← runFor_of_ready screen took hready, hrunFor] at h
  have hdry : s.dryRun = false := by
    obtain ⟨base, -, rfl⟩ := hready.configured
    exact hreal
  obtain ⟨hproject, htemplates⟩ := List.forall_mem_cons.mp hinputs
  unfold Outcome.IsShown at hshown
  generalize o.notices = notices at hexits hshown ⊢
  cases hexits with
  | @succeeded files closing _ left _ hcan hfault hfailure hwrite hend =>
    have hapart : Apart c s disk.here := (List.nodup_append.mp hplaces).1
    rw [hapart.flatMap_writtenOf own disk (List.Subset.refl _)] at hwrite
    obtain ⟨-, hsave, rfl⟩ := hend.resolve_left fun h => by simp [hdry] at h
    have hnone : (participants c s).filterMap (failure? own disk s) = [] :=
      List.filterMap_eq_nil_iff.mpr hfailure
    rw [hnone] at hshown ⊢
    refine ⟨files, _, rfl, parse_fromSaved a s, fun argv' environment' took' hparse' => ?_⟩
    have hsaved (files : List GeneratedFile) : noticesOfSuccess c s.saved files took' =
        noticesOfSuccess c s files took' := by
      rw [noticesOfSuccess, noticesOf_saved hdry]
      rfl
    have hshown' := shown_again hwords took' hshown
    rw [← hsaved] at hshown'
    obtain ⟨hcan', disk₂, hgen, hagrees⟩ := generate_saved hwrite hsave hcan hfault hfailure
      hdry hplaces htemplates hplain hshown'
    obtain ⟨hpresent, hdescribed⟩ := loadComponent_of_changesWithin
      (changesWithin_run hwrite hsave) hproject hready.described
    have hready' : IsReady (a.fromSaved s) environment' disk₁ c own s.saved :=
      ⟨hcan', hpresent, hdescribed, s.saved,
        baseSettings_fromSaved environment' (of_run_save hsave).2.1, rfl⟩
    refine ⟨disk₂, ?_, hagrees⟩
    rw [run, hparse']
    dsimp only
    rw [runFor_of_ready _ _ hready', hgen, hsaved]
    rfl

/-- Two of the files were edited before the first run, which creates the third. -/
theorem run_again_sample : ∃ o disk₁,
    run .terminal ["nav.json", "--config=conf.json"] [] (.whole 0)
      (projectFor (settingsFor sampleNames)) = (o, disk₁) ∧ o.ending = .exit 0 ∧
    ∃ o₂ disk₂, run .terminal ["--config=out/.skelgen.json", "--", "nav.json"]
      [("SKELGEN_FORCE", "1")] (.whole 1) disk₁ = (o₂, disk₂) ∧ o₂.ending = .exit 0 ∧
        disk₁.Agrees disk₂ := by
  obtain ⟨o, disk₁, hrun, hexit⟩ := run_sampleNames
  have hfile : (settingsFor sampleNames).filePath.denoted sampleDisk.here =
      ["w", "out", ".skelgen.json"] := by
    decide
  have hplaces : (outputPlaces sampleComponent (settingsFor sampleNames) sampleDisk.here ++
      [(settingsFor sampleNames).filePath.denoted sampleDisk.here]).Nodup := by
    rw [outputPlaces_sampleNames, hfile]
    decide
  have hinputs : ∀ p ∈ FilePath.ofString sampleArguments.project ::
      templatePaths (settingsFor sampleNames), p.denoted sampleDisk.here ∉
        outputPlaces sampleComponent (settingsFor sampleNames) sampleDisk.here ++
          [(settingsFor sampleNames).filePath.denoted sampleDisk.here] := by
    have hpaths : templatePaths (settingsFor sampleNames) =
        [(FilePath.ofString "lib").join (.ofString "t")] := rfl
    rw [outputPlaces_sampleNames, hfile, hpaths]
    decide
  have hplain : ∀ d ∈ drafts sampleOwnership (projectFor (settingsFor sampleNames)) sampleComponent
      (settingsFor sampleNames), '\r' ∉ d.text.toList := by
    rw [drafts_congr (renderings_congr sampleOwnership
      (folder_projectFor (settingsFor sampleNames) sampleNames)), drafts_sampleNames]
    decide
  rw [← here_projectFor (settingsFor sampleNames)] at hplaces hinputs
  obtain ⟨files, closing, -, hparse, hagain⟩ := run_again Screen.showsWords_terminal
    sample_parse hrun hexit rfl
    (ready_projectFor [] sampleNames_there) hplaces hinputs hplain
  have hwords : "--config=" ++ (settingsFor sampleNames).filePath.text =
      "--config=out/.skelgen.json" := by
    decide
  rw [hwords] at hparse
  obtain ⟨disk₂, hrun₂, hagrees⟩ := hagain _ [("SKELGEN_FORCE", "1")] (.whole 1) hparse
  exact ⟨o, disk₁, hrun, hexit, _, disk₂, hrun₂, rfl, hagrees⟩

end CommandLine

end Scaffold
