import Scaffold.Proofs.Files.Receipt
import Scaffold.Proofs.Generation.Regeneration

/-! Runs for some tasks of a component.  What becomes of a draft is decided by the tree before all
runs, and no two tasks have a place in common, so the tasks can be run for together or one after the
other, in any order. -/
namespace Scaffold

open FileTree Model Template

/-- The settings of a run for the tasks of some names. -/
def Settings.naming (s : Settings) (names : List String) : Settings := { s with tasks := names }

/-- The reports on some tasks, one after the other. -/
def Report.gather (on : Task → Report) (tasks : List Task) : Report :=
  ⟨tasks.flatMap fun t => (on t).files, tasks.flatMap fun t => (on t).failures⟩

/-! ### Drafts, seen from an earlier tree -/

namespace Draft

variable {s : Settings} {d : Draft} {ds : List Draft} {t₀ t t' : FileTree} {places : List Place}
  {f : GeneratedFile}

/-- The status that what is found at its target gives a draft. -/
def statusIn (s : Settings) (t : FileTree) (d : Draft) : FileStatus :=
  statusOf s (foundText t (d.target s)).toOption.join d.text

/-- The file that is written for a draft over what is found at its target. -/
def receiptIn (s : Settings) (t : FileTree) (d : Draft) : Option (FilePath × ByteArray) :=
  (destination? s d.relative (d.statusIn s t)).map fun path => (path, d.text.toUTF8)

theorem receiptIn_subset (s : Settings) (t : FileTree) (here : Place) (ds : List Draft) :
    (ds.filterMap (receiptIn s t)).map (fun w => w.1.denoted here) ⊆
      ds.flatMap (·.places s here) := by
  intro place hplace
  obtain ⟨w, hw, rfl⟩ := List.mem_map.mp hplace
  obtain ⟨d, hd, hreceipt⟩ := List.mem_filterMap.mp hw
  obtain ⟨path, hpath, rfl⟩ := Option.map_eq_some_iff.mp hreceipt
  exact List.mem_flatMap.mpr ⟨d, hd, mem_places_of_destination? here hpath⟩

/-- A write does what the tree before all writes calls for. -/
theorem write_from (hreal : s.dryRun = false) (hp : Pending s t₀ t places ds) (hd : d ∈ ds)
    (h : (d.write s).run t = (.ok f, t')) :
    f = d.file s (d.statusIn s t₀) ∧ t.Receives t' ([d].filterMap (receiptIn s t₀)) := by
  obtain ⟨found, hfound, -, -⟩ := write_eq_ok h
  have hstatus : d.statusIn s t₀ = statusOf s found d.text := by
    rw [statusIn, hp.found_before hd hfound]
    rfl
  rw [run_write, hfound, hreal] at h
  dsimp only at h
  rw [List.filterMap_cons, List.filterMap_nil, receiptIn, hstatus]
  cases hpath : destination? s d.relative (statusOf s found d.text) with
  | none =>
    rw [hpath] at h
    cases h
    exact ⟨rfl, .refl t⟩
  | some path =>
    rw [hpath] at h
    dsimp only at h
    rcases hrun : (writeText path d.text).run t with ⟨e | _, m⟩
    · rw [hrun] at h
      cases h
    · rw [hrun] at h
      cases h
      exact ⟨rfl, receives_of_writeText hrun⟩

end Draft

section
variable {s : Settings} {ds es : List Draft} {t₀ t t' t'' : FileTree} {places : List Place}
  {files : List GeneratedFile}

/-- A tree that received the files of the first drafts, and then those of the others, received those
of all. -/
theorem Pending.receives_append (hp : Pending s t₀ t places (ds ++ es))
    (h : t.Receives t' (ds.filterMap (Draft.receiptIn s t₀)))
    (h' : t'.Receives t'' (es.filterMap (Draft.receiptIn s t₀))) :
    t.Receives t'' ((ds ++ es).filterMap (Draft.receiptIn s t₀)) := by
  rw [List.filterMap_append]
  refine h.append h' fun w hw hmem => ?_
  rw [hp.changes.here] at hmem
  exact hp.notMem_later (Draft.receiptIn_subset s t₀ t₀.here ds (List.mem_map_of_mem hw))
    (Draft.receiptIn_subset s t₀ t₀.here es hmem)

/-- Drafts at different places are written as the tree before all writes calls for. -/
theorem writeDrafts_from (hreal : s.dryRun = false) (hp : Pending s t₀ t places ds)
    (h : (writeDrafts s ds).run t = (.ok files, t')) :
    files = ds.map (fun d => d.file s (d.statusIn s t₀)) ∧
      t.Receives t' (ds.filterMap (Draft.receiptIn s t₀)) := by
  -- The tree before all writes stays the same, and the places that have changed since grow.
  induction ds generalizing t places files with
  | nil =>
    cases h
    exact ⟨rfl, .refl _⟩
  | cons d ds ih =>
    obtain ⟨f, m, rest, hd, hds, rfl⟩ := writeDrafts_cons_eq_ok h
    obtain ⟨rfl, hone⟩ := Draft.write_from hreal hp List.mem_cons_self hd
    have hfirst : Pending s t₀ t places ([d] ++ ds) := hp
    have hlater := hp.tail
    rw [hd] at hlater
    obtain ⟨rfl, hrest⟩ := ih hlater hds
    exact ⟨rfl, hfirst.receives_append hone hrest⟩

end

namespace Generator

/-- Runs for one name after the other, each over what the one before left; the first that fails
ends it. -/
def generateEach (own : Ownership) (c : Component) (s : Settings) :
    List String → FileTree → Except GenerationFault (List Report) × FileTree
  | [], disk => (.ok [], disk)
  | name :: names, disk =>
    match (fresh c (s.naming [name])).generate own disk with
    | (.error e, _, disk) => (.error e, disk)
    | (.ok report, _, disk) =>
      match generateEach own c s names disk with
      | (.error e, disk) => (.error e, disk)
      | (.ok reports, disk) => (.ok (report :: reports), disk)

/-- The report on a task, by what is found at its targets. -/
def reportOn (own : Ownership) (disk : FileTree) (s : Settings) (t : Task) : Report :=
  ⟨(draftsOf own disk s t).map fun d => d.file s (d.statusIn s disk),
    (failure? own disk s t).toList⟩

/-- The tasks of a component that have one of some names, in the order of the component. -/
def named (c : Component) (names : List String) : List Task :=
  c.tasks.filter fun t => names.contains t.basename

variable {own : Ownership} {disk m disk' : FileTree} {c : Component} {s : Settings}
  {name : String} {names : List String} {report : Report} {reports : List Report} {g : Generator}

/-! ### Tasks that are named -/

theorem selected_naming_iff {tasks : List Task} (hne : names ≠ []) :
    (fresh c (s.naming names)).selected = .ok tasks ↔
      (∀ name ∈ names, ∃ t ∈ c.tasks, t.basename = name) ∧ tasks = named c names := by
  have hselects : c.tasks.filter ((s.naming names).selects ·.basename) = named c names := by
    refine List.filter_congr fun t _ => ?_
    rw [Settings.selects, Settings.naming, List.isEmpty_eq_false_iff.mpr hne, Bool.false_or]
  rw [selected_eq_ok_iff, hselects]
  rfl

theorem participants_naming (hne : names ≠ [])
    (hthere : ∀ name ∈ names, ∃ t ∈ c.tasks, t.basename = name) :
    participants c (s.naming names) = named c names :=
  participants_of_selected ((selected_naming_iff hne).mpr ⟨hthere, rfl⟩)

/-- Runs for one name after the other come by the same tasks as one run for all names. -/
theorem flatMap_named_perm (hnodup : names.Nodup) :
    (names.flatMap fun name => named c [name]).Perm (named c names) := by
  induction names with
  | nil => simp [named]
  | cons name names ih =>
    obtain ⟨hname, hnames⟩ := List.nodup_cons.mp hnodup
    have hfirst : (named c (name :: names)).filter (·.basename = name) = named c [name] := by
      rw [named, List.filter_filter]
      refine List.filter_congr fun t _ => ?_
      by_cases ht : t.basename = name <;> simp [ht]
    have hrest : (named c (name :: names)).filter (fun t => !decide (t.basename = name)) =
        named c names := by
      rw [named, List.filter_filter]
      refine List.filter_congr fun t _ => ?_
      by_cases ht : t.basename = name
      · simp [ht, hname]
      · simp [ht]
    have hsplit := List.filter_append_perm (fun t : Task => decide (t.basename = name))
      (named c (name :: names))
    rw [hfirst, hrest] at hsplit
    rw [List.flatMap_cons]
    exact ((ih hnames).append_left _).trans hsplit

theorem outputPlaces_sublist {all : List String} (here : Place)
    (h : (outputs c (s.naming names)).Sublist (outputs c (s.naming all))) :
    (outputPlaces c (s.naming names) here).Sublist (outputPlaces c (s.naming all) here) :=
  ((h.map _).append (h.map _)).map _

/-- Of fewer tasks the outputs are apart if those of all are. -/
theorem Apart.naming {all : List String} {here : Place} (h : Apart c (s.naming all) here)
    (hthere : ∀ name ∈ all, ∃ t ∈ c.tasks, t.basename = name) (hne : names ≠ [])
    (hsub : names ⊆ all) : Apart c (s.naming names) here := by
  have hall : all ≠ [] := by
    rintro rfl
    exact hne (List.subset_nil.mp hsub)
  have hnamed : (named c names).Sublist (named c all) :=
    List.monotone_filter_right _ fun t ht => by
      rw [List.contains_iff_mem] at ht ⊢
      exact hsub ht
  refine h.sublist (outputPlaces_sublist here ?_)
  rw [outputs, outputs, participants_naming hne fun name hn => hthere name (hsub hn),
    participants_naming hall hthere]
  exact hnamed.flatMap _

/-! ### One run -/

/-- What a run for named tasks comes to, if it comes to its end. -/
theorem written_of_generate (hne : names ≠ []) (hapart : Apart c (s.naming names) m.here)
    (hrun : (fresh c (s.naming names)).generate own m = (.ok report, g, disk')) :
    (∀ name ∈ names, ∃ t ∈ c.tasks, t.basename = name) ∧ IsLoaded m s ∧
      (∀ t ∈ named c names, fault? own m s t = none) ∧
      (writeDrafts s ((named c names).flatMap (draftsOf own m s))).run m =
        (.ok report.files, disk') ∧
      report.failures = (named c names).filterMap (failure? own m s) := by
  cases (ends_of_fresh hapart hrun).1 with
  | reported hs hl hfault hwrite =>
    obtain ⟨hthere, hparticipants⟩ := (selected_naming_iff hne).mp hs
    rw [hparticipants] at hfault
    rw [drafts, hparticipants] at hwrite
    exact ⟨hthere, hl, hfault, hwrite, congrArg _ hparticipants⟩

/-- A run for named tasks whose drafts can be written comes to its end. -/
theorem generate_of_named {files : List GeneratedFile} (hne : names ≠ [])
    (hthere : ∀ name ∈ names, ∃ t ∈ c.tasks, t.basename = name)
    (hapart : Apart c (s.naming names) m.here) (hl : IsLoaded m s)
    (hfault : ∀ t ∈ named c names, fault? own m s t = none)
    (hwrite : (writeDrafts s ((named c names).flatMap (draftsOf own m s))).run m =
      (.ok files, disk')) :
    ∃ g, (fresh c (s.naming names)).generate own m =
      (.ok ⟨files, (named c names).filterMap (failure? own m s)⟩, g, disk') := by
  have hselected := (selected_naming_iff (s := s) hne).mpr ⟨hthere, rfl⟩
  rw [← participants_naming (s := s) hne hthere] at hselected hfault hwrite ⊢
  obtain ⟨r, hgen⟩ := generate_of_written (s := s.naming names)
    (Registry.isFaithful_fresh m _ _) rfl hapart hselected hl hfault hwrite
  exact ⟨_, hgen⟩

/-- Names only say which tasks take part; their order is that of the component. -/
theorem generate_of_same_names {names' : List String} (hne : names ≠ [])
    (hnames : ∀ name, name ∈ names' ↔ name ∈ names) (hapart : Apart c (s.naming names) m.here)
    (hrun : (fresh c (s.naming names)).generate own m = (.ok report, g, disk')) :
    ∃ g', (fresh c (s.naming names')).generate own m = (.ok report, g', disk') := by
  obtain ⟨hthere, hl, hfault, hwrite, hfailures⟩ := written_of_generate hne hapart hrun
  have hnamed : named c names' = named c names := by
    refine List.filter_congr fun t _ => ?_
    rw [Bool.eq_iff_iff, List.contains_iff_mem, List.contains_iff_mem, hnames]
  have hne' : names' ≠ [] := by
    rintro rfl
    refine hne (List.eq_nil_iff_forall_not_mem.mpr fun name hname => ?_)
    simpa using (hnames name).mpr hname
  have hapart' : Apart c (s.naming names') m.here :=
    hapart.naming hthere hne' fun name hname => (hnames name).mp hname
  rw [← hnamed] at hfault hwrite
  obtain ⟨g', hagain⟩ := generate_of_named hne'
    (fun name hname => hthere name ((hnames name).mp hname)) hapart' hl hfault hwrite
  rw [hnamed, ← hfailures] at hagain
  exact ⟨g', hagain⟩

/-- A run for named tasks reports on each what the tree before all runs calls for, and writes that,
if the outputs of its tasks were left alone since. -/
theorem report_of_generate {places : List Place} (hreal : s.dryRun = false) (hne : names ≠ [])
    (hp : Pending s disk m places ((named c names).flatMap (draftsOf own disk s)))
    (hl : IsLoaded disk s)
    (hinputs : ∀ p ∈ CommandLine.templatePaths s, p.denoted disk.here ∉ places)
    (hapart : Apart c (s.naming names) disk.here)
    (hrun : (fresh c (s.naming names)).generate own m = (.ok report, g, disk')) :
    report = .gather (reportOn own disk s) (named c names) ∧
      m.Receives disk' (((named c names).flatMap (draftsOf own disk s)).filterMap
        (Draft.receiptIn s disk)) := by
  obtain ⟨hdraftsOf, hfailure, -⟩ :=
    outcomes_congr (renderings_congr own (load_again hp.changes hinputs hl))
  obtain ⟨-, -, -, hwrite, hfailures⟩ :=
    written_of_generate hne (hp.changes.here ▸ hapart) hrun
  rw [hdraftsOf] at hwrite
  rw [hfailure] at hfailures
  obtain ⟨hfiles, hreceives⟩ := writeDrafts_from hreal hp hwrite
  refine ⟨?_, hreceives⟩
  obtain ⟨files, failures⟩ := report
  obtain rfl : files = _ := hfiles
  obtain rfl : failures = _ := hfailures
  rw [Report.gather, List.map_flatMap, List.filterMap_eq_flatMap_toList]
  rfl

/-! ### One run after the other -/

theorem generateEach_cons_eq_ok
    (h : generateEach own c s (name :: names) m = (.ok reports, disk')) :
    ∃ report g m' rest, (fresh c (s.naming [name])).generate own m = (.ok report, g, m') ∧
      generateEach own c s names m' = (.ok rest, disk') ∧ reports = report :: rest := by
  rw [generateEach] at h
  rcases hrun : (fresh c (s.naming [name])).generate own m with ⟨e | report, g, m'⟩
  · rw [hrun] at h
    cases h
  · rw [hrun] at h
    dsimp only at h
    rcases hrest : generateEach own c s names m' with ⟨e | rest, m''⟩
    · rw [hrest] at h
      cases h
    · rw [hrest] at h
      cases h
      exact ⟨report, g, m', rest, rfl, hrest, rfl⟩

/-- Runs for one name after the other report and write what the tree before all runs calls for. -/
theorem reports_of_generateEach {places : List Place} (hreal : s.dryRun = false)
    (hp : Pending s disk m places
      ((names.flatMap fun name => named c [name]).flatMap (draftsOf own disk s)))
    (hl : IsLoaded disk s)
    (hinputs : ∀ p ∈ CommandLine.templatePaths s, p.denoted disk.here ∉ places ++
      ((names.flatMap fun name => named c [name]).flatMap (draftsOf own disk s)).flatMap
        (·.places s disk.here))
    (hapart : ∀ name ∈ names, Apart c (s.naming [name]) disk.here)
    (hrun : generateEach own c s names m = (.ok reports, disk')) :
    reports = names.map (fun name => .gather (reportOn own disk s) (named c [name])) ∧
      m.Receives disk' (((names.flatMap fun name => named c [name]).flatMap
        (draftsOf own disk s)).filterMap (Draft.receiptIn s disk)) := by
  -- As for drafts: `disk` stays the same, and `places` grows by the outputs of each run.
  induction names generalizing m places reports with
  | nil =>
    cases hrun
    exact ⟨rfl, .refl _⟩
  | cons name names ih =>
    obtain ⟨report, g, m', rest, hone, hrest, rfl⟩ := generateEach_cons_eq_ok hrun
    obtain ⟨hfirst, hapart⟩ := List.forall_mem_cons.mp hapart
    simp only [List.flatMap_cons, List.flatMap_append] at hinputs hp
    obtain ⟨rfl, hreceives⟩ := report_of_generate hreal (List.cons_ne_nil name []) hp.left hl
      (fun p hp hmem => hinputs p hp (List.mem_append_left _ hmem)) hfirst hone
    have hchange := hreceives.toChangesWithin.mono
      (Draft.receiptIn_subset s disk m.here ((named c [name]).flatMap (draftsOf own disk s)))
    rw [hp.changes.here] at hchange
    obtain ⟨rfl, hothers⟩ := ih (hp.after hchange)
      (fun p hp => by rw [List.append_assoc]; exact hinputs p hp) hapart hrest
    refine ⟨rfl, ?_⟩
    rw [List.flatMap_cons, List.flatMap_append]
    exact hp.receives_append hreceives hothers

/-- Runs for one name after the other come to their end if all their drafts can be written. -/
theorem generateEach_of_written {places : List Place} {files : List GeneratedFile}
    (hc : disk.ChangesWithin m places) (hl : IsLoaded disk s)
    (hinputs : ∀ p ∈ CommandLine.templatePaths s, p.denoted disk.here ∉ places ++
      ((names.flatMap fun name => named c [name]).flatMap (draftsOf own disk s)).flatMap
        (·.places s disk.here))
    (hthere : ∀ name ∈ names, ∃ t ∈ c.tasks, t.basename = name)
    (hapart : ∀ name ∈ names, Apart c (s.naming [name]) disk.here)
    (hfault : ∀ t ∈ names.flatMap fun name => named c [name], fault? own disk s t = none)
    (hwrite : (writeDrafts s ((names.flatMap fun name => named c [name]).flatMap
      (draftsOf own disk s))).run m = (.ok files, disk')) :
    ∃ reports, generateEach own c s names m = (.ok reports, disk') := by
  induction names generalizing m places files with
  | nil =>
    cases hwrite
    exact ⟨[], rfl⟩
  | cons name names ih =>
    obtain ⟨hfirst, hapart⟩ := List.forall_mem_cons.mp hapart
    obtain ⟨hname, hthere⟩ := List.forall_mem_cons.mp hthere
    simp only [List.flatMap_cons, List.flatMap_append] at hinputs hfault hwrite
    rw [List.forall_mem_append] at hfault
    obtain ⟨entries, m', rest, hone, hrest, -⟩ := writeDrafts_append_eq_ok hwrite
    have hload := load_again hc
      (fun p hp hmem => hinputs p hp (List.mem_append_left _ hmem)) hl
    obtain ⟨hdraftsOf, -, hfault'⟩ := outcomes_congr (renderings_congr own hload)
    rw [← hdraftsOf] at hone
    rw [← hfault'] at hfault
    obtain ⟨g, hrun⟩ := generate_of_named (List.cons_ne_nil name [])
      (by simpa using hname) (hc.here ▸ hfirst) (hl.congr hload) hfault.1 hone
    have hchange := changesWithin_writeDrafts s ((named c [name]).flatMap (draftsOf own m s)) m
    rw [hone, hc.here, hdraftsOf] at hchange
    rw [hfault'] at hfault
    obtain ⟨reports, hreports⟩ := ih (hc.trans hchange)
      (fun p hp => by rw [List.append_assoc]; exact hinputs p hp) hthere hapart hfault.2 hrest
    simp only [generateEach, hrun, hreports]
    exact ⟨_, rfl⟩

/-- If the tree shows what is at the targets, runs for one task after the other, in any order, leave
what one run for all of them leaves, and report on each task what that run reports, which follows
the order of the component.  Neither the order nor a repetition of names makes a difference to it. -/
theorem generateEach_agrees {disk₁ disk₂ : FileTree} (hreal : s.dryRun = false)
    (hne : names ≠ []) (hdistinct : names.Nodup) (hapart : Apart c (s.naming names) disk.here)
    (hshows : ∀ p ∈ targetPaths c (s.naming names), disk.Shows p)
    (hinputs : ∀ p ∈ CommandLine.templatePaths s,
      p.denoted disk.here ∉ outputPlaces c (s.naming names) disk.here)
    (htogether : (fresh c (s.naming names)).generate own disk = (.ok report, g, disk₁))
    (heach : generateEach own c s names disk = (.ok reports, disk₂)) :
    disk₁.Agrees disk₂ ∧
      report = .gather (reportOn own disk s) (named c names) ∧
      reports = names.map (fun name => .gather (reportOn own disk s) (named c [name])) ∧
      ∀ names', (∀ name, name ∈ names' ↔ name ∈ names) →
        ∃ g', (fresh c (s.naming names')).generate own disk = (.ok report, g', disk₁) := by
  obtain ⟨hthere, hl, -⟩ := written_of_generate hne hapart htogether
  have hdrafts : drafts own disk c (s.naming names) =
      (named c names).flatMap (draftsOf own disk s) := by
    rw [drafts, participants_naming hne hthere]
    rfl
  have hs : ∀ d ∈ (named c names).flatMap (draftsOf own disk s), disk.Shows (d.target s) := by
    rw [← hdrafts]
    exact fun d hd => hshows _ (List.mem_map_of_mem (mem_outputs_of_mem_drafts hd))
  have hperm : ((names.flatMap fun name => named c [name]).flatMap (draftsOf own disk s)).Perm
      ((named c names).flatMap (draftsOf own disk s)) :=
    (flatMap_named_perm hdistinct).flatMap_right _
  have hplaces : (((named c names).flatMap (draftsOf own disk s)).flatMap
      (·.places s disk.here)).Nodup := by
    rw [← hdrafts]
    exact hapart.nodup_places (List.prefix_refl _)
  have hinside : ∀ p ∈ CommandLine.templatePaths s, p.denoted disk.here ∉
      ((named c names).flatMap (draftsOf own disk s)).flatMap (·.places s disk.here) := by
    rw [← hdrafts]
    exact fun p hp hmem => hinputs p hp (places_subset (List.prefix_refl _) hmem)
  have hpending := Pending.start hplaces hs
  obtain ⟨hreport, hreceives⟩ :=
    report_of_generate hreal hne hpending hl (by simp) hapart htogether
  obtain ⟨hreports, hreceives'⟩ := reports_of_generateEach hreal (hpending.perm hperm.symm) hl
    (fun p hp => by rw [List.nil_append, (hperm.flatMap_right _).mem_iff]; exact hinside p hp)
    (fun name hname => hapart.naming hthere (List.cons_ne_nil name [])
      (by simpa using hname)) heach
  exact ⟨hreceives.agrees hreceives' fun w => (hperm.filterMap _).mem_iff.symm, hreport, hreports,
    fun names' hnames => generate_of_same_names hne hnames hapart htogether⟩

/-! ### Runs for some of the four tasks -/

def sampleDraft (basename : String) : Draft :=
  ⟨"nav::" ++ basename, .ofString (basename ++ ".txt"), "task " ++ basename ++ "\n"⟩

theorem sample_draftsOf (out : FilePath) :
    draftsOf sampleOwnership sampleDisk (sampleSettings out) sampleDrive = [sampleDraft "Drive"] ∧
    draftsOf sampleOwnership sampleDisk (sampleSettings out) sampleHalt = [] ∧
    draftsOf sampleOwnership sampleDisk (sampleSettings out) sampleStop = [sampleDraft "Stop"] ∧
    draftsOf sampleOwnership sampleDisk (sampleSettings out) sampleTurn = [sampleDraft "Turn"] := by
  obtain ⟨hdrive, hhalt, hstop, hturn⟩ := sample_renderings out
  rw [(of_rendered hdrive).1, (of_failed hhalt).1, (of_rendered hstop).1, (of_rendered hturn).1]
  exact ⟨rfl, rfl, rfl, rfl⟩

theorem sample_outputs_sublist (out : FilePath) (hne : names ≠ [])
    (hthere : ∀ name ∈ names, ∃ t ∈ sampleComponent.tasks, t.basename = name) :
    (outputs sampleComponent ((sampleSettings out).naming names)).Sublist
      (outputs sampleComponent ((sampleSettings out).naming [])) := by
  have hall : participants sampleComponent ((sampleSettings out).naming []) =
      sampleComponent.tasks := sample_participants out
  rw [outputs, outputs, participants_naming hne hthere, hall]
  exact List.filter_sublist.flatMap _

theorem sample_apart_naming {out : FilePath}
    (h : Apart sampleComponent (sampleSettings out) sampleDisk.here) (hne : names ≠ [])
    (hthere : ∀ name ∈ names, ∃ t ∈ sampleComponent.tasks, t.basename = name) :
    Apart sampleComponent ((sampleSettings out).naming names) sampleDisk.here :=
  List.Nodup.sublist (outputPlaces_sublist _ (sample_outputs_sublist out hne hthere)) h

/-- The runs come to their end if their drafts can be written. -/
theorem sample_runs {out : FilePath} {files files' : List GeneratedFile} {ds es : List Draft}
    (hne : names ≠ []) (hthere : ∀ name ∈ names, ∃ t ∈ sampleComponent.tasks, t.basename = name)
    (hapart : Apart sampleComponent (sampleSettings out) sampleDisk.here)
    (hinputs : ∀ p ∈ CommandLine.templatePaths (sampleSettings out),
      p.denoted sampleDisk.here ∉ es.flatMap (·.places (sampleSettings out) sampleDisk.here))
    (hds : (named sampleComponent names).flatMap
      (draftsOf sampleOwnership sampleDisk (sampleSettings out)) = ds)
    (hes : (names.flatMap fun name => named sampleComponent [name]).flatMap
      (draftsOf sampleOwnership sampleDisk (sampleSettings out)) = es)
    (hfiles : ((writeDrafts (sampleSettings out) ds).run sampleDisk).1 = .ok files)
    (hfiles' : ((writeDrafts (sampleSettings out) es).run sampleDisk).1 = .ok files') :
    (∃ report g, (fresh sampleComponent ((sampleSettings out).naming names)).generate
      sampleOwnership sampleDisk =
        (.ok report, g, ((writeDrafts (sampleSettings out) ds).run sampleDisk).2)) ∧
    ∃ reports, generateEach sampleOwnership sampleComponent (sampleSettings out) names sampleDisk =
      (.ok reports, ((writeDrafts (sampleSettings out) es).run sampleDisk).2) := by
  have hfault (t : Task) (ht : t ∈ sampleComponent.tasks) :
      fault? sampleOwnership sampleDisk (sampleSettings out) t = none :=
    sample_fault out t (by rwa [sample_participants])
  constructor
  · obtain ⟨g, hrun⟩ := generate_of_named (s := sampleSettings out) hne hthere
      (sample_apart_naming hapart hne hthere) (sample_loaded out)
      (fun t ht => hfault t (List.mem_of_mem_filter ht)) (by rw [hds]; exact Prod.ext hfiles rfl)
    exact ⟨_, g, hrun⟩
  · refine generateEach_of_written (.refl sampleDisk []) (sample_loaded out)
      (by rw [hes]; exact hinputs) hthere (fun name hname => ?_) (fun t ht => ?_)
      (by rw [hes]; exact Prod.ext hfiles' rfl)
    · exact sample_apart_naming hapart (List.cons_ne_nil name []) (by simpa using hthere name hname)
    · obtain ⟨name, -, ht⟩ := List.mem_flatMap.mp ht
      exact hfault t (List.mem_of_mem_filter ht)

/-- Three tasks that are run for in another order than that of the component. -/
theorem generateEach_agrees_sample : ∃ g report reports disk₁ disk₂,
    (fresh sampleComponent ((sampleSettings (.ofString "out")).naming
      ["Turn", "Halt", "Drive"])).generate sampleOwnership sampleDisk = (.ok report, g, disk₁) ∧
    generateEach sampleOwnership sampleComponent (sampleSettings (.ofString "out"))
      ["Turn", "Halt", "Drive"] sampleDisk = (.ok reports, disk₂) ∧
    disk₁.Agrees disk₂ ∧
    reports = ["Turn", "Halt", "Drive"].map fun name =>
      .gather (reportOn sampleOwnership sampleDisk (sampleSettings (.ofString "out")))
        (named sampleComponent [name]) := by
  have hthere : ∀ name ∈ ["Turn", "Halt", "Drive"],
      ∃ t ∈ sampleComponent.tasks, t.basename = name := by
    decide
  have htogether : named sampleComponent ["Turn", "Halt", "Drive"] =
      [sampleDrive, sampleHalt, sampleTurn] := by
    decide
  have heach : (["Turn", "Halt", "Drive"].flatMap fun name => named sampleComponent [name]) =
      [sampleTurn, sampleHalt, sampleDrive] := by
    decide
  have hpaths : CommandLine.templatePaths (sampleSettings (.ofString "out")) =
      [.ofString "lib/t"] := by
    rfl
  have hinputs : ∀ p ∈ CommandLine.templatePaths (sampleSettings (.ofString "out")),
      p.denoted sampleDisk.here ∉ [sampleDraft "Turn", sampleDraft "Drive"].flatMap
        (·.places (sampleSettings (.ofString "out")) sampleDisk.here) := by
    rw [hpaths]
    decide
  have hfiles : ((writeDrafts (sampleSettings (.ofString "out"))
      [sampleDraft "Drive", sampleDraft "Turn"]).run sampleDisk).1 = .ok [
        ⟨"nav::Drive", .ofString "Drive.txt", .kept, some (.ofString "templates/Drive.txt")⟩,
        ⟨"nav::Turn", .ofString "Turn.txt", .created, none⟩] := by
    decide +kernel
  have hfiles' : ((writeDrafts (sampleSettings (.ofString "out"))
      [sampleDraft "Turn", sampleDraft "Drive"]).run sampleDisk).1 = .ok [
        ⟨"nav::Turn", .ofString "Turn.txt", .created, none⟩,
        ⟨"nav::Drive", .ofString "Drive.txt", .kept, some (.ofString "templates/Drive.txt")⟩] := by
    decide +kernel
  obtain ⟨hdrive, hhalt, -, hturn⟩ := sample_draftsOf (.ofString "out")
  obtain ⟨⟨report, g, hone⟩, reports, hruns⟩ := sample_runs (by simp) hthere sample_apart hinputs
    (by rw [htogether]; simp [hdrive, hhalt, hturn]) (by rw [heach]; simp [hdrive, hhalt, hturn])
    hfiles hfiles'
  have hsub := sample_outputs_sublist (.ofString "out") (by simp) hthere
  have hshows : ∀ p ∈ targetPaths sampleComponent ((sampleSettings (.ofString "out")).naming
      ["Turn", "Halt", "Drive"]), sampleDisk.Shows p :=
    fun p hp => sample_shows p ((hsub.map _).subset hp)
  have houtside : ∀ p ∈ CommandLine.templatePaths (sampleSettings (.ofString "out")),
      p.denoted sampleDisk.here ∉ outputPlaces sampleComponent
        ((sampleSettings (.ofString "out")).naming ["Turn", "Halt", "Drive"]) sampleDisk.here := by
    intro p hp hmem
    have hmem := (outputPlaces_sublist _ hsub).subset hmem
    revert p
    have hall : outputPlaces sampleComponent ((sampleSettings (.ofString "out")).naming [])
        sampleDisk.here = _ := sample_outputPlaces
    rw [hall, hpaths]
    decide +kernel
  obtain ⟨hagrees, -, hreports, -⟩ := generateEach_agrees rfl (by simp) (by simp)
    (sample_apart_naming sample_apart (by simp) hthere) hshows houtside hone hruns
  exact ⟨g, report, reports, _, _, hone, hruns, hagrees, hreports⟩

/-- By the detour the runs differ: the file that is come by first is not seen and written over, and
the directory that is made for it lets the other one be seen. -/
theorem generateEach_by_detour_differs :
    (sampleSettings sampleDetour).dryRun = false ∧
    Apart sampleComponent ((sampleSettings sampleDetour).naming ["Stop", "Drive"])
      sampleDisk.here ∧
    ((outputPlaces sampleComponent (sampleSettings sampleDetour) sampleDisk.here).Pairwise
      fun p q => ¬ p <+: q ∧ ¬ q <+: p) ∧
    (∀ p ∈ CommandLine.templatePaths (sampleSettings sampleDetour),
      p.denoted sampleDisk.here ∉
        outputPlaces sampleComponent (sampleSettings sampleDetour) sampleDisk.here) ∧
    ∃ report g disk₁ reports disk₂,
      (fresh sampleComponent ((sampleSettings sampleDetour).naming ["Stop", "Drive"])).generate
        sampleOwnership sampleDisk = (.ok report, g, disk₁) ∧
      generateEach sampleOwnership sampleComponent (sampleSettings sampleDetour) ["Stop", "Drive"]
        sampleDisk = (.ok reports, disk₂) ∧
      disk₁.entry? ["w", "out", "Drive.txt"] = some (.file "task Drive\n".toUTF8) ∧
      disk₂.entry? ["w", "out", "Drive.txt"] = some (.file "edited".toUTF8) := by
  have hthere : ∀ name ∈ ["Stop", "Drive"], ∃ t ∈ sampleComponent.tasks, t.basename = name := by
    decide
  have htogether : named sampleComponent ["Stop", "Drive"] = [sampleDrive, sampleStop] := by
    decide
  have heach : (["Stop", "Drive"].flatMap fun name => named sampleComponent [name]) =
      [sampleStop, sampleDrive] := by
    decide
  have hpaths : CommandLine.templatePaths (sampleSettings sampleDetour) = [.ofString "lib/t"] := by
    rfl
  have hinputs : ∀ p ∈ CommandLine.templatePaths (sampleSettings sampleDetour),
      p.denoted sampleDisk.here ∉ [sampleDraft "Stop", sampleDraft "Drive"].flatMap
        (·.places (sampleSettings sampleDetour) sampleDisk.here) := by
    rw [hpaths]
    decide
  have hfiles : ((writeDrafts (sampleSettings sampleDetour)
      [sampleDraft "Drive", sampleDraft "Stop"]).run sampleDisk).1 = .ok [
        ⟨"nav::Drive", .ofString "Drive.txt", .created, none⟩,
        ⟨"nav::Stop", .ofString "Stop.txt", .kept, some (.ofString "templates/Stop.txt")⟩] := by
    decide +kernel
  have hfiles' : ((writeDrafts (sampleSettings sampleDetour)
      [sampleDraft "Stop", sampleDraft "Drive"]).run sampleDisk).1 = .ok [
        ⟨"nav::Stop", .ofString "Stop.txt", .created, none⟩,
        ⟨"nav::Drive", .ofString "Drive.txt", .kept, some (.ofString "templates/Drive.txt")⟩] := by
    decide +kernel
  obtain ⟨hdrive, -, hstop, -⟩ := sample_draftsOf sampleDetour
  obtain ⟨⟨report, g, hone⟩, reports, hruns⟩ := sample_runs (by simp) hthere detour_apart hinputs
    (by rw [htogether]; simp [hdrive, hstop]) (by rw [heach]; simp [hdrive, hstop]) hfiles hfiles'
  refine ⟨rfl, sample_apart_naming detour_apart (by simp) hthere, ?_, ?_, report, g, _, reports, _,
    hone, hruns, ?_, ?_⟩
  · rw [detour_outputPlaces, sample_outputPlaces]
    decide
  · rw [detour_outputPlaces, sample_outputPlaces, hpaths]
    decide
  · decide +kernel
  · decide +kernel

end Generator

end Scaffold
