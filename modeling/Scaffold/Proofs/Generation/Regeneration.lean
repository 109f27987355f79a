import Scaffold.CommandLine.Consulted
import Scaffold.Proofs.Generation.Run

/-! Runs over what a run left.  Of every draft there is its text, at its target or, beside an
edited file, at its reference; a second run finds it there and changes nothing. -/
namespace Scaffold

open FileTree Model Template

/-! ### What a write leaves of its draft -/

namespace Draft

variable {s : Settings} {d : Draft} {t t' : FileTree} {places : List Place}
  {status : FileStatus} {f : GeneratedFile}

/-- The tree has the text of a draft at its target; or it has another text there, which is to be
kept, and that of the draft at its reference. -/
inductive Settled (s : Settings) (d : Draft) (t : FileTree) : FileStatus → Prop
  | target {status : FileStatus} : status ≠ .kept →
      foundText t (d.target s) = .ok (some d.text) → Settled s d t status
  | reference {x : String} : s.force = false → x ≠ d.text →
      foundText t (d.target s) = .ok (some x) →
      t.readBytes (d.reference s) = .ok d.text.toUTF8 → Settled s d t .kept

theorem Settled.mono (h : d.Settled s t status) (hc : t.ChangesWithin t' places)
    (hd : ∀ place ∈ d.places s t.here, place ∉ places) : d.Settled s t' status := by
  have htarget := hd _ List.mem_cons_self
  have hreference := hd _ (List.mem_cons_of_mem _ List.mem_cons_self)
  cases h with
  | target hs hx => exact .target hs (foundText_of_changesWithin hc htarget hx)
  | reference hf hne hx hr =>
    exact .reference hf hne (foundText_of_changesWithin hc htarget hx)
      (hc.readBytes hreference hr)

theorem target_ne_reference (h : (d.places s t.here).Nodup) :
    (d.target s).denoted t.here ≠ (d.reference s).denoted t.here := by
  have hpair : [(d.target s).denoted t.here, (d.reference s).denoted t.here].Nodup := h
  intro heq
  rw [heq] at hpair
  simp at hpair

theorem settled_of_write (hreal : s.dryRun = false) (hplain : '\r' ∉ d.text.toList)
    (hplaces : (d.places s t.here).Nodup) (h : (d.write s).run t = (.ok f, t')) :
    ∃ status, f = d.file s status ∧ d.Settled s t' status := by
  obtain ⟨found, hfound, rfl, hleaves⟩ := write_eq_ok h
  refine ⟨_, rfl, ?_⟩
  have htext {path : FilePath} (hr : t'.readBytes path = .ok d.text.toUTF8) :
      foundText t' path = .ok (some d.text) :=
    foundText_eq_some_iff.mpr ⟨_, hr, decode_toUTF8 hplain⟩
  cases hstatus : statusOf s found d.text with
  | created =>
    rw [hstatus] at hleaves
    exact .target (by simp) (htext (hleaves.readBytes hreal rfl))
  | unchanged =>
    rw [hstatus] at hleaves
    rw [statusOf_eq_unchanged_iff.mp hstatus] at hfound
    rw [hleaves.eq_of_none rfl]
    exact .target (by simp) hfound
  | kept =>
    rw [hstatus] at hleaves
    obtain ⟨hforce, x, rfl, hx⟩ := statusOf_eq_kept_iff.mp hstatus
    have hne : (d.target s).denoted t.here ∉ [(d.reference s).denoted t.here] :=
      fun hm => target_ne_reference hplaces (List.mem_singleton.mp hm)
    exact .reference hforce hx
      (foundText_of_changesWithin (hleaves.changesWithin_destination rfl) hne hfound)
      (hleaves.readBytes hreal rfl)
  | overwritten =>
    rw [hstatus] at hleaves
    exact .target (by simp) (htext (hleaves.readBytes hreal rfl))

/-! ### A second run -/

end Draft

/-- The status that a file has in a run over what a first run left. -/
def FileStatus.again : FileStatus → FileStatus
  | .kept => .kept
  | _ => .unchanged

/-- The report on a file in a run over what a first run left. -/
def GeneratedFile.again (f : GeneratedFile) : GeneratedFile :=
  { f with status := f.status.again }

/-- The report of a run over what a first run left. -/
def Report.again (r : Report) : Report :=
  { r with files := r.files.map GeneratedFile.again }

namespace Draft

variable {s : Settings} {d : Draft} {t t' : FileTree} {places : List Place}
  {status : FileStatus} {f : GeneratedFile}

theorem again_file (s : Settings) (d : Draft) (status : FileStatus) :
    (d.file s status).again = d.file s status.again := by
  cases status <;> rfl

/-- What is settled is settled again, and nothing changes. -/
theorem Settled.run_write (h : d.Settled s t status) :
    ∃ t', (d.write s).run t = (.ok (d.file s status.again), t') ∧ t.Agrees t' := by
  cases h with
  | target hs hx =>
    refine ⟨t, ?_, .refl t⟩
    rw [run_write_of_found hx]
    cases status with
    | kept => exact absurd rfl hs
    | created | unchanged | overwritten => rfl
  | reference hf hne hx hr =>
    have hstatus : statusOf s (some _) d.text = .kept :=
      statusOf_eq_kept_iff.mpr ⟨hf, _, rfl, hne⟩
    obtain ⟨t', hrun, hagrees⟩ := run_writeText_same hr
    rw [Draft.run_write, hx]
    simp only [hstatus, destination?]
    cases s.dryRun with
    | true => exact ⟨t, rfl, .refl t⟩
    | false =>
      refine ⟨t', ?_, hagrees⟩
      rw [Draft.reference] at hrun
      simp only [hrun]
      rfl

end Draft

/-! ### Runs of drafts -/

section
variable {s : Settings} {ds : List Draft} {t t' : FileTree} {files : List GeneratedFile}

/-- After a run all its drafts are settled. -/
theorem settled_of_writeDrafts (hreal : s.dryRun = false)
    (hplain : ∀ d ∈ ds, '\r' ∉ d.text.toList) (hplaces : (ds.flatMap (·.places s t.here)).Nodup)
    (h : (writeDrafts s ds).run t = (.ok files, t')) :
    List.Forall₂ (fun d f => ∃ status, f = d.file s status ∧ d.Settled s t' status) ds files := by
  induction ds generalizing t files with
  | nil =>
    cases h
    exact .nil
  | cons d ds ih =>
    obtain ⟨f, m, rest, hd, hds, rfl⟩ := writeDrafts_cons_eq_ok h
    rw [List.flatMap_cons, List.nodup_append] at hplaces
    obtain ⟨hdplain, hdsplain⟩ := List.forall_mem_cons.mp hplain
    have hm : m.here = t.here := by
      have hc := d.changesWithin_write s t
      rw [hd] at hc
      exact hc.here
    obtain ⟨status, rfl, hsettled⟩ := Draft.settled_of_write hreal hdplain hplaces.1 hd
    -- The later writes are at other places.
    have hlater := changesWithin_writeDrafts s ds m
    rw [hds] at hlater
    refine .cons ⟨status, rfl, hsettled.mono hlater fun place hplace hmem => ?_⟩
      (ih hdsplain (hm ▸ hplaces.2.1) hds)
    rw [hm] at hplace hmem
    exact hplaces.2.2 place hplace place hmem rfl

/-- A run over a tree in which all its drafts are settled changes nothing. -/
theorem run_writeDrafts_of_settled
    (h : List.Forall₂ (fun d f => ∃ status, f = d.file s status ∧ d.Settled s t status) ds files)
    (ht : t.Agrees t') : ∃ u, (writeDrafts s ds).run t' = (.ok (files.map .again), u) ∧
      t.Agrees u := by
  induction h generalizing t' with
  | nil => exact ⟨t', rfl, ht⟩
  | @cons d f ds files hd _ ih =>
    obtain ⟨status, rfl, hsettled⟩ := hd
    obtain ⟨m, hwrite, hm⟩ := (hsettled.mono ht.changesWithin (by simp)).run_write
    obtain ⟨u, hrest, hu⟩ := ih (ht.trans hm)
    refine ⟨u, ?_, hu⟩
    rw [run_writeDrafts_cons, hwrite]
    simp only [hrest, List.map_cons, Draft.again_file]

end

/-! ### Runs of a generator -/

/-- A template that was had is had again, if its file was left alone. -/
theorem Template.Folder.load_of_changesWithin {disk disk' : FileTree} {places : List Place}
    {folder : Folder} {path : String} {parsed : Template} (h : disk.ChangesWithin disk' places)
    (hp : folder = .bundled ∨ (folder.path.join (.ofString path)).denoted disk.here ∉ places)
    (hl : folder.load disk path = .ok parsed) : folder.load disk' path = .ok parsed := by
  cases folder with
  | bundled => exact hl
  | directory dir =>
    have hp := hp.resolve_left nofun
    rw [load] at hl
    split at hl
    · next x hx =>
      obtain ⟨content, hr, hdecode⟩ := readText_eq_ok_iff.mp (source_eq_some_iff.mp hx)
      have hx' : source disk' (.directory dir) path = .ok (some x) :=
        source_eq_some_iff.mpr (readText_eq_ok_iff.mpr ⟨content, h.readBytes hp hr, hdecode⟩)
      rw [load, hx']
      exact hl
    · cases hl
    · cases hl

namespace Generator

variable {own : Ownership} {disk disk' : FileTree} {c : Component} {s : Settings}
  {report : Report} {g₁ : Generator}

/-- The templates of a run are had again, if their files were left alone. -/
theorem load_again {places : List Place} (hc : disk.ChangesWithin disk' places)
    (hi : ∀ p ∈ CommandLine.templatePaths s, p.denoted disk.here ∉ places)
    (hl : IsLoaded disk s) : ∀ template ∈ s.taskTemplates.templates,
      (folderOf s).load disk' template = (folderOf s).load disk template := by
  intro template ht
  obtain ⟨parsed, hparsed⟩ := hl template ht
  rw [hparsed]
  refine Folder.load_of_changesWithin hc ?_ hparsed
  unfold CommandLine.templatePaths at hi
  unfold folderOf
  cases hdir : s.templateDir with
  | none => exact .inl rfl
  | some dir =>
    rw [hdir] at hi
    exact .inr (hi _ (List.mem_map_of_mem ht))

/-- A second run, with the same generator or a new one, leaves all entries as the first one left
them.  Its report tells of the same files, unchanged or still kept, and of the same failures. -/
theorem generate_again (hreal : s.dryRun = false) (hapart : Apart c s disk.here)
    (hinputs : ∀ p ∈ CommandLine.templatePaths s,
      p.denoted disk.here ∉ outputPlaces c s disk.here)
    (hplain : ∀ d ∈ drafts own disk c s, '\r' ∉ d.text.toList)
    (hrun : (fresh c s).generate own disk = (.ok report, g₁, disk')) :
    ∀ g ∈ [fresh c s, g₁], ∃ g₂ disk'',
      g.generate own disk' = (.ok report.again, g₂, disk'') ∧ disk'.Agrees disk'' := by
  obtain ⟨hends, r', rfl, hr', hf'⟩ := ends_of_fresh hapart hrun
  cases hends with
  | @reported files _ hs hl hfault hwrite =>
    have hc : disk.ChangesWithin disk' (outputPlaces c s disk.here) := by
      have hc := changesWithin_writeDrafts s (drafts own disk c s) disk
      rw [hwrite] at hc
      exact hc.mono (places_subset (List.prefix_refl _))
    have hload := load_again hc hinputs hl
    have hrenderings := renderings_congr own hload
    obtain ⟨-, hfailure, hfault'⟩ := outcomes_congr hrenderings
    have hsettled := settled_of_writeDrafts hreal hplain
      (hapart.nodup_places (List.prefix_refl _)) hwrite
    obtain ⟨disk'', hagain, hagrees⟩ := run_writeDrafts_of_settled hsettled (.refl disk')
    have hnext : ∀ r : Registry, r.folder = folderOf s →
        r.IsFaithful disk' s.taskTemplates.templates → ∃ g₂ disk'',
          generate own disk' ⟨c, s, r⟩ = (.ok (Report.again ⟨files,
            (participants c s).filterMap (failure? own disk s)⟩), g₂, disk'') ∧
            disk'.Agrees disk'' := by
      intro r hr hf
      have hapart' : Apart c s disk'.here := hc.here ▸ hapart
      rw [← drafts_congr hrenderings] at hagain
      rw [← hfault'] at hfault
      obtain ⟨r₂, hgen⟩ :=
        generate_of_written hf hr hapart' hs (hl.congr hload) hfault hagain
      rw [hfailure] at hgen
      exact ⟨_, disk'', hgen, hagrees⟩
    intro g hg
    rcases List.mem_pair.mp hg with rfl | rfl
    · exact hnext _ rfl (Registry.isFaithful_fresh disk' _ _)
    · have hload' : ∀ template ∈ s.taskTemplates.templates,
          r'.folder.load disk' template = r'.folder.load disk template := by
        rw [hr']
        exact hload
      exact hnext r' hr' (hf'.of_load hload')

/-- In the second run the edited files are kept once more, and the new file is unchanged. -/
theorem generate_again_sample : ∃ g₁ disk₁ g₂ disk₂,
    (fresh sampleComponent (sampleSettings (.ofString "out"))).generate sampleOwnership sampleDisk =
      (.ok sampleReport, g₁, disk₁) ∧
    g₁.generate sampleOwnership disk₁ =
      (.ok { sampleReport with files := [
        ⟨"nav::Drive", .ofString "Drive.txt", .kept, some (.ofString "templates/Drive.txt")⟩,
        ⟨"nav::Stop", .ofString "Stop.txt", .kept, some (.ofString "templates/Stop.txt")⟩,
        ⟨"nav::Turn", .ofString "Turn.txt", .unchanged, none⟩] }, g₂, disk₂) ∧
    disk₁.Agrees disk₂ := by
  have hpaths : CommandLine.templatePaths (sampleSettings (.ofString "out")) =
      [.ofString "lib/t"] := by rfl
  have hinputs : ∀ p ∈ CommandLine.templatePaths (sampleSettings (.ofString "out")),
      p.denoted sampleDisk.here ∉
        outputPlaces sampleComponent (sampleSettings (.ofString "out")) sampleDisk.here := by
    rw [sample_outputPlaces, hpaths]
    decide
  have hplain : ∀ d ∈ drafts sampleOwnership sampleDisk sampleComponent
      (sampleSettings (.ofString "out")), '\r' ∉ d.text.toList := by
    rw [sample_drafts]
    decide
  obtain ⟨g₁, hrun⟩ := sample_run_out
  obtain ⟨g₂, disk₂, hagain, hagrees⟩ :=
    generate_again rfl sample_apart hinputs hplain hrun g₁ (by simp)
  exact ⟨g₁, _, g₂, disk₂, hrun, hagain, hagrees⟩

end Generator

end Scaffold
