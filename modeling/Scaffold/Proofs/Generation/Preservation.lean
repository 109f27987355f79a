import Scaffold.Proofs.Generation.Run

/-! What a run leaves alone.  Unless it is forced, a run writes a target where nothing was, and the
reference of a target that was edited; every other file stays as it is, however the run ends. -/
namespace Scaffold

open FileTree Model Template

/-- The places at which a draft may be written over a tree: its target if nothing is there, its
reference if the target has another text. -/
inductive Draft.MayWrite (s : Settings) (t : FileTree) (d : Draft) : Place → Prop
  | target : t.entry? ((d.target s).denoted t.here) = none →
      d.MayWrite s t ((d.target s).denoted t.here)
  | reference {x : String} : x ≠ d.text → foundText t (d.target s) = .ok (some x) →
      d.MayWrite s t ((d.reference s).denoted t.here)

section
variable {s : Settings} {d : Draft} {ds : List Draft} {t₀ t : FileTree} {places : List Place}

/-- What is found missing at a path that the tree shows is not there. -/
theorem entry?_of_foundText {p : FilePath} (hs : t.Shows p) (hn : p.hasNull = false)
    (hf : foundText t p = .ok none) : t.entry? (p.denoted t.here) = none := by
  have hlook := foundText_eq_none_iff.mp hf
  rw [look, hn] at hlook
  rw [Shows, find?] at hs
  cases hp : t.placeOf p with
  | ok q =>
    rw [hp] at hs hlook
    rw [← hs]
    exact Except.ok.inj hlook
  | error o =>
    rw [hp] at hs
    exact hs.symm

/-- A write puts the text of its draft at one place, or nothing. -/
theorem Draft.Leaves.keepsAt {t' : FileTree} {status : FileStatus} {path : FilePath}
    (h : d.Leaves s t status t') (hpath : destination? s d.relative status = some path)
    (place : Place) : t.KeepsAt t' place ∨ place = path.denoted t.here ∧
      path.hasNull = false ∧ t'.entry? place = some (.file d.text.toUTF8) := by
  cases h with
  | same => exact .inl (.inl rfl)
  | written hreal hpath' hc hr =>
    obtain rfl : path = _ := Option.some.inj (hpath.symm.trans hpath')
    by_cases hplace : place = path.denoted t.here
    · obtain ⟨hn, -, he⟩ := readBytes_eq_ok_iff.mp hr
      rw [hc.here, ← hplace] at he
      exact .inr ⟨hplace, hn, he⟩
    · exact .inl (hc.elsewhere place fun hm => hplace (List.mem_singleton.mp hm))

/-- One write, seen from the tree before all writes. -/
theorem Draft.write_keepsAt (hforce : s.force = false) (hp : Pending s t₀ t places ds)
    (hd : d ∈ ds) (place : Place) : t.KeepsAt ((d.write s).run t).2 place ∨
      d.MayWrite s t₀ place ∧
        FileTree.entry? ((d.write s).run t).2 place = some (.file d.text.toUTF8) := by
  rcases d.write_cases s t with ⟨e, t', hrun, hadds⟩ | ⟨found, t', hfound, hrun, hleaves⟩
  · rw [hrun]
    exact .inl (hadds.elsewhere place List.not_mem_nil)
  · rw [hrun]
    have hfound₀ : foundText t₀ (d.target s) = .ok found :=
      hp.found_before hd hfound
    have hhere : t.here = t₀.here := hp.changes.here
    cases hstatus : statusOf s found d.text with
    | created =>
      rw [hstatus] at hleaves
      refine (hleaves.keepsAt rfl place).imp_right fun ⟨hplace, hn, he⟩ => ⟨?_, he⟩
      rw [statusOf_eq_created_iff.mp hstatus] at hfound₀
      rw [hplace, hhere]
      exact .target (entry?_of_foundText (hp.shown d hd) hn hfound₀)
    | unchanged =>
      rw [hstatus] at hleaves
      rw [hleaves.eq_of_none rfl]
      exact .inl (.inl rfl)
    | kept =>
      rw [hstatus] at hleaves
      refine (hleaves.keepsAt rfl place).imp_right fun ⟨hplace, hn, he⟩ => ⟨?_, he⟩
      obtain ⟨-, x, rfl, hx⟩ := statusOf_eq_kept_iff.mp hstatus
      rw [hplace, hhere]
      exact .reference hx hfound₀
    | overwritten =>
      have hforced := (statusOf_eq_overwritten_iff.mp hstatus).1
      rw [hforce] at hforced
      cases hforced

/-- A run of drafts, seen from the tree before it: what is not kept holds the text of a draft, at a
place where that draft may be written. -/
theorem writeDrafts_keepsAt (hforce : s.force = false) (hp : Pending s t₀ t places ds)
    (place : Place) : t.KeepsAt ((writeDrafts s ds).run t).2 place ∨
      ∃ d ∈ ds, d.MayWrite s t₀ place ∧
        FileTree.entry? ((writeDrafts s ds).run t).2 place = some (.file d.text.toUTF8) := by
  induction ds generalizing t places with
  | nil => exact .inl (.inl rfl)
  | cons d ds ih =>
    have hone := d.write_keepsAt hforce hp List.mem_cons_self place
    have hlater := hp.tail
    rw [tree_writeDrafts_cons]
    rcases hrun : (d.write s).run t with ⟨e | f, m⟩
    · rw [hrun] at hone
      exact hone.imp_right fun h => ⟨d, List.mem_cons_self, h⟩
    · rw [hrun] at hone hlater
      rcases ih hlater with hkept | ⟨d', hd', hput⟩
      · rcases hone with hone | ⟨hmay, hfile⟩
        · exact .inl (hone.trans hkept)
        · -- What this draft put there is left alone by the others.
          refine .inr ⟨d, List.mem_cons_self, hmay, ?_⟩
          exact hkept.file_iff.mpr hfile
      · exact .inr ⟨d', List.mem_cons_of_mem d hd', hput⟩

end

namespace Generator

variable {own : Ownership} {disk disk' : FileTree} {c : Component} {s : Settings}
  {result : Except GenerationFault Report} {g' : Generator}

/-- However a run that is not forced ends, a file that was there and is no reference keeps its
bytes.  A file that is new or changed holds what a template makes of a task: it is a target where
nothing was, or the reference of a target with another text.  A dry run changes nothing. -/
theorem generate_preserves (hforce : s.force = false) (hapart : Apart c s disk.here)
    (hshows : ∀ p ∈ targetPaths c s, disk.Shows p)
    (hrun : (fresh c s).generate own disk = (result, g', disk')) :
    (∀ place content, disk.entry? place = some (.file content) →
      place ∉ (referencePaths c s).map (·.denoted disk.here) →
      disk'.entry? place = some (.file content)) ∧
    (∀ place content, disk'.entry? place = some (.file content) →
      disk.entry? place ≠ some (.file content) →
      ∃ t ∈ participants c s, ∃ template ∈ s.taskTemplates.templates, ∃ path text,
        rendering own disk s t template = .ok (path, text) ∧ content = text.toUTF8 ∧
          (place = (s.outputDir.join path).denoted disk.here ∧ disk.entry? place = none ∨
            place = (s.referencePath.join path).denoted disk.here ∧
              ∃ x, x ≠ text ∧ foundText disk (s.outputDir.join path) = .ok (some x))) ∧
    (s.dryRun = true → disk' = disk) := by
  obtain ⟨ds, hds, htree⟩ := (ends_of_fresh hapart hrun).1.exists_drafts
  have hmem : ∀ d ∈ ds, d ∈ drafts own disk c s := fun d hd => hds.subset hd
  have hshown : ∀ d ∈ ds, disk.Shows (d.target s) := by
    intro d hd
    exact hshows _ (List.mem_map_of_mem (mem_outputs_of_mem_drafts (hmem d hd)))
  have hkeeps (place : Place) :=
    writeDrafts_keepsAt hforce (.start (hapart.nodup_places hds) hshown) place
  rw [htree] at hkeeps
  refine ⟨?_, ?_, ?_⟩
  · intro place content hfile hnot
    rcases hkeeps place with hkept | ⟨d, hd, hmay, -⟩
    · exact hkept.file_iff.mpr hfile
    · cases hmay with
      | target hnone =>
        rw [hnone] at hfile
        cases hfile
      | reference =>
        have hreference : d.reference s ∈ referencePaths c s :=
          List.mem_map_of_mem (mem_outputs_of_mem_drafts (hmem d hd))
        exact absurd (List.mem_map_of_mem hreference) hnot
  · intro place content hfile hnew
    rcases hkeeps place with hkept | ⟨d, hd, hmay, hput⟩
    · exact absurd (hkept.file_iff.mp hfile) hnew
    · obtain ⟨t, ht, template, htemplate, -, hrendering⟩ :=
        rendering_of_mem_drafts (hmem d hd)
      have hcontent : content = d.text.toUTF8 := by
        rw [hput] at hfile
        exact (FileEntry.file.inj (Option.some.inj hfile)).symm
      refine ⟨t, ht, template, htemplate, d.relative, d.text, hrendering, hcontent, ?_⟩
      cases hmay with
      | target hnone => exact .inl ⟨rfl, hnone⟩
      | reference hx hfound => exact .inr ⟨rfl, _, hx, hfound⟩
  · intro hdry
    rw [← htree, tree_writeDrafts_of_dryRun hdry]

/-- The file that was edited is as it was. -/
theorem generate_preserves_sample : ∃ g disk',
    (fresh sampleComponent (sampleSettings (.ofString "out"))).generate sampleOwnership sampleDisk =
      (.ok sampleReport, g, disk') ∧
    disk'.entry? ["w", "out", "Drive.txt"] = some (.file "edited".toUTF8) := by
  obtain ⟨g, hrun⟩ := sample_run_out
  have hnot := sample_apart.target_notMem (drive_mem_outputs (.ofString "out"))
  exact ⟨g, _, hrun, (generate_preserves rfl sample_apart sample_shows hrun).1
    ["w", "out", "Drive.txt"] "edited".toUTF8 rfl hnot⟩

/-- By the detour the run does not see the file that was edited, and writes over it. -/
theorem generate_by_detour_overwrites :
    (sampleSettings sampleDetour).force = false ∧
    Apart sampleComponent (sampleSettings sampleDetour) sampleDisk.here ∧
    ["w", "out", "Drive.txt"] ∉ (referencePaths sampleComponent (sampleSettings sampleDetour)).map
      (·.denoted sampleDisk.here) ∧
    sampleDisk.entry? ["w", "out", "Drive.txt"] = some (.file "edited".toUTF8) ∧
    ∃ result g disk', (fresh sampleComponent (sampleSettings sampleDetour)).generate
        sampleOwnership sampleDisk = (result, g, disk') ∧
      disk'.entry? ["w", "out", "Drive.txt"] = some (.file "task Drive\n".toUTF8) := by
  obtain ⟨hfiles, hdrive⟩ := detour_written
  obtain ⟨g, hrun⟩ := sample_run detour_apart hfiles
  have hnot := detour_apart.target_notMem (drive_mem_outputs sampleDetour)
  exact ⟨rfl, detour_apart, hnot, rfl, _, g, _, hrun, hdrive⟩

end Generator

end Scaffold
