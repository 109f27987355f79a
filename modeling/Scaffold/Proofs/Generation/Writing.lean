import Scaffold.Proofs.Generation.Run

/-! One rendering that is written.  Texts are compared, not bytes, and to read a file makes all its
ends of lines alike: a rendering is found again as it was written if it has no carriage returns.
Without force only the reference is written beside a file that is there, so that file stays as it
is if the reference has a place of its own. -/
namespace Scaffold

open FileTree

variable {s : Settings} {d : Draft} {task content : String} {relative : FilePath}
  {t t' : FileTree} {f : GeneratedFile} {bytes : ByteArray}

/-! ### The status and the bytes -/

/-- The status of a rendering and the bytes at its target.  It is unchanged if and only if these
are its text up to ends of lines; then nothing is written.  A rendering that was written to its
target is found there unchanged if and only if it has no carriage returns. -/
theorem writeRendering_exact
    (h : (writeRendering s task relative content).run t = (.ok f, t')) :
    (f.status = .unchanged ↔ ∃ x : String,
        t.readBytes (s.outputDir.join relative) = .ok x.toUTF8 ∧
          plainLines x.toList = content.toList) ∧
      (f.status = .unchanged → t' = t ∧ ∀ x : String,
        t.readBytes (s.outputDir.join relative) = .ok x.toUTF8 → '\r' ∉ x.toList →
          x = content) ∧
      (s.dryRun = false → f.status = .created ∨ f.status = .overwritten →
        ∀ (s' : Settings) (task' : String) (relative' : FilePath),
          s'.outputDir.join relative' = s.outputDir.join relative →
          ((writeRendering s' task' relative' content).run t' =
            (.ok ⟨task', relative', .unchanged, none⟩, t') ↔ '\r' ∉ content.toList)) := by
  obtain ⟨found, hfound, rfl, hleaves⟩ := Draft.write_eq_ok (d := ⟨task, relative, content⟩) h
  change foundText t (s.outputDir.join relative) = .ok found at hfound
  refine ⟨?_, ?_, ?_⟩
  · rw [← foundText_eq_some_iff_readBytes, hfound, Except.ok.injEq]
    exact statusOf_eq_unchanged_iff
  · intro hstatus
    change statusOf s found content = .unchanged at hstatus
    rw [hstatus] at hleaves
    refine ⟨hleaves.eq_of_none rfl, fun x hr hplain => ?_⟩
    have hx : foundText t (s.outputDir.join relative) = .ok (some x) :=
      foundText_eq_some_iff.mpr ⟨_, hr, decode_toUTF8 hplain⟩
    rw [hfound, statusOf_eq_unchanged_iff.mp hstatus] at hx
    exact (Option.some.inj (Except.ok.inj hx)).symm
  · intro hreal hwritten s' task' relative' hpath
    have hdestination : destination? s relative (statusOf s found content) =
        some (s.outputDir.join relative) := by
      rcases hwritten with hcreated | hoverwritten
      · exact congrArg (destination? s relative) hcreated
      · exact congrArg (destination? s relative) hoverwritten
    have hbytes := hleaves.readBytes hreal hdestination
    rw [← hpath] at hbytes
    exact Draft.run_write_again_iff (d := ⟨task', relative', content⟩) hbytes

namespace Generator

/-- A rendering that is written for the first time is found unchanged in the second. -/
theorem writeRendering_exact_sample : ∃ disk,
    (writeRendering (sampleSettings (.ofString "out")) "nav::Turn" (.ofString "Turn.txt")
        "task Turn\n").run sampleDisk =
      (.ok ⟨"nav::Turn", .ofString "Turn.txt", .created, none⟩, disk) ∧
    (writeRendering (sampleSettings (.ofString "out")) "nav::Turn" (.ofString "Turn.txt")
        "task Turn\n").run disk =
      (.ok ⟨"nav::Turn", .ofString "Turn.txt", .unchanged, none⟩, disk) := by
  have hrun : (writeRendering (sampleSettings (.ofString "out")) "nav::Turn"
      (.ofString "Turn.txt") "task Turn\n").run sampleDisk =
        (.ok ⟨"nav::Turn", .ofString "Turn.txt", .created, none⟩,
          sampleDisk.set ["w", "out", "Turn.txt"] (.file "task Turn\n".toUTF8)) := by
    rfl
  have hagain := (writeRendering_exact hrun).2.2 rfl (.inl rfl)
    (sampleSettings (.ofString "out")) "nav::Turn" (.ofString "Turn.txt") rfl
  exact ⟨_, hrun, hagain.mpr (by decide)⟩

/-- The sample files, where the file of a task ends its line with a carriage return as well. -/
def returnsDisk : FileTree :=
  sampleDisk.set ["w", "out", "Drive.txt"] (.file "edited\r\n".toUTF8)

/-- A file is reported as unchanged though it has other bytes, and a rendering with a carriage
return is kept by the run after the one that created it, with a reference beside it. -/
theorem writeRendering_returns_inexact :
    (returnsDisk.readBytes ((FilePath.ofString "out").join (.ofString "Drive.txt")) ≠
        .ok "edited\n".toUTF8 ∧
      (writeRendering (sampleSettings (.ofString "out")) "nav::Drive" (.ofString "Drive.txt")
          "edited\n").run returnsDisk =
        (.ok ⟨"nav::Drive", .ofString "Drive.txt", .unchanged, none⟩, returnsDisk)) ∧
    ∃ first second,
      (writeRendering (sampleSettings (.ofString "out")) "nav::Turn" (.ofString "Turn.txt")
          "task\r\nTurn\n").run sampleDisk =
        (.ok ⟨"nav::Turn", .ofString "Turn.txt", .created, none⟩, first) ∧
      (writeRendering (sampleSettings (.ofString "out")) "nav::Turn" (.ofString "Turn.txt")
          "task\r\nTurn\n").run first =
        (.ok ⟨"nav::Turn", .ofString "Turn.txt", .kept, some (.ofString "templates/Turn.txt")⟩,
          second) ∧
      first.entry? ["w", "out", "templates", "Turn.txt"] = none ∧
      second.entry? ["w", "out", "templates", "Turn.txt"] =
        some (.file "task\r\nTurn\n".toUTF8) := by
  exact ⟨⟨by decide, rfl⟩, _, _, rfl, rfl, rfl, rfl⟩

end Generator

/-! ### A file that is there already -/

/-- Without force nothing but the reference is written if there is a file at the target. -/
theorem Draft.changesWithin_reference (hforce : s.force = false)
    (hr : t.readBytes (d.target s) = .ok bytes) :
    t.ChangesWithin ((d.write s).run t).2 [(d.reference s).denoted t.here] := by
  rcases d.write_cases s t with ⟨e, t', hrun, hadds⟩ | ⟨found, t', hfound, hrun, hleaves⟩
  · rw [hrun]
    exact hadds.mono (List.nil_subset _)
  · rw [hrun]
    cases hstatus : statusOf s found d.text with
    | created =>
      rw [statusOf_eq_created_iff.mp hstatus, foundText_eq_none_iff, look_of_readBytes hr] at hfound
      cases hfound
    | unchanged =>
      rw [hstatus] at hleaves
      rw [hleaves.eq_of_none rfl]
      exact .refl t _
    | kept =>
      rw [hstatus] at hleaves
      exact hleaves.changesWithin_destination rfl
    | overwritten =>
      rw [(statusOf_eq_overwritten_iff.mp hstatus).1] at hforce
      cases hforce

/-- Without force a file that is there is left as it is, however the write ends, if the place of
the reference is another one; a file that is reported as kept has another text then.  If the place
is the same, the rendering replaces the file that is reported as kept. -/
theorem writeRendering_keeps {r : Except FileFault GeneratedFile} (hforce : s.force = false)
    (hr : t.readBytes (s.outputDir.join relative) = .ok bytes)
    (h : (writeRendering s task relative content).run t = (r, t')) :
    ((s.referencePath.join relative).denoted t.here ≠ (s.outputDir.join relative).denoted t.here →
        t'.readBytes (s.outputDir.join relative) = .ok bytes) ∧
      ∀ f, r = .ok f → f.status = .kept →
        ((s.referencePath.join relative).denoted t.here ≠
            (s.outputDir.join relative).denoted t.here →
          ∃ x, x ≠ content ∧ t'.readText (s.outputDir.join relative) = .ok x) ∧
        ((s.referencePath.join relative).denoted t.here =
            (s.outputDir.join relative).denoted t.here → s.dryRun = false →
          t'.readBytes (s.outputDir.join relative) = .ok content.toUTF8) := by
  have hwithin : t.ChangesWithin t' [(s.referencePath.join relative).denoted t.here] := by
    have hwrite := Draft.changesWithin_reference (d := ⟨task, relative, content⟩) hforce hr
    change t.ChangesWithin ((writeRendering s task relative content).run t).2 _ at hwrite
    rwa [h] at hwrite
  constructor
  · intro hapart
    exact hwithin.readBytes (fun hmem => hapart (List.mem_singleton.mp hmem).symm) hr
  · rintro f rfl hkept
    obtain ⟨found, hfound, rfl, hleaves⟩ := Draft.write_eq_ok (d := ⟨task, relative, content⟩) h
    change statusOf s found content = .kept at hkept
    obtain ⟨-, x, rfl, hne⟩ := statusOf_eq_kept_iff.mp hkept
    constructor
    · intro hapart
      have hfound' : foundText t' (s.outputDir.join relative) = .ok (some x) :=
        foundText_of_changesWithin hwithin
          (fun hmem => hapart (List.mem_singleton.mp hmem).symm) hfound
      exact ⟨x, hne, readText_eq_ok_iff.mpr (foundText_eq_some_iff.mp hfound')⟩
    · intro hsame hreal
      have hreference : t'.readBytes (s.referencePath.join relative) = .ok content.toUTF8 :=
        hleaves.readBytes hreal (congrArg (destination? s relative) hkept)
      obtain ⟨hn, hp, -⟩ := readBytes_eq_ok_iff.mp hr
      have hentry := (readBytes_eq_ok_iff.mp hreference).2.2
      rw [hwithin.here, hsame] at hentry
      rw [readBytes_eq_ok_iff, hwithin.here]
      exact ⟨hn, placeOf_mono hwithin.toKeepsDirectories hp, hentry⟩

namespace Generator

/-- The file that was edited is as it was. -/
theorem writeRendering_keeps_sample : ∃ disk,
    (writeRendering (sampleSettings (.ofString "out")) "nav::Drive" (.ofString "Drive.txt")
        "task Drive\n").run sampleDisk =
      (.ok ⟨"nav::Drive", .ofString "Drive.txt", .kept, some (.ofString "templates/Drive.txt")⟩,
        disk) ∧
    disk.readBytes ((FilePath.ofString "out").join (.ofString "Drive.txt")) =
      .ok "edited".toUTF8 := by
  obtain ⟨disk, hrun⟩ : ∃ disk, (writeRendering (sampleSettings (.ofString "out")) "nav::Drive"
      (.ofString "Drive.txt") "task Drive\n").run sampleDisk = (.ok ⟨"nav::Drive",
        .ofString "Drive.txt", .kept, some (.ofString "templates/Drive.txt")⟩, disk) :=
    ⟨_, rfl⟩
  have hbefore : sampleDisk.readBytes ((FilePath.ofString "out").join (.ofString "Drive.txt")) =
      .ok "edited".toUTF8 := by
    rfl
  exact ⟨disk, hrun, (writeRendering_keeps rfl hbefore hrun).1 (by decide)⟩

/-- The settings of the sample, with references in the output directory itself. -/
def besideSettings : Settings :=
  { sampleSettings (.ofString "out") with referenceDir := "." }

/-- With references in the output directory a file that was edited is reported as kept, and it is
replaced. -/
theorem writeRendering_beside_replaces :
    besideSettings.force = false ∧
    sampleDisk.readBytes ((FilePath.ofString "out").join (.ofString "Drive.txt")) =
      .ok "edited".toUTF8 ∧
    ∃ disk, (writeRendering besideSettings "nav::Drive" (.ofString "Drive.txt")
        "task Drive\n").run sampleDisk =
        (.ok ⟨"nav::Drive", .ofString "Drive.txt", .kept, some (.ofString "Drive.txt")⟩, disk) ∧
      disk.readBytes ((FilePath.ofString "out").join (.ofString "Drive.txt")) =
        .ok "task Drive\n".toUTF8 := by
  exact ⟨rfl, rfl, _, rfl, rfl⟩

end Generator

end Scaffold
