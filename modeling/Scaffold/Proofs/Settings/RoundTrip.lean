import Scaffold.Proofs.Files.Content
import Scaffold.Proofs.Files.Spelling
import Scaffold.Proofs.Json.RoundTrip
import Scaffold.Settings.Document

/-! Settings and their documents.  The document of settings gives them again, with the switches
that hold for one run only turned off, and so does the file that they are saved in. -/
namespace Scaffold

open FileTree

/-! ### Tables and lists of texts -/

theorem checkField_of_some {α : Type} {fields : List (Scalar × Value)} {name : String}
    {default a : α} {check : Value → Check α} {v : Value} (h : fieldOf? fields name = some v)
    (hv : check v = .ok a) : checkField fields name default check = .ok a := by
  unfold checkField
  simp only [h, hv]
  rfl

theorem checkAll_texts (n : Nat) (texts : List String) :
    checkAll checkText n (texts.map Value.text) = .ok texts := by
  induction texts generalizing n with
  | nil => rfl
  | cons s texts ih =>
    rw [List.map_cons, checkAll, ih]
    rfl

theorem checkEntries_texts (es : List (String × String)) :
    checkEntries (es.map fun e => (.text e.1, .text e.2)) = .ok es := by
  induction es with
  | nil => rfl
  | cons e es ih =>
    rw [List.map_cons, checkEntries, ih]
    rfl

namespace TemplateTable

theorem setPattern_of_notMem {template pattern : String} {es : List (String × String)}
    (h : template ∉ es.map (·.1)) :
    setPattern template pattern es = es ++ [(template, pattern)] := by
  induction es with
  | nil => rfl
  | cons e es ih =>
    simp only [List.map_cons, List.mem_cons, not_or] at h
    rw [setPattern, if_neg (Ne.symm h.1), ih h.2, List.cons_append]

theorem entries_foldl_set {es : List (String × String)} (t : TemplateTable)
    (h : ((t.entries ++ es).map (·.1)).Nodup) :
    (es.foldl (fun t e => t.set e.1 e.2) t).entries = t.entries ++ es := by
  induction es generalizing t with
  | nil => simp
  | cons e es ih =>
    have hentries : (t.set e.1 e.2).entries = t.entries ++ [e] := by
      refine setPattern_of_notMem fun hm => ?_
      rw [List.map_append, List.nodup_append] at h
      exact h.2.2 _ hm _ List.mem_cons_self rfl
    rw [List.foldl_cons, ih _ (by rw [hentries]; simpa using h), hentries, List.append_assoc]
    rfl

/-- A table is that of its entries. -/
theorem ofList_entries (t : TemplateTable) : ofList t.entries = t := by
  have h : (ofList t.entries).entries = t.entries :=
    entries_foldl_set empty t.distinct
  obtain ⟨entries, distinct⟩ := t
  rw [← TemplateTable.mk.injEq] at h
  exact h

end TemplateTable

/-! ### Documents of settings -/

namespace Settings

variable {disk : FileTree} {path : FilePath}

/-- The settings as a later run finds them. -/
def saved (s : Settings) : Settings := { s with force := false, dryRun := false }

theorem allFit_texts (room : Nat) (texts : List String) :
    Json.allFit room (texts.map Value.text) = true := by
  induction texts with
  | nil => rfl
  | cons s texts ih => exact ih

theorem entriesFit_texts (room : Nat) (es : List (String × String)) :
    Json.entriesFit room (es.map fun e => (.text e.1, .text e.2)) = true := by
  induction es with
  | nil => rfl
  | cons e es ih => exact ih

theorem fits_toValue (s : Settings) : Json.fits Json.settings.depth s.toValue = true := by
  have htable := entriesFit_texts 199 s.taskTemplates.entries
  have htasks := allFit_texts 199 s.tasks
  cases hdir : s.templateDir <;>
    simp [toValue, hdir, Json.settings, Json.fits, Json.entriesFit, htable, htasks]

/-- Settings are read from their document, with the switches for one run turned off. -/
theorem ofJson_toJson (s : Settings) : ofJson s.toJson = .ok s.saved := by
  have hfields : ∀ out dir reference table tasks : Value,
      ([(.text "output_dir", out), (.text "template_dir", dir), (.text "reference_dir", reference),
        (.text "task_templates", table), (.text "tasks", tasks)] : List (Scalar × Value)).foldl
          (fun fs e => setEntry fs e.1 e.2) [] =
        [(.text "output_dir", out), (.text "template_dir", dir),
          (.text "reference_dir", reference), (.text "task_templates", table),
          (.text "tasks", tasks)] := fun _ _ _ _ _ => rfl
  have hdir : checkPath? ((s.templateDir.map fun p => Value.text p.text).getD .null) =
      .ok s.templateDir := by
    cases s.templateDir with
    | none => rfl
    | some dir => exact congrArg (fun p => Except.ok (some p)) dir.ofString_text
  have hentries : checkTable .document
      (.dict (s.taskTemplates.entries.map fun e => (.text e.1, .text e.2))) =
        .ok s.taskTemplates := by
    rw [checkTable, checkEntries_texts]
    exact congrArg Except.ok s.taskTemplates.ofList_entries
  rw [ofJson, toJson, Json.read_write Json.isSpaced_indented s.fits_toValue, toValue]
  dsimp only
  rw [hfields]
  generalize hgiven : ([(.text "output_dir", .text s.outputDir.text), _, _, _, _] :
    List (Scalar × Value)) = fields
  have houtput : checkField fields "output_dir" default.outputDir checkPath = .ok s.outputDir :=
    checkField_of_some (v := .text s.outputDir.text) (hgiven ▸ rfl)
      (congrArg Except.ok s.outputDir.ofString_text)
  have htemplate : checkField fields "template_dir" default.templateDir checkPath? =
      .ok s.templateDir :=
    checkField_of_some (hgiven ▸ rfl) hdir
  have hreference : checkField fields "reference_dir" default.referenceDir checkText =
      .ok s.referenceDir :=
    checkField_of_some (v := .text s.referenceDir) (hgiven ▸ rfl) rfl
  have htable : checkField fields "task_templates" default.taskTemplates (checkTable .document) =
      .ok s.taskTemplates :=
    checkField_of_some (hgiven ▸ rfl) hentries
  have htasks : checkField fields "tasks" default.tasks (checkTexts .document) = .ok s.tasks :=
    checkField_of_some (v := .list (s.tasks.map Value.text)) (hgiven ▸ rfl)
      (checkAll_texts 0 s.tasks)
  have hforce : checkField fields "force" default.force checkTruth = .ok false :=
    hgiven ▸ rfl
  have hdry : checkField fields "dry_run" default.dryRun checkTruth = .ok false :=
    hgiven ▸ rfl
  rw [check, houtput, htemplate, hreference, htable, htasks, hforce, hdry]
  rfl

/-- Settings are had from the file that holds their document. -/
theorem load_of_readBytes {s : Settings} (h : disk.readBytes path = .ok s.toJson.toUTF8) :
    load disk path = .ok s.saved := by
  have htext : disk.readText path = .ok s.toJson :=
    readText_eq_ok_iff.mpr
      ⟨_, h, decode_toUTF8 (Json.return_notMem_writeAt s.toValue 0 s.fits_toValue)⟩
  rw [load, htext]
  simp only [ofJson_toJson]
  rfl

/-! ### Saving -/

variable {s : Settings} {target : Option FilePath} {disk' : FileTree}

theorem run_save (s : Settings) (target : Option FilePath) (disk : FileTree) :
    (s.save target).run disk =
      match (writeText (target.getD s.filePath) s.toJson).run disk with
      | (.error e, disk') => (.error e, disk')
      | (.ok _, disk') => (.ok (target.getD s.filePath), disk') := by
  rw [save, run_bind]
  rcases (writeText (target.getD s.filePath) s.toJson).run disk with ⟨e | _, disk'⟩ <;> rfl

/-- Settings that were saved are in their file, and no other file changed. -/
theorem of_run_save (h : (s.save target).run disk = (.ok path, disk')) :
    path = target.getD s.filePath ∧ disk'.readBytes path = .ok s.toJson.toUTF8 ∧
      disk.ChangesWithin disk' [path.denoted disk.here] := by
  rw [run_save] at h
  rcases writeText_cases (target.getD s.filePath) s.toJson disk with
    ⟨e, left, hrun, -⟩ | ⟨left, hrun, hc, hr⟩
  · rw [hrun] at h
    cases h
  · rw [hrun] at h
    cases h
    exact ⟨rfl, hr, hc⟩

/-- Settings that are saved over themselves change nothing. -/
theorem run_save_again (target : Option FilePath)
    (h : disk.readBytes (target.getD s.filePath) = .ok s.toJson.toUTF8) :
    ∃ disk', (s.saved.save target).run disk = (.ok (target.getD s.filePath), disk') ∧
      disk.Agrees disk' := by
  obtain ⟨disk', hrun, hagrees⟩ := run_writeText_same h
  have hsaved : (writeText (target.getD s.saved.filePath) s.saved.toJson).run disk =
      (.ok (), disk') := hrun
  refine ⟨disk', ?_, hagrees⟩
  rw [run_save, hsaved]
  rfl

/-- Settings are had again from the file that they were saved in, wherever it is: the same ones,
templates and tasks in their order, but for the switches for one run, which are off.  These are
saved as the same bytes, and over the first file they change nothing. -/
theorem load_of_save (h : (s.save target).run disk = (.ok path, disk')) :
    path = target.getD s.filePath ∧
    ∃ found, load disk' path = .ok found ∧ found = { s with force := false, dryRun := false } ∧
      (∃ again, (found.save (some path)).run disk' = (.ok path, again) ∧ disk'.Agrees again) ∧
      ∃ content, disk'.readBytes path = .ok content ∧
        ∀ (elsewhere : Option FilePath) (before after : FileTree) (file : FilePath),
          (found.save elsewhere).run before = (.ok file, after) →
            after.readBytes file = .ok content := by
  obtain ⟨hpath, hbytes, -⟩ := of_run_save h
  refine ⟨hpath, s.saved, load_of_readBytes hbytes, rfl, run_save_again (some path) hbytes,
    s.toJson.toUTF8, hbytes, ?_⟩
  intro elsewhere before after file hagain
  -- The document leaves the switches out, so that it is the same before and after.
  have hdocument : s.saved.toJson = s.toJson := rfl
  rw [← hdocument]
  exact (of_run_save hagain).2.1

/-- Settings with both switches on and with texts that a document has to escape. -/
def escapedSettings : Settings where
  outputDir := .ofString "out\\\"1\""
  templateDir := some (.ofString "/lib\u2028")
  referenceDir := "fresh\r\n"
  taskTemplates := .ofList [("b.tmpl", "\t"), ("a.tmpl", "é\x00")]
  tasks := ["Turn", "Drive\n"]
  force := true
  dryRun := true

theorem load_of_save_escaped : ∃ disk',
    (escapedSettings.save (some (.ofString "conf.json"))).run (emptyAt ["w"]) =
      (.ok (.ofString "conf.json"), disk') ∧
    load disk' (.ofString "conf.json") =
      .ok { escapedSettings with force := false, dryRun := false } := by
  obtain ⟨disk', hsave⟩ : ∃ disk',
      (escapedSettings.save (some (.ofString "conf.json"))).run (emptyAt ["w"]) =
        (.ok (.ofString "conf.json"), disk') :=
    ⟨_, rfl⟩
  obtain ⟨-, found, hload, rfl, -⟩ := load_of_save hsave
  exact ⟨disk', hsave, hload⟩

end Settings

end Scaffold
