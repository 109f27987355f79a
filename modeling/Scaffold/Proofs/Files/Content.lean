import Scaffold.Proofs.Files.Change

/-! What files hold: a text that is written is read again, unless it has carriage returns, and
what was read stays as it is while other places change. -/
namespace Scaffold.FileTree

variable {t t' : FileTree} {q : Place} {places : List Place} {p : FilePath} {content : ByteArray}

/-! ### Texts and their bytes -/

theorem plainLines_of_notMem {cs : List Char} (h : '\r' ∉ cs) : plainLines cs = cs := by
  induction cs with
  | nil => rfl
  | cons c cs ih =>
    simp only [List.mem_cons, not_or] at h
    rw [plainLines, ih h.2]
    · rintro r rfl
      exact absurd rfl h.1
    · rintro rfl
      exact absurd rfl h.1

theorem return_notMem_plainLines (cs : List Char) : '\r' ∉ plainLines cs := by
  fun_induction plainLines cs with
  | case1 rest ih => simpa using ih
  | case2 rest hrest ih => simpa using ih
  | case3 c rest hc hrest ih => simpa [eq_comm, ih] using hrest
  | case4 => simp

/-- A text without carriage returns is one that is read as it is. -/
theorem plainLines_eq_self_iff {cs : List Char} : plainLines cs = cs ↔ '\r' ∉ cs :=
  ⟨fun h => h ▸ return_notMem_plainLines cs, plainLines_of_notMem⟩

theorem decode_encoded (s : String) :
    decode s.toUTF8 = .ok (String.ofList (plainLines s.toList)) := by
  have hutf : String.fromUTF8? s.toUTF8 = some s := dif_pos s.isValidUTF8
  rw [decode, hutf]

theorem decode_toUTF8 {s : String} (h : '\r' ∉ s.toList) : decode s.toUTF8 = .ok s := by
  rw [decode_encoded, plainLines_of_notMem h, String.ofList_toList]

/-- Bytes that can be read are those of a text. -/
theorem decode_eq_ok_iff {x : String} : decode content = .ok x ↔
    ∃ s : String, content = s.toUTF8 ∧ plainLines s.toList = x.toList := by
  constructor
  · intro h
    rw [decode] at h
    split at h
    · next s hs =>
      refine ⟨s, ?_, ?_⟩
      · rw [String.fromUTF8?] at hs
        split at hs
        · cases hs
          rfl
        · cases hs
      · rw [← Except.ok.inj h, String.toList_ofList]
    · cases h
  · rintro ⟨s, rfl, hx⟩
    rw [decode_encoded, hx, String.ofList_toList]

/-- Bytes that encode a text. -/
def IsText (content : ByteArray) : Prop := ∃ s : String, content = s.toUTF8

theorem IsText.exists_decode (h : IsText content) : ∃ x, decode content = .ok x := by
  obtain ⟨s, rfl⟩ := h
  exact ⟨_, decode_encoded s⟩

theorem decode_of_not_isText (h : ¬ IsText content) : decode content = .error .notText := by
  cases hdecode : decode content with
  | ok x =>
    obtain ⟨s, hs, -⟩ := decode_eq_ok_iff.mp hdecode
    exact absurd ⟨s, hs⟩ h
  | error e =>
    unfold decode at hdecode
    split at hdecode <;> cases hdecode
    rfl

/-! ### Reading -/

/-- A file that can be read is at the place that its path denotes. -/
theorem readBytes_eq_ok_iff : t.readBytes p = .ok content ↔ p.hasNull = false ∧
    t.placeOf p = .ok (p.denoted t.here) ∧
      t.entry? (p.denoted t.here) = some (.file content) := by
  rw [readBytes]
  cases hn : p.hasNull with
  | true => simp
  | false =>
    simp only [Bool.false_eq_true, if_false, true_and]
    cases hp : t.placeOf p with
    | error o => simp
    | ok q =>
      rw [← placeOf_eq_denoted hp]
      obtain he | he | ⟨c, he⟩ : t.entry? q = none ∨ t.entry? q = some .directory ∨
          ∃ c, t.entry? q = some (.file c) := by
        rcases t.entry? q with _ | _ | _ <;> simp
      all_goals simp [he]

theorem readText_eq_ok_iff {x : String} : t.readText p = .ok x ↔
    ∃ content, t.readBytes p = .ok content ∧ decode content = .ok x := by
  rw [readText]
  cases t.readBytes p with
  | error e => simp [bind, Except.bind]
  | ok content => simp [bind, Except.bind]

theorem readText_of_readBytes (h : t.readBytes p = .ok content) :
    t.readText p = decode content := by
  rw [readText, h]
  rfl

theorem ChangesWithin.readBytes (h : t.ChangesWithin t' places)
    (hp : p.denoted t.here ∉ places) (hr : t.readBytes p = .ok content) :
    t'.readBytes p = .ok content := by
  obtain ⟨hn, hplace, he⟩ := readBytes_eq_ok_iff.mp hr
  rw [readBytes_eq_ok_iff, h.here]
  exact ⟨hn, placeOf_mono h.toKeepsDirectories hplace, (h.file_iff hp).mpr he⟩

/-- What stands at the place of a path that the tree shows can be read. -/
theorem readBytes_of_shows (hs : t.Shows p) (hn : p.hasNull = false)
    (he : t.entry? (p.denoted t.here) = some (.file content)) : t.readBytes p = .ok content := by
  rw [Shows, he, find?] at hs
  split at hs
  · next q hq => exact readBytes_eq_ok_iff.mpr ⟨hn, denoted_of_placeOf hq, he⟩
  · cases hs

theorem look_of_readBytes (h : t.readBytes p = .ok content) :
    t.look p = .ok (some (.file content)) := by
  obtain ⟨hn, hp, he⟩ := readBytes_eq_ok_iff.mp h
  simp only [look, hn, hp, Bool.false_eq_true, if_false, he]

theorem hasEntry_of_readBytes (h : t.readBytes p = .ok content) : t.hasEntry p = .ok true := by
  rw [hasEntry, look_of_readBytes h]
  rfl

/-- What is not there after some changes was not there before, unless its place was changed. -/
theorem ChangesWithin.look_eq_none (h : t.ChangesWithin t' places)
    (hp : p.denoted t.here ∉ places) (hl : t'.look p = .ok none) : t.look p = .ok none := by
  rw [look] at hl ⊢
  split
  · rfl
  · next hn =>
    rw [if_neg hn] at hl
    cases hq : t.placeOf p with
    | ok q =>
      rw [placeOf_mono h.toKeepsDirectories hq] at hl
      rw [← placeOf_eq_denoted hq] at hp
      have he : t'.entry? q = none := Except.ok.inj hl
      rcases h.elsewhere q hp with heq | ⟨hnone, -⟩
      · exact congrArg Except.ok (heq.symm.trans he)
      · exact congrArg Except.ok hnone
    | error o =>
      cases o with
      | tooLong =>
        rw [placeOf_tooLong h.toKeepsDirectories hq] at hl
        cases hl
      | missing | occupied | notDirectory | isDirectory => rfl

/-! ### Writing -/

theorem run_writeFile (hn : p.hasNull = false) (hp : t.placeOf p = .ok q)
    (hd : t.entry? q ≠ some .directory) :
    (writeFile p content).run t = (.ok (), t.set q (.file content)) := by
  simp only [writeFile, run_bind, run_getThe, hn, hp, Bool.false_eq_true, if_false]
  rfl

/-- A file is written at the place that its path denotes, or not at all. -/
theorem writeFile_cases (p : FilePath) (content : ByteArray) (t : FileTree) :
    (∃ e, (writeFile p content).run t = (.error e, t)) ∨
      p.hasNull = false ∧ t.placeOf p = .ok (p.denoted t.here) ∧
        t.entry? (p.denoted t.here) ≠ some .directory := by
  cases hn : p.hasNull with
  | true =>
    refine .inl ⟨.nullCharacter, ?_⟩
    simp only [writeFile, run_bind, run_getThe, hn, if_true]
    rfl
  | false =>
    cases hp : t.placeOf p with
    | error o =>
      refine .inl ⟨.obstacle o p, ?_⟩
      simp only [writeFile, run_bind, run_getThe, hn, hp, Bool.false_eq_true, if_false]
      rfl
    | ok q =>
      by_cases hd : t.entry? q = some .directory
      · refine .inl ⟨.obstacle .isDirectory p, ?_⟩
        simp only [writeFile, run_bind, run_getThe, hn, hp, hd, Bool.false_eq_true, if_false]
        rfl
      · rw [← placeOf_eq_denoted hp]
        exact .inr ⟨rfl, rfl, hd⟩

/-- What writing a text comes to.  If it fails, directories may have been added all the same. -/
theorem writeText_cases (p : FilePath) (s : String) (t : FileTree) :
    (∃ e t', (writeText p s).run t = (.error e, t') ∧ t.ChangesWithin t' []) ∨
      ∃ t', (writeText p s).run t = (.ok (), t') ∧ t.ChangesWithin t' [p.denoted t.here] ∧
        t'.readBytes p = .ok s.toUTF8 := by
  rw [writeText, run_bind]
  have hadds := (onlyAdds_makeDirectories p.parent t).1
  generalize (makeDirectories p.parent).run t = r at hadds ⊢
  obtain ⟨e | _, m⟩ := r
  · exact .inl ⟨e, m, rfl, hadds⟩
  · dsimp only at hadds ⊢
    rcases writeFile_cases p s.toUTF8 m with ⟨e, hrun⟩ | ⟨hn, hp, hd⟩
    · exact .inl ⟨e, m, hrun, hadds⟩
    · refine .inr ⟨_, run_writeFile hn hp hd, ?_, ?_⟩
      · rw [← hadds.here]
        exact hadds.trans (changesWithin_set hd)
      · have hset := changesWithin_set (e := .file s.toUTF8) hd
        exact readBytes_eq_ok_iff.mpr
          ⟨hn, placeOf_mono hset.toKeepsDirectories hp, entry?_set_self hd⟩

theorem addsAlong_set_file (h : t.entry? q ≠ some .directory) (way : Place → Prop) :
    t.AddsAlong (t.set q (.file content)) way := by
  intro place hd
  by_cases hplace : place = q
  · rw [hplace, entry?_set_self h] at hd
    cases hd
  · rw [entry?_set_ne hplace] at hd
    exact .inl hd

/-- Only directories above a path are added when a text is written there. -/
theorem addsAlong_writeText (p : FilePath) (s : String) (t : FileTree) :
    t.AddsAlong ((writeText p s).run t).2 (p.parent.Crosses t.here) := by
  rw [writeText, run_bind]
  have hadds := (onlyAdds_makeDirectories p.parent t).2
  generalize (makeDirectories p.parent).run t = r at hadds ⊢
  obtain ⟨e | _, m⟩ := r
  · exact hadds
  · dsimp only at hadds ⊢
    rcases writeFile_cases p s.toUTF8 m with ⟨e, hrun⟩ | ⟨hn, hp, hd⟩
    · rw [hrun]
      exact hadds
    · rw [run_writeFile hn hp hd]
      exact hadds.trans (addsAlong_set_file hd _)

/-! ### Writing what is there already -/

/-- Trees with the same entries. -/
structure Agrees (t t' : FileTree) : Prop where
  here : t'.here = t.here
  entry? : ∀ place, t'.entry? place = t.entry? place

theorem Agrees.refl (t : FileTree) : t.Agrees t := ⟨rfl, fun _ => rfl⟩

theorem Agrees.trans {t'' : FileTree} (h : t.Agrees t') (h' : t'.Agrees t'') : t.Agrees t'' :=
  ⟨h'.here.trans h.here, fun place => (h'.entry? place).trans (h.entry? place)⟩

theorem Agrees.changesWithin (h : t.Agrees t') : t.ChangesWithin t' [] :=
  ⟨⟨h.here, fun place hd => (h.entry? place).trans hd⟩, fun place _ => .inl (h.entry? place)⟩

theorem utf8ByteSize_intercalate_dropLast (s : String) (l : List String) :
    (s.intercalate l.dropLast).utf8ByteSize ≤ (s.intercalate l).utf8ByteSize := by
  induction l with
  | nil => exact Nat.le_refl _
  | cons a l ih =>
    cases l with
    | nil => simp
    | cons b l =>
      rw [List.dropLast_cons_of_ne_nil (List.cons_ne_nil b l), String.intercalate_cons_cons]
      cases l with
      | nil =>
        simp only [List.dropLast_singleton, String.intercalate_singleton,
          String.utf8ByteSize_append]
        omega
      | cons c l =>
        rw [List.dropLast_cons_of_ne_nil (List.cons_ne_nil c l)] at ih ⊢
        simp only [String.intercalate_cons_cons, String.utf8ByteSize_append] at ih ⊢
        omega

theorem one_le_utf8ByteSize_text (p : FilePath) : 1 ≤ p.text.utf8ByteSize := by
  rw [FilePath.text]
  split
  · decide
  · next hp =>
    rw [String.utf8ByteSize_append]
    cases hparts : p.parts with
    | nil =>
      cases hroot : p.root with
      | here => exact absurd (by cases p; simp_all [FilePath.here]) hp
      | top => exact Nat.le_add_right _ _
      | doubleTop => exact Nat.le_add_right_of_le (by decide)
    | cons name names =>
      have hname : name ≠ "" := (p.proper name (by simp [hparts])).1
      have hsize : name.utf8ByteSize ≠ 0 := fun h => hname (String.utf8ByteSize_eq_zero_iff.mp h)
      cases names with
      | nil => rw [String.intercalate_singleton]; omega
      | cons b l => simp only [String.intercalate_cons_cons, String.utf8ByteSize_append]; omega

theorem utf8ByteSize_text_parent (p : FilePath) :
    p.parent.text.utf8ByteSize ≤ p.text.utf8ByteSize := by
  by_cases hparent : p.parent = .here
  · rw [hparent]
    exact one_le_utf8ByteSize_text p
  · have hp : p ≠ .here := by
      rintro rfl
      exact hparent rfl
    have hparts := utf8ByteSize_intercalate_dropLast "/" p.parts
    rw [FilePath.text, FilePath.text, if_neg hp, if_neg hparent]
    simp only [FilePath.parent, String.utf8ByteSize_append]
    omega

/-- The parent of a path that leads somewhere is a directory. -/
theorem placeOf_parent (h : t.placeOf p = .ok q) (hparts : p.parts ≠ []) :
    ∃ m, t.placeOf p.parent = .ok m ∧ t.entry? m = some .directory := by
  obtain ⟨hsize, h⟩ := placeOf_eq_ok_iff.mp h
  rw [← List.dropLast_concat_getLast hparts] at h
  obtain ⟨m, hm, hq⟩ := descend_of_append h
  exact ⟨m, placeOf_eq_ok_iff.mpr ⟨Nat.le_trans (utf8ByteSize_text_parent p) hsize, hm⟩,
    (directory_of_descend hq).1⟩

/-- To write over a file changes nothing else. -/
theorem run_writeText_of_readBytes (h : t.readBytes p = .ok content) (s : String) :
    (writeText p s).run t = (.ok (), t.set (p.denoted t.here) (.file s.toUTF8)) := by
  obtain ⟨hn, hp, he⟩ := readBytes_eq_ok_iff.mp h
  have hparts : p.parts ≠ [] := by
    intro hnil
    have hstart : t.entry? (p.denoted t.here) = some .directory := by
      rw [FilePath.denoted, hnil, List.foldl_nil]
      split
      · exact t.entry?_here
      · rfl
    rw [hstart] at he
    cases he
  obtain ⟨m, hm, hd⟩ := placeOf_parent hp hparts
  have hparent : p.parent.hasNull = false := by
    rw [FilePath.hasNull, List.any_eq_false] at hn ⊢
    exact fun name hname => hn name (List.dropLast_subset _ hname)
  have hne : t.entry? (p.denoted t.here) ≠ some .directory := by simp [he]
  rw [writeText, run_bind, run_makeDirectories_directory hparent hm hd]
  exact run_writeFile hn hp hne

/-- To write a file again as it is changes nothing. -/
theorem run_writeText_same {s : String} (h : t.readBytes p = .ok s.toUTF8) :
    ∃ t', (writeText p s).run t = (.ok (), t') ∧ t.Agrees t' := by
  have he := (readBytes_eq_ok_iff.mp h).2.2
  refine ⟨_, run_writeText_of_readBytes h s, rfl, fun place => ?_⟩
  by_cases hplace : place = p.denoted t.here
  · rw [hplace, entry?_set_self (by simp [he]), he]
  · exact entry?_set_ne hplace

end Scaffold.FileTree
