import Scaffold.Generation.Writing
import Scaffold.Proofs.Files.Content

/-! Drafts: renderings that are to be written.  What is found at its target decides what becomes
of a draft, and only its target or its reference is written, if anything is. -/
namespace Scaffold

open FileTree

/-! ### The text that is found at a path -/

section
variable {t t' : FileTree} {places : List Place} {p : FilePath} {x : String}
  {found : Option String}

theorem foundText_eq (t : FileTree) (p : FilePath) : foundText t p =
    match t.look p with
    | .error e => .error e
    | .ok none => .ok none
    | .ok (some _) => (t.readText p).map some := by
  rw [foundText, hasEntry]
  rcases t.look p with e | _ | e <;> rfl

theorem foundText_eq_none_iff : foundText t p = .ok none ↔ t.look p = .ok none := by
  rw [foundText_eq]
  rcases t.look p with e | _ | e
  · simp
  · simp
  · cases t.readText p <;> simp [Except.map]

theorem foundText_eq_some_iff : foundText t p = .ok (some x) ↔
    ∃ content, t.readBytes p = .ok content ∧ decode content = .ok x := by
  rw [foundText_eq, ← readText_eq_ok_iff]
  constructor
  · intro h
    split at h
    · cases h
    · cases h
    · cases hr : t.readText p with
      | error e => rw [hr] at h; cases h
      | ok y => rw [hr] at h; cases h; rfl
  · intro h
    obtain ⟨content, hr, -⟩ := readText_eq_ok_iff.mp h
    rw [look_of_readBytes hr, h]
    rfl

/-- The text that is found at a path is that of its bytes, but for the ends of lines. -/
theorem foundText_eq_some_iff_readBytes : foundText t p = .ok (some x) ↔
    ∃ y : String, t.readBytes p = .ok y.toUTF8 ∧ plainLines y.toList = x.toList := by
  rw [foundText_eq_some_iff]
  constructor
  · rintro ⟨content, hr, hd⟩
    obtain ⟨y, rfl, hy⟩ := decode_eq_ok_iff.mp hd
    exact ⟨y, hr, hy⟩
  · rintro ⟨y, hr, hy⟩
    exact ⟨y.toUTF8, hr, decode_eq_ok_iff.mpr ⟨y, rfl, hy⟩⟩

/-- What was found at a path is found there again, if its place was left alone. -/
theorem foundText_of_changesWithin (h : t.ChangesWithin t' places)
    (hp : p.denoted t.here ∉ places) (hx : foundText t p = .ok (some x)) :
    foundText t' p = .ok (some x) := by
  obtain ⟨content, hr, hd⟩ := foundText_eq_some_iff.mp hx
  exact foundText_eq_some_iff.mpr ⟨content, h.readBytes hp hr, hd⟩

/-- What is found at a path that the tree shows was found there from the start, if its place was
left alone. -/
theorem foundText_of_shows (h : t.ChangesWithin t' places) (hp : p.denoted t.here ∉ places)
    (hs : t.Shows p) (hf : foundText t' p = .ok found) : foundText t p = .ok found := by
  cases found with
  | none => exact foundText_eq_none_iff.mpr (h.look_eq_none hp (foundText_eq_none_iff.mp hf))
  | some x =>
    obtain ⟨content, hr, hd⟩ := foundText_eq_some_iff.mp hf
    obtain ⟨hn, -, he⟩ := readBytes_eq_ok_iff.mp hr
    rw [h.here] at he
    exact foundText_eq_some_iff.mpr
      ⟨content, readBytes_of_shows hs hn ((h.file_iff hp).mp he), hd⟩

end

/-! ### The status of a file -/

section
variable {s : Settings} {found : Option String} {content : String}

theorem statusOf_eq_created_iff : statusOf s found content = .created ↔ found = none := by
  unfold statusOf
  grind

theorem statusOf_eq_unchanged_iff :
    statusOf s found content = .unchanged ↔ found = some content := by
  unfold statusOf
  grind

theorem statusOf_eq_kept_iff : statusOf s found content = .kept ↔
    s.force = false ∧ ∃ x, found = some x ∧ x ≠ content := by
  unfold statusOf
  grind

theorem statusOf_eq_overwritten_iff : statusOf s found content = .overwritten ↔
    s.force = true ∧ ∃ x, found = some x ∧ x ≠ content := by
  unfold statusOf
  grind

end

/-! ### Drafts -/

/-- A rendering that is to be written: the task it is for, its path as seen from the output
directory, and its text. -/
structure Draft where
  task : String
  relative : FilePath
  text : String

/-- The places of the target and the reference of an output path. -/
def placesOf (s : Settings) (here : Place) (path : FilePath) : List Place :=
  [(s.outputDir.join path).denoted here, (s.referencePath.join path).denoted here]

namespace Draft

/-- Writes a draft. -/
def write (s : Settings) (d : Draft) : Disk GeneratedFile :=
  writeRendering s d.task d.relative d.text

/-- Where a draft is written to, or compared with what is there. -/
def target (s : Settings) (d : Draft) : FilePath := s.outputDir.join d.relative

/-- Where a draft is written to if its target is kept. -/
def reference (s : Settings) (d : Draft) : FilePath := s.referencePath.join d.relative

/-- The report on the file of a draft. -/
def file (s : Settings) (d : Draft) (status : FileStatus) : GeneratedFile :=
  ⟨d.task, d.relative, status,
    if status = .kept then some ((FilePath.ofString s.referenceDir).join d.relative) else none⟩

/-- The places of the target and the reference of a draft. -/
def places (s : Settings) (here : Place) (d : Draft) : List Place :=
  placesOf s here d.relative

/-- A place that leads to the target or the reference of a draft. -/
def LeadsThrough (s : Settings) (here : Place) (d : Draft) (place : Place) : Prop :=
  (d.target s).parent.Crosses here place ∨ (d.reference s).parent.Crosses here place

variable {s : Settings} {d : Draft} {t t' : FileTree} {found : Option String}
  {status : FileStatus} {path : FilePath}

theorem target_mem_places (s : Settings) (here : Place) (d : Draft) :
    (d.target s).denoted here ∈ d.places s here := List.mem_cons_self

theorem mem_places_of_destination? (here : Place)
    (h : destination? s d.relative status = some path) :
    path.denoted here ∈ d.places s here := by
  cases status <;> cases h <;> simp [places, placesOf]

/-! ### Writing one draft -/

/-- What a write that succeeds leaves: the tree as it was, or the text of the draft at the
destination of its status. -/
inductive Leaves (s : Settings) (d : Draft) (t : FileTree) : FileStatus → FileTree → Prop
  | same {status : FileStatus} : s.dryRun = true ∨ destination? s d.relative status = none →
      Leaves s d t status t
  | written {status : FileStatus} {path : FilePath} {t' : FileTree} : s.dryRun = false →
      destination? s d.relative status = some path →
      t.ChangesWithin t' [path.denoted t.here] → t'.readBytes path = .ok d.text.toUTF8 →
      Leaves s d t status t'

theorem run_write (s : Settings) (d : Draft) (t : FileTree) : (d.write s).run t =
    match foundText t (d.target s) with
    | .error e => (.error e, t)
    | .ok found =>
      match destination? s d.relative (statusOf s found d.text), s.dryRun with
      | some path, false =>
        match (writeText path d.text).run t with
        | (.ok _, t') => (.ok (d.file s (statusOf s found d.text)), t')
        | (.error e, t') => (.error e, t')
      | _, _ => (.ok (d.file s (statusOf s found d.text)), t) := by
  simp only [write, writeRendering, run_bind, run_getThe, target]
  rcases foundText t (s.outputDir.join d.relative) with e | found
  · rfl
  · simp only [run_liftM]
    cases destination? s d.relative (statusOf s found d.text) with
    | none => rfl
    | some path =>
      cases s.dryRun with
      | true => rfl
      | false =>
        simp only [Bool.false_eq_true, if_false, run_bind]
        rcases (writeText path d.text).run t with ⟨e | _, t'⟩ <;> rfl

theorem run_write_of_dryRun (hdry : s.dryRun = true) (d : Draft) (t : FileTree) :
    (d.write s).run t =
      ((foundText t (d.target s)).map fun found => d.file s (statusOf s found d.text), t) := by
  rw [run_write, hdry]
  rcases foundText t (d.target s) with e | found
  · rfl
  · dsimp only [Except.map]
    cases destination? s d.relative (statusOf s found d.text) <;> rfl

/-- A draft whose text is found at its target is not written. -/
theorem run_write_of_found (h : foundText t (d.target s) = .ok (some d.text)) :
    (d.write s).run t = (.ok (d.file s .unchanged), t) := by
  have hstatus : statusOf s (some d.text) d.text = .unchanged :=
    statusOf_eq_unchanged_iff.mpr rfl
  rw [run_write, h]
  simp only [hstatus, destination?]

/-- All that a write can do. -/
theorem write_cases (s : Settings) (d : Draft) (t : FileTree) :
    (∃ e t', (d.write s).run t = (.error e, t') ∧ t.ChangesWithin t' []) ∨
      ∃ found t', foundText t (d.target s) = .ok found ∧
        (d.write s).run t = (.ok (d.file s (statusOf s found d.text)), t') ∧
        Leaves s d t (statusOf s found d.text) t' := by
  rw [run_write]
  split
  · exact .inl ⟨_, t, rfl, .refl t []⟩
  · next found hf =>
    split
    · next path hpath hdry =>
      rcases writeText_cases path d.text t with ⟨e, t', hrun, h⟩ | ⟨t', hrun, h, hr⟩
      · exact .inl ⟨e, t', by rw [hrun], h⟩
      · exact .inr ⟨found, t', hf, by rw [hrun], .written hdry hpath h hr⟩
    · next hnot =>
      refine .inr ⟨found, t, hf, rfl, .same ?_⟩
      cases hdry : s.dryRun with
      | true => exact .inl rfl
      | false => exact .inr (Option.eq_none_iff_forall_ne_some.mpr fun path h => hnot path h hdry)

theorem write_eq_ok {f : GeneratedFile} (h : (d.write s).run t = (.ok f, t')) :
    ∃ found, foundText t (d.target s) = .ok found ∧
      f = d.file s (statusOf s found d.text) ∧ Leaves s d t (statusOf s found d.text) t' := by
  rcases write_cases s d t with ⟨e, t₁, hrun, -⟩ | ⟨found, t₁, hf, hrun, hl⟩
  · rw [hrun] at h
    cases h
  · rw [hrun] at h
    cases h
    exact ⟨found, hf, rfl, hl⟩

theorem Leaves.changesWithin (h : Leaves s d t status t') :
    t.ChangesWithin t' (d.places s t.here) := by
  cases h with
  | same => exact .refl t _
  | written _ hpath hc _ =>
    exact hc.mono (List.cons_subset.mpr
      ⟨mem_places_of_destination? _ hpath, List.nil_subset _⟩)

theorem Leaves.readBytes (h : Leaves s d t status t') (hreal : s.dryRun = false)
    (hpath : destination? s d.relative status = some path) :
    t'.readBytes path = .ok d.text.toUTF8 := by
  cases h with
  | same hsame =>
    rw [hreal, hpath] at hsame
    simp at hsame
  | written _ hpath' _ hr =>
    rw [hpath] at hpath'
    exact Option.some.inj hpath' ▸ hr

theorem Leaves.changesWithin_destination (h : Leaves s d t status t')
    (hpath : destination? s d.relative status = some path) :
    t.ChangesWithin t' [path.denoted t.here] := by
  cases h with
  | same => exact .refl t _
  | written _ hpath' hc _ =>
    rw [hpath] at hpath'
    exact Option.some.inj hpath' ▸ hc

theorem Leaves.eq_of_none (h : Leaves s d t status t')
    (hnone : destination? s d.relative status = none) : t' = t := by
  cases h with
  | same => rfl
  | written _ hpath _ _ =>
    rw [hnone] at hpath
    cases hpath

theorem changesWithin_write (s : Settings) (d : Draft) (t : FileTree) :
    t.ChangesWithin ((d.write s).run t).2 (d.places s t.here) := by
  rcases write_cases s d t with ⟨e, t', hrun, hc⟩ | ⟨found, t', hf, hrun, hl⟩
  · rw [hrun]
    exact hc.mono (List.nil_subset _)
  · rw [hrun]
    exact hl.changesWithin

/-- A draft that has been written to its target is found unchanged unless its text has carriage
returns. -/
theorem run_write_again_iff (h : t.readBytes (d.target s) = .ok d.text.toUTF8) :
    (d.write s).run t = (.ok (d.file s .unchanged), t) ↔ '\r' ∉ d.text.toList := by
  have hfound : foundText t (d.target s) =
      .ok (some (String.ofList (plainLines d.text.toList))) :=
    foundText_eq_some_iff.mpr ⟨_, h, decode_encoded d.text⟩
  rw [← plainLines_eq_self_iff]
  constructor
  · intro hrun
    obtain ⟨found, hfound', hfile, -⟩ := write_eq_ok hrun
    have hstatus : statusOf s found d.text = .unchanged :=
      (congrArg GeneratedFile.status hfile).symm
    rw [statusOf_eq_unchanged_iff.mp hstatus, hfound] at hfound'
    have htext := congrArg String.toList (Option.some.inj (Except.ok.inj hfound'))
    rwa [String.toList_ofList] at htext
  · intro hplain
    rw [hplain, String.ofList_toList] at hfound
    exact run_write_of_found hfound

/-- Directories are made on the way to the target or the reference only. -/
theorem addsAlong_write (s : Settings) (d : Draft) (t : FileTree) :
    t.AddsAlong ((d.write s).run t).2 (d.LeadsThrough s t.here) := by
  rw [run_write]
  split
  · exact .refl t _
  · split
    · next path hpath _ =>
      have hway : ∀ place, path.parent.Crosses t.here place → d.LeadsThrough s t.here place := by
        intro place hp
        cases hstatus : statusOf s _ d.text <;> rw [hstatus] at hpath <;> cases hpath
        · exact .inl hp
        · exact .inr hp
        · exact .inl hp
      have hadds := (addsAlong_writeText path d.text t).mono hway
      rcases hrun : (writeText path d.text).run t with ⟨e | _, t'⟩ <;> rw [hrun] at hadds <;>
        exact hadds
    · exact .refl t _

end Draft

/-! ### Writing drafts in order -/

/-- Writes drafts in order; the first that cannot be written ends it. -/
def writeDrafts (s : Settings) (ds : List Draft) : Disk (List GeneratedFile) :=
  ds.mapM (Draft.write s)

section
variable {s : Settings} {d : Draft} {ds : List Draft} {t t' : FileTree}
  {files : List GeneratedFile}

theorem run_writeDrafts_nil (s : Settings) (t : FileTree) :
    (writeDrafts s []).run t = (.ok [], t) := rfl

theorem run_writeDrafts_cons (s : Settings) (d : Draft) (ds : List Draft) (t : FileTree) :
    (writeDrafts s (d :: ds)).run t = match (d.write s).run t with
      | (.error e, t') => (.error e, t')
      | (.ok f, t') => match (writeDrafts s ds).run t' with
        | (.error e, t'') => (.error e, t'')
        | (.ok files, t'') => (.ok (f :: files), t'') := by
  rw [writeDrafts, List.mapM_cons, run_bind]
  rcases (d.write s).run t with ⟨e | f, t'⟩
  · rfl
  · dsimp only
    rw [run_bind]
    rw [writeDrafts]
    rcases (ds.mapM (Draft.write s)).run t' with ⟨e | files, t''⟩ <;> rfl

/-- The files that the writing of drafts leaves. -/
theorem tree_writeDrafts_cons (s : Settings) (d : Draft) (ds : List Draft) (t : FileTree) :
    ((writeDrafts s (d :: ds)).run t).2 = match (d.write s).run t with
      | (.error _, t') => t'
      | (.ok _, t') => ((writeDrafts s ds).run t').2 := by
  rw [run_writeDrafts_cons]
  rcases (d.write s).run t with ⟨e | f, t'⟩
  · rfl
  · dsimp only
    rcases (writeDrafts s ds).run t' with ⟨e | files, t''⟩ <;> rfl

theorem writeDrafts_cons_eq_ok (h : (writeDrafts s (d :: ds)).run t = (.ok files, t')) :
    ∃ f m rest, (d.write s).run t = (.ok f, m) ∧
      (writeDrafts s ds).run m = (.ok rest, t') ∧ files = f :: rest := by
  rw [run_writeDrafts_cons] at h
  rcases hd : (d.write s).run t with ⟨e | f, m⟩
  · rw [hd] at h
    cases h
  · rw [hd] at h
    dsimp only at h
    rcases hds : (writeDrafts s ds).run m with ⟨e | rest, m'⟩
    · rw [hds] at h
      cases h
    · rw [hds] at h
      cases h
      exact ⟨f, m, rest, rfl, hds, rfl⟩

/-- Every draft that was written has its report. -/
theorem rel_of_writeDrafts (h : (writeDrafts s ds).run t = (.ok files, t')) :
    List.Forall₂ (fun d f => ∃ status, f = d.file s status) ds files := by
  induction ds generalizing t files with
  | nil =>
    cases h
    exact .nil
  | cons d ds ih =>
    obtain ⟨f, m, rest, hd, hds, rfl⟩ := writeDrafts_cons_eq_ok h
    obtain ⟨found, -, rfl, -⟩ := Draft.write_eq_ok hd
    exact .cons ⟨_, rfl⟩ (ih hds)

theorem tree_writeDrafts_of_dryRun (hdry : s.dryRun = true) (ds : List Draft) (t : FileTree) :
    ((writeDrafts s ds).run t).2 = t := by
  induction ds with
  | nil => rfl
  | cons d ds ih =>
    rw [tree_writeDrafts_cons, Draft.run_write_of_dryRun hdry]
    rcases foundText t (d.target s) with e | found
    · rfl
    · exact ih

/-- Only the places of the drafts are written. -/
theorem changesWithin_writeDrafts (s : Settings) (ds : List Draft) (t : FileTree) :
    t.ChangesWithin ((writeDrafts s ds).run t).2 (ds.flatMap (·.places s t.here)) := by
  induction ds generalizing t with
  | nil => exact .refl t _
  | cons d ds ih =>
    have hd := d.changesWithin_write s t
    rw [tree_writeDrafts_cons, List.flatMap_cons]
    rcases hrun : (d.write s).run t with ⟨e | f, m⟩
    · rw [hrun] at hd
      exact hd.mono (List.subset_append_left _ _)
    · rw [hrun] at hd
      exact hd.trans (hd.here ▸ ih m)

theorem addsAlong_writeDrafts (s : Settings) (ds : List Draft) (t : FileTree) :
    t.AddsAlong ((writeDrafts s ds).run t).2
      fun place => ∃ d ∈ ds, d.LeadsThrough s t.here place := by
  induction ds generalizing t with
  | nil => exact .refl t _
  | cons d ds ih =>
    have hd := (d.addsAlong_write s t).mono fun place hp =>
      (⟨d, List.mem_cons_self, hp⟩ : ∃ d' ∈ d :: ds, d'.LeadsThrough s t.here place)
    have hhere := (d.changesWithin_write s t).here
    rw [tree_writeDrafts_cons]
    rcases hrun : (d.write s).run t with ⟨e | f, m⟩
    · rw [hrun] at hd
      exact hd
    · rw [hrun] at hd hhere
      have hds := ih m
      rw [hhere] at hds
      exact hd.trans (hds.mono fun place ⟨d', hd', hp⟩ => ⟨d', List.mem_cons_of_mem d hd', hp⟩)

end

/-! ### Drafts that are still to be written -/

/-- Drafts that are still to be written, seen from the tree before all writes: their places are all
different, and what was at their targets is there still. -/
structure Pending (s : Settings) (t₀ t : FileTree) (places : List Place) (ds : List Draft) : Prop
    where
  changes : t₀.ChangesWithin t places
  untouched : ∀ d ∈ ds, (d.target s).denoted t₀.here ∉ places
  apart : (ds.flatMap (·.places s t₀.here)).Nodup
  shown : ∀ d ∈ ds, t₀.Shows (d.target s)

namespace Pending

variable {s : Settings} {d : Draft} {ds es : List Draft} {t₀ t t' : FileTree}
  {places : List Place} {found : Option String}

theorem start (hapart : (ds.flatMap (·.places s t.here)).Nodup)
    (hshown : ∀ d ∈ ds, t.Shows (d.target s)) : Pending s t t [] ds :=
  ⟨.refl t [], fun _ _ => List.not_mem_nil, hapart, hshown⟩

/-- What is found at the target of a draft was found there before all writes. -/
theorem found_before (h : Pending s t₀ t places ds) (hd : d ∈ ds)
    (hf : foundText t (d.target s) = .ok found) : foundText t₀ (d.target s) = .ok found :=
  foundText_of_shows h.changes (h.untouched d hd) (h.shown d hd) hf

theorem perm (h : Pending s t₀ t places ds) (hperm : ds.Perm es) : Pending s t₀ t places es where
  changes := h.changes
  untouched d hd := h.untouched d (hperm.mem_iff.mpr hd)
  apart := (hperm.flatMap_right _).nodup_iff.mp h.apart
  shown d hd := h.shown d (hperm.mem_iff.mpr hd)

theorem apart_append (h : Pending s t₀ t places (ds ++ es)) :
    (ds.flatMap (·.places s t₀.here)).Nodup ∧ (es.flatMap (·.places s t₀.here)).Nodup ∧
      ∀ place ∈ ds.flatMap (·.places s t₀.here), ∀ place' ∈ es.flatMap (·.places s t₀.here),
        place ≠ place' := by
  have hapart := h.apart
  rwa [List.flatMap_append, List.nodup_append] at hapart

theorem left (h : Pending s t₀ t places (ds ++ es)) : Pending s t₀ t places ds where
  changes := h.changes
  untouched d hd := h.untouched d (List.mem_append_left es hd)
  apart := h.apart_append.1
  shown d hd := h.shown d (List.mem_append_left es hd)

/-- The drafts that come first have no place of a later one. -/
theorem notMem_later (h : Pending s t₀ t places (ds ++ es)) {place : Place}
    (hplace : place ∈ ds.flatMap (·.places s t₀.here)) :
    place ∉ es.flatMap (·.places s t₀.here) :=
  fun hlater => h.apart_append.2.2 place hplace place hlater rfl

/-- Once the first drafts are written the others are still to be. -/
theorem after (h : Pending s t₀ t places (ds ++ es))
    (hc : t.ChangesWithin t' (ds.flatMap (·.places s t₀.here))) :
    Pending s t₀ t' (places ++ ds.flatMap (·.places s t₀.here)) es where
  changes := h.changes.trans hc
  untouched d hd hmem := by
    rcases List.mem_append.mp hmem with hmem | hmem
    · exact h.untouched d (List.mem_append_right ds hd) hmem
    · exact h.notMem_later hmem
        (List.mem_flatMap.mpr ⟨d, hd, d.target_mem_places s t₀.here⟩)
  apart := h.apart_append.2.1
  shown d hd := h.shown d (List.mem_append_right ds hd)

/-- Once the first draft is written the others are still to be. -/
theorem tail (h : Pending s t₀ t places (d :: ds)) :
    Pending s t₀ ((d.write s).run t).2 (places ++ d.places s t₀.here) ds := by
  have hfirst : Pending s t₀ t places ([d] ++ ds) := h
  have hc := d.changesWithin_write s t
  rw [h.changes.here, ← List.flatMap_singleton (·.places s t₀.here) d] at hc
  have hlater := hfirst.after hc
  rwa [List.flatMap_singleton] at hlater

end Pending

end Scaffold
