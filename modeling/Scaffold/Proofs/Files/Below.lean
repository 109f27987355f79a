import Mathlib.Data.List.Nodup
import Scaffold.Proofs.Files.Denotation
import Scaffold.Proofs.Files.Spelling

/-! What is below a place.  In a tree that a file system can have, the entries that are listed below
a place are those that it shows there, each of them once. -/
namespace Scaffold

/-- In a table without repeated keys a key leads to what is listed with it. -/
theorem lookup_eq_some_iff_mem {α β : Type} [BEq α] [LawfulBEq α] {l : List (α × β)}
    (h : (l.map (·.1)).Nodup) {a : α} {b : β} : l.lookup a = some b ↔ (a, b) ∈ l := by
  rw [List.lookup_eq_some_iff]
  constructor
  · rintro ⟨before, after, rfl, -⟩
    exact List.mem_append_right before List.mem_cons_self
  · intro hm
    obtain ⟨before, after, rfl⟩ := List.append_of_mem hm
    refine ⟨before, after, rfl, ?_⟩
    intro p hp
    rw [List.map_append, List.map_cons, List.nodup_append] at h
    have hne : p.1 ≠ a := h.2.2 p.1 (List.mem_map_of_mem hp) a List.mem_cons_self
    simpa using hne.symm

/-! ### Paths below a path -/

namespace FilePath

open FileTree

variable {p q : FilePath}

theorem eq_of_parts (hroot : p.root = q.root) (hparts : p.parts = q.parts) : p = q := by
  cases p
  cases q
  simp_all

theorem join_assoc (p q r : FilePath) : (p.join q).join r = p.join (q.join r) := by
  unfold join
  by_cases hr : r.root = .here
  · by_cases hq : q.root = .here <;> simp [hr, hq]
  · simp [hr]

theorem parts_join (h : q.root = .here) : (p.join q).parts = p.parts ++ q.parts := by
  rw [join, if_pos h]

theorem root_join (h : q.root = .here) : (p.join q).root = p.root := by
  rw [join, if_pos h]

/-- A path within a directory is seen from there as it was. -/
theorem relativeTo?_join (h : q.root = .here) : (p.join q).relativeTo? p = some q := by
  have hstart : p.parts.isPrefixOf (p.parts ++ q.parts) = true :=
    List.isPrefixOf_iff_prefix.mpr (List.prefix_append _ _)
  rw [relativeTo?, if_pos ⟨root_join h, by rw [parts_join h]; exact hstart⟩]
  congr 1
  apply eq_of_parts
  · exact h.symm
  · simp only [parts_join h, List.drop_left]

theorem hasNull_join (h : q.root = .here) : (p.join q).hasNull = (p.hasNull || q.hasNull) := by
  rw [hasNull, parts_join h, List.any_append]
  rfl

theorem denoted_join {here : Place} {names : List String} {h : ∀ s ∈ names, IsPart s}
    (hdots : ".." ∉ names) :
    (p.join ⟨.here, names, h⟩).denoted here = p.denoted here ++ names := by
  rw [denoted, root_join rfl, parts_join rfl, List.foldl_append, foldl_enter hdots]
  rfl

/-- A path leads below another one, and nowhere up. -/
def IsBelow (q p : FilePath) : Prop :=
  q.root = .here ∧ ".." ∉ q.parts ∧ ∃ names, names ≠ [] ∧ q.parts = p.parts ++ names

theorem IsBelow.exists_names (h : q.IsBelow p) : ∃ names, names ≠ [] ∧ (∀ s ∈ names, IsPart s) ∧
    ".." ∉ names ∧ q.parts = p.parts ++ names := by
  obtain ⟨-, hdots, names, hne, hparts⟩ := h
  have hsub : names ⊆ q.parts := by
    rw [hparts]
    exact List.subset_append_right _ _
  exact ⟨names, hne, fun s hs => q.proper s (hsub hs), fun hs => hdots (hsub hs), hparts⟩

end FilePath

namespace FileTree

/-! ### Trees of a file system -/

/-- A name that an entry can have. -/
def IsEntryName (s : String) : Prop := IsPart s ∧ s ≠ ".." ∧ '\x00' ∉ s.toList

instance (s : String) : Decidable (IsEntryName s) :=
  inferInstanceAs (Decidable (IsPart s ∧ s ≠ ".." ∧ '\x00' ∉ s.toList))

/-- A tree that a file system can have: no place is listed twice, and each entry has a name and
stands in directories. -/
structure IsProper (t : FileTree) : Prop where
  reachable : t.IsReachable
  named : ∀ place e, t.entry? place = some e → ∀ name ∈ place, IsEntryName name
  nodup : (t.entries.map (·.1)).Nodup

variable {t : FileTree} {p : FilePath} {place names : Place} {e : FileEntry}

/-! ### All entries -/

/-- The directories that are always there. -/
theorem mem_always_iff {here : Place} :
    (place, e) ∈ (List.range (here.length + 1)).map (fun n => (here.take n, .directory)) ↔
      place <+: here ∧ e = .directory := by
  rw [List.mem_map]
  constructor
  · rintro ⟨n, -, heq⟩
    cases heq
    exact ⟨List.take_prefix n here, rfl⟩
  · rintro ⟨hplace, rfl⟩
    refine ⟨place.length, ?_, ?_⟩
    · exact List.mem_range.mpr (Nat.lt_succ_of_le hplace.length_le)
    · rw [← List.prefix_iff_eq_take.mp hplace]

/-- The entries are those that the tree shows. -/
theorem mem_shown_iff (h : (t.entries.map (·.1)).Nodup) :
    (place, e) ∈ t.shown ↔ t.entry? place = some e := by
  rw [shown, List.mem_append, mem_always_iff, List.mem_filter, entry?]
  by_cases hplace : place <+: t.here
  · have hstart : place.isPrefixOf t.here = true := List.isPrefixOf_iff_prefix.mpr hplace
    simp [hplace, hstart, eq_comm]
  · have hstart : place.isPrefixOf t.here = false :=
      Bool.eq_false_iff.mpr (mt List.isPrefixOf_iff_prefix.mp hplace)
    simp [hplace, hstart, lookup_eq_some_iff_mem h]

theorem nodup_always (here : Place) :
    (((List.range (here.length + 1)).map fun n => (here.take n, FileEntry.directory)).map
      (·.1)).Nodup := by
  -- The directories that are always there are told by how deep they are.
  apply List.Nodup.of_map List.length
  have hlengths : (((List.range (here.length + 1)).map fun n =>
      (here.take n, FileEntry.directory)).map (·.1)).map List.length =
        (List.range (here.length + 1)).map id := by
    rw [List.map_map, List.map_map]
    apply List.map_congr_left
    intro n hn
    have hle : n ≤ here.length := Nat.le_of_lt_succ (List.mem_range.mp hn)
    simp [hle]
  rw [hlengths, List.map_id]
  exact List.nodup_range

theorem nodup_shown (h : (t.entries.map (·.1)).Nodup) : (t.shown.map (·.1)).Nodup := by
  rw [shown, List.map_append]
  refine List.nodup_append.mpr ⟨nodup_always t.here, h.sublist (List.filter_sublist.map _), ?_⟩
  rintro p hp q hq rfl
  obtain ⟨⟨p, e⟩, he, rfl⟩ := List.mem_map.mp hp
  obtain ⟨⟨q, e'⟩, he', heq⟩ := List.mem_map.mp hq
  obtain rfl : q = p := heq
  have hstart := List.isPrefixOf_iff_prefix.mpr (mem_always_iff.mp he).1
  simp [hstart] at he'

theorem isProper_iff : t.IsProper ↔ (t.entries.map (·.1)).Nodup ∧
    ∀ e ∈ t.shown, t.descend [] e.1 = .ok e.1 ∧ ∀ name ∈ e.1, IsEntryName name := by
  constructor
  · intro h
    refine ⟨h.nodup, ?_⟩
    rintro ⟨place, e⟩ hm
    have he := (mem_shown_iff h.nodup).mp hm
    exact ⟨h.reachable place e he, h.named place e he⟩
  · rintro ⟨hnodup, hall⟩
    have hshown (place : Place) (e : FileEntry) (he : t.entry? place = some e) :=
      hall (place, e) ((mem_shown_iff hnodup).mpr he)
    exact ⟨fun place e he => (hshown place e he).1, fun place e he => (hshown place e he).2, hnodup⟩

instance (t : FileTree) : Decidable t.IsProper := decidable_of_iff _ isProper_iff.symm

/-! ### Entries below a place -/

theorem mem_below_iff (h : (t.entries.map (·.1)).Nodup) :
    (names, e) ∈ t.below place ↔ names ≠ [] ∧ t.entry? (place ++ names) = some e := by
  rw [below, List.mem_mergeSort, List.mem_map, ← mem_shown_iff h]
  constructor
  · rintro ⟨⟨q, e'⟩, hq, heq⟩
    obtain ⟨hshown, hbelow⟩ := List.mem_filter.mp hq
    obtain ⟨hstart, hlength⟩ := Bool.and_eq_true_iff.mp hbelow
    obtain ⟨rest, rfl⟩ := List.isPrefixOf_iff_prefix.mp hstart
    rw [List.drop_left] at heq
    cases heq
    refine ⟨?_, hshown⟩
    rintro rfl
    simp at hlength
  · rintro ⟨hne, hshown⟩
    refine ⟨(place ++ names, e), List.mem_filter.mpr ⟨hshown, ?_⟩, ?_⟩
    · have hlength : 0 < names.length := List.length_pos_iff.mpr hne
      have hstart : place.isPrefixOf (place ++ names) = true :=
        List.isPrefixOf_iff_prefix.mpr (List.prefix_append place names)
      simp [hstart, hlength]
    · rw [List.drop_left]

theorem nodup_below (h : (t.entries.map (·.1)).Nodup) (place : Place) :
    ((t.below place).map (·.1)).Nodup := by
  rw [below]
  generalize hinside : t.shown.filter _ = inside
  have hnodup : (inside.map (·.1)).Nodup := by
    rw [← hinside]
    exact (nodup_shown h).sublist (List.filter_sublist.map _)
  have hstart : ∀ q ∈ inside.map (·.1), place <+: q := by
    rw [← hinside, List.forall_mem_map]
    intro e he
    exact List.isPrefixOf_iff_prefix.mp (Bool.and_eq_true_iff.mp (List.mem_filter.mp he).2).1
  have hnames : (inside.map fun e => (e.1.drop place.length, e.2)).map (·.1) =
      (inside.map (·.1)).map (List.drop place.length) := by
    rw [List.map_map, List.map_map]
    rfl
  apply ((List.mergeSort_perm _ _).map _).nodup_iff.mpr
  rw [hnames]
  refine hnodup.map_on ?_
  intro p hp q hq heq
  obtain ⟨p', rfl⟩ := hstart p hp
  obtain ⟨q', rfl⟩ := hstart q hq
  rw [List.drop_left, List.drop_left] at heq
  rw [heq]

/-- What is below a directory is reached from there. -/
theorem IsReachable.descend_below (h : t.IsReachable) (hplace : t.entry? place = some .directory)
    (he : t.entry? (place ++ names) = some e) : t.descend place names = .ok (place ++ names) := by
  rw [← descend_append (h place .directory hplace)]
  exact h (place ++ names) e he

/-- Names that lead from a place down to an entry. -/
structure LeadsDown (t : FileTree) (place names : Place) (e : FileEntry) : Prop where
  ne_nil : names ≠ []
  parts : ∀ s ∈ names, IsPart s
  up_notMem : ".." ∉ names
  plain : ∀ s ∈ names, '\x00' ∉ s.toList
  entry : t.entry? (place ++ names) = some e

theorem IsProper.leadsDown (h : t.IsProper) (hm : (names, e) ∈ t.below place) :
    t.LeadsDown place names e := by
  obtain ⟨hne, he⟩ := (mem_below_iff h.nodup).mp hm
  have hnames : ∀ s ∈ names, IsEntryName s := by
    intro s hs
    exact h.named _ e he s (List.mem_append_right place hs)
  exact {
    ne_nil := hne
    parts := fun s hs => (hnames s hs).1
    up_notMem := fun hs => (hnames ".." hs).2.1 rfl
    plain := fun s hs => (hnames s hs).2.2
    entry := he }

/-! ### What a path shows -/

theorem look_eq_some_iff : t.look p = .ok (some e) ↔
    p.hasNull = false ∧ ∃ place, t.placeOf p = .ok place ∧ t.entry? place = some e := by
  rw [look]
  cases hnull : p.hasNull with
  | true => simp
  | false =>
    rcases t.placeOf p with o | place
    · cases o <;> simp
    · simp

theorem isFile_eq_ok_false_iff : t.isFile p = .ok false ↔
    ∃ entry, t.look p = .ok entry ∧ ∀ content, entry ≠ some (.file content) := by
  rw [isFile]
  rcases t.look p with fault | _ | content | _ <;> simp [Except.map]

theorem look_of_tooLong (hnull : p.hasNull = false) (hlong : pathLimit < p.text.utf8ByteSize) :
    t.look p = .error (.obstacle .tooLong p) := by
  rw [look, hnull, placeOf, if_pos hlong]
  rfl

section
variable {h : ∀ s ∈ names, IsPart s}

/-- What there is below a directory is what its path shows, if the path is not too long. -/
theorem look_join (ht : t.IsReachable) (hdirectory : t.look p = .ok (some .directory))
    (hplace : t.placeOf p = .ok place) (hplain : ∀ s ∈ names, '\x00' ∉ s.toList)
    (he : t.entry? (place ++ names) = some e) :
    (∃ fault, t.look (p.join ⟨.here, names, h⟩) = .error fault) ∨
      t.look (p.join ⟨.here, names, h⟩) = .ok (some e) := by
  obtain ⟨hnull, place', hplace', hentry⟩ := look_eq_some_iff.mp hdirectory
  obtain rfl : place' = place := Except.ok.inj (hplace'.symm.trans hplace)
  have hnull' : (p.join ⟨.here, names, h⟩).hasNull = false := by
    rw [FilePath.hasNull_join rfl, hnull, Bool.false_or, FilePath.hasNull, List.any_eq_false]
    simpa using hplain
  by_cases hlong : pathLimit < (p.join ⟨.here, names, h⟩).text.utf8ByteSize
  · exact .inl ⟨_, look_of_tooLong hnull' hlong⟩
  · refine .inr (look_eq_some_iff.mpr ⟨hnull', place' ++ names, ?_, he⟩)
    have hdescend := (placeOf_eq_ok_iff.mp hplace).2
    refine placeOf_eq_ok_iff.mpr ⟨Nat.not_lt.mp hlong, ?_⟩
    rw [FilePath.root_join rfl, FilePath.parts_join rfl, descend_append hdescend]
    exact ht.descend_below hentry he

/-- What a path shows that leads on from another one is below the place of that one. -/
theorem exists_of_look_join (hne : names ≠ []) (hdots : ".." ∉ names)
    (hask : ∃ entry, t.look p = .ok entry)
    (hlook : t.look (p.join ⟨.here, names, h⟩) = .ok (some e)) :
    ∃ place, t.look p = .ok (some .directory) ∧ t.placeOf p = .ok place ∧
      t.entry? (place ++ names) = some e := by
  obtain ⟨hnull, last, hlast, he⟩ := look_eq_some_iff.mp hlook
  rw [FilePath.hasNull_join rfl, Bool.or_eq_false_iff] at hnull
  have hshort : p.text.utf8ByteSize ≤ pathLimit := by
    by_contra hlong
    obtain ⟨entry, hentry⟩ := hask
    cases hentry.symm.trans (look_of_tooLong hnull.1 (Nat.not_le.mp hlong))
  have hdescend := (placeOf_eq_ok_iff.mp hlast).2
  rw [FilePath.root_join rfl, FilePath.parts_join rfl] at hdescend
  obtain ⟨place, hplace, hnames⟩ := descend_of_append hdescend
  have hplaceOf : t.placeOf p = .ok place := placeOf_eq_ok_iff.mpr ⟨hshort, hplace⟩
  have hdirectory : t.entry? place = some .directory := by
    obtain ⟨name, rest, rfl⟩ := List.exists_cons_of_ne_nil hne
    exact (directory_of_descend hnames).1
  refine ⟨place, look_eq_some_iff.mpr ⟨hnull.1, place, hplaceOf, hdirectory⟩, hplaceOf, ?_⟩
  rw [← foldl_enter hdots, ← descend_eq_foldl hnames]
  exact he

end

end FileTree

end Scaffold
