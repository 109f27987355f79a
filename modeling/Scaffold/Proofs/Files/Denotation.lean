import Scaffold.Files.Tree

/-! The place that a path denotes.  A tree leads there only through directories that exist, so a
path that steps up again out of a missing directory denotes a place that the tree does not show. -/
namespace Scaffold

/-- The place that a name leads to from another place. -/
def Place.enter (place : Place) (name : String) : Place :=
  if name = ".." then place.dropLast else place ++ [name]

/-- The place that a path denotes, whatever the tree holds on the way. -/
def FilePath.denoted (here : Place) (p : FilePath) : Place :=
  p.parts.foldl Place.enter (if p.root = .here then here else [])

/-- A path leads through a place: one of its beginnings denotes it. -/
def FilePath.Crosses (here : Place) (p : FilePath) (place : Place) : Prop :=
  ∃ names, names <+: p.parts ∧ names.foldl Place.enter (if p.root = .here then here else []) = place

theorem FilePath.crosses_denoted (here : Place) (p : FilePath) : p.Crosses here (p.denoted here) :=
  ⟨p.parts, List.prefix_refl _, rfl⟩

theorem FilePath.Crosses.of_parent {here place : Place} {p : FilePath}
    (h : p.parent.Crosses here place) : p.Crosses here place := by
  obtain ⟨names, hnames, rfl⟩ := h
  exact ⟨names, hnames.trans (List.dropLast_prefix _), rfl⟩

namespace FileTree

/-- The directories of a tree are directories of another one. -/
structure KeepsDirectories (t t' : FileTree) : Prop where
  here : t'.here = t.here
  directory : ∀ place, t.entry? place = some .directory → t'.entry? place = some .directory

/-- At a path the tree shows what it has at the place that the path denotes. -/
def Shows (t : FileTree) (p : FilePath) : Prop :=
  t.find? p = t.entry? (p.denoted t.here)

/-- Every entry can be reached from the top. -/
def IsReachable (t : FileTree) : Prop :=
  ∀ place e, t.entry? place = some e → t.descend [] place = .ok place

variable {t t' : FileTree} {place q : Place} {p : FilePath}

theorem entry?_here (t : FileTree) : t.entry? t.here = some .directory := by
  unfold entry?
  simp

/-! ### Descending -/

theorem descend_directory {name : String} {names : List String}
    (h : t.entry? place = some .directory) (hname : name.utf8ByteSize ≤ nameLimit) :
    t.descend place (name :: names) = t.descend (place.enter name) names := by
  rw [descend, h]
  simp only [Nat.not_lt.mpr hname, if_false]
  rfl

/-- What it takes to go one name further. -/
theorem directory_of_descend {name : String} {names : List String}
    (h : t.descend place (name :: names) = .ok q) :
    t.entry? place = some .directory ∧ name.utf8ByteSize ≤ nameLimit ∧
      t.descend (place.enter name) names = .ok q := by
  rw [descend] at h
  split at h
  · cases h
  · cases h
  · next hd =>
    split at h
    · cases h
    · next hn => exact ⟨hd, Nat.not_lt.mp hn, h⟩

theorem descend_eq_foldl {names : List String} (h : t.descend place names = .ok q) :
    q = names.foldl Place.enter place := by
  induction names generalizing place with
  | nil => exact (Except.ok.inj h).symm
  | cons name names ih => exact ih (directory_of_descend h).2.2

theorem descend_append {xs ys : List String} (h : t.descend place xs = .ok q) :
    t.descend place (xs ++ ys) = t.descend q ys := by
  induction xs generalizing place with
  | nil => rw [Except.ok.inj h, List.nil_append]
  | cons x xs ih =>
    obtain ⟨hd, hn, h⟩ := directory_of_descend h
    rw [List.cons_append, descend_directory hd hn, ih h]

theorem descend_of_append {xs ys : List String} (h : t.descend place (xs ++ ys) = .ok q) :
    ∃ m, t.descend place xs = .ok m ∧ t.descend m ys = .ok q := by
  induction xs generalizing place with
  | nil => exact ⟨place, rfl, h⟩
  | cons x xs ih =>
    obtain ⟨hd, hn, h⟩ := directory_of_descend h
    obtain ⟨m, hm, hq⟩ := ih h
    exact ⟨m, by rw [descend_directory hd hn, hm], hq⟩

theorem descend_mono (hk : t.KeepsDirectories t') {names : List String}
    (h : t.descend place names = .ok q) : t'.descend place names = .ok q := by
  induction names generalizing place with
  | nil => exact h
  | cons name names ih =>
    obtain ⟨hd, hn, h⟩ := directory_of_descend h
    rw [descend_directory (hk.directory place hd) hn, ih h]

/-- A name that is met and is too long is met in every larger tree. -/
theorem descend_tooLong (hk : t.KeepsDirectories t') {names : List String}
    (h : t.descend place names = .error .tooLong) :
    t'.descend place names = .error .tooLong := by
  induction names generalizing place with
  | nil => cases h
  | cons name names ih =>
    rw [descend] at h
    split at h
    · cases h
    · cases h
    · next hd =>
      rw [descend, hk.directory place hd]
      split at h
      · next hn => simp only [hn, if_true]
      · next hn =>
        simp only [hn, if_false]
        exact ih h

/-! ### Paths -/

theorem placeOf_eq_ok_iff : t.placeOf p = .ok q ↔
    p.text.utf8ByteSize ≤ pathLimit ∧
      t.descend (if p.root = .here then t.here else []) p.parts = .ok q := by
  rw [placeOf]
  split
  · next h => simp [Nat.not_le.mpr h]
  · next h => simp [Nat.not_lt.mp h]

theorem placeOf_eq_denoted (h : t.placeOf p = .ok q) : q = p.denoted t.here :=
  descend_eq_foldl (placeOf_eq_ok_iff.mp h).2

theorem denoted_of_placeOf (h : t.placeOf p = .ok q) : t.placeOf p = .ok (p.denoted t.here) := by
  rw [h, placeOf_eq_denoted h]

theorem placeOf_mono (hk : t.KeepsDirectories t') (h : t.placeOf p = .ok q) :
    t'.placeOf p = .ok q := by
  obtain ⟨hp, h⟩ := placeOf_eq_ok_iff.mp h
  refine placeOf_eq_ok_iff.mpr ⟨hp, ?_⟩
  rw [hk.here]
  exact descend_mono hk h

theorem placeOf_tooLong (hk : t.KeepsDirectories t') (h : t.placeOf p = .error .tooLong) :
    t'.placeOf p = .error .tooLong := by
  rw [placeOf] at h ⊢
  split
  · rfl
  · next hp =>
    rw [if_neg hp] at h
    rw [hk.here]
    exact descend_tooLong hk h

theorem shows_of_placeOf (h : t.placeOf p = .ok q) : t.Shows p := by
  rw [Shows, find?, h, placeOf_eq_denoted h]

theorem foldl_enter {names : List String} (h : ".." ∉ names) (place : Place) :
    names.foldl Place.enter place = place ++ names := by
  induction names generalizing place with
  | nil => simp
  | cons name names ih =>
    simp only [List.mem_cons, not_or] at h
    rw [List.foldl_cons, ih h.2, Place.enter, if_neg (Ne.symm h.1), List.append_assoc,
      List.singleton_append]

/-- A path without double dots that is not too long shows what there is at its place. -/
theorem shows_of_isReachable (ht : t.IsReachable) (hdots : ".." ∉ p.parts)
    (hp : p.text.utf8ByteSize ≤ pathLimit) : t.Shows p := by
  have hstart : t.descend [] (if p.root = .here then t.here else []) =
      .ok (if p.root = .here then t.here else []) := by
    split
    · exact ht t.here .directory t.entry?_here
    · rfl
  cases hplace : t.placeOf p with
  | ok q => exact shows_of_placeOf hplace
  | error o =>
    rw [Shows, find?, hplace]
    -- An entry there could be reached, and the way to it from the start is that of the path.
    cases he : t.entry? (p.denoted t.here) with
    | none => rfl
    | some e =>
      have hreach := ht _ e he
      rw [FilePath.denoted, foldl_enter hdots, descend_append hstart] at hreach
      rw [placeOf_eq_ok_iff.mpr ⟨hp, hreach⟩] at hplace
      cases hplace

end FileTree

end Scaffold
