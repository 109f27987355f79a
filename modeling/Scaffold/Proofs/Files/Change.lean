import Scaffold.Proofs.Computation
import Scaffold.Proofs.Files.Denotation

/-! What operations make of a tree.  They add directories where nothing was, they write the one
file that they are for, and they leave all else as it is, whether they succeed or not. -/
namespace Scaffold.FileTree

variable {t t' t'' : FileTree} {place q : Place} {places : List Place} {p : FilePath}

/-- At a place there is what there was, or a directory where nothing was. -/
def KeepsAt (t t' : FileTree) (place : Place) : Prop :=
  t'.entry? place = t.entry? place ∨
    t.entry? place = none ∧ t'.entry? place = some .directory

theorem KeepsAt.trans (h : t.KeepsAt t' place) (h' : t'.KeepsAt t'' place) :
    t.KeepsAt t'' place := by
  rcases h' with h₂ | ⟨h₂, h₃⟩
  · unfold KeepsAt
    rw [h₂]
    exact h
  · rcases h with h₁ | ⟨-, h₁⟩
    · exact .inr ⟨h₁ ▸ h₂, h₃⟩
    · rw [h₁] at h₂
      cases h₂

theorem KeepsAt.file_iff {content : ByteArray} (h : t.KeepsAt t' place) :
    t'.entry? place = some (.file content) ↔ t.entry? place = some (.file content) := by
  rcases h with h | ⟨h₁, h₂⟩
  · rw [h]
  · simp [h₁, h₂]

/-- Directories are added at some places only. -/
def AddsAlong (t t' : FileTree) (way : Place → Prop) : Prop :=
  ∀ place, t'.entry? place = some .directory → t.entry? place = some .directory ∨ way place

section
variable {way way' : Place → Prop}

theorem AddsAlong.refl (t : FileTree) (way : Place → Prop) : t.AddsAlong t way :=
  fun _ h => .inl h

theorem AddsAlong.mono (h : t.AddsAlong t' way) (hsub : ∀ place, way place → way' place) :
    t.AddsAlong t' way' :=
  fun place hd => (h place hd).imp_right (hsub place)

theorem AddsAlong.trans (h : t.AddsAlong t' way) (h' : t'.AddsAlong t'' way) :
    t.AddsAlong t'' way :=
  fun place hd => (h' place hd).elim (h place) .inr

end

/-- All that differs outside of some places are directories that were added where nothing was. -/
structure ChangesWithin (t t' : FileTree) (places : List Place) : Prop
    extends KeepsDirectories t t' where
  elsewhere : ∀ place, place ∉ places → t.KeepsAt t' place

namespace ChangesWithin

theorem refl (t : FileTree) (places : List Place) : t.ChangesWithin t places :=
  ⟨⟨rfl, fun _ h => h⟩, fun _ _ => .inl rfl⟩

theorem mono {places' : List Place} (h : t.ChangesWithin t' places) (hsub : places ⊆ places') :
    t.ChangesWithin t' places' :=
  ⟨h.toKeepsDirectories, fun place hp => h.elsewhere place fun hm => hp (hsub hm)⟩

theorem trans {places' : List Place} (h : t.ChangesWithin t' places)
    (h' : t'.ChangesWithin t'' places') : t.ChangesWithin t'' (places ++ places') := by
  refine ⟨⟨h'.here.trans h.here, fun place hd => h'.directory place (h.directory place hd)⟩, ?_⟩
  intro place hp
  simp only [List.mem_append, not_or] at hp
  exact (h.elsewhere place hp.1).trans (h'.elsewhere place hp.2)

/-- No file comes, goes or changes elsewhere. -/
theorem file_iff {content : ByteArray} (h : t.ChangesWithin t' places) (hp : place ∉ places) :
    t'.entry? place = some (.file content) ↔ t.entry? place = some (.file content) :=
  (h.elsewhere place hp).file_iff

end ChangesWithin

/-! ### One entry -/

theorem lookup_filter_ne {entries : List (Place × FileEntry)} (h : q ≠ place) :
    (entries.filter (·.1 != place)).lookup q = entries.lookup q := by
  induction entries with
  | nil => rfl
  | cons e es ih =>
    rw [List.lookup_cons]
    by_cases he : e.1 = place
    · rw [List.filter_cons_of_neg (by simp [he]), ih, he, beq_false_of_ne h]
    · rw [List.filter_cons_of_pos (by simp [he]), List.lookup_cons, ih]

theorem entry?_set (t : FileTree) (place : Place) (e : FileEntry) (q : Place) :
    entry? (t.set place e) q = if q.isPrefixOf t.here then some .directory
      else ((place, e) :: t.entries.filter (·.1 != place)).lookup q := rfl

theorem entry?_set_ne {e : FileEntry} (h : q ≠ place) :
    entry? (t.set place e) q = t.entry? q := by
  rw [entry?_set, entry?]
  split
  · rfl
  · rw [List.lookup_cons, beq_false_of_ne h]
    exact lookup_filter_ne h

theorem entry?_set_self {e : FileEntry} (h : t.entry? place ≠ some .directory) :
    entry? (t.set place e) place = some e := by
  rw [entry?_set, if_neg, List.lookup_cons_self]
  intro hp
  exact h (if_pos hp)

theorem changesWithin_set {e : FileEntry} (h : t.entry? place ≠ some .directory) :
    t.ChangesWithin (t.set place e) [place] := by
  refine ⟨⟨rfl, fun q hd => ?_⟩, fun q hq => .inl (entry?_set_ne (by simpa using hq))⟩
  rw [entry?_set_ne, hd]
  rintro rfl
  exact h hd

theorem changesWithin_set_directory (h : t.entry? place = none) :
    t.ChangesWithin (t.set place .directory) [] := by
  have hset : t.ChangesWithin (t.set place .directory) [place] := changesWithin_set (by simp [h])
  refine ⟨hset.toKeepsDirectories, fun q _ => ?_⟩
  by_cases hq : q = place
  · subst hq
    exact .inr ⟨h, entry?_set_self (by simp [h])⟩
  · exact hset.elsewhere q (by simpa using hq)

/-! ### Operations that add directories -/

/-- An operation that adds directories on the way that a path leads, and changes nothing else. -/
def OnlyAdds {α : Type} (p : FilePath) (b : Disk α) : Prop :=
  ∀ t : FileTree, t.ChangesWithin (b.run t).2 [] ∧ t.AddsAlong (b.run t).2 (p.Crosses t.here)

theorem onlyAdds_trans (h : t.ChangesWithin t' [] ∧ t.AddsAlong t' (p.Crosses t.here))
    (h' : t'.ChangesWithin t'' [] ∧ t'.AddsAlong t'' (p.Crosses t'.here)) :
    t.ChangesWithin t'' [] ∧ t.AddsAlong t'' (p.Crosses t.here) :=
  ⟨h.1.trans h'.1, h.2.trans (h.1.here ▸ h'.2)⟩

theorem OnlyAdds.bind {α β : Type} {b : Disk α} {f : α → Disk β} (h : OnlyAdds p b)
    (hf : ∀ a, OnlyAdds p (f a)) : OnlyAdds p (b >>= f) := by
  intro t
  have hb := h t
  rw [run_bind]
  generalize b.run t = r at hb ⊢
  obtain ⟨e | a, t'⟩ := r
  · exact hb
  · exact onlyAdds_trans hb (hf a t')

theorem OnlyAdds.tryCatch {α : Type} {b : Disk α} {f : FileFault → Disk α} (h : OnlyAdds p b)
    (hf : ∀ e, OnlyAdds p (f e)) : OnlyAdds p (tryCatch b f) := by
  intro t
  have hb := h t
  rw [run_tryCatch]
  generalize b.run t = r at hb ⊢
  obtain ⟨e | a, t'⟩ := r
  · exact onlyAdds_trans hb (hf e t')
  · exact hb

theorem OnlyAdds.of_parent {α : Type} {b : Disk α} (h : OnlyAdds p.parent b) : OnlyAdds p b :=
  fun t => ⟨(h t).1, (h t).2.mono fun _ hp => hp.of_parent⟩

theorem onlyAdds_pure {α : Type} (p : FilePath) (a : α) : OnlyAdds p (pure a : Disk α) :=
  fun t => ⟨.refl t [], .refl t _⟩

theorem onlyAdds_throw {α : Type} (p : FilePath) (e : FileFault) :
    OnlyAdds p (throw e : Disk α) :=
  fun t => ⟨.refl t [], .refl t _⟩

theorem run_makeDirectory (p : FilePath) (t : FileTree) : (makeDirectory p).run t =
    if p.hasNull then (.error .nullCharacter, t)
    else match t.placeOf p with
      | .error o => (.error (.obstacle o p), t)
      | .ok place => match t.entry? place with
        | some _ => (.error (.obstacle .occupied p), t)
        | none => (.ok (), t.set place .directory) := by
  simp only [makeDirectory, run_bind, run_getThe]
  cases p.hasNull with
  | true => rfl
  | false =>
    simp only [Bool.false_eq_true, if_false]
    cases t.placeOf p with
    | error o => rfl
    | ok place =>
      dsimp only
      cases t.entry? place <;> rfl

theorem onlyAdds_makeDirectory (p : FilePath) : OnlyAdds p (makeDirectory p) := by
  intro t
  have hsame : t.ChangesWithin t [] ∧ t.AddsAlong t (p.Crosses t.here) := ⟨.refl t [], .refl t _⟩
  rw [run_makeDirectory]
  split
  · exact hsame
  · split
    · exact hsame
    · next place hplace =>
      split
      · exact hsame
      · next hnone =>
        refine ⟨changesWithin_set_directory hnone, fun q hq => ?_⟩
        by_cases hqp : q = place
        · rw [hqp, placeOf_eq_denoted hplace]
          exact .inr (p.crosses_denoted t.here)
        · rw [entry?_set_ne hqp] at hq
          exact .inl hq

theorem onlyAdds_makeMissing (p : FilePath) : OnlyAdds p (makeMissing p) := by
  refine (onlyAdds_makeDirectory p).tryCatch fun e t => ?_
  rw [run_bind, run_getThe]
  dsimp only
  split
  · exact onlyAdds_throw p _ t
  · split
    · exact onlyAdds_pure p () t
    · exact onlyAdds_throw p _ t
  · exact onlyAdds_throw p _ t

theorem onlyAdds_makeAll (above : Nat) (p : FilePath) : OnlyAdds p (makeAll above p) := by
  induction above generalizing p with
  | zero => exact onlyAdds_makeMissing p
  | succ above ih =>
    refine (onlyAdds_makeMissing p).tryCatch fun e => ?_
    split
    · exact (ih p.parent).of_parent.bind fun _ => onlyAdds_makeMissing p
    · exact onlyAdds_throw p _

theorem onlyAdds_makeDirectories (p : FilePath) : OnlyAdds p (makeDirectories p) :=
  onlyAdds_makeAll _ p

/-- Where the directory is there already, nothing is made. -/
theorem run_makeDirectories_directory (hn : p.hasNull = false) (hp : t.placeOf p = .ok q)
    (hq : t.entry? q = some .directory) : (makeDirectories p).run t = (.ok (), t) := by
  have hone : (makeDirectory p).run t = (.error (.obstacle .occupied p), t) := by
    rw [run_makeDirectory, hn, hp]
    simp only [Bool.false_eq_true, if_false, hq]
  have hdirectory : t.isDirectory p = true := by
    rw [isDirectory, find?, hp]
    simp only [hq]
  have hmissing : (makeMissing p).run t = (.ok (), t) := by
    rw [makeMissing, run_tryCatch, hone]
    dsimp only
    rw [run_bind, run_getThe]
    dsimp only
    rw [if_pos hdirectory, run_pure]
  rw [makeDirectories]
  cases p.parts.length with
  | zero => exact hmissing
  | succ above => rw [makeAll, run_tryCatch, hmissing]

end Scaffold.FileTree
