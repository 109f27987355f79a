import Scaffold.Proofs.Files.Content

/-! Trees that received files.  Each file holds what was written to it, the directories on the way
to it are there, and nothing else changed; so the order in which files are written does not
matter. -/
namespace Scaffold.FileTree

variable {t t' t'' : FileTree} {place : Place} {p : FilePath} {content : ByteArray}
  {ws ws' : List (FilePath × ByteArray)}

/-- The names that are followed by others lead to a directory. -/
theorem directory_of_descend_append {xs ys : List String} {q : Place}
    (h : t.descend place (xs ++ ys) = .ok q) (hys : ys ≠ []) :
    t.entry? (xs.foldl Place.enter place) = some .directory := by
  obtain ⟨m, hm, hq⟩ := descend_of_append h
  obtain ⟨y, rest, rfl⟩ := List.exists_cons_of_ne_nil hys
  rw [← descend_eq_foldl hm]
  exact (directory_of_descend hq).1

/-- Every place on the way to a file that can be read is a directory. -/
theorem directory_of_crosses (h : t.readBytes p = .ok content)
    (hway : p.parent.Crosses t.here place) : t.entry? place = some .directory := by
  obtain ⟨-, hp, -⟩ := readBytes_eq_ok_iff.mp h
  have hdescend := (placeOf_eq_ok_iff.mp hp).2
  obtain ⟨names, ⟨rest, hrest⟩, rfl⟩ := hway
  have hrest : names ++ rest = p.parts.dropLast := hrest
  by_cases hparts : p.parts = []
  · rw [hparts, List.dropLast_nil, List.append_eq_nil_iff] at hrest
    rw [hrest.1, List.foldl_nil]
    split
    · exact t.entry?_here
    · rfl
  · rw [← List.dropLast_concat_getLast hparts, ← hrest, List.append_assoc] at hdescend
    exact directory_of_descend_append hdescend (by simp)

/-- A tree after files were written to it: each of them holds its content, the directories that lead
to it are there, and nothing else changed. -/
structure Receives (t t' : FileTree) (ws : List (FilePath × ByteArray)) : Prop
    extends ChangesWithin t t' (ws.map fun w => w.1.denoted t.here) where
  file : ∀ w ∈ ws, t'.entry? (w.1.denoted t.here) = some (.file w.2)
  way : ∀ w ∈ ws, ∀ place, w.1.parent.Crosses t.here place → t'.entry? place = some .directory
  along : t.AddsAlong t' fun place => ∃ w ∈ ws, w.1.parent.Crosses t.here place

namespace Receives

theorem refl (t : FileTree) : t.Receives t [] :=
  ⟨.refl t [], by simp, by simp, .refl t _⟩

/-- Files that are written later to other places are received as well. -/
theorem append (h : t.Receives t' ws) (h' : t'.Receives t'' ws')
    (hother : ∀ w ∈ ws, w.1.denoted t.here ∉ ws'.map fun w => w.1.denoted t.here) :
    t.Receives t'' (ws ++ ws') := by
  have hhere := h.here
  obtain ⟨hchange', hfile', hway', halong'⟩ := h'
  rw [hhere] at hchange' hfile' hway' halong'
  refine ⟨?_, ?_, ?_, ?_⟩
  · rw [List.map_append]
    exact h.toChangesWithin.trans hchange'
  · intro w hw
    rcases List.mem_append.mp hw with hw | hw
    · exact (hchange'.file_iff (hother w hw)).mpr (h.file w hw)
    · exact hfile' w hw
  · intro w hw place hp
    rcases List.mem_append.mp hw with hw | hw
    · exact hchange'.directory place (h.way w hw place hp)
    · exact hway' w hw place hp
  · have hbefore := h.along.mono fun place ⟨w, hw, hp⟩ =>
      (⟨w, List.mem_append_left ws' hw, hp⟩ :
        ∃ w ∈ ws ++ ws', w.1.parent.Crosses t.here place)
    exact hbefore.trans (halong'.mono fun place ⟨w, hw, hp⟩ =>
      ⟨w, List.mem_append_right ws hw, hp⟩)

/-- What a place holds that no file was written to and that leads to none. -/
theorem entry?_eq (h : t.Receives t' ws) (hfile : place ∉ ws.map fun w => w.1.denoted t.here)
    (hway : ¬ ∃ w ∈ ws, w.1.parent.Crosses t.here place) : t'.entry? place = t.entry? place := by
  rcases h.elsewhere place hfile with hsame | ⟨hnone, hdirectory⟩
  · exact hsame
  · rcases h.along place hdirectory with hbefore | hcrosses
    · rw [hnone] at hbefore
      cases hbefore
    · exact absurd hcrosses hway

/-- Trees that received the same files agree, whatever the order was. -/
theorem agrees (h : t.Receives t' ws) (h' : t.Receives t'' ws') (hws : ∀ w, w ∈ ws ↔ w ∈ ws') :
    t'.Agrees t'' := by
  refine ⟨h'.here.trans h.here.symm, fun place => ?_⟩
  by_cases hfile : place ∈ ws.map fun w => w.1.denoted t.here
  · obtain ⟨w, hw, rfl⟩ := List.mem_map.mp hfile
    rw [h.file w hw, h'.file w ((hws w).mp hw)]
  · by_cases hway : ∃ w ∈ ws, w.1.parent.Crosses t.here place
    · obtain ⟨w, hw, hp⟩ := hway
      rw [h.way w hw place hp, h'.way w ((hws w).mp hw) place hp]
    · have hfile' : place ∉ ws'.map fun w => w.1.denoted t.here := by
        simpa only [List.mem_map, hws] using hfile
      have hway' : ¬ ∃ w ∈ ws', w.1.parent.Crosses t.here place := by
        simpa only [hws] using hway
      rw [h.entry?_eq hfile hway, h'.entry?_eq hfile' hway']

end Receives

/-- Writing a text that succeeds is the receipt of one file. -/
theorem receives_of_writeText {s : String} (h : (writeText p s).run t = (.ok (), t')) :
    t.Receives t' [(p, s.toUTF8)] := by
  have hway := addsAlong_writeText p s t
  rw [h] at hway
  rcases writeText_cases p s t with ⟨e, m, hrun, -⟩ | ⟨m, hrun, hchange, hread⟩
  · rw [h] at hrun
    cases hrun
  · rw [h] at hrun
    cases hrun
    obtain ⟨-, -, hentry⟩ := readBytes_eq_ok_iff.mp hread
    rw [hchange.here] at hentry
    refine ⟨hchange, by simpa using hentry, ?_, by simpa using hway⟩
    intro w hw place hp
    obtain rfl := List.mem_singleton.mp hw
    rw [← hchange.here] at hp
    exact directory_of_crosses hread hp

end Scaffold.FileTree
