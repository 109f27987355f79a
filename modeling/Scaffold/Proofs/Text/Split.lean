import Scaffold.Text.Split

/-! Texts in pieces.  Pieces without the mark that joins them are found again, and what lies outside
the pieces of a text are its marks. -/
namespace Scaffold.Text

variable {mark c : Char} {piece cs tail : List Char}

/-- A character more starts a new piece if it is the mark, or else it belongs to the first one. -/
theorem exists_splitAtMark_cons (mark c : Char) (cs : List Char) : ∃ first later,
    splitAtMark mark cs = first :: later ∧ splitAtMark mark (c :: cs) =
      if c = mark then [] :: first :: later else (c :: first) :: later := by
  obtain ⟨first, later, hsplit⟩ := List.exists_cons_of_ne_nil (splitAtMark_ne_nil mark cs)
  exact ⟨first, later, hsplit, by rw [splitAtMark, hsplit]⟩

/-! ### Pieces that are joined -/

theorem splitAtMark_of_notMem (h : mark ∉ piece) : splitAtMark mark piece = [piece] := by
  induction piece with
  | nil => rfl
  | cons c piece ih =>
    obtain ⟨hc, hpiece⟩ := List.ne_and_not_mem_of_not_mem_cons h
    simp only [splitAtMark, ih hpiece, if_neg hc.symm]

theorem splitAtMark_first (h : mark ∉ piece) (rest : List Char) :
    splitAtMark mark (piece ++ mark :: rest) = piece :: splitAtMark mark rest := by
  induction piece with
  | nil =>
    cases hrest : splitAtMark mark rest with
    | nil => exact absurd hrest (splitAtMark_ne_nil mark rest)
    | cons p ps => simp only [List.nil_append, splitAtMark, hrest, if_true]
  | cons c piece ih =>
    obtain ⟨hc, hpiece⟩ := List.ne_and_not_mem_of_not_mem_cons h
    simp only [List.cons_append, splitAtMark, ih hpiece, if_neg hc.symm]

/-- Pieces without the mark are found again between the marks that join them. -/
theorem splitAtMark_intercalate {pieces : List (List Char)} (hne : pieces ≠ [])
    (h : ∀ piece ∈ pieces, mark ∉ piece) :
    splitAtMark mark ([mark].intercalate pieces) = pieces := by
  induction pieces with
  | nil => exact absurd rfl hne
  | cons piece rest ih =>
    obtain ⟨hpiece, hrest⟩ := List.forall_mem_cons.mp h
    cases rest with
    | nil =>
      rw [List.intercalate_singleton]
      exact splitAtMark_of_notMem hpiece
    | cons next rest =>
      rw [List.intercalate_cons_cons, List.append_assoc, List.singleton_append,
        splitAtMark_first hpiece, ih (List.cons_ne_nil _ _) hrest]

/-- A text without the mark, behind another one, belongs to the last piece of that. -/
theorem exists_splitAtMark_append (htail : mark ∉ tail) (cs : List Char) : ∃ before last,
    splitAtMark mark cs = before ++ [last] ∧
      splitAtMark mark (cs ++ tail) = before ++ [last ++ tail] := by
  induction cs with
  | nil => exact ⟨[], [], rfl, splitAtMark_of_notMem htail⟩
  | cons c cs ih =>
    obtain ⟨before, last, hcs, htail⟩ := ih
    rw [List.cons_append]
    by_cases hc : c = mark
    · refine ⟨[] :: before, last, ?_, ?_⟩
      · cases before <;> simp [splitAtMark, hcs, hc]
      · cases before <;> simp [splitAtMark, htail, hc]
    · cases before with
      | nil =>
        exact ⟨[], c :: last, by simp [splitAtMark, hcs, hc], by simp [splitAtMark, htail, hc]⟩
      | cons first before =>
        exact ⟨(c :: first) :: before, last, by simp [splitAtMark, hcs, hc],
          by simp [splitAtMark, htail, hc]⟩

/-! ### What pieces hold -/

theorem length_splitAtMark (mark : Char) (cs : List Char) :
    (splitAtMark mark cs).length = cs.count mark + 1 := by
  induction cs with
  | nil => rfl
  | cons c cs ih =>
    obtain ⟨first, later, hcs, hcons⟩ := exists_splitAtMark_cons mark c cs
    rw [hcs, List.length_cons] at ih
    rw [hcons]
    split
    · next hc => simp [hc, ih]
    · next hc => simp [List.count_cons_of_ne hc, ih]

theorem sublist_of_mem_splitAtMark (h : piece ∈ splitAtMark mark cs) : piece.Sublist cs := by
  induction cs generalizing piece with
  | nil =>
    cases List.mem_singleton.mp h
    exact List.Sublist.refl _
  | cons c cs ih =>
    obtain ⟨first, later, hcs, hcons⟩ := exists_splitAtMark_cons mark c cs
    rw [hcs] at ih
    rw [hcons] at h
    split at h
    · rcases List.mem_cons.mp h with rfl | h
      · exact List.nil_sublist _
      · exact (ih h).cons c
    · rcases List.mem_cons.mp h with rfl | h
      · exact (ih List.mem_cons_self).cons_cons c
      · exact (ih (List.mem_cons_of_mem _ h)).cons c

theorem eq_or_mem_splitAtMark (mark : Char) (h : c ∈ cs) :
    c = mark ∨ ∃ piece ∈ splitAtMark mark cs, c ∈ piece := by
  induction cs with
  | nil => cases h
  | cons d cs ih =>
    obtain ⟨first, later, hcs, hcons⟩ := exists_splitAtMark_cons mark d cs
    rw [hcs] at ih
    rw [hcons]
    split
    · next hd =>
      rcases List.mem_cons.mp h with rfl | h
      · exact .inl hd
      · exact (ih h).imp_right fun ⟨piece, hpiece, hc⟩ => ⟨piece, List.mem_cons_of_mem _ hpiece, hc⟩
    · rcases List.mem_cons.mp h with rfl | h
      · exact .inr ⟨c :: first, List.mem_cons_self, List.mem_cons_self⟩
      · refine (ih h).imp_right fun ⟨piece, hpiece, hc⟩ => ?_
        rcases List.mem_cons.mp hpiece with rfl | hpiece
        · exact ⟨d :: piece, List.mem_cons_self, List.mem_cons_of_mem _ hc⟩
        · exact ⟨piece, List.mem_cons_of_mem _ hpiece, hc⟩

end Scaffold.Text
