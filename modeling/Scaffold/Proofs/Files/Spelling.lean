import Scaffold.Files.Path
import Scaffold.Proofs.Text.Split

/-! Paths and their texts: the text of a path is read as the path. -/
namespace Scaffold

namespace FilePath

open Text

variable {p : FilePath}

/-- The characters of the names of a path, with slashes between them. -/
def joinedParts (p : FilePath) : List Char :=
  ['/'].intercalate (p.parts.map String.toList)

theorem slash_notMem_parts (p : FilePath) : ∀ piece ∈ p.parts.map String.toList, '/' ∉ piece := by
  simp only [List.forall_mem_map]
  exact fun s hs => (p.proper s hs).2.2

/-- The names of a path are what is left of its pieces without the empty ones. -/
theorem filter_pieces (p : FilePath) : ((splitAtMark '/' p.joinedParts).map String.ofList).filter
    (decide <| IsPart ·) = p.parts := by
  unfold joinedParts
  by_cases hparts : p.parts = []
  · rw [hparts]
    decide
  · rw [splitAtMark_intercalate (by simpa using hparts) p.slash_notMem_parts, List.map_map]
    have hid : String.ofList ∘ String.toList = id := funext fun _ => String.ofList_toList
    rw [hid, List.map_id, List.filter_eq_self]
    exact fun s hs => decide_eq_true (p.proper s hs)

/-- No name of a path starts with a slash. -/
theorem head?_joinedParts (p : FilePath) : p.joinedParts.head? ≠ some '/' := by
  unfold joinedParts
  cases hparts : p.parts with
  | nil => simp
  | cons name names =>
    obtain ⟨hempty, -, hslash⟩ := p.proper name (by simp [hparts])
    cases hname : name.toList with
    | nil => exact absurd (String.toList_eq_nil_iff.mp hname) hempty
    | cons c cs =>
      rw [hname] at hslash
      have hc : c ≠ '/' := (List.ne_and_not_mem_of_not_mem_cons hslash).1.symm
      cases names <;> simpa [hname] using hc

theorem root_of_append (root : PathRoot) {cs : List Char} (h : cs.head? ≠ some '/') :
    PathRoot.of (root.text.toList ++ cs) = root := by
  cases cs with
  | nil => cases root <;> rfl
  | cons c cs =>
    have hc : c ≠ '/' := by simpa using h
    cases root with
    | here =>
      change PathRoot.of (c :: cs) = .here
      unfold PathRoot.of
      split <;> simp_all
    | top =>
      change PathRoot.of ('/' :: c :: cs) = .top
      unfold PathRoot.of
      split <;> simp_all
    | doubleTop =>
      change PathRoot.of ('/' :: '/' :: c :: cs) = .doubleTop
      unfold PathRoot.of
      split
      · simp_all
      · rfl
      · next hnot heq =>
        cases heq
        exact absurd rfl (hnot _)
      · next hnot => exact absurd rfl (hnot _)

theorem filter_pieces_append (root : PathRoot) (cs : List Char) :
    ((splitAtMark '/' (root.text.toList ++ cs)).map String.ofList).filter (decide <| IsPart ·) =
      ((splitAtMark '/' cs).map String.ofList).filter (decide <| IsPart ·) := by
  have hone (cs : List Char) : ((splitAtMark '/' ('/' :: cs)).map String.ofList).filter
      (decide <| IsPart ·) = ((splitAtMark '/' cs).map String.ofList).filter
        (decide <| IsPart ·) := by
    rw [← List.nil_append ('/' :: cs), splitAtMark_first List.not_mem_nil, List.map_cons,
      List.filter_cons_of_neg (by decide)]
  cases root with
  | here => rfl
  | top => exact hone cs
  | doubleTop => exact (hone ('/' :: cs)).trans (hone cs)

theorem toList_text (h : p ≠ here) : p.text.toList = p.root.text.toList ++ p.joinedParts := by
  have hslash : "/".toList = ['/'] := by decide
  rw [text, if_neg h, String.toList_append, String.toList_intercalate, hslash]
  rfl

/-- The text of a path is read as the path. -/
theorem ofString_text (p : FilePath) : ofString p.text = p := by
  by_cases hp : p = here
  · rw [hp]
    decide
  · have htext := toList_text hp
    have hroot := root_of_append p.root p.head?_joinedParts
    have hparts := (filter_pieces_append p.root p.joinedParts).trans p.filter_pieces
    rw [← htext] at hroot hparts
    obtain ⟨root, parts, proper⟩ := p
    simp only [ofString, pieces, hroot, hparts]

theorem text_injective {p q : FilePath} (h : p.text = q.text) : p = q := by
  rw [← ofString_text p, h, ofString_text]

theorem text_of_names {names : List String} (hne : names ≠ []) (h : ∀ s ∈ names, IsPart s) :
    (⟨.here, names, h⟩ : FilePath).text = "/".intercalate names := by
  have hhere : (⟨.here, names, h⟩ : FilePath) ≠ here := by simpa [here] using hne
  rw [text, if_neg hhere]
  exact String.empty_append

/-- Names, one below the other, are read as the path that leads there from here. -/
theorem ofString_intercalate {names : List String} (hne : names ≠ []) (h : ∀ s ∈ names, IsPart s) :
    ofString ("/".intercalate names) = ⟨.here, names, h⟩ := by
  rw [← text_of_names hne h, ofString_text]

/-- A name is read as the path that leads there from here. -/
theorem ofString_of_isPart {s : String} (h : IsPart s) :
    ofString s = ⟨.here, [s], by simpa using h⟩ := by
  have hpath := ofString_intercalate (List.cons_ne_nil s []) (by simpa using h)
  rwa [String.intercalate_singleton] at hpath

/-- A directory and a name in it. -/
theorem text_ofString_pair {dir name : String} (hdir : IsPart dir) (hname : IsPart name) :
    (ofString (dir ++ "/" ++ name)).text = dir ++ "/" ++ name := by
  have hproper : ∀ s ∈ [dir, name], IsPart s := by simp [hdir, hname]
  have htext := text_of_names (List.cons_ne_nil dir [name]) hproper
  rw [String.intercalate_cons_cons, String.intercalate_singleton] at htext
  rw [← htext, ofString_text]

end FilePath

end Scaffold
