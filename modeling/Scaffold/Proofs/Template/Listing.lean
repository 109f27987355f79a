import Scaffold.Proofs.Files.Below
import Scaffold.Proofs.Template.RegistrySession

/-! Listings of templates.  A listing has the paths below its start that end as those of templates
do and lead to a file or to a directory, each of them once and in order.  The files among them are
what a registry gives templates for; the directories are not. -/
namespace Scaffold

open FileTree Text

/-! ### Names of templates -/

theorem intercalate_concat {mark : Char} {pieces : List (List Char)} (hne : pieces ≠ [])
    (last : List Char) : [mark].intercalate (pieces ++ [last]) =
      [mark].intercalate pieces ++ mark :: last := by
  induction pieces with
  | nil => exact absurd rfl hne
  | cons piece rest ih =>
    cases rest with
    | nil => simp
    | cons next rest =>
      rw [List.cons_append, List.cons_append, List.intercalate_cons_cons,
        List.intercalate_cons_cons, ← List.cons_append, ih (List.cons_ne_nil _ _)]
      simp

/-- An ending without the mark does not reach beyond it. -/
theorem suffix_of_suffix_append {mark : Char} {ending before last : List Char}
    (hmark : mark ∉ ending) (h : ending <:+ before ++ mark :: last) : ending <:+ last := by
  rcases List.suffix_or_suffix_of_suffix h (List.suffix_append before (mark :: last)) with
    hlast | hending
  · rcases List.suffix_cons_iff.mp hlast with rfl | hlast
    · exact absurd List.mem_cons_self hmark
    · exact hlast
  · exact absurd (hending.subset List.mem_cons_self) hmark

/-- A path ends as templates do if its last name does. -/
theorem Template.Registry.isTemplateName_text {p : FilePath} (hroot : p.root = .here)
    {names : List String} {last : String} (hparts : p.parts = names ++ [last]) :
    isTemplateName p.text = isTemplateName last := by
  have hhere : p ≠ .here := by
    rintro rfl
    simp [FilePath.here] at hparts
  have htext : p.text.toList = p.joinedParts := by
    rw [FilePath.toList_text hhere, hroot]
    rfl
  rw [isTemplateName, isTemplateName, htext, FilePath.joinedParts, hparts, List.map_append,
    List.map_cons, List.map_nil]
  by_cases hnames : names = []
  · simp [hnames]
  · rw [intercalate_concat (by simpa using hnames), Bool.eq_iff_iff, List.isSuffixOf_iff_suffix,
      List.isSuffixOf_iff_suffix]
    have hslash : '/' ∉ templateSuffix.toList := by decide
    constructor
    · exact suffix_of_suffix_append hslash
    · intro h
      exact h.trans ((List.suffix_cons '/' last.toList).trans (List.suffix_append _ _))

namespace Template

namespace Registry

variable {disk : FileTree} {r : Registry} {start : String} {place names : Place} {e : FileEntry}

/-- The path of what names lead to from where a listing starts, as seen from the folder. -/
def pathOf (start : String) (names : Place) : FilePath :=
  (FilePath.ofString start).join (.ofString ("/".intercalate names))

theorem pathOf_eq (hroot : (FilePath.ofString start).root = .here) (hne : names ≠ [])
    (hnames : ∀ s ∈ names, IsPart s) : (pathOf start names).root = .here ∧
      (pathOf start names).parts = (FilePath.ofString start).parts ++ names := by
  rw [pathOf, FilePath.ofString_intercalate hne hnames]
  exact ⟨(FilePath.root_join rfl).trans hroot, FilePath.parts_join rfl⟩

/-- What is listed below a place. -/
def listing (files : FileTree) (start : String) (place : Place) : List String :=
  ((((files.below place).map (·.1)).filter (·.getLast?.any isTemplateName)).map fun names =>
    (pathOf start names).text).mergeSort (decide <| · ≤ ·)

theorem filterMap_relativeTo? (hroot : (FilePath.ofString start).root = .here) {found : List Place}
    (h : ∀ names ∈ found, names ≠ [] ∧ ∀ s ∈ names, IsPart s) :
    (found.filterMap fun names =>
      ((r.folder.fileAt start).join (.ofString ("/".intercalate names))).relativeTo?
        r.folder.path) = found.map (pathOf start) := by
  rw [← List.filterMap_eq_map]
  apply List.filterMap_congr
  intro names hnames
  obtain ⟨hne, hparts⟩ := h names hnames
  rw [Folder.fileAt, FilePath.join_assoc]
  exact FilePath.relativeTo?_join (pathOf_eq hroot hne hparts).1

/-- A directory whose path is too long to be looked into. -/
def isHidden (r : Registry) (start : String) (e : Place × FileEntry) : Bool :=
  e.2 = .directory &&
    pathLimit < ((r.folder.fileAt start).join (.ofString ("/".intercalate e.1))).text.utf8ByteSize

/-- A listing of a directory, unless one below cannot be looked into. -/
theorem list_of_directory (ht : (r.folder.tree disk).IsProper)
    (hroot : (FilePath.ofString start).root = .here)
    (hlook : (r.folder.tree disk).look (r.folder.fileAt start) = .ok (some .directory))
    (hplace : (r.folder.tree disk).placeOf (r.folder.fileAt start) = .ok place) :
    r.list disk start = match ((r.folder.tree disk).below place).find? (r.isHidden start) with
      | some e => .error (r.folder.outside (.obstacle .tooLong
          ((r.folder.fileAt start).join (.ofString ("/".intercalate e.1)))))
      | none => .ok (listing (r.folder.tree disk) start place) := by
  have hnames : ∀ names ∈ (((r.folder.tree disk).below place).map (·.1)).filter
      (·.getLast?.any isTemplateName), names ≠ [] ∧ ∀ s ∈ names, IsPart s := by
    intro names hnames
    obtain ⟨⟨names, e⟩, hm, rfl⟩ := List.mem_map.mp (List.mem_filter.mp hnames).1
    have hdown := ht.leadsDown hm
    exact ⟨hdown.ne_nil, hdown.parts⟩
  have hpaths := filterMap_relativeTo? (r := r) hroot hnames
  unfold Folder.fileAt at hlook hplace hpaths
  unfold list
  simp only [hlook, hplace, Except.mapError, bind, Except.bind]
  unfold isHidden Folder.fileAt
  split
  next e heq =>
    simp only [heq]
    rfl
  next heq =>
    simp only [heq]
    rw [hpaths, List.map_map]
    rfl

theorem list_of_not_directory {entry : Option FileEntry}
    (hlook : (r.folder.tree disk).look (r.folder.fileAt start) = .ok entry)
    (hne : entry ≠ some .directory) : r.list disk start = .ok [] := by
  unfold Folder.fileAt at hlook
  unfold list
  simp only [hlook, Except.mapError, bind, Except.bind]
  split
  next => exact absurd rfl hne
  next => rfl

theorem list_of_error {fault : FileFault}
    (hlook : (r.folder.tree disk).look (r.folder.fileAt start) = .error fault) :
    r.list disk start = .error (r.folder.outside fault) := by
  unfold Folder.fileAt at hlook
  unfold list
  simp only [hlook, Except.mapError, bind, Except.bind]

/-! ### What is listed -/

theorem any_isTemplateName (hroot : (FilePath.ofString start).root = .here) (hne : names ≠ [])
    (hnames : ∀ s ∈ names, IsPart s) :
    names.getLast?.any isTemplateName = isTemplateName (pathOf start names).text := by
  obtain ⟨hpath, hparts⟩ := pathOf_eq hroot hne hnames
  obtain ⟨init, last, rfl⟩ := (List.eq_nil_or_concat' names).resolve_left hne
  rw [← List.append_assoc] at hparts
  rw [isTemplateName_text hpath hparts, List.getLast?_concat, Option.any_some]

theorem mem_listing_iff {files : FileTree} (ht : files.IsProper)
    (hroot : (FilePath.ofString start).root = .here) {p : String} :
    p ∈ listing files start place ↔ ∃ names e, (names, e) ∈ files.below place ∧
      isTemplateName p = true ∧ (pathOf start names).text = p := by
  rw [listing, List.mem_mergeSort, List.mem_map]
  constructor
  · rintro ⟨names, hnames, rfl⟩
    obtain ⟨hfound, hname⟩ := List.mem_filter.mp hnames
    obtain ⟨⟨names, e⟩, hm, rfl⟩ := List.mem_map.mp hfound
    have hdown := ht.leadsDown hm
    rw [any_isTemplateName hroot hdown.ne_nil hdown.parts] at hname
    exact ⟨names, e, hm, hname, rfl⟩
  · rintro ⟨names, e, hm, hname, rfl⟩
    have hdown := ht.leadsDown hm
    refine ⟨names, List.mem_filter.mpr ⟨List.mem_map_of_mem hm, ?_⟩, rfl⟩
    rw [any_isTemplateName hroot hdown.ne_nil hdown.parts]
    exact hname

theorem pairwise_lt_mergeSort {ss : List String} (h : ss.Nodup) :
    (ss.mergeSort (decide <| · ≤ ·)).Pairwise (· < ·) := by
  have hnodup : (ss.mergeSort (decide <| · ≤ ·)).Nodup :=
    (List.mergeSort_perm ss _).nodup_iff.mpr h
  have hsorted : (ss.mergeSort (decide <| · ≤ ·)).Pairwise fun a b => decide (a ≤ b) = true := by
    apply List.pairwise_mergeSort
    · intro a b c hab hbc
      exact decide_eq_true (String.le_trans (of_decide_eq_true hab) (of_decide_eq_true hbc))
    · intro a b
      simpa using String.le_total a b
  refine hsorted.imp₂ ?_ hnodup
  intro a b hab hne
  apply String.not_le.mp
  intro hba
  exact hne (String.le_antisymm (of_decide_eq_true hab) hba)

/-- A listing is in order, and nothing is in it twice. -/
theorem pairwise_listing {files : FileTree} (ht : files.IsProper)
    (hroot : (FilePath.ofString start).root = .here) (place : Place) :
    (listing files start place).Pairwise (· < ·) := by
  apply pairwise_lt_mergeSort
  refine ((nodup_below ht.nodup place).filter _).map_on ?_
  intro names hnames names' hnames' heq
  obtain ⟨⟨names, e⟩, hm, rfl⟩ := List.mem_map.mp (List.mem_filter.mp hnames).1
  obtain ⟨⟨names', e'⟩, hm', rfl⟩ := List.mem_map.mp (List.mem_filter.mp hnames').1
  have hdown := ht.leadsDown hm
  have hdown' := ht.leadsDown hm'
  have hparts := congrArg FilePath.parts (FilePath.text_injective heq)
  rw [(pathOf_eq hroot hdown.ne_nil hdown.parts).2,
    (pathOf_eq hroot hdown'.ne_nil hdown'.parts).2] at hparts
  exact List.append_cancel_left hparts

theorem join_pathOf (hne : names ≠ []) (hnames : ∀ s ∈ names, IsPart s) :
    r.folder.path.join (pathOf start names) =
      (r.folder.fileAt start).join ⟨.here, names, hnames⟩ := by
  rw [pathOf, FilePath.ofString_intercalate hne hnames, ← FilePath.join_assoc]
  rfl

theorem eq_pathOf {path : FilePath} (hroot : (FilePath.ofString start).root = .here)
    (hpath : path.root = .here) (hne : names ≠ []) (hnames : ∀ s ∈ names, IsPart s)
    (hparts : path.parts = (FilePath.ofString start).parts ++ names) :
    path = pathOf start names := by
  obtain ⟨hroot', hparts'⟩ := pathOf_eq hroot hne hnames
  exact FilePath.eq_of_parts (hpath.trans hroot'.symm) (hparts.trans hparts'.symm)

/-- A template is not found exactly if its path shows something else than a file, or nothing. -/
theorem load_eq_notFound_iff_look {folder : Folder} {path : String} :
    folder.load disk path = .error (.notFound path folder) ↔
      ∃ entry, (folder.tree disk).look (folder.fileAt path) = .ok entry ∧
        ∀ content, entry ≠ some (.file content) := by
  rw [Folder.load_eq_notFound_iff_isFile, isFile_eq_ok_false_iff]

/-- What is at a path is something that is no missing template, or a directory. -/
theorem load_ne_notFound_or_directory {folder : Folder} {path : String} {e : FileEntry}
    (h : (∃ fault, (folder.tree disk).look (folder.fileAt path) = .error fault) ∨
      (folder.tree disk).look (folder.fileAt path) = .ok (some e)) :
    folder.load disk path ≠ .error (.notFound path folder) ∨
      (folder.tree disk).look (folder.fileAt path) = .ok (some .directory) := by
  rw [Ne, load_eq_notFound_iff_look]
  rcases h with ⟨fault, h⟩ | h
  · left
    rintro ⟨entry, hentry, -⟩
    cases hentry.symm.trans h
  · cases e with
    | directory => exact .inr h
    | file content =>
      left
      rintro ⟨entry, hentry, hno⟩
      cases hentry.symm.trans h
      exact hno content rfl

theorem exists_look_of_load {folder : Folder} {path : String} (hask : folder.CanAsk disk path)
    (h : folder.load disk path ≠ .error (.notFound path folder) ∨
      (folder.tree disk).look (folder.fileAt path) = .ok (some .directory)) :
    ∃ e, (folder.tree disk).look (folder.fileAt path) = .ok (some e) := by
  rcases h with h | h
  · obtain ⟨entry, hentry⟩ := hask
    rw [Ne, load_eq_notFound_iff_look, not_exists] at h
    have hfile := h entry
    rw [not_and, not_forall] at hfile
    obtain ⟨content, hcontent⟩ := hfile hentry
    exact ⟨.file content, hentry.trans (congrArg _ (not_not.mp hcontent))⟩
  · exact ⟨.directory, h⟩

/-- A listing is empty unless it starts at a directory. -/
theorem list_eq_ok (ht : (r.folder.tree disk).IsProper)
    (hroot : (FilePath.ofString start).root = .here) {l : List String}
    (hl : r.list disk start = .ok l) :
    ∃ entry, (r.folder.tree disk).look (r.folder.fileAt start) = .ok entry ∧
      (entry ≠ some .directory ∧ l = [] ∨
        entry = some .directory ∧ ∃ place,
          (r.folder.tree disk).placeOf (r.folder.fileAt start) = .ok place ∧
          l = listing (r.folder.tree disk) start place) := by
  cases hlook : (r.folder.tree disk).look (r.folder.fileAt start) with
  | error fault => cases hl.symm.trans (list_of_error hlook)
  | ok entry =>
    refine ⟨entry, rfl, ?_⟩
    by_cases hdirectory : entry = some .directory
    · rw [hdirectory] at hlook
      obtain ⟨-, place, hplace, -⟩ := look_eq_some_iff.mp hlook
      refine .inr ⟨hdirectory, place, hplace, ?_⟩
      rw [list_of_directory ht hroot hlook hplace] at hl
      split at hl
      · cases hl
      · exact (Except.ok.inj hl).symm
    · rw [list_of_not_directory hlook hdirectory] at hl
      exact .inl ⟨hdirectory, (Except.ok.inj hl).symm⟩

section
variable (ht : (r.folder.tree disk).IsProper) (hroot : (FilePath.ofString start).root = .here)
  (hdots : ".." ∉ (FilePath.ofString start).parts)
include ht hroot hdots

theorem isBelow_pathOf (hm : (names, e) ∈ (r.folder.tree disk).below place) :
    (pathOf start names).IsBelow (.ofString start) := by
  have hdown := ht.leadsDown hm
  obtain ⟨hpath, hparts⟩ := pathOf_eq hroot hdown.ne_nil hdown.parts
  refine ⟨hpath, ?_, names, hdown.ne_nil, hparts⟩
  rw [hparts, List.mem_append]
  rintro (h | h)
  · exact hdots h
  · exact hdown.up_notMem h

/-- A directory can be listed if its path and those of all directories below are not too long. -/
theorem exists_list (hask : r.folder.CanAsk disk start)
    (hshort : ∀ path : FilePath, path.IsBelow (.ofString start) →
      FileTree.entry? (r.folder.tree disk)
          ((r.folder.path.join path).denoted (r.folder.tree disk).here) = some .directory →
        (r.folder.path.join path).text.utf8ByteSize ≤ pathLimit) :
    ∃ l, r.list disk start = .ok l := by
  obtain ⟨entry, hlook⟩ := hask
  by_cases hdirectory : entry = some .directory
  · rw [hdirectory] at hlook
    obtain ⟨-, place, hplace, -⟩ := look_eq_some_iff.mp hlook
    have hopen : ((r.folder.tree disk).below place).find? (r.isHidden start) = none := by
      rw [List.find?_eq_none]
      rintro ⟨names, e⟩ hm hhidden
      have hdown := ht.leadsDown hm
      obtain ⟨he, hlong⟩ := Bool.and_eq_true_iff.mp hhidden
      obtain rfl : e = .directory := of_decide_eq_true he
      have hplaceAt : ((r.folder.fileAt start).join ⟨.here, names, hdown.parts⟩).denoted
          (r.folder.tree disk).here = place ++ names := by
        rw [FilePath.denoted_join hdown.up_notMem, placeOf_eq_denoted hplace]
      rw [FilePath.ofString_intercalate hdown.ne_nil hdown.parts] at hlong
      have hle := hshort _ (isBelow_pathOf ht hroot hdots hm)
      rw [join_pathOf hdown.ne_nil hdown.parts, hplaceAt] at hle
      exact absurd (of_decide_eq_true hlong) (Nat.not_lt.mpr (hle hdown.entry))
    refine ⟨listing (r.folder.tree disk) start place, ?_⟩
    rw [list_of_directory ht hroot hlook hplace, hopen]
  · exact ⟨[], list_of_not_directory hlook hdirectory⟩

theorem of_mem_listing {p : String}
    (hlook : (r.folder.tree disk).look (r.folder.fileAt start) = .ok (some .directory))
    (hplace : (r.folder.tree disk).placeOf (r.folder.fileAt start) = .ok place)
    (hp : p ∈ listing (r.folder.tree disk) start place) : isTemplateName p = true ∧
      (∃ path : FilePath, path.IsBelow (.ofString start) ∧ path.text = p) ∧
      (r.folder.load disk p ≠ .error (.notFound p r.folder) ∨
        (r.folder.tree disk).look (r.folder.fileAt p) = .ok (some .directory)) := by
  obtain ⟨names, e, hm, hname, rfl⟩ := (mem_listing_iff ht hroot).mp hp
  refine ⟨hname, ⟨_, isBelow_pathOf ht hroot hdots hm, rfl⟩, ?_⟩
  have hdown := ht.leadsDown hm
  apply load_ne_notFound_or_directory
  rw [Folder.fileAt, FilePath.ofString_text, join_pathOf hdown.ne_nil hdown.parts]
  exact look_join ht.reachable hlook hplace hdown.plain hdown.entry

end

theorem mem_list_of_load (ht : (r.folder.tree disk).IsProper)
    (hroot : (FilePath.ofString start).root = .here) {l : List String}
    (hl : r.list disk start = .ok l) {path : FilePath} (hpath : path.IsBelow (.ofString start))
    (hname : isTemplateName path.text = true) (hask : r.folder.CanAsk disk path.text)
    (h : r.folder.load disk path.text ≠ .error (.notFound path.text r.folder) ∨
      (r.folder.tree disk).look (r.folder.fileAt path.text) = .ok (some .directory)) :
    path.text ∈ l := by
  obtain ⟨e, he⟩ := exists_look_of_load hask h
  obtain ⟨names, hne, hnames, hdots, hparts⟩ := hpath.exists_names
  obtain ⟨entry, hlook, hcases⟩ := list_eq_ok ht hroot hl
  have heq := eq_pathOf hroot hpath.1 hne hnames hparts
  rw [Folder.fileAt, FilePath.ofString_text, heq, join_pathOf hne hnames] at he
  obtain ⟨place, hdirectory, hplace, hentry⟩ :=
    exists_of_look_join hne hdots ⟨entry, hlook⟩ he
  obtain rfl : entry = some .directory := Except.ok.inj (hlook.symm.trans hdirectory)
  rcases hcases with ⟨hno, -⟩ | ⟨-, place', hplace', rfl⟩
  · exact absurd rfl hno
  · obtain rfl : place' = place := Except.ok.inj (hplace'.symm.trans hplace)
    exact (mem_listing_iff ht hroot).mpr
      ⟨names, e, (mem_below_iff ht.nodup).mpr ⟨hne, hentry⟩, hname, congrArg _ heq.symm⟩

/-- A registry that nothing was asked of yet gives what its folder holds. -/
theorem get_fresh (disk : FileTree) (folder : Folder) (path : String) :
    ((fresh folder).get disk path).1 = folder.load disk path :=
  Session.get_of_unknown (s := ⟨disk, fresh folder⟩) rfl

/-- In every tree that a file system can have, a listing from a relative start that does not lead up
is given, as long as no path to be looked into is too long.  It is in order and has nothing twice.
Each path in it ends as those of templates do and leads below the start, to a file, so that a fresh
registry does not report that there is no template, or to a directory; and each such path that can
be asked for is in it. -/
theorem list_of_proper (ht : (r.folder.tree disk).IsProper)
    (hroot : (FilePath.ofString start).root = .here)
    (hdots : ".." ∉ (FilePath.ofString start).parts) :
    (r.folder.CanAsk disk start →
      (∀ path : FilePath, path.IsBelow (.ofString start) →
        FileTree.entry? (r.folder.tree disk)
            ((r.folder.path.join path).denoted (r.folder.tree disk).here) = some .directory →
          (r.folder.path.join path).text.utf8ByteSize ≤ pathLimit) →
      ∃ l, r.list disk start = .ok l) ∧
    ∀ l, r.list disk start = .ok l → l.Pairwise (· < ·) ∧
      (∀ p ∈ l, isTemplateName p = true ∧
        (∃ path : FilePath, path.IsBelow (.ofString start) ∧ path.text = p) ∧
        (((fresh r.folder).get disk p).1 ≠ .error (.notFound p r.folder) ∨
          (r.folder.tree disk).look (r.folder.fileAt p) = .ok (some .directory))) ∧
      ∀ path : FilePath, path.IsBelow (.ofString start) → isTemplateName path.text = true →
        r.folder.CanAsk disk path.text →
        ((fresh r.folder).get disk path.text).1 ≠ .error (.notFound path.text r.folder) ∨
          (r.folder.tree disk).look (r.folder.fileAt path.text) = .ok (some .directory) →
        path.text ∈ l := by
  refine ⟨exists_list ht hroot hdots, ?_⟩
  intro l hl
  refine ⟨?_, ?_, ?_⟩
  · obtain ⟨entry, -, ⟨-, rfl⟩ | ⟨-, place, -, rfl⟩⟩ := list_eq_ok ht hroot hl
    · exact .nil
    · exact pairwise_listing ht hroot place
  · intro p hp
    obtain ⟨entry, hlook, ⟨-, rfl⟩ | ⟨rfl, place, hplace, rfl⟩⟩ := list_eq_ok ht hroot hl
    · cases hp
    · rw [get_fresh]
      exact of_mem_listing ht hroot hdots hlook hplace hp
  · intro path hpath hname hask h
    rw [get_fresh] at h
    exact mem_list_of_load ht hroot hl hpath hname hask h

/-! ### A directory with the name of a template -/

/-- A template, and a directory that is named like one. -/
def mixedFiles : FileTree :=
  ⟨["w"], [(["w", "t"], .directory), (["w", "t", "d.tmpl"], .directory),
    (["w", "t", "x.tmpl"], .file "".toUTF8)]⟩

theorem isProper_mixedFiles : mixedFiles.IsProper := by
  decide

/-- No path in these files is too long. -/
theorem short_of_mixedFiles {path : FilePath} (hpath : path.IsBelow (.ofString ""))
    (hdirectory : mixedFiles.entry? (((FilePath.ofString "t").join path).denoted ["w"]) =
      some .directory) : ((FilePath.ofString "t").join path).text.utf8ByteSize ≤ pathLimit := by
  obtain ⟨names, hne, hnames, hdots, hparts⟩ := hpath.exists_names
  have hstart : (FilePath.ofString "").parts = [] := by decide
  rw [hstart, List.nil_append] at hparts
  obtain rfl : path = ⟨.here, names, hnames⟩ := FilePath.eq_of_parts hpath.1 hparts
  clear hpath hparts
  have hplace : (FilePath.ofString "t").denoted ["w"] = ["w", "t"] := by decide
  rw [FilePath.denoted_join hdots, hplace] at hdirectory
  have hshown := (mem_shown_iff isProper_mixedFiles.nodup).mpr hdirectory
  have hall : ∀ e ∈ mixedFiles.shown, e.2 = .directory →
      e.1.drop 2 = [] ∨ e.1.drop 2 = ["d.tmpl"] := by
    decide
  rcases hall _ hshown rfl with heq | heq
  · exact absurd heq hne
  · obtain rfl : names = ["d.tmpl"] := heq
    decide +revert

theorem exists_list_mixedFiles : ∃ l, (fresh sampleFolder).list mixedFiles "" = .ok l := by
  have hproper : ((fresh sampleFolder).folder.tree mixedFiles).IsProper := isProper_mixedFiles
  have hask : (fresh sampleFolder).folder.CanAsk mixedFiles "" := ⟨some .directory, by decide⟩
  exact exists_list hproper (by decide) (by decide) hask fun _ => short_of_mixedFiles

/-- A path with one name. -/
theorem isBelow_name {name : String} (h : IsPart name) (hdots : name ≠ "..") :
    (FilePath.ofString name).IsBelow (.ofString "") := by
  rw [FilePath.ofString_of_isPart h]
  exact ⟨rfl, by simpa using hdots.symm, [name], by simp, rfl⟩

theorem list_of_proper_mixedFiles : mixedFiles.IsProper ∧
    ∃ l, (fresh sampleFolder).list mixedFiles "" = .ok l ∧ l.Pairwise (· < ·) ∧ "x.tmpl" ∈ l := by
  have hproper : ((fresh sampleFolder).folder.tree mixedFiles).IsProper := isProper_mixedFiles
  have hask : (fresh sampleFolder).folder.CanAsk mixedFiles "" := ⟨some .directory, by decide⟩
  have hroot : (FilePath.ofString "").root = .here := by decide
  obtain ⟨hsome, hall⟩ := list_of_proper hproper hroot (by decide)
  obtain ⟨l, hl⟩ := hsome hask fun _ => short_of_mixedFiles
  obtain ⟨hsorted, -, hin⟩ := hall l hl
  have htext : (FilePath.ofString "x.tmpl").text = "x.tmpl" := by decide
  have hlook : (sampleFolder.tree mixedFiles).look (sampleFolder.fileAt "x.tmpl") =
      .ok (some (.file "".toUTF8)) := by
    rfl
  have hthere := hin (.ofString "x.tmpl") (isBelow_name (by decide) (by decide))
  rw [htext, get_fresh] at hthere
  exact ⟨hproper, l, hl, hsorted,
    hthere (by decide) ⟨_, hlook⟩ (load_ne_notFound_or_directory (.inr hlook))⟩

/-- A directory is listed, though there is no template at its path. -/
theorem directory_is_listed : ∃ l, (fresh sampleFolder).list mixedFiles "" = .ok l ∧
    "d.tmpl" ∈ l ∧
    ((fresh sampleFolder).get mixedFiles "d.tmpl").1 =
      .error (.notFound "d.tmpl" sampleFolder) := by
  have hproper : ((fresh sampleFolder).folder.tree mixedFiles).IsProper := isProper_mixedFiles
  obtain ⟨l, hl⟩ := exists_list_mixedFiles
  have htext : (FilePath.ofString "d.tmpl").text = "d.tmpl" := by decide
  have hlook : (sampleFolder.tree mixedFiles).look (sampleFolder.fileAt "d.tmpl") =
      .ok (some .directory) := by
    rfl
  have hbelow : (FilePath.ofString "d.tmpl").IsBelow (.ofString "") :=
    isBelow_name (by decide) (by decide)
  have hthere := mem_list_of_load hproper (by decide) hl hbelow
  rw [htext] at hthere
  refine ⟨l, hl, hthere (by decide) ⟨_, hlook⟩ (.inr hlook), ?_⟩
  rw [get_fresh]
  exact load_eq_notFound_iff_look.mpr ⟨_, hlook, by simp⟩

end Registry

/-- The bundled templates are files of a tree that a file system can have. -/
theorem isProper_bundledTree : bundledTree.IsProper := by
  decide

end Template

end Scaffold
