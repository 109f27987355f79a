import Scaffold.Proofs.Files.Spelling
import Scaffold.Proofs.Naming.Identifier
import Scaffold.Proofs.Template.BundledOutput

/-! The include guards of the bundled headers.  A guard is made of the names of a component and a
task in upper case: two tasks of a component have the same guard if their names differ in case
only, or where a line break that a name may end in cuts the guard short. -/
namespace Scaffold

/-! ### Names in upper case -/

namespace Naming

open Text

variable {c : Char} {cs : List Char} {s : String}

theorem upperChar_of_isNameRest (h : isNameRest c = true) : upperChar c = [c.toUpper] :=
  upperChar_of_ascii (toNat_lt_of_isNameRest h)

theorem isNameRest_toUpper (h : isNameRest c = true) : isNameRest c.toUpper = true := by
  have hsmall : ∀ n < 128, isNameRest (Char.ofNat n) = true →
      isNameRest (Char.ofNat n).toUpper = true := by
    decide
  exact forall_ascii (p := fun c => isNameRest c = true → isNameRest c.toUpper = true) hsmall
    (toNat_lt_of_isNameRest h) h

theorem isNameRest_of_mem_upper (h : ∀ c ∈ cs, isNameRest c = true) :
    ∀ c ∈ upper cs, isNameRest c = true := by
  intro u hu
  obtain ⟨c, hc, hmem⟩ := List.mem_flatMap.mp hu
  rw [upperChar_of_isNameRest (h c hc), List.mem_singleton] at hmem
  rw [hmem]
  exact isNameRest_toUpper (h c hc)

theorem newline_notMem_word (h : ∀ c ∈ cs, isNameRest c = true) : '\n' ∉ cs :=
  fun hmem => absurd (h '\n' hmem) (by decide)

/-- An identifier without a line break goes on with what follows it. -/
theorem takeWhile_upper_append (h : isIdentifier s = true) (hs : '\n' ∉ s.toList)
    (rest : List Char) : (upper s.toList ++ rest).takeWhile isNameRest =
      upper s.toList ++ rest.takeWhile isNameRest := by
  obtain ⟨word, hword, heq | heq⟩ := exists_word_of_isIdentifier h
  · rw [heq]
    exact List.takeWhile_append_of_pos (isNameRest_of_mem_upper hword)
  · rw [heq] at hs
    exact absurd (List.mem_append_right word (List.mem_singleton.mpr rfl)) hs

/-- An identifier with a line break ends there, whatever follows it. -/
theorem takeWhile_upper_append_eq (h : isIdentifier s = true) (hs : '\n' ∈ s.toList)
    (rest rest' : List Char) : (upper s.toList ++ rest).takeWhile isNameRest =
      (upper s.toList ++ rest').takeWhile isNameRest := by
  obtain ⟨word, hword, heq | heq⟩ := exists_word_of_isIdentifier h
  · rw [heq] at hs
    exact absurd hs (newline_notMem_word hword)
  · have hupper : upper s.toList = upper word ++ ['\n'] := by
      rw [heq, upper, List.flatMap_append]
      rfl
    have hcut (rest : List Char) :
        (upper s.toList ++ rest).takeWhile isNameRest = upper word := by
      rw [hupper, List.append_assoc,
        List.takeWhile_append_of_pos (isNameRest_of_mem_upper hword)]
      exact List.append_nil _
    rw [hcut, hcut]

end Naming

namespace Text

variable {p : Char → Bool}

/-- What satisfies a condition at the start of a text ends at the first character that does not. -/
theorem takeWhile_append_cons {c : Char} (h : p c = false) (cs rest : List Char) :
    (cs ++ c :: rest).takeWhile p = cs.takeWhile p := by
  induction cs with
  | nil => rw [List.nil_append, List.takeWhile_cons_of_neg (by simp [h]), List.takeWhile_nil]
  | cons d cs ih =>
    rw [List.cons_append, List.takeWhile_cons, List.takeWhile_cons, ih]

theorem takeWhile_takeWhile_of_imp {q : Char → Bool} (h : ∀ c, p c = true → q c = true)
    (cs : List Char) : (cs.takeWhile q).takeWhile p = cs.takeWhile p := by
  induction cs with
  | nil => rfl
  | cons c cs ih =>
    by_cases hq : q c = true
    · rw [List.takeWhile_cons_of_pos hq, List.takeWhile_cons, List.takeWhile_cons, ih]
    · have hp : ¬p c = true := fun hp => hq (h c hp)
      rw [List.takeWhile_cons_of_neg hq, List.takeWhile_cons_of_neg hp, List.takeWhile_nil]

theorem head?_splitAtMark (mark : Char) (cs : List Char) :
    (splitAtMark mark cs).head? = some (cs.takeWhile (· != mark)) := by
  induction cs with
  | nil => rfl
  | cons c cs ih =>
    obtain ⟨piece, pieces, hsplit⟩ := List.exists_cons_of_ne_nil (splitAtMark_ne_nil mark cs)
    rw [hsplit, List.head?_cons, Option.some.injEq] at ih
    rw [splitAtMark, hsplit]
    by_cases hc : c = mark
    · simp [hc]
    · simp [hc, ih]

theorem toList_ofLines_cons (line : String) (lines : List String) :
    (ofLines (line :: lines)).toList = line.toList ++ '\n' :: (ofLines lines).toList := by
  simp [ofLines, String.join_cons]

end Text

namespace Template.Bundled

open Model Naming Text

variable {own : Ownership} {c : Component} {t t' : Task}

/-! ### The guard of a header -/

/-- The macro that guards a header: the identifier that its first `#ifndef` names. -/
def guardOf? (header : String) : Option String :=
  (splitAtMark '\n' header.toList).findSome? fun line =>
    (line.dropPrefix? "#ifndef ".toList).map fun rest => String.ofList (rest.takeWhile isNameRest)

theorem guardOf?_ofLines_cons {line : String} (hline : '\n' ∉ line.toList)
    (hother : line.toList.dropPrefix? "#ifndef ".toList = none) (lines : List String) :
    guardOf? (ofLines (line :: lines)) = guardOf? (ofLines lines) := by
  rw [guardOf?, toList_ofLines_cons, splitAtMark_first hline, List.findSome?_cons, hother]
  rfl

/-- A line break within the macro ends it, as any other character does that no name has. -/
theorem guardOf?_ofLines_guard (guard : String) (lines : List String) :
    guardOf? (ofLines (("#ifndef " ++ guard) :: lines)) =
      some (String.ofList (guard.toList.takeWhile isNameRest)) := by
  have hdirective : ∀ c ∈ "#ifndef ".toList, (c != '\n') = true := List.all_eq_true.mp rfl
  have hname : ∀ c, isNameRest c = true → (c != '\n') = true := by
    rintro c hc
    refine bne_iff_ne.mpr ?_
    rintro rfl
    exact absurd hc (by decide)
  obtain ⟨piece, pieces, hsplit⟩ := List.exists_cons_of_ne_nil (splitAtMark_ne_nil '\n'
    ("#ifndef ".toList ++ (guard.toList ++ '\n' :: (ofLines lines).toList)))
  have hhead := head?_splitAtMark '\n'
    ("#ifndef ".toList ++ (guard.toList ++ '\n' :: (ofLines lines).toList))
  rw [hsplit, List.head?_cons, Option.some.injEq, List.takeWhile_append_of_pos hdirective,
    takeWhile_append_cons rfl] at hhead
  have hprefix : piece.dropPrefix? "#ifndef ".toList =
      some (guard.toList.takeWhile (· != '\n')) :=
    List.dropPrefix?_eq_some_iff.mpr ⟨_, hhead, beq_self_eq_true _⟩
  rw [guardOf?, toList_ofLines_cons, String.toList_append, List.append_assoc, hsplit,
    List.findSome?_cons, hprefix]
  rw [Option.map_some, takeWhile_takeWhile_of_imp hname]

/-- The guard of a header is the word at the start of its macro. -/
theorem guardOf?_headerText (c : Component) (t : Task) : guardOf? (headerText c t) =
    some (String.ofList ((guardMacro c t).toList.takeWhile isNameRest)) := by
  obtain ⟨lines, hlines⟩ : ∃ lines,
      headerStart c t ++ t.operations.flatMap operationHeader ++ headerEnd c t =
        "/* Generated from skelgen/templates/tasks/Task.hpp.tmpl */" :: "" ::
          ("#ifndef " ++ guardMacro c t) :: lines :=
    ⟨_, rfl⟩
  rw [headerText, hlines, guardOf?_ofLines_cons (by decide) (by decide),
    guardOf?_ofLines_cons (by decide) (by decide), guardOf?_ofLines_guard]

/-- What the name of a task adds to the guard of its header. -/
def guardEnding (basename : String) : List Char :=
  (upper basename.toList ++ "_TASK_HPP".toList).takeWhile isNameRest

theorem toList_guardMacro (c : Component) (t : Task) : (guardMacro c t).toList =
    upper c.name.toList ++ '_' :: (upper t.basename.toList ++ "_TASK_HPP".toList) := by
  simp [guardMacro, upperText]

/-- The headers of two tasks have the same guard if and only if the name of the component cuts the
guards short or the names of the tasks add the same to them. -/
theorem guardMacro_word_inj (h : isIdentifier c.name = true) :
    (guardMacro c t).toList.takeWhile isNameRest = (guardMacro c t').toList.takeWhile isNameRest ↔
      '\n' ∈ c.name.toList ∨ guardEnding t.basename = guardEnding t'.basename := by
  rw [toList_guardMacro, toList_guardMacro]
  by_cases hline : '\n' ∈ c.name.toList
  · exact iff_of_true (takeWhile_upper_append_eq h hline _ _) (.inl hline)
  · rw [takeWhile_upper_append h hline, takeWhile_upper_append h hline, List.append_cancel_left_eq,
      List.takeWhile_cons_of_pos rfl, List.takeWhile_cons_of_pos rfl, List.cons_inj_right]
    exact ⟨.inr, fun heq => heq.resolve_left hline⟩

theorem guardEnding_inj {basename basename' : String} (h : isIdentifier basename = true)
    (h' : isIdentifier basename' = true) (hline : '\n' ∉ basename.toList)
    (hline' : '\n' ∉ basename'.toList) :
    guardEnding basename = guardEnding basename' ↔ upperText basename = upperText basename' := by
  rw [guardEnding, guardEnding, takeWhile_upper_append h hline, takeWhile_upper_append h' hline',
    List.append_cancel_right_eq, upperText, upperText, String.ofList_inj]

theorem outputOf_header {es : List Entity} (h : Reached own es) (hc : .component c ∈ es)
    (ht : t ∈ c.tasks) (disk : FileTree) :
    outputOf disk own headerPath t = .ok (headerText c t) := by
  have hs : c.IsSound own := h.isSound.2 _ hc
  obtain ⟨htask, howner⟩ := hs t ht
  rw [headerText]
  exact outputOf_lines (load_header disk)
    (bodyRender_headerOutline (find?_taskBindings own t) htask howner)

/-- The headers of two tasks of a component have the same guard if and only if the name of the
component cuts their guards short or their names add the same to them.  Names without line breaks
do so if and only if they are the same in upper case. -/
theorem guards_of_reached {es : List Entity} (h : Reached own es) (hc : .component c ∈ es)
    (ht : t ∈ c.tasks) (ht' : t' ∈ c.tasks) (disk : FileTree) :
    ∃ header header' guard guard',
      outputOf disk own headerPath t = .ok header ∧
      outputOf disk own headerPath t' = .ok header' ∧
      guardOf? header = some guard ∧ guardOf? header' = some guard' ∧
      (guard = guard' ↔
        '\n' ∈ c.name.toList ∨ guardEnding t.basename = guardEnding t'.basename) ∧
      ('\n' ∉ t.basename.toList → '\n' ∉ t'.basename.toList →
        (guardEnding t.basename = guardEnding t'.basename ↔
          upperText t.basename = upperText t'.basename)) := by
  obtain ⟨s, hs, rfl, hes⟩ := h.exists_stock
  have hcomponent := (hs.proper _ (hes _ hc)).1
  have htask {t : Task} (ht : t ∈ c.tasks) : isIdentifier t.basename = true :=
    (hs.proper _ (hs.holdings (hes _ hc) (Entity.task_mem_holdings.mpr ht))).1
  refine ⟨_, _, _, _, outputOf_header h hc ht disk, outputOf_header h hc ht' disk,
    guardOf?_headerText c t, guardOf?_headerText c t', ?_, guardEnding_inj (htask ht) (htask ht')⟩
  rw [String.ofList_inj]
  exact guardMacro_word_inj hcomponent

/-! ### A world with two tasks whose names differ in case -/

def upperDrive : Task := ⟨0, "Drive", false, [], ""⟩

def lowerDrive : Task := ⟨1, "drive", false, [], ""⟩

def turn : Task := ⟨2, "Turn", false, [], ""⟩

def drives : Component := ⟨3, "nav", [upperDrive, lowerDrive, turn], ""⟩

def drivesOwnership : Ownership := ⟨4, [], drives.tasks.map fun t => (t.mark, drives)⟩

/-- The description of `drives`. -/
def drivesDescription : Value := .dict [(.text "name", .text "nav"),
  (.text "tasks", .list [.dict [(.text "name", .text "Drive")],
    .dict [(.text "name", .text "drive")], .dict [(.text "name", .text "Turn")]])]

theorem reached_drives : Reached drivesOwnership [.component drives] := by
  have hrun : (describeComponent drivesDescription).run .empty =
      (.ok drives, drivesOwnership) := by rfl
  have hdescribed : componentOf .empty drivesDescription "nav.yml" =
      (.ok drives, drivesOwnership) := by
    rw [componentOf, hrun]
  exact .described .start hdescribed

theorem guards_of_reached_drives : ∃ header header' guard guard',
    outputOf ⟨[], []⟩ drivesOwnership headerPath upperDrive = .ok header ∧
    outputOf ⟨[], []⟩ drivesOwnership headerPath turn = .ok header' ∧
    guardOf? header = some guard ∧ guardOf? header' = some guard' ∧ guard ≠ guard' := by
  obtain ⟨header, header', guard, guard', hheader, hheader', hguard, hguard', hsame, -⟩ :=
    guards_of_reached reached_drives (List.mem_singleton.mpr rfl)
      (List.mem_cons_self : upperDrive ∈ drives.tasks) (by simp [drives] : turn ∈ drives.tasks)
      ⟨[], []⟩
  refine ⟨header, header', guard, guard', hheader, hheader', hguard, hguard', ?_⟩
  rw [Ne, hsame]
  decide

/-- Two different tasks of a component have headers with the same guard. -/
theorem guards_of_drives_collide :
    Reached drivesOwnership [.component drives] ∧
    upperDrive ∈ drives.tasks ∧ lowerDrive ∈ drives.tasks ∧ upperDrive ≠ lowerDrive ∧
    ∃ header header', outputOf ⟨[], []⟩ drivesOwnership headerPath upperDrive = .ok header ∧
      outputOf ⟨[], []⟩ drivesOwnership headerPath lowerDrive = .ok header' ∧
      guardOf? header = some "NAV_DRIVE_TASK_HPP" ∧
      guardOf? header' = some "NAV_DRIVE_TASK_HPP" := by
  have hupper : upperDrive ∈ drives.tasks := by simp [drives]
  have hlower : lowerDrive ∈ drives.tasks := by simp [drives]
  have hcomponent : Entity.component drives ∈ [Entity.component drives] :=
    List.mem_singleton.mpr rfl
  refine ⟨reached_drives, hupper, hlower, by decide, _, _,
    outputOf_header reached_drives hcomponent hupper ⟨[], []⟩,
    outputOf_header reached_drives hcomponent hlower ⟨[], []⟩, ?_, ?_⟩
  · rw [guardOf?_headerText]
    rfl
  · rw [guardOf?_headerText]
    rfl

end Template.Bundled

end Scaffold
