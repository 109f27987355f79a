import Scaffold.Proofs.Description.Loading
import Scaffold.Proofs.Files.Spelling
import Scaffold.Proofs.Generation.Rendered
import Scaffold.Proofs.Naming.Identifier
import Scaffold.Proofs.Template.IncludeGuard

/-! Names of what is generated.  The check of names lets pass identifiers and, besides, those with
one line break behind them; whatever is built and wherever it is read from, its names are of these
two forms.  Paths, lines and signatures made of names are on one line exactly where the names are
identifiers. -/
namespace Scaffold

namespace Naming

open Text

variable {c : Char} {cs : List Char} {s : String}

/-! ### Texts on one line -/

/-- A text without any character that ends a line. -/
def OnOneLine (s : String) : Prop := ∀ c ∈ s.toList, isLineEnd c = false

instance (s : String) : Decidable (OnOneLine s) :=
  List.decidableBAll (fun c => isLineEnd c = false) s.toList

theorem onOneLine_append {t : String} : OnOneLine (s ++ t) ↔ OnOneLine s ∧ OnOneLine t := by
  simp only [OnOneLine, String.toList_append, List.mem_append, or_imp, forall_and]

theorem onOneLine_intercalate {sep : String} (h : OnOneLine sep) {ss : List String} :
    OnOneLine (sep.intercalate ss) ↔ ∀ s ∈ ss, OnOneLine s := by
  induction ss with
  | nil => simp [OnOneLine]
  | cons s ss ih =>
    cases ss with
    | nil => simp
    | cons t ss =>
      rw [String.intercalate_cons_cons, onOneLine_append, onOneLine_append, ih,
        List.forall_mem_cons (l := t :: ss)]
      simp only [h, and_true]

theorem isLineEnd_of_isNameRest (h : isNameRest c = true) : isLineEnd c = false := by
  obtain ⟨hlow, hhigh⟩ := Expression.toNat_of_isNameRest h
  have hne (d : Char) (hd : 122 < d.toNat) : c ≠ d := by
    rintro rfl
    omega
  simp only [isLineEnd, hne '\x85' (by decide), hne '\u2028' (by decide),
    hne '\u2029' (by decide), Bool.or_eq_false_iff, Bool.and_eq_false_iff,
    decide_eq_false_iff_not, beq_eq_false_iff_ne, ne_eq, not_false_eq_true, and_true]
  omega

theorem IsCIdentifier.onOneLine (h : IsCIdentifier s) : OnOneLine s := by
  obtain ⟨c, cs, hs, hc, hcs⟩ := isCIdentifier_iff.mp h
  intro d hd
  rw [hs] at hd
  rcases List.mem_cons.mp hd with rfl | hd
  · exact isLineEnd_of_isNameRest (Expression.isNameRest_of_isNameStart hc)
  · exact isLineEnd_of_isNameRest (hcs d hd)

/-- Among the names that are let pass, the identifiers are those on one line. -/
theorem IsLetPass.onOneLine_iff (h : IsLetPass s) : OnOneLine s ↔ IsCIdentifier s := by
  constructor
  · intro hline
    rcases h with h | ⟨word, -, rfl⟩
    · exact h
    · have hbreak : isLineEnd '\n' = false := (onOneLine_append.mp hline).2 '\n' (by decide)
      exact absurd hbreak (by decide)
  · exact IsCIdentifier.onOneLine

/-- A name that is let pass is made of characters of names, and maybe a line break. -/
theorem IsLetPass.notMem (h : IsLetPass s) (hc : isNameRest c = false) (hbreak : c ≠ '\n') :
    c ∉ s.toList := by
  obtain ⟨word, hword, heq⟩ := exists_word_of_isIdentifier (isIdentifier_iff.mpr h)
  have hnot : c ∉ word := by
    intro hm
    rw [hword c hm] at hc
    cases hc
  rcases heq with heq | heq <;> rw [heq]
  · exact hnot
  · simp [hnot, hbreak]

end Naming

namespace Settings

open Naming Template

/-! ### Output paths -/

/-- A pattern that puts a file named after the task into the directory of tasks. -/
def taskPattern (ending : String) : String := "tasks/\x7bbasename\x7d" ++ ending

theorem outputPath_of_taskPattern {s : Settings} {template ending basename : String}
    (hlisted : s.taskTemplates.pattern? template = some (taskPattern ending))
    (hpieces : Pattern.pieces (taskPattern ending).toList = "tasks/".toList.map .literal ++
      .field ⟨"basename".toList, none, []⟩ :: ending.toList.map .literal)
    (hname : IsPart (basename ++ ending)) : ∃ path, s.outputPath template basename = .ok path ∧
      path.text = "tasks/" ++ basename ++ ending := by
  have hfill := Pattern.fill_of_pieces hpieces basename
  have hdir : IsPart "tasks" := by decide
  have htext := FilePath.text_ofString_pair hdir hname
  refine ⟨.ofString ("tasks/" ++ basename ++ ending), ?_, ?_⟩
  · rw [outputPath, hlisted]
    simp only [hfill, String.ofList_toList]
  · rw [String.append_assoc]
    exact htext

theorem isPart_append {basename ending : String} (h : '/' ∉ basename.toList)
    (hending : 1 < ending.length ∧ '/' ∉ ending.toList) : IsPart (basename ++ ending) := by
  obtain ⟨hlength, hslash⟩ := hending
  refine ⟨?_, ?_, ?_⟩
  · intro hempty
    have hzero : (basename ++ ending).length = 0 := congrArg String.length hempty
    rw [String.length_append] at hzero
    omega
  · intro hdot
    have hone : (basename ++ ending).length = 1 := congrArg String.length hdot
    rw [String.length_append] at hone
    omega
  · rw [String.toList_append, List.mem_append]
    rintro (hm | hm)
    · exact h hm
    · exact hslash hm

/-- With the bundled templates the files of a task are named after it. -/
theorem outputPaths_of_bundled {s : Settings} (hs : s.taskTemplates = .bundled) {basename : String}
    (h : IsLetPass basename) : ∃ body header, s.outputPath bodyPath basename = .ok body ∧
      body.text = "tasks/" ++ basename ++ ".cpp" ∧ s.outputPath headerPath basename = .ok header ∧
      header.text = "tasks/" ++ basename ++ ".hpp" := by
  have hslash : '/' ∉ basename.toList := h.notMem (by decide) (by decide)
  have hbody : s.taskTemplates.pattern? bodyPath = some (taskPattern ".cpp") := by
    rw [hs]
    rfl
  have hheader : s.taskTemplates.pattern? headerPath = some (taskPattern ".hpp") := by
    rw [hs]
    rfl
  obtain ⟨body, hb, hbt⟩ := outputPath_of_taskPattern hbody (by decide +kernel)
    (isPart_append hslash (by decide))
  obtain ⟨header, hh, hht⟩ := outputPath_of_taskPattern hheader (by decide +kernel)
    (isPart_append hslash (by decide))
  exact ⟨body, header, hb, hbt, hh, hht⟩

end Settings

namespace Model

open Naming

/-! ### Names of entities -/

/-- The name that an entity is given; a type is given a spelling instead. -/
def Entity.givenName? : Entity → Option String
  | .dataType _ => none
  | .argument a => some a.name
  | .operation o => some o.methodName
  | .task t => some t.basename
  | .component c => some c.name

theorem Entity.IsProper.isLetPass {e : Entity} (h : e.IsProper) {n : String}
    (hn : e.givenName? = some n) : IsLetPass n := by
  apply isIdentifier_iff.mp
  cases e with
  | dataType t => cases hn
  | argument a =>
    cases hn
    exact h
  | operation o | task t | component c =>
    cases hn
    exact h.1

variable {own : Ownership} {es : List Entity}

/-- Whatever was built has a name that was let pass. -/
theorem Built.isLetPass (h : Reached own es) {e : Entity} (he : Built own es e) {n : String}
    (hn : e.givenName? = some n) : IsLetPass n := by
  obtain ⟨s, hs, rfl, hes⟩ := h.exists_stock
  exact (hs.proper e (he.mem hs hes)).isLetPass hn

theorem Reached.loaded (h : Reached own es) {own' : Ownership} {disk : FileTree} {path : FilePath}
    {c : Component} (hc : loadComponent own disk path = (.ok c, own')) :
    Reached own' (.component c :: es) := by
  rcases loadComponent_cases own disk path with ⟨e, heq⟩ | ⟨data, heq⟩
  · rw [heq] at hc
    cases hc
  · rcases hr : componentOf own data path.text with ⟨e | d, own''⟩ <;>
      rw [heq, hr] at hc <;> cases hc
    exact .described h hr

/-- A component that is not loaded may still leave its parts, but nothing is at hand of it. -/
theorem Reached.unloaded (h : Reached own es) {own' : Ownership} {disk : FileTree} {path : FilePath}
    {e : LoadFault} (he : loadComponent own disk path = (.error e, own')) : Reached own' es := by
  rcases loadComponent_cases own disk path with ⟨e', heq⟩ | ⟨data, heq⟩
  · rw [heq] at he
    cases he
    exact h
  · rcases hr : componentOf own data path.text with ⟨e | d, own''⟩ <;>
      rw [heq, hr] at he <;> cases he
    exact .undescribed h hr

theorem onOneLine_signatureUnder {o : Operation} {qualifier : String} :
    OnOneLine (o.signatureUnder qualifier) ↔ OnOneLine o.returnSpelling ∧ OnOneLine qualifier ∧
      OnOneLine o.methodName ∧
      ∀ a ∈ o.arguments, OnOneLine a.type.cxxName ∧ OnOneLine a.name := by
  have hlist : OnOneLine o.argumentList ↔
      ∀ a ∈ o.arguments, OnOneLine a.type.cxxName ∧ OnOneLine a.name := by
    rw [Operation.argumentList, onOneLine_intercalate (by decide), List.forall_mem_map]
    have hconst : OnOneLine " const& " := by decide
    simp only [Argument.cxxDeclaration, onOneLine_append, hconst, and_true]
  have hblank : OnOneLine " " := by decide
  have hopen : OnOneLine "(" := by decide
  have hclose : OnOneLine ")" := by decide
  have hcolons : OnOneLine "::" := by decide
  rw [Operation.signatureUnder]
  by_cases hq : qualifier.isEmpty = true
  · have hempty : OnOneLine qualifier := by
      rw [String.isEmpty_iff.mp hq]
      decide
    simp only [hq, if_true, onOneLine_append, hblank, hopen, hclose, hlist, hempty, and_true,
      true_and, and_assoc]
  · simp only [hq, onOneLine_append, hblank, hopen, hclose, hcolons, hlist, and_true,
      and_assoc, Bool.false_eq_true, if_false]

end Model

namespace Template.Bundled

open Model Naming Text

/-! ### Lines of the generated files -/

/-- The line of the body that includes the header. -/
def bodyInclude (t : Task) : String := "#include \"" ++ t.basename ++ ".hpp\""

/-- The line of the header that includes the base class. -/
def headerInclude (c : Component) (t : Task) : String :=
  "#include \"" ++ c.name ++ "/" ++ t.basename ++ "Base.hpp\""

/-- The line of the header that names the class. -/
def classLine (t : Task) : String :=
  "    class " ++ t.basename ++ " : public " ++ t.basename ++ "Base"

/-- The line stands in the text, which is made of lines. -/
def IsLineOf (line text : String) : Prop :=
  ∃ before after, text = ofLines (before ++ line :: after)

theorem isLineOf_ofLines {line : String} {lines : List String} (h : line ∈ lines) :
    IsLineOf line (ofLines lines) := by
  obtain ⟨before, after, rfl⟩ := List.append_of_mem h
  exact ⟨before, after, rfl⟩

section
variable (c : Component) (t : Task)

theorem isLineOf_bodyInclude : IsLineOf (bodyInclude t) (bodyText c t) :=
  isLineOf_ofLines (by simp [bodyStart, bodyInclude])

theorem isLineOf_headerInclude : IsLineOf (headerInclude c t) (headerText c t) :=
  isLineOf_ofLines (by simp [headerStart, headerInclude])

theorem isLineOf_classLine : IsLineOf (classLine t) (headerText c t) :=
  isLineOf_ofLines (by simp [headerStart, classLine])

end

theorem onOneLine_bodyInclude {t : Task} : OnOneLine (bodyInclude t) ↔ OnOneLine t.basename := by
  have hinclude : OnOneLine "#include \"" := by decide
  have hending : OnOneLine ".hpp\"" := by decide
  simp only [bodyInclude, onOneLine_append, hinclude, hending, true_and, and_true]

theorem onOneLine_headerInclude {c : Component} {t : Task} :
    OnOneLine (headerInclude c t) ↔ OnOneLine c.name ∧ OnOneLine t.basename := by
  have hinclude : OnOneLine "#include \"" := by decide
  have hslash : OnOneLine "/" := by decide
  have hending : OnOneLine "Base.hpp\"" := by decide
  simp only [headerInclude, onOneLine_append, hinclude, hslash, hending, true_and, and_true]

theorem onOneLine_classLine {t : Task} : OnOneLine (classLine t) ↔ OnOneLine t.basename := by
  have hclass : OnOneLine "    class " := by decide
  have hpublic : OnOneLine " : public " := by decide
  have hbase : OnOneLine "Base" := by decide
  simp only [classLine, onOneLine_append, hclass, hpublic, hbase, true_and, and_true, and_self]

end Template.Bundled

namespace Model

open Naming Template Template.Bundled

/-! ### Names and what is made of them -/

variable {own : Ownership} {es : List Entity}

section
variable (h : Reached own es)
include h

theorem Reached.paths {t : Task} (ht : Built own es (.task t)) {s : Settings}
    (hs : s.taskTemplates = .bundled) :
    ∃ body header, s.outputPath bodyPath t.basename = .ok body ∧
      s.outputPath headerPath t.basename = .ok header ∧
      (OnOneLine body.text ↔ IsCIdentifier t.basename) ∧
      (OnOneLine header.text ↔ IsCIdentifier t.basename) := by
  have hname : IsLetPass t.basename := Built.isLetPass h ht rfl
  obtain ⟨body, header, hbody, hbodyText, hheader, hheaderText⟩ :=
    Settings.outputPaths_of_bundled hs hname
  have hdir : OnOneLine "tasks/" := by decide
  have hcpp : OnOneLine ".cpp" := by decide
  have hhpp : OnOneLine ".hpp" := by decide
  refine ⟨body, header, hbody, hheader, ?_, ?_⟩
  · rw [hbodyText, onOneLine_append, onOneLine_append, hname.onOneLine_iff]
    simp only [hdir, hcpp, true_and, and_true]
  · rw [hheaderText, onOneLine_append, onOneLine_append, hname.onOneLine_iff]
    simp only [hdir, hhpp, true_and, and_true]

theorem Reached.onOneLine_signatureUnder {o : Operation} (ho : Built own es (.operation o))
    (qualifier : String) : OnOneLine (o.signatureUnder qualifier) ↔
      OnOneLine qualifier ∧ IsCIdentifier o.methodName ∧ OnOneLine o.returnSpelling ∧
        ∀ a ∈ o.arguments, IsCIdentifier a.name ∧ OnOneLine a.type.cxxName := by
  have hmethod : IsLetPass o.methodName := Built.isLetPass h ho rfl
  have harguments : (∀ a ∈ o.arguments, OnOneLine a.type.cxxName ∧ OnOneLine a.name) ↔
      ∀ a ∈ o.arguments, IsCIdentifier a.name ∧ OnOneLine a.type.cxxName := by
    refine forall₂_congr fun a ha => ?_
    have hargument : Built own es (.argument a) := .part ho (by simp [Entity.parts, ha])
    have hname : IsLetPass a.name := Built.isLetPass h hargument rfl
    rw [hname.onOneLine_iff, and_comm]
  rw [Model.onOneLine_signatureUnder, hmethod.onOneLine_iff, harguments]
  constructor
  · rintro ⟨hreturn, hqualifier, hname, hlist⟩
    exact ⟨hqualifier, hname, hreturn, hlist⟩
  · rintro ⟨hqualifier, hname, hreturn, hlist⟩
    exact ⟨hreturn, hqualifier, hname, hlist⟩

theorem Reached.onOneLine_signature {o : Operation} (ho : Built own es (.operation o)) :
    OnOneLine (o.signature own) ↔ (∀ t, own.task? o = some t → IsCIdentifier t.basename) ∧
      OnOneLine o.declaration := by
  have hempty : OnOneLine "" := by decide
  rw [Operation.signature, Operation.declaration, h.onOneLine_signatureUnder ho,
    h.onOneLine_signatureUnder ho ""]
  cases ht : own.task? o with
  | none => simp [hempty]
  | some t =>
    have hbuilt : Built own es (.task t) := .taskOwner (Ownership.mem_taskOf ht)
    have hname : IsLetPass t.basename := Built.isLetPass h hbuilt rfl
    simp [hempty, hname.onOneLine_iff]

theorem Reached.onOneLine_lines {t : Task} (ht : Built own es (.task t)) {c : Component}
    (hc : own.component? t = some c) :
    (OnOneLine (bodyInclude t) ↔ IsCIdentifier t.basename) ∧
    (OnOneLine (headerInclude c t) ↔ IsCIdentifier c.name ∧ IsCIdentifier t.basename) ∧
    (OnOneLine (classLine t) ↔ IsCIdentifier t.basename) := by
  have htask : IsLetPass t.basename := Built.isLetPass h ht rfl
  have hbuilt : Built own es (.component c) := .componentOwner (Ownership.mem_componentOf hc)
  have hcomponent : IsLetPass c.name := Built.isLetPass h hbuilt rfl
  rw [onOneLine_bodyInclude, onOneLine_headerInclude, onOneLine_classLine, htask.onOneLine_iff,
    hcomponent.onOneLine_iff]
  exact ⟨Iff.rfl, Iff.rfl, Iff.rfl⟩

end

/-- Every name in a world that can be reached is an identifier, or one with a single line break
behind it.  The output paths of the bundled templates, the lines that include a header or name the
class, and the spellings of operations are on one line exactly if the names in them are identifiers;
for an operation the spellings of its types, which are any text, must be on one line too. -/
theorem names_of_reached (h : Reached own es) :
    (∀ e, Built own es e → ∀ n, e.givenName? = some n → IsLetPass n) ∧
    (∀ disk path c own', loadComponent own disk path = (.ok c, own') →
      ∀ e, Built own' (.component c :: es) e → ∀ n, e.givenName? = some n → IsLetPass n) ∧
    (∀ t, Built own es (.task t) → ∀ s : Settings, s.taskTemplates = .bundled →
      ∃ body header, s.outputPath bodyPath t.basename = .ok body ∧
        s.outputPath headerPath t.basename = .ok header ∧
        (OnOneLine body.text ↔ IsCIdentifier t.basename) ∧
        (OnOneLine header.text ↔ IsCIdentifier t.basename)) ∧
    (∀ t c, Built own es (.task t) → own.component? t = some c →
      (IsLineOf (bodyInclude t) (bodyText c t) ∧
        (OnOneLine (bodyInclude t) ↔ IsCIdentifier t.basename)) ∧
      (IsLineOf (headerInclude c t) (headerText c t) ∧
        (OnOneLine (headerInclude c t) ↔ IsCIdentifier c.name ∧ IsCIdentifier t.basename)) ∧
      IsLineOf (classLine t) (headerText c t) ∧
        (OnOneLine (classLine t) ↔ IsCIdentifier t.basename)) ∧
    ∀ o, Built own es (.operation o) →
      (OnOneLine o.declaration ↔ IsCIdentifier o.methodName ∧ OnOneLine o.returnSpelling ∧
        ∀ a ∈ o.arguments, IsCIdentifier a.name ∧ OnOneLine a.type.cxxName) ∧
      (OnOneLine (o.signature own) ↔
        (∀ t, own.task? o = some t → IsCIdentifier t.basename) ∧ OnOneLine o.declaration) := by
  refine ⟨?_, ?_, ?_, ?_, ?_⟩
  · intro e he n hn
    exact Built.isLetPass h he hn
  · intro disk path c own' hc e he n hn
    exact Built.isLetPass (h.loaded hc) he hn
  · intro t ht s hs
    exact h.paths ht hs
  · intro t c ht hc
    obtain ⟨hbody, hheader, hclass⟩ := h.onOneLine_lines ht hc
    exact ⟨⟨isLineOf_bodyInclude c t, hbody⟩, ⟨isLineOf_headerInclude c t, hheader⟩,
      isLineOf_classLine c t, hclass⟩
  · intro o ho
    have hempty : OnOneLine "" := by decide
    refine ⟨?_, h.onOneLine_signature ho⟩
    rw [Operation.declaration, h.onOneLine_signatureUnder ho]
    exact and_iff_right hempty

/-- A task with a line break behind its name. -/
def driveBreak : Task := ⟨0, "Drive\n", false, [], ""⟩

theorem construct_driveBreak : construct .empty .task [(.text "basename", .text "Drive\n")] =
    (.ok (.task driveBreak), ⟨1, [], []⟩) := by
  rfl

theorem reached_driveBreak : Reached ⟨1, [], []⟩ [.task driveBreak] :=
  .constructed .start (by simp) construct_driveBreak

theorem names_of_reached_driveBreak : ∃ body header,
    Settings.default.outputPath bodyPath "Drive\n" = .ok body ∧
    Settings.default.outputPath headerPath "Drive\n" = .ok header ∧
    (OnOneLine body.text ↔ IsCIdentifier "Drive\n") ∧
    (OnOneLine header.text ↔ IsCIdentifier "Drive\n") :=
  (names_of_reached reached_driveBreak).2.2.1 driveBreak (.atHand (by simp)) .default rfl

/-- A name with a line break is accepted, and the name of the generated file has that line break. -/
theorem driveBreak_is_no_identifier :
    (construct .empty .task [(.text "basename", .text "Drive\n")]).1 = .ok (.task driveBreak) ∧
    ¬ IsCIdentifier driveBreak.basename := by
  refine ⟨congrArg Prod.fst construct_driveBreak, ?_⟩
  intro h
  have hline : OnOneLine "Drive\n" := h.onOneLine
  exact absurd hline (by decide)

end Model

end Scaffold
