import Scaffold.Proofs.Files.Content
import Scaffold.Proofs.Template.Outline
import Scaffold.Template.Registry

/-! The outlines of the bundled templates. -/
namespace Scaffold.Template
open Expression Text

namespace Bundled

def value (head : String) (accessors : List String) : Part := .inset (.path ⟨head, accessors⟩)

def basename : Part := value "task" ["basename"]

def component : Part := value "task" ["component", "name"]

/-- A text that the constructor of a task has unless its initial state is fixed. -/
def unlessFixed (s : String) : Part := .inset (.textUnless s ⟨"task", ["fixed_initial_state?"]⟩)

def plain (s : String) : Outline := .line [.text s]

/-- What the body of a task has for each operation. -/
def operationOutline : List Outline := [
  .line [value "op" ["signature"]],
  plain "\x7b",
  .block 4 (.onTrue ⟨"op", ["has_return_value?"]⟩) [
    .line [.text "    return ", value "op" ["return_type", "first", "cxx_name"], .text "();"]],
  plain "\x7d",
  plain ""]

/-- What the header of a task has for each operation. -/
def declarationOutline : List Outline := [
  .block 0 (.onFalse ⟨"op", ["doc", "empty"]⟩) [
    .line [.text "        /* ", value "op" ["doc"]],
    plain "         */"],
  .line [.text "        virtual ", value "op" ["declaration"], .text ";"]]

/-- A block over the operations of a task. -/
def eachOperation (body : List Outline) : Outline :=
  .block 0 (.each "op" ⟨"task", ["self_operations"]⟩) body

/-- The outline of the body of a task. -/
def bodyOutline : List Outline := [
  plain "/* Generated from skelgen/templates/tasks/Task.cpp.tmpl */",
  plain "",
  .line [.text "#include \"", basename, .text ".hpp\""],
  plain "",
  .line [.text "using namespace ", component, .text ";"],
  plain "",
  .line [basename, .text "::", basename, .text "(std::string const& name",
    unlessFixed ", TaskCore::TaskState initial_state", .text ")"],
  .line [.text "    : ", basename, .text "Base(name", unlessFixed ", initial_state", .text ")"],
  plain "\x7b",
  plain "\x7d",
  plain "",
  .line [basename, .text "::~", basename, .text "()"],
  plain "\x7b",
  plain "\x7d",
  plain "",
  eachOperation operationOutline,
  plain "/// The following lines are template definitions for the various state machine",
  .line [.text "// hooks defined by Orocos::RTT. See ", basename, .text ".hpp for more detailed"],
  plain "// documentation about them.",
  plain "",
  .line [.text "// bool ", basename, .text "::configureHook()"],
  plain "// \x7b",
  .line [.text "//     if (! ", basename, .text "Base::configureHook())"],
  plain "//         return false;",
  plain "//     return true;",
  plain "// \x7d",
  .line [.text "// bool ", basename, .text "::startHook()"],
  plain "// \x7b",
  .line [.text "//     if (! ", basename, .text "Base::startHook())"],
  plain "//         return false;",
  plain "//     return true;",
  plain "// \x7d",
  .line [.text "// void ", basename, .text "::updateHook()"],
  plain "// \x7b",
  .line [.text "//     ", basename, .text "Base::updateHook();"],
  plain "// \x7d",
  .line [.text "// void ", basename, .text "::errorHook()"],
  plain "// \x7b",
  .line [.text "//     ", basename, .text "Base::errorHook();"],
  plain "// \x7d",
  .line [.text "// void ", basename, .text "::stopHook()"],
  plain "// \x7b",
  .line [.text "//     ", basename, .text "Base::stopHook();"],
  plain "// \x7d",
  .line [.text "// void ", basename, .text "::cleanupHook()"],
  plain "// \x7b",
  .line [.text "//     ", basename, .text "Base::cleanupHook();"],
  plain "// \x7d"]

/-- The outline of the header of a task. -/
def headerOutline : List Outline := [
  plain "/* Generated from skelgen/templates/tasks/Task.hpp.tmpl */",
  plain "",
  .line [.text "#ifndef ", value "task" ["component", "name", "upper"], .text "_",
    value "task" ["basename", "upper"], .text "_TASK_HPP"],
  .line [.text "#define ", value "task" ["component", "name", "upper"], .text "_",
    value "task" ["basename", "upper"], .text "_TASK_HPP"],
  plain "",
  .line [.text "#include \"", component, .text "/", basename, .text "Base.hpp\""],
  plain "",
  .line [.text "namespace ", component, .text " \x7b"],
  plain "",
  .block 0 (.onFalse ⟨"task", ["doc", "empty"]⟩) [
    .line [.text "    /*! ", value "task" ["doc"]],
    plain "     */"],
  .line [.text "    class ", basename, .text " : public ", basename, .text "Base"],
  plain "    \x7b",
  .line [.text "        friend class ", basename, .text "Base;"],
  plain "    protected:",
  eachOperation declarationOutline,
  plain "",
  plain "    public:",
  plain "        /** Default constructor, registering the task under the name",
  .line [.text "         * \"", value "task" ["name"], .text "\" unless told otherwise."],
  plain "         */",
  .line [.text "        ", basename, .text "(std::string const& name = \"",
    value "task" ["name"], .text "\"",
    unlessFixed ", TaskCore::TaskState initial_state = Stopped", .text ");"],
  plain "",
  .line [.text "        ~", basename, .text "();"],
  plain "",
  plain "        bool configureHook();",
  plain "        bool startHook();",
  plain "        void updateHook();",
  plain "        void errorHook();",
  plain "        void stopHook();",
  plain "        void cleanupHook();",
  plain "    \x7d;",
  plain "\x7d",
  plain "",
  plain "#endif"]

set_option maxRecDepth 20000 in
/-- The bundled files hold the outlines, written out. -/
theorem sourceOf_outlines :
    sourceOf bodyOutline = ofLines bodyLines ∧ sourceOf headerOutline = ofLines headerLines := by
  constructor
  all_goals
    rw [sourceOf, ← String.toList_inj, String.toList_ofList]
    simp only [ofLines, bodyLines, headerLines, bodyOutline, headerOutline, operationOutline,
      declarationOutline, eachOperation, plain, basename, component, unlessFixed, value,
      bodyPieces, Outline.pieces, Part.pieces, tagLine, Inset.tag, Inset.source, Heading.tag,
      Heading.source, endTag, spacedTag, Piece.chars, Piece.feed, Tag.chars, TagKind.mark,
      Path.shown, Path.segments, chars_charPieces, List.map_cons, List.map_nil,
      List.flatMap_cons, List.flatMap_nil, List.flatMap_append, String.join_cons,
      String.join_nil, String.toList_append, String.toList_intercalate]
    -- A literal is opened by rewriting; to evaluate its characters would take far longer.
    repeat rw [String.toList_ofList]
    rfl

set_option maxRecDepth 20000 in
theorem isWritable_outlines :
    bodyIsWritable bodyOutline = true ∧ bodyIsWritable headerOutline = true := by
  constructor
  all_goals
    simp only [bodyOutline, headerOutline, operationOutline, declarationOutline, eachOperation,
      plain, basename, component, unlessFixed, value, bodyIsWritable, Outline.isWritable,
      Part.isWritable, Inset.isWritable, Heading.isWritable, Path.isWritable, Path.segments,
      isPlainText, isSegment, isBinder, List.all_cons, List.all_nil]
    repeat rw [String.toList_ofList]
    decide

/-- Lines without carriage returns. -/
def isReturnless (ls : List String) : Bool := ls.all fun l => !l.toList.contains '\r'

theorem returns_notMem_ofLines {ls : List String} (h : isReturnless ls = true) :
    '\r' ∉ (ofLines ls).toList := by
  induction ls with
  | nil => simp [ofLines]
  | cons l ls ih =>
    obtain ⟨hl, hls⟩ := Bool.and_eq_true_iff.mp h
    have := ih hls
    simp_all [ofLines]

set_option maxRecDepth 20000 in
theorem isReturnless_lines : isReturnless bodyLines = true ∧ isReturnless headerLines = true := by
  constructor
  all_goals
    simp only [isReturnless, bodyLines, headerLines, List.all_cons, List.all_nil]
    repeat rw [String.toList_ofList]
    decide

/-- The text of a bundled file. -/
theorem source_bundled (disk : FileTree) {path : String} {ls : List String}
    (hfile : bundledTree.isFile (FilePath.here.join (.ofString path)) = .ok true)
    (hbytes : bundledTree.readBytes (FilePath.here.join (.ofString path)) =
      .ok (ofLines ls).toUTF8) (hreturns : isReturnless ls = true) :
    Folder.bundled.source disk path = .ok (some (ofLines ls)) := by
  have htext : bundledTree.readText (FilePath.here.join (.ofString path)) = .ok (ofLines ls) := by
    rw [FileTree.readText, hbytes]
    exact FileTree.decode_toUTF8 (returns_notMem_ofLines hreturns)
  rw [Folder.source]
  simp only [Folder.tree, Folder.path, hfile, htext]
  rfl

/-- A bundled file that an outline is written in. -/
theorem load_bundled (disk : FileTree) {path : String} {os : List Outline}
    (hsource : Folder.bundled.source disk path = .ok (some (sourceOf os)))
    (hos : bodyIsWritable os = true) :
    Folder.bundled.load disk path = .ok ⟨path, outlineChunks os⟩ := by
  simp only [Folder.load, hsource, parse_sourceOf hos]
  rfl

theorem load_body (disk : FileTree) :
    Folder.bundled.load disk bodyPath = .ok ⟨bodyPath, outlineChunks bodyOutline⟩ := by
  refine load_bundled disk ?_ isWritable_outlines.1
  rw [sourceOf_outlines.1]
  exact source_bundled disk rfl rfl isReturnless_lines.1

theorem load_header (disk : FileTree) :
    Folder.bundled.load disk headerPath = .ok ⟨headerPath, outlineChunks headerOutline⟩ := by
  refine load_bundled disk ?_ isWritable_outlines.2
  rw [sourceOf_outlines.2]
  exact source_bundled disk rfl rfl isReturnless_lines.2

end Bundled

end Scaffold.Template
