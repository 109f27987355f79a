import Scaffold.Proofs.Expression.Evaluation
import Scaffold.Proofs.Model.Forest
import Scaffold.Proofs.Template.BundledOutline
import Scaffold.Proofs.Template.OutlineRendering
import Scaffold.Template.Rendering

/-! What the bundled templates make of a task.  Their outlines are rendered line by line over a
task that its component owns; without a component there is no name to render. -/
namespace Scaffold.Template
open Expression Model Text

namespace Bundled

/-! ### The generated texts -/

/-- The type that an operation returns. -/
def returned (o : Operation) : String :=
  match o.hasReturnValue, o.returnTypes with
  | true, type :: _ => type.cxxName
  | _, _ => "void"

def parameters (o : Operation) : String :=
  ", ".intercalate (o.arguments.map fun a => a.type.cxxName ++ " const& " ++ a.name)

/-- A parameter of the constructor, which it has unless the initial state is fixed. -/
def stateParameter (t : Task) (s : String) : String := if t.fixedInitialState then "" else s

def operationBody (t : Task) (o : Operation) : List String :=
  [returned o ++ " " ++ t.basename ++ "::" ++ o.methodName ++ "(" ++ parameters o ++ ")",
    "\x7b"] ++
  (if o.hasReturnValue then ["    return " ++ returned o ++ "();"] else []) ++
  ["\x7d", ""]

def bodyStart (c : Component) (t : Task) : List String := [
  "/* Generated from skelgen/templates/tasks/Task.cpp.tmpl */",
  "",
  "#include \"" ++ t.basename ++ ".hpp\"",
  "",
  "using namespace " ++ c.name ++ ";",
  "",
  t.basename ++ "::" ++ t.basename ++ "(std::string const& name" ++
    stateParameter t ", TaskCore::TaskState initial_state" ++ ")",
  "    : " ++ t.basename ++ "Base(name" ++ stateParameter t ", initial_state" ++ ")",
  "\x7b",
  "\x7d",
  "",
  t.basename ++ "::~" ++ t.basename ++ "()",
  "\x7b",
  "\x7d",
  ""]

def bodyEnd (t : Task) : List String := [
  "/// The following lines are template definitions for the various state machine",
  "// hooks defined by Orocos::RTT. See " ++ t.basename ++ ".hpp for more detailed",
  "// documentation about them.",
  "",
  "// bool " ++ t.basename ++ "::configureHook()",
  "// \x7b",
  "//     if (! " ++ t.basename ++ "Base::configureHook())",
  "//         return false;",
  "//     return true;",
  "// \x7d",
  "// bool " ++ t.basename ++ "::startHook()",
  "// \x7b",
  "//     if (! " ++ t.basename ++ "Base::startHook())",
  "//         return false;",
  "//     return true;",
  "// \x7d",
  "// void " ++ t.basename ++ "::updateHook()",
  "// \x7b",
  "//     " ++ t.basename ++ "Base::updateHook();",
  "// \x7d",
  "// void " ++ t.basename ++ "::errorHook()",
  "// \x7b",
  "//     " ++ t.basename ++ "Base::errorHook();",
  "// \x7d",
  "// void " ++ t.basename ++ "::stopHook()",
  "// \x7b",
  "//     " ++ t.basename ++ "Base::stopHook();",
  "// \x7d",
  "// void " ++ t.basename ++ "::cleanupHook()",
  "// \x7b",
  "//     " ++ t.basename ++ "Base::cleanupHook();",
  "// \x7d"]

/-- The body of a task of a component. -/
def bodyText (c : Component) (t : Task) : String :=
  ofLines (bodyStart c t ++ t.operations.flatMap (operationBody t) ++ bodyEnd t)

def upperText (s : String) : String := String.ofList (upper s.toList)

/-- The macro that guards the header of a task. -/
def guardMacro (c : Component) (t : Task) : String :=
  upperText c.name ++ "_" ++ upperText t.basename ++ "_TASK_HPP"

def operationHeader (o : Operation) : List String :=
  (if o.doc = "" then [] else ["        /* " ++ o.doc, "         */"]) ++
  ["        virtual " ++ returned o ++ " " ++ o.methodName ++ "(" ++ parameters o ++ ");"]

def headerStart (c : Component) (t : Task) : List String :=
  ["/* Generated from skelgen/templates/tasks/Task.hpp.tmpl */",
  "",
  "#ifndef " ++ guardMacro c t,
  "#define " ++ guardMacro c t,
  "",
  "#include \"" ++ c.name ++ "/" ++ t.basename ++ "Base.hpp\"",
  "",
  "namespace " ++ c.name ++ " \x7b",
  ""] ++
  (if t.doc = "" then [] else ["    /*! " ++ t.doc, "     */"]) ++
  ["    class " ++ t.basename ++ " : public " ++ t.basename ++ "Base",
  "    \x7b",
  "        friend class " ++ t.basename ++ "Base;",
  "    protected:"]

def headerEnd (c : Component) (t : Task) : List String := [
  "",
  "    public:",
  "        /** Default constructor, registering the task under the name",
  "         * \"" ++ c.name ++ "::" ++ t.basename ++ "\" unless told otherwise.",
  "         */",
  "        " ++ t.basename ++ "(std::string const& name = \"" ++ c.name ++ "::" ++ t.basename ++
    "\"" ++ stateParameter t ", TaskCore::TaskState initial_state = Stopped" ++ ");",
  "",
  "        ~" ++ t.basename ++ "();",
  "",
  "        bool configureHook();",
  "        bool startHook();",
  "        void updateHook();",
  "        void errorHook();",
  "        void stopHook();",
  "        void cleanupHook();",
  "    \x7d;",
  "\x7d",
  "",
  "#endif"]

/-- The header of a task of a component. -/
def headerText (c : Component) (t : Task) : String :=
  ofLines (headerStart c t ++ t.operations.flatMap operationHeader ++ headerEnd c t)

/-! ### Paths -/

variable {own : Ownership} {scope : Scope}

theorem resolve_ofList {l : List Char} (hl : l.getLast? ≠ some '?') {v : Value}
    (hv : scope.find? (String.ofList l) = some v) (names : List String) :
    Path.resolve own scope ⟨String.ofList l, names⟩ =
      names.foldlM (readSegment own (Path.shown ⟨String.ofList l, names⟩)) v := by
  rw [Path.resolve, unmarked_ofList hl, hv]
  simp only [checked, isMarked_ofList hl, Bool.false_and]
  rfl

/-- A path with a bound name in front. -/
theorem resolve_of_leads {l : List Char} (hl : l.getLast? ≠ some '?') {names : List String}
    {v w : Value} (hv : scope.find? (String.ofList l) = some v) (h : LeadsTo own v names w) :
    Path.resolve own scope ⟨String.ofList l, names⟩ = .ok w := by
  rw [resolve_ofList hl hv]
  exact foldlM_eq_ok_iff.mpr h

theorem render_value {l : List Char} (hl : l.getLast? ≠ some '?') {names : List String}
    {v : Value} {s : String} (hv : scope.find? (String.ofList l) = some v)
    (h : LeadsTo own v names (.text s)) (n : Nat) :
    (value (String.ofList l) names).render own scope n = pure s := by
  simp only [value, Part.render, Node.evaluateText, Node.evaluate, resolve_of_leads hl hv h]
  rfl

theorem guard_of_leads {l : List Char} (hl : l.getLast? ≠ some '?') {names : List String}
    {v : Value} {b : Bool} (hv : scope.find? (String.ofList l) = some v)
    (h : LeadsTo own v names (.bool b)) (n : Nat) :
    atLine n ((Node.path ⟨String.ofList l, names⟩).evaluateGuard own scope) = pure b := by
  simp only [Node.evaluateGuard, Node.evaluate, resolve_of_leads hl hv h]
  rfl

theorem mapM_of_forall {α β γ ε : Type} {as : List α} {g : α → β} {f : β → Except ε γ} {k : α → γ}
    (h : ∀ a ∈ as, f (g a) = pure (k a)) : (as.map g).mapM f = pure (as.map k) := by
  induction as with
  | nil => rfl
  | cons a as ih =>
    rw [List.map_cons, List.mapM_cons, h a List.mem_cons_self,
      ih fun b hb => h b (List.mem_cons_of_mem a hb)]
    rfl

/-! ### Parts over a task -/

section
variable {t : Task} (ht : scope.find? "task" = some (.entity (.task t)))
include ht

theorem render_basename (n : Nat) : basename.render own scope n = pure t.basename :=
  render_value (by decide) ht (.step (by decide) rfl (.nil _)) n

theorem render_basename_upper (n : Nat) :
    (value "task" ["basename", "upper"]).render own scope n = pure (upperText t.basename) :=
  render_value (by decide) ht (.step (by decide) rfl (.step (by decide) rfl (.nil _))) n

theorem render_taskDoc (n : Nat) :
    (value "task" ["doc"]).render own scope n = pure t.doc :=
  render_value (by decide) ht (.step (by decide) rfl (.nil _)) n

theorem render_unlessFixed (s : String) (n : Nat) :
    (unlessFixed s).render own scope n = pure (stateParameter t s) := by
  have hfixed : unmarked "fixed_initial_state?" = "fixed_initial_state" := by
    rw [unmarked, String.toList_ofList]
    rfl
  have hguard : atLine n ((Node.path ⟨"task", ["fixed_initial_state?"]⟩).evaluateGuard own scope) =
      pure t.fixedInitialState := guard_of_leads (by decide) ht (.truth hfixed rfl) n
  rw [unlessFixed, Part.render, hguard]
  rfl

/-- The lines of a block over the operations of a task. -/
theorem render_eachOperation {body : List Outline} {f : Operation → List String} {n : Nat}
    (h : ∀ o ∈ t.operations,
      bodyRender own (scope.child [("op", .entity (.operation o))]) (n + 1) body = pure (f o)) :
    (eachOperation body).render own scope n = pure (t.operations.flatMap f) := by
  have hitems : atLine n ((Node.path ⟨"task", ["self_operations"]⟩).evaluateSequence own scope) =
      pure (t.operations.map fun o => .entity (.operation o)) := by
    have hresolve : Path.resolve own scope ⟨"task", ["self_operations"]⟩ =
        .ok (.tuple (t.operations.map fun o => .entity (.operation o))) :=
      resolve_of_leads (by decide) ht (.step (by decide) rfl (.nil _))
    simp only [Node.evaluateSequence, Node.evaluate, hresolve]
    rfl
  rw [eachOperation, Outline.render, hitems, pure_bind, mapM_of_forall h, pure_bind,
    List.flatMap_def]

/-- The lines of a block that is there unless the description of the task is empty. -/
theorem render_unlessDoc (indent : Nat) {body : List Outline} {n : Nat} {lines : List String}
    (h : bodyRender own scope (n + 1) body = pure lines) :
    (Outline.block indent (.onFalse ⟨"task", ["doc", "empty"]⟩) body).render own scope n =
      pure (if t.doc = "" then [] else lines) := by
  have hguard : atLine n ((Node.path ⟨"task", ["doc", "empty"]⟩).evaluateGuard own scope) =
      pure t.doc.isEmpty :=
    guard_of_leads (by decide) ht (.step (by decide) rfl (.step (by decide) rfl (.nil _))) n
  rw [Outline.render, hguard, pure_bind, h]
  by_cases hd : t.doc = ""
  · simp [hd]
  · simp [hd]

variable {c : Component} (hc : own.component? t = some c)
include hc

omit ht in
theorem reads_component : (Value.entity (.task t)).read? own "component" =
    some (.entity (.component c)) := by
  change some (((own.component? t).map fun c => Value.entity (.component c)).getD .null) = _
  rw [hc]
  rfl

theorem render_component (n : Nat) : component.render own scope n = pure c.name :=
  render_value (by decide) ht
    (.step (by decide) (reads_component hc) (.step (by decide) rfl (.nil _))) n

theorem render_component_upper (n : Nat) :
    (value "task" ["component", "name", "upper"]).render own scope n = pure (upperText c.name) :=
  render_value (by decide) ht (.step (by decide) (reads_component hc)
    (.step (by decide) rfl (.step (by decide) rfl (.nil _)))) n

theorem render_taskName (n : Nat) : (value "task" ["name"]).render own scope n =
    pure (c.name ++ "::" ++ t.basename) := by
  have hname : t.name own = c.name ++ "::" ++ t.basename := by
    rw [Task.name, hc]
  rw [← hname]
  exact render_value (by decide) ht (.step (by decide) rfl (.nil _)) n

end

theorem render_line (parts : List Part) (n : Nat) : (Outline.line parts).render own scope n = do
    return [String.join (← parts.mapM (Part.render own scope n))] := by
  rw [Outline.render]

theorem render_text (s : String) (n : Nat) : (Part.text s).render own scope n = pure s := rfl

theorem render_plain (s : String) (n : Nat) : (plain s).render own scope n = pure [s] := by
  simp only [plain, render_line, List.mapM_cons, List.mapM_nil, render_text, pure_bind,
    String.join_cons, String.join_nil, String.append_empty]

/-! ### Parts over an operation -/

theorem returned_eq {o : Operation} (h : o.IsSound) : returned o = o.returnSpelling := by
  rw [returned, Operation.returnSpelling]
  cases hv : o.hasReturnValue with
  | false => rfl
  | true =>
    obtain ⟨type, types, hr⟩ := List.exists_cons_of_ne_nil (h hv)
    rw [hr]
    rfl

theorem declaration_eq {o : Operation} (h : o.IsSound) : o.declaration =
    returned o ++ " " ++ o.methodName ++ "(" ++ parameters o ++ ")" := by
  rw [returned_eq h]
  rfl

theorem signature_eq {o : Operation} (h : o.IsSound) {t : Task} (ht : own.task? o = some t)
    (hn : t.basename ≠ "") : o.signature own =
      returned o ++ " " ++ t.basename ++ "::" ++ o.methodName ++ "(" ++ parameters o ++ ")" := by
  have hn : t.basename.isEmpty = false := by simpa using hn
  rw [returned_eq h, Operation.signature, ht, Operation.signatureUnder]
  simp [hn, String.append_assoc]
  rfl

section
variable {o : Operation} (ho : scope.find? "op" = some (.entity (.operation o)))
include ho

theorem render_signature (n : Nat) :
    (value "op" ["signature"]).render own scope n = pure (o.signature own) :=
  render_value (by decide) ho (.step (by decide) rfl (.nil _)) n

theorem render_declaration (n : Nat) :
    (value "op" ["declaration"]).render own scope n = pure o.declaration :=
  render_value (by decide) ho (.step (by decide) rfl (.nil _)) n

theorem render_operationDoc (n : Nat) :
    (value "op" ["doc"]).render own scope n = pure o.doc :=
  render_value (by decide) ho (.step (by decide) rfl (.nil _)) n

/-- The first return type is there where there is a return value. -/
theorem render_firstType (hs : o.IsSound) (hv : o.hasReturnValue = true) (n : Nat) :
    (value "op" ["return_type", "first", "cxx_name"]).render own scope n = pure (returned o) := by
  obtain ⟨type, types, hr⟩ := List.exists_cons_of_ne_nil (hs hv)
  have hreturned : returned o = type.cxxName := by
    rw [returned, hv, hr]
  have htypes : (Value.entity (.operation o)).read? own "return_type" =
      some (typeTuple (type :: types)) := hr ▸ rfl
  rw [hreturned]
  exact render_value (by decide) ho (.step (by decide) htypes
    (.step (by decide) rfl (.step (by decide) rfl (.nil _)))) n

theorem render_operationBody {t : Task} (ht : own.task? o = some t) (hn : t.basename ≠ "")
    (hs : o.IsSound) (n : Nat) :
    bodyRender own scope n operationOutline = pure (operationBody t o) := by
  have hvalue : unmarked "has_return_value?" = "has_return_value" := by
    rw [unmarked, String.toList_ofList]
    rfl
  have hguard (n : Nat) :
      atLine n ((Node.path ⟨"op", ["has_return_value?"]⟩).evaluateGuard own scope) =
        pure o.hasReturnValue := guard_of_leads (by decide) ho (.truth hvalue rfl) n
  have hreturn (n : Nat) : (Outline.block 4 (.onTrue ⟨"op", ["has_return_value?"]⟩) [
      .line [.text "    return ", value "op" ["return_type", "first", "cxx_name"],
        .text "();"]]).render own scope n =
      pure (if o.hasReturnValue then ["    return " ++ returned o ++ "();"] else []) := by
    rw [Outline.render, hguard, pure_bind]
    cases hv : o.hasReturnValue with
    | false => rfl
    | true =>
      simp only [if_true, bodyRender, render_line, List.mapM_cons, List.mapM_nil, render_text,
        render_firstType ho hs hv, pure_bind, String.join_cons, String.join_nil,
        String.append_empty, List.append_nil, String.append_assoc]
  simp only [operationOutline, bodyRender, render_line, render_plain, List.mapM_cons,
    List.mapM_nil, render_signature ho, hreturn, pure_bind, String.join_cons, String.join_nil,
    String.append_empty, signature_eq hs ht hn, operationBody]
  simp only [List.append_nil, List.cons_append, List.nil_append]

theorem render_operationHeader (hs : o.IsSound) (n : Nat) :
    bodyRender own scope n declarationOutline = pure (operationHeader o) := by
  have hguard (n : Nat) :
      atLine n ((Node.path ⟨"op", ["doc", "empty"]⟩).evaluateGuard own scope) =
        pure o.doc.isEmpty :=
    guard_of_leads (by decide) ho (.step (by decide) rfl (.step (by decide) rfl (.nil _))) n
  have hdoc (n : Nat) : (Outline.block 0 (.onFalse ⟨"op", ["doc", "empty"]⟩) [
      .line [.text "        /* ", value "op" ["doc"]],
      plain "         */"]).render own scope n =
      pure (if o.doc = "" then [] else ["        /* " ++ o.doc, "         */"]) := by
    rw [Outline.render, hguard, pure_bind]
    by_cases hd : o.doc = ""
    · simp [hd]
    · simp [hd, bodyRender, render_line, render_plain, render_text, render_operationDoc ho]
  simp only [declarationOutline, bodyRender, render_line, List.mapM_cons, List.mapM_nil,
    render_text, render_declaration ho, hdoc, pure_bind, String.join_cons, String.join_nil,
    String.append_empty, List.append_nil, declaration_eq hs, operationHeader, String.append_assoc]
  rfl

end

/-! ### Whole outlines -/

theorem find?_child (o : Operation) :
    (scope.child [("op", .entity (.operation o))]).find? "op" = some (.entity (.operation o)) := rfl

section
variable {t : Task} (ht : scope.find? "task" = some (.entity (.task t))) (hs : t.IsSound own)
  {c : Component} (hc : own.component? t = some c)
include ht hs hc

/-- Over a task of a component the outline of the body has a line for each line of its text. -/
theorem bodyRender_bodyOutline : bodyRender own scope 1 bodyOutline =
    pure (bodyStart c t ++ t.operations.flatMap (operationBody t) ++ bodyEnd t) := by
  have hloop (n : Nat) : (eachOperation operationOutline).render own scope n =
      pure (t.operations.flatMap (operationBody t)) := render_eachOperation ht fun o ho =>
    render_operationBody (find?_child o) (hs.operations o ho).2 hs.named (hs.operations o ho).1
      (n + 1)
  simp only [bodyOutline, bodyRender, hloop, render_line, render_plain, render_text,
    render_basename ht, render_component ht hc, render_unlessFixed ht, List.mapM_cons,
    List.mapM_nil, pure_bind, String.join_cons, String.join_nil, String.append_empty,
    String.append_assoc, bodyStart, bodyEnd, List.append_nil, List.cons_append, List.nil_append]

/-- Over a task of a component the outline of the header has a line for each line of its text. -/
theorem bodyRender_headerOutline : bodyRender own scope 1 headerOutline =
    pure (headerStart c t ++ t.operations.flatMap operationHeader ++ headerEnd c t) := by
  have hloop (n : Nat) : (eachOperation declarationOutline).render own scope n =
      pure (t.operations.flatMap operationHeader) := render_eachOperation ht fun o ho =>
    render_operationHeader (find?_child o) (hs.operations o ho).1 (n + 1)
  have hlines (n : Nat) : bodyRender own scope n
      [.line [.text "    /*! ", value "task" ["doc"]], plain "     */"] =
        pure ["    /*! " ++ t.doc, "     */"] := by
    simp only [bodyRender, render_line, render_plain, render_text, render_taskDoc ht,
      List.mapM_cons, List.mapM_nil, pure_bind, String.join_cons, String.join_nil,
      String.append_empty, List.append_nil, List.cons_append, List.nil_append]
  have hdoc (n : Nat) := render_unlessDoc ht 0 (hlines (n + 1))
  simp only [headerOutline, bodyRender, hloop, hdoc, render_line, render_plain, render_text,
    render_basename ht, render_basename_upper ht, render_component ht hc,
    render_component_upper ht hc, render_taskName ht hc, render_unlessFixed ht, List.mapM_cons,
    List.mapM_nil, pure_bind, String.join_cons, String.join_nil, String.append_empty,
    String.append_assoc, headerStart, headerEnd, guardMacro, List.append_nil, List.append_assoc,
    List.cons_append, List.nil_append]

end

/-! ### Without a component -/

/-- The failure to name the component of a task that has none. -/
def noComponent (path : String) : Failure := .unresolved path "name" (.kind "NoneType")

theorem ok_bind {ε α β : Type} (a : α) (f : α → Except ε β) : (Except.ok a >>= f) = f a := rfl

theorem error_bind {ε α β : Type} (e : ε) (f : α → Except ε β) :
    (Except.error e >>= f) = Except.error e := rfl

section
variable {t : Task} (ht : scope.find? "task" = some (.entity (.task t)))
  (hc : own.component? t = none)
include ht hc

theorem resolve_componentless (names : List String) :
    Path.resolve own scope ⟨"task", "component" :: "name" :: names⟩ =
      .error (noComponent (Path.shown ⟨"task", "component" :: "name" :: names⟩)) := by
  have hnull : (Value.entity (.task t)).read? own "component" = some .null := by
    change some (((own.component? t).map fun c => Value.entity (.component c)).getD .null) = _
    rw [hc]
    rfl
  have hname : unmarked "name" = "name" := unmarked_ofList (by decide)
  have hread (path : String) : readSegment own path .null "name" = .error (noComponent path) := by
    rw [readSegment, hname]
    rfl
  have hfold (path : String) : ("component" :: "name" :: names).foldlM (readSegment own path)
      (Value.entity (.task t)) = .error (noComponent path) := by
    have hcomponent : readSegment own path (.entity (.task t)) "component" = .ok .null :=
      readSegment_ofList (by decide) hnull path
    rw [List.foldlM_cons, hcomponent, ok_bind, List.foldlM_cons, hread, error_bind]
  exact (resolve_ofList (by decide) ht _).trans (hfold _)

theorem render_componentless (names : List String) (n : Nat) :
    (value "task" ("component" :: "name" :: names)).render own scope n =
      .error (n, noComponent (Path.shown ⟨"task", "component" :: "name" :: names⟩)) := by
  simp only [value, Part.render, Node.evaluateText, Node.evaluate, resolve_componentless ht hc]
  rfl

theorem bodyRender_bodyOutline_componentless : bodyRender own scope 1 bodyOutline =
    .error (5, noComponent "task.component.name") := by
  have hcomponent (n : Nat) : component.render own scope n = _ := render_componentless ht hc [] n
  simp only [bodyOutline, bodyRender, render_line, render_plain, render_text, render_basename ht,
    hcomponent, List.mapM_cons, List.mapM_nil, pure_bind, error_bind]
  rfl

theorem bodyRender_headerOutline_componentless : bodyRender own scope 1 headerOutline =
    .error (3, noComponent "task.component.name.upper") := by
  have hcomponent (n : Nat) :
      (value "task" ["component", "name", "upper"]).render own scope n = _ :=
    render_componentless ht hc ["upper"] n
  simp only [headerOutline, bodyRender, render_line, render_plain, render_text,
    hcomponent, List.mapM_cons, List.mapM_nil, pure_bind, error_bind]
  rfl

end

/-! ### The registry -/

/-- The text that a bundled template, found by its path, makes of a task. -/
def outputOf (disk : FileTree) (own : Ownership) (path : String) (t : Task) :
    Except RenderingFault String :=
  ((Registry.fresh .bundled).render disk own .path path (.entity (.task t)) []).1

theorem outputOf_eq_render {disk : FileTree} (own : Ownership) (t : Task) {path : String}
    {temp : Template} (hload : Folder.bundled.load disk path = .ok temp) :
    outputOf disk own path t = (temp.render own [taskBindings own t]).mapError .render := by
  have hget : (Registry.fresh .bundled).get disk path =
      (.ok temp, (Registry.fresh .bundled).know path temp) := by
    rw [Registry.get]
    simp only [Registry.fresh, List.lookup_nil, hload]
  have hmodel : renderModel own temp (.entity (.task t)) [] =
      (temp.render own [taskBindings own t]).mapError .render := rfl
  have hclear : Entrance.admit .path [] = .ok () := rfl
  rw [outputOf, Registry.render]
  simp only [hclear, hget]
  exact hmodel

section
variable {disk : FileTree} {own : Ownership} {t : Task} {path : String} {os : List Outline}
  (hload : Folder.bundled.load disk path = .ok ⟨path, outlineChunks os⟩)
include hload

theorem outputOf_lines {lines : List String}
    (h : bodyRender own [taskBindings own t] 1 os = pure lines) :
    outputOf disk own path t = .ok (ofLines lines) := by
  rw [outputOf_eq_render own t hload, render_outlineChunks, h]
  rfl

theorem outputOf_failure {line : Nat} {cause : Failure}
    (h : bodyRender own [taskBindings own t] 1 os = .error (line, cause)) :
    outputOf disk own path t = .error (.render ⟨path, line, cause⟩) := by
  rw [outputOf_eq_render own t hload, render_outlineChunks, h]
  rfl

end

theorem find?_taskBindings (own : Ownership) (t : Task) :
    Scope.find? [taskBindings own t] "task" = some (.entity (.task t)) := rfl

/-- Every task that can be constructed has the explicit texts if a component owns it, and for want
of a name of its component it has none otherwise. -/
theorem outputOf_of_reached {own : Ownership} {es : List Entity} (h : Reached own es) {t : Task}
    (ht : .task t ∈ es) (disk : FileTree) :
    (∀ c, own.component? t = some c →
      outputOf disk own bodyPath t = .ok (bodyText c t) ∧
      outputOf disk own headerPath t = .ok (headerText c t)) ∧
    (own.component? t = none →
      outputOf disk own bodyPath t =
        .error (.render ⟨bodyPath, 5, noComponent "task.component.name"⟩) ∧
      outputOf disk own headerPath t =
        .error (.render ⟨headerPath, 3, noComponent "task.component.name.upper"⟩)) := by
  have hs : t.IsSound own := h.isSound.2 _ ht
  have hfind := find?_taskBindings own t
  constructor
  · intro c hc
    rw [bodyText, headerText]
    exact ⟨outputOf_lines (load_body disk) (bodyRender_bodyOutline hfind hs hc),
      outputOf_lines (load_header disk) (bodyRender_headerOutline hfind hs hc)⟩
  · intro hc
    exact ⟨outputOf_failure (load_body disk) (bodyRender_bodyOutline_componentless hfind hc),
      outputOf_failure (load_header disk) (bodyRender_headerOutline_componentless hfind hc)⟩

/-! ### A world with a task of a component and one without -/

def ping : Operation := ⟨1, "ping", [⟨0, "int", ""⟩], true, [], ""⟩

def echo : Task := ⟨2, "Echo", false, [ping], ""⟩

def relay : Component := ⟨3, "relay", [echo], ""⟩

def idle : Task := ⟨4, "Idle", false, [], ""⟩

/-- The description of `relay`. -/
def relayDescription : Value := .dict [(.text "name", .text "relay"),
  (.text "tasks", .dict [(.text "name", .text "Echo"),
    (.text "operations", .dict [(.text "name", .text "ping"),
      (.text "returns", .dict [(.text "cxx_name", .text "int")])])])]

theorem componentOf_relayDescription : componentOf .empty relayDescription "relay.yml" =
    (.ok relay, ⟨4, [(1, echo)], [(2, relay)]⟩) := by
  have hrun : (describeComponent relayDescription).run .empty =
      (.ok relay, ⟨4, [(1, echo)], [(2, relay)]⟩) := by rfl
  rw [componentOf, hrun]

theorem construct_idle : construct ⟨4, [(1, echo)], [(2, relay)]⟩ .task
    [(.text "basename", .text "Idle")] =
      (.ok (.task idle), ⟨5, [(1, echo)], [(2, relay)]⟩) := by
  rfl

theorem reached_relay : Reached ⟨5, [(1, echo)], [(2, relay)]⟩
    [.task echo, .task idle, .component relay] := by
  have hrelay : Reached ⟨4, [(1, echo)], [(2, relay)]⟩ [.component relay] :=
    .described .start componentOf_relayDescription
  have hidle : Reached ⟨5, [(1, echo)], [(2, relay)]⟩ [.task idle, .component relay] := by
    refine .constructed hrelay ?_ construct_idle
    rintro e ⟨⟩
    rename_i hm he
    cases List.mem_singleton.mp hm
    cases he
  have htasks : (Entity.component relay).read? ⟨5, [(1, echo)], [(2, relay)]⟩ "tasks" =
      some (.tuple [.entity (.task echo)]) := rfl
  exact .read hidle (by simp) htasks (.tuple (List.mem_singleton.mpr rfl) (.entity _))

theorem outputOf_of_reached_relay :
    (outputOf ⟨[], []⟩ ⟨5, [(1, echo)], [(2, relay)]⟩ bodyPath echo = .ok (bodyText relay echo) ∧
      outputOf ⟨[], []⟩ ⟨5, [(1, echo)], [(2, relay)]⟩ headerPath echo =
        .ok (headerText relay echo)) ∧
    (outputOf ⟨[], []⟩ ⟨5, [(1, echo)], [(2, relay)]⟩ bodyPath idle =
        .error (.render ⟨bodyPath, 5, noComponent "task.component.name"⟩) ∧
      outputOf ⟨[], []⟩ ⟨5, [(1, echo)], [(2, relay)]⟩ headerPath idle =
        .error (.render ⟨headerPath, 3, noComponent "task.component.name.upper"⟩)) :=
  ⟨(outputOf_of_reached reached_relay (by simp) ⟨[], []⟩).1 relay rfl,
    (outputOf_of_reached reached_relay (by simp) ⟨[], []⟩).2 rfl⟩

end Bundled

end Scaffold.Template
