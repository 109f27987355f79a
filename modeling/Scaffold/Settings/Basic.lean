import Scaffold.Files.Path
import Scaffold.Pattern.Basic
import Scaffold.Text.Blank
import Scaffold.Text.Case
/-!
Settings of a generation run: where the output goes, which templates are rendered and for which
tasks, and what happens to files that were edited.
-/

namespace Scaffold

open Text

/-- The templates that are rendered for each task, each with the pattern of its output path.  No
template is listed twice. -/
structure TemplateTable where
  entries : List (String × String)
  distinct : (entries.map (·.1)).Nodup
deriving DecidableEq

namespace TemplateTable

def empty : TemplateTable := ⟨[], by simp⟩

instance : Inhabited TemplateTable := ⟨empty⟩

def templates (t : TemplateTable) : List String :=
  t.entries.map (·.1)

def pattern? (t : TemplateTable) (template : String) : Option String :=
  t.entries.lookup template

/-- The entries with a pattern set: in place if the template is listed, at the end otherwise. -/
def setPattern (template pattern : String) : List (String × String) → List (String × String)
  | [] => [(template, pattern)]
  | e :: rest =>
    if e.1 = template then (template, pattern) :: rest
    else e :: setPattern template pattern rest

theorem mem_templates_setPattern {template pattern s : String} {es : List (String × String)}
    (h : s ∈ (setPattern template pattern es).map (·.1)) :
    s = template ∨ s ∈ es.map (·.1) := by
  induction es with
  | nil => simpa [setPattern] using h
  | cons e rest ih =>
    rw [setPattern] at h
    split at h
    · simp only [List.map_cons, List.mem_cons] at h ⊢
      exact h.imp id .inr
    · simp only [List.map_cons, List.mem_cons] at h ⊢
      rcases h with h | h
      · exact .inr (.inl h)
      · exact (ih h).imp id .inr

theorem nodup_templates_setPattern {template pattern : String} {es : List (String × String)}
    (h : (es.map (·.1)).Nodup) : ((setPattern template pattern es).map (·.1)).Nodup := by
  induction es with
  | nil => simp [setPattern]
  | cons e rest ih =>
    simp only [List.map_cons, List.nodup_cons] at h
    rw [setPattern]
    split
    · next he => simpa [List.nodup_cons, ← he] using h
    · next he =>
      simp only [List.map_cons, List.nodup_cons]
      refine ⟨fun hm => ?_, ih h.2⟩
      rcases mem_templates_setPattern hm with h' | h'
      · exact he h'
      · exact h.1 h'

def set (t : TemplateTable) (template pattern : String) : TemplateTable :=
  ⟨setPattern template pattern t.entries, nodup_templates_setPattern t.distinct⟩

/-- The table of a list of templates and patterns; of equal templates the last one counts, in the
place of the first. -/
def ofList (es : List (String × String)) : TemplateTable :=
  es.foldl (fun t e => t.set e.1 e.2) empty

def bundled : TemplateTable := .ofList [
  ("tasks/Task.cpp.tmpl", "tasks/\x7bbasename\x7d.cpp"),
  ("tasks/Task.hpp.tmpl", "tasks/\x7bbasename\x7d.hpp")]

end TemplateTable

structure Settings where
  outputDir : FilePath
  templateDir : Option FilePath
  referenceDir : String
  taskTemplates : TemplateTable
  tasks : List String
  force : Bool
  dryRun : Bool
deriving DecidableEq

/-- Why a template has no output path. -/
inductive OutputFault where
  | unlisted (template : String)
  | pattern (fault : Pattern.PatternFault)
deriving DecidableEq

def OutputFault.message : OutputFault → String
  | .unlisted template => quoted template
  | .pattern fault => fault.message

namespace Settings

def default : Settings where
  outputDir := .ofString "./generated"
  templateDir := none
  referenceDir := "templates"
  taskTemplates := .bundled
  tasks := []
  force := false
  dryRun := false

instance : Inhabited Settings := ⟨default⟩

/-- The name of the file in which a run leaves its settings. -/
def fileName : String := ".skelgen.json"

/-- The directory that receives fresh renderings of edited files. -/
def referencePath (s : Settings) : FilePath :=
  s.outputDir.join (.ofString s.referenceDir)

/-- The path at which a run leaves its settings. -/
def filePath (s : Settings) : FilePath :=
  s.outputDir.join (.ofString fileName)

/-- The path, as seen from the output directory, of what a template makes for a task. -/
def outputPath (s : Settings) (template basename : String) : Except OutputFault FilePath :=
  match s.taskTemplates.pattern? template with
  | none => .error (.unlisted template)
  | some pattern =>
    match Pattern.fill pattern [("basename", basename)] with
    | .ok path => .ok (.ofString path)
    | .error e => .error (.pattern e)

/-- Whether a task takes part in a run: all do if none is named. -/
def selects (s : Settings) (basename : String) : Bool :=
  s.tasks.isEmpty || s.tasks.contains basename

/-- The words that switch a setting on. -/
def affirmations : List String := ["1", "true", "yes"]

/-- The variables of the environment that settings are taken from. -/
def variableNames : List String :=
  ["SKELGEN_OUTPUT_DIR", "SKELGEN_TEMPLATE_DIR", "SKELGEN_TASKS", "SKELGEN_FORCE"]

/-- The settings that variables of the environment give. -/
def ofEnvironment (environment : List (String × String)) : Settings :=
  let value (name : String) : String := (environment.lookup name).getD ""
  let path? (name : String) : Option FilePath :=
    if (value name).isEmpty then none else some (.ofString (value name))
  { default with
    outputDir := (path? "SKELGEN_OUTPUT_DIR").getD default.outputDir
    templateDir := path? "SKELGEN_TEMPLATE_DIR"
    tasks := ((pieces ',' (value "SKELGEN_TASKS")).map trimmed).filter (!·.isEmpty)
    force := affirmations.contains (String.ofList (lower (value "SKELGEN_FORCE").toList)) }

end Settings

end Scaffold
