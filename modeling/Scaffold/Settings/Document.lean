import Scaffold.Files.Tree
import Scaffold.Json.Reader
import Scaffold.Json.Writer
import Scaffold.Settings.Basic
import Scaffold.Validation
/-!
Settings as records of named fields and as JSON documents.  A document leaves out the switches that
hold for one run only, so reading it never turns them on.
-/

namespace Scaffold

/-- Where the fields of settings come from: values of a program, or a document. -/
inductive FieldOrigin where
  | values
  | document
deriving DecidableEq

def FieldOrigin.notList : FieldOrigin → Complaint
  | .values => .notList
  | .document => .notArray

def FieldOrigin.notMapping : FieldOrigin → Complaint
  | .values => .notMapping
  | .document => .notObject

def checkPath : Value → Check FilePath
  | .text s => .ok (.ofString s)
  | _ => complain .notPath

def checkPath? : Value → Check (Option FilePath)
  | .null => .ok none
  | v => (checkPath v).map some

def checkTexts (origin : FieldOrigin) : Value → Check (List String)
  | .list vs => checkAll checkText 0 vs
  | .tuple vs => checkAll checkText 0 vs
  | _ => complain origin.notList

def checkKey : Scalar → Check String
  | .text s => .ok s
  | k => ((complain .notText : Check String).under "[key]").under k.shown

/-- The name of an entry in the place of a finding. -/
def keyName : Scalar → String
  | .text s => s
  | k => k.shown

/-- Entries that give a text for each text. -/
def checkEntries : List (Scalar × Value) → Check (List (String × String))
  | [] => .ok []
  | (k, v) :: rest =>
    (((checkKey k).map fun s t (es : List (String × String)) => (s, t) :: es).ap
      ((checkText v).under (keyName k))).ap (checkEntries rest)

def checkTable (origin : FieldOrigin) : Value → Check TemplateTable
  | .dict es => (checkEntries es).map .ofList
  | _ => complain origin.notMapping

def checkField {α : Type} (fields : List (Scalar × Value)) (name : String) (default : α)
    (check : Value → Check α) : Check α :=
  match fieldOf? fields name with
  | some v => (check v).under name
  | none => .ok default

namespace Settings

/-- The name of the record in messages. -/
def className : String := "GeneratorConfig"

/-- The settings that named fields give. -/
def check (origin : FieldOrigin) (fields : List (Scalar × Value)) : Check Settings :=
  (((((((checkField fields "output_dir" default.outputDir checkPath).map Settings.mk).ap
    (checkField fields "template_dir" default.templateDir checkPath?)).ap
    (checkField fields "reference_dir" default.referenceDir checkText)).ap
    (checkField fields "task_templates" default.taskTemplates (checkTable origin))).ap
    (checkField fields "tasks" default.tasks (checkTexts origin))).ap
    (checkField fields "force" default.force checkTruth)).ap
    (checkField fields "dry_run" default.dryRun checkTruth)

/-- Checked settings, or the refusal of their record. -/
def ofCheck : Check Settings → Except ValidationFault Settings
  | .ok s => .ok s
  | .error fs => .error ⟨className, fs⟩

def ofFields (fields : List (Scalar × Value)) : Except ValidationFault Settings :=
  ofCheck (check .values fields)

/-- The settings that a JSON text gives.  Of equal names of fields the last one counts; of equal
templates in the table all are checked. -/
def ofJson (s : String) : Except ValidationFault Settings :=
  ofCheck <| match Json.read Json.settings s with
    | .error _ => complain .badJson
    | .ok (.dict fields) =>
      check .document (fields.foldl (fun fs e => setEntry fs e.1 e.2) [])
    | .ok _ => complain .notObject

def toValue (s : Settings) : Value := .dict [
  (.text "output_dir", .text s.outputDir.text),
  (.text "template_dir", (s.templateDir.map fun p => Value.text p.text).getD .null),
  (.text "reference_dir", .text s.referenceDir),
  (.text "task_templates", .dict (s.taskTemplates.entries.map fun e => (.text e.1, .text e.2))),
  (.text "tasks", .list (s.tasks.map .text))]

def toJson (s : Settings) : String :=
  Json.write Json.indented s.toValue

inductive LoadFault where
  | unreadable (fault : FileFault)
  | invalid (fault : ValidationFault)
deriving DecidableEq

def LoadFault.message : LoadFault → String
  | .unreadable fault => fault.message
  | .invalid fault => fault.message

def load (disk : FileTree) (path : FilePath) : Except LoadFault Settings :=
  match disk.readText path with
  | .error e => .error (.unreadable e)
  | .ok s => (ofJson s).mapError .invalid

/-- Leaves the settings in a file, and says in which one. -/
def save (s : Settings) (path : Option FilePath) : Disk FilePath := do
  let path := path.getD s.filePath
  FileTree.writeText path s.toJson
  return path

end Settings

end Scaffold
