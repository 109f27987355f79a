import Scaffold.Generation.Writing
import Scaffold.Model.Signature
import Scaffold.Template.Registry
/-!
Generation: every listed template is rendered for every selected task of a component, and the
renderings are written.  All rendering comes before any writing, and of a task that cannot be
rendered nothing is written.
-/

namespace Scaffold

open Model Template

inductive TaskFault where
  | render (fault : RenderFault)
  | output (fault : OutputFault)
  | template (fault : LookupFault)
deriving DecidableEq

/-- Why a run was given up. -/
inductive GenerationFault where
  | notFound (fault : NotFound)
  | template (fault : LookupFault)
  | output (fault : OutputFault)
  | file (fault : FileFault)
deriving DecidableEq

/-- What makes the skeletons of a component: the settings say how, and the templates that were
read are kept. -/
structure Generator where
  component : Component
  settings : Settings
  registry : Registry

/-- The renderings of a task, by their paths as seen from the output directory. -/
abbrev Renderings := List (FilePath × String)

/-- The renderings with one more: in place if its path is there, at the end otherwise. -/
def setRendering (path : FilePath) (text : String) : Renderings → Renderings
  | [] => [(path, text)]
  | r :: rest => if r.1 = path then (path, text) :: rest else r :: setRendering path text rest

namespace Generator

def folderOf (s : Settings) : Folder :=
  match s.templateDir with
  | none => .bundled
  | some dir => .directory dir

def fresh (c : Component) (s : Settings) : Generator :=
  ⟨c, s, .fresh (folderOf s)⟩

def withOutput (g : Generator) (dir : FilePath) : Generator :=
  { g with settings := { g.settings with outputDir := dir } }

/-- The tasks of a run, in the order of the component; a task that is named has to be there. -/
def selected (g : Generator) : Except NotFound (List Task) := do
  let _ ← g.settings.tasks.mapM g.component.findTask
  return g.component.tasks.filter (g.settings.selects ·.basename)

/-- Renders templates for a task, after those that were rendered before. -/
def renderFrom (own : Ownership) (disk : FileTree) (s : Settings) (t : Task) :
    Registry → List String → Renderings → Except TaskFault Renderings × Registry
  | r, [], done => (.ok done, r)
  | r, template :: rest, done =>
    match s.outputPath template t.basename with
    | .error e => (.error (.output e), r)
    | .ok path =>
      match r.get disk template with
      | (.error e, r) => (.error (.template e), r)
      | (.ok parsed, r) =>
        match parsed.render own [taskBindings own t] with
        | .error e => (.error (.render e), r)
        | .ok text => renderFrom own disk s t r rest (setRendering path text done)

def renderTask (own : Ownership) (disk : FileTree) (g : Generator) (t : Task) :
    Except TaskFault Renderings × Generator :=
  let (r, registry) := renderFrom own disk g.settings t g.registry
    g.settings.taskTemplates.templates []
  (r, { g with registry })

/-- Reads templates, so that each of them is known. -/
def readTemplates (disk : FileTree) :
    Registry → List String → Except LookupFault Unit × Registry
  | r, [] => (.ok (), r)
  | r, template :: rest =>
    match r.get disk template with
    | (.error e, r) => (.error e, r)
    | (.ok _, r) => readTemplates disk r rest

/-- The tasks of a run, once all its templates are known. -/
def prepare (disk : FileTree) (g : Generator) :
    Except GenerationFault (List Task) × Generator :=
  match g.selected with
  | .error e => (.error (.notFound e), g)
  | .ok tasks =>
    let (r, registry) := readTemplates disk g.registry g.settings.taskTemplates.templates
    let g := { g with registry }
    match r with
    | .error e => (.error (.template e), g)
    | .ok () => (.ok tasks, g)

def failureOf (task : String) (e : RenderFault) : TaskFailure :=
  ⟨task, e.template, e.line, e.cause.message⟩

/-- Writes the renderings of tasks and reports on them.  A fault other than one of rendering ends
the run at its task. -/
def writeAll (own : Ownership) (s : Settings) :
    List (Task × Except TaskFault Renderings) →
      ExceptT GenerationFault (StateM FileTree) Report
  | [] => pure .empty
  | (t, .ok texts) :: rest => do
    let files ← ExceptT.adapt .file (writeRenderings s (t.name own) texts)
    return (← writeAll own s rest).addFiles files
  | (t, .error (.render e)) :: rest => do
    return (← writeAll own s rest).addFailure (failureOf (t.name own) e)
  | (_, .error (.output e)) :: _ => throw (.output e)
  | (_, .error (.template e)) :: _ => throw (.template e)

/-- Runs a generator: the report, the generator with the templates it has read, and the files. -/
def generate (own : Ownership) (disk : FileTree) (g : Generator) :
    Except GenerationFault Report × Generator × FileTree :=
  match g.prepare disk with
  | (.error e, g) => (.error e, g, disk)
  | (.ok tasks, g) =>
    let outcomes := tasks.map fun t => (t, (g.renderTask own disk t).1)
    let (r, disk) := (writeAll own g.settings outcomes).run disk
    (r, g, disk)

/-- Runs a generator, with another output directory if one is given; the generator keeps it. -/
def generateTo (own : Ownership) (disk : FileTree) (output : Option FilePath) (g : Generator) :
    Except GenerationFault Report × Generator × FileTree :=
  (output.elim g g.withOutput).generate own disk

end Generator

end Scaffold
