import Scaffold.CommandLine.Arguments
import Scaffold.Console.Notice
import Scaffold.Document
import Scaffold.Duration
import Scaffold.Generation.Basic
import Scaffold.Settings.Document
/-!
Runs of the command line: from the words, the environment and the files to what is told, how the
run ends, and the files it leaves.  Settings come from a file or from the environment, and the
words go before both.
-/

namespace Scaffold.CommandLine

open Model Console

/-- What ends a run without its being handled. -/
inductive Interruption where
  | file (fault : FileFault)
  | output (fault : OutputFault)
  | document (fault : DocumentFault)
  | misuse (cause : Misuse)
  | markup (fault : MarkupFault)
deriving DecidableEq

def Interruption.message : Interruption → String
  | .file fault => fault.message
  | .output fault => fault.message
  | .document fault => fault.message
  | .misuse cause => cause.message
  | .markup fault => fault.message

inductive Ending where
  | exit (status : Nat)
  | usage (fault : UsageFault)
  | help
  | interrupted (cause : Interruption)
deriving DecidableEq

structure Outcome where
  notices : List Notice
  ending : Ending
deriving DecidableEq

def Outcome.after (notices : List Notice) (o : Outcome) : Outcome :=
  { o with notices := notices ++ o.notices }

def interrupted (cause : Interruption) : Outcome := ⟨[], .interrupted cause⟩

/-- Shows notices one after the other and goes on.  A notice that cannot be shown interrupts the
run, with the files as they are. -/
def showing (screen : Screen) (disk : FileTree) (next : Outcome × FileTree) :
    List Notice → Outcome × FileTree
  | [] => next
  | notice :: rest =>
    match screen notice with
    | .error fault => (interrupted (.markup fault), disk)
    | .ok () =>
      let (o, disk) := showing screen disk next rest
      (o.after [notice], disk)

/-- A run that ends with a status once some notices are shown. -/
def exiting (screen : Screen) (status : Nat) (notices : List Notice) (disk : FileTree) :
    Outcome × FileTree :=
  showing screen disk (⟨[], .exit status⟩, disk) notices

/-- A run that ends because of an error that it tells. -/
def failed (screen : Screen) (text : String) (disk : FileTree) : Outcome × FileTree :=
  exiting screen 1 [.error text] disk

/-- Why a run stops before it has generated: an error to be told, or an interruption. -/
inductive Stop where
  | failure (message : String)
  | interruption (cause : Interruption)
deriving DecidableEq

def Stop.outcome (screen : Screen) (disk : FileTree) : Stop → Outcome × FileTree
  | .failure message => failed screen ("Error: " ++ message) disk
  | .interruption cause => (interrupted cause, disk)

/-- The text that an option was given, if there is one and it is not empty. -/
def given? : Option Given → Option String
  | some (.text s) => if s.isEmpty then none else some s
  | _ => none

/-- The name of a task that was asked for; nothing is a name that no task has. -/
def Given.taskName : Given → String
  | .text s => s
  | .nothing => "[]"

/-- The settings with what the arguments say put on top. -/
def Arguments.override (a : Arguments) (s : Settings) : Settings :=
  { s with
    dryRun := a.dryRun
    outputDir := ((given? a.output).map FilePath.ofString).getD s.outputDir
    templateDir := ((given? a.templateDir).map FilePath.ofString) <|> s.templateDir
    tasks := (a.tasks.filter (!·.isEmpty)).map (·.map Given.taskName) |>.getD s.tasks
    force := a.force || s.force }

def baseSettings (a : Arguments) (environment : List (String × String)) (disk : FileTree) :
    Except Stop Settings :=
  match given? a.config with
  | none => .ok (.ofEnvironment environment)
  | some path =>
    match Settings.load disk (.ofString path) with
    | .ok s => .ok s
    | .error (.unreadable .nullCharacter) => .error (.interruption (.file .nullCharacter))
    | .error (.unreadable .notText) => .error (.interruption (.file .notText))
    | .error e => .error (.failure ("cannot read settings from " ++ path ++ ": " ++ e.message))

def Stop.ofLoadFault : LoadFault → Stop
  | .unreadable e => .interruption (.file e)
  | .document e => .interruption (.document e)
  | .undescribed (.description e) => .failure e.message
  | .undescribed (.misuse cause) => .interruption (.misuse cause)

def Stop.ofGenerationFault : GenerationFault → Stop
  | .notFound e => .failure e.message
  | .template (.unreadable e) => .interruption (.file e)
  | .template e => .failure e.message
  | .output e => .interruption (.output e)
  | .file e => .interruption (.file e)

def tableOf (c : Component) (s : Settings) (r : Report) : Notice :=
  .table (c.name ++ " (" ++ (if s.dryRun then "dry run" else s.outputDir.text) ++ ")")
    (r.files.map fun f => (f.path.text, f.status.text))

/-- The warning about a file that was kept. -/
def warningOf (f : GeneratedFile) : Notice :=
  .warning (f.path.text ++ " was edited; fresh rendering written to "
    ++ ((f.reference.map FilePath.text).getD "None"))

def failureNotice (f : TaskFailure) : Notice :=
  .error (f.task ++ ": " ++ f.template ++ ":" ++ toString f.line ++ ": " ++ f.message)

def noticesOf (c : Component) (s : Settings) (r : Report) : List Notice :=
  tableOf c s r :: ((r.withStatus .kept).map warningOf ++ r.failures.map failureNotice)

/-- What is told at the end of a run that succeeded. -/
def completion (took : Seconds) : List Notice :=
  [.success ("Generation completed in " ++ took.shown), .line ""]

/-- The end of a run after its report; settings are left behind unless the run is a dry one. -/
def conclude (screen : Screen) (s : Settings) (r : Report) (took : Seconds) (disk : FileTree) :
    Outcome × FileTree :=
  if !r.success then failed screen "Generation failed." disk
  else if s.dryRun then exiting screen 0 (completion took) disk
  else
    match (s.save none).run disk with
    | (.ok path, disk) =>
      exiting screen 0 (.line ("Settings saved to " ++ path.text) :: completion took) disk
    | (.error e, disk) => (interrupted (.file e), disk)

/-- A run with its settings, up to its end.  What cannot be shown ends it there: before it
generates, or before it leaves its settings behind. -/
def generate (screen : Screen) (c : Component) (own : Ownership) (s : Settings) (took : Seconds)
    (disk : FileTree) : Outcome × FileTree :=
  let (r, _, left) := (Generator.fresh c s).generate own disk
  let generated := match r with
    | .error e => (Stop.ofGenerationFault e).outcome screen left
    | .ok report =>
      showing screen left (conclude screen s report took left) (noticesOf c s report)
  showing screen disk generated [.header ("Generating " ++ c.name)]

def runFor (screen : Screen) (a : Arguments) (environment : List (String × String))
    (took : Seconds) (disk : FileTree) : Outcome × FileTree :=
  let project := FilePath.ofString a.project
  match disk.hasEntry project with
  | .error e => (interrupted (.file e), disk)
  | .ok false =>
    (Stop.failure ("project description not found: " ++ project.text)).outcome screen disk
  | .ok true =>
    match baseSettings a environment disk with
    | .error stop => stop.outcome screen disk
    | .ok s =>
      match loadComponent .empty disk project with
      | (.error e, _) => (Stop.ofLoadFault e).outcome screen disk
      | (.ok c, own) => generate screen c own (a.override s) took disk

/-- A run of the command line; `took` is how long it lasts. -/
def run (screen : Screen) (argv : List String) (environment : List (String × String))
    (took : Seconds) (disk : FileTree) : Outcome × FileTree :=
  match parse argv with
  | .error e => (⟨[], .usage e⟩, disk)
  | .ok .help => (⟨[], .help⟩, disk)
  | .ok (.run a) => runFor screen a environment took disk

end Scaffold.CommandLine
