import Scaffold.Text.Quoted
import Scaffold.Text.Split
/-!
Usage: what the command line admits, what is said of one that it does not admit, and the help.
-/

namespace Scaffold.CommandLine

open Scaffold.Text

inductive Flag where
  | help
  | output
  | task
  | config
  | templateDir
  | force
  | dryRun
deriving DecidableEq

def spellings : List (String × Flag) := [
  ("-h", .help), ("--help", .help), ("--output", .output), ("-o", .output), ("--task", .task),
  ("--config", .config), ("--template-dir", .templateDir), ("--force", .force),
  ("--dry-run", .dryRun)]

def Flag.takesValue : Flag → Bool
  | .output | .task | .config | .templateDir => true
  | .help | .force | .dryRun => false

/-- The name of an option in messages: all its spellings. -/
def Flag.label (f : Flag) : String :=
  "/".intercalate ((spellings.filter (·.2 = f)).map (·.1))

inductive UsageFault where
  | ambiguous (word : String) (spellings : List String)
  | noValue (flag : Flag)
  | ignoredValue (flag : Flag) (value : String)
  | noProject
  | unrecognized (words : List String)
deriving DecidableEq

def UsageFault.message : UsageFault → String
  | .ambiguous word spellings =>
    "ambiguous option: " ++ word ++ " could match " ++ ", ".intercalate spellings
  | .noValue flag => "argument " ++ flag.label ++ ": expected one argument"
  | .ignoredValue flag value =>
    "argument " ++ flag.label ++ ": ignored explicit argument " ++ quoted value
  | .noProject => "the following arguments are required: project"
  | .unrecognized words => "unrecognized arguments: " ++ " ".intercalate words

def usageLines : List String := [
  "usage: skelgen [-h] [--output OUTPUT] [--task TASKS] [--config CONFIG]",
  "               [--template-dir TEMPLATE_DIR] [--force] [--dry-run]",
  "               project"]

def helpLines : List String := [
  "",
  "skelgen -- generate C++ task skeletons from a component description",
  "",
  "positional arguments:",
  "  project               Path to the component description (.yml, .yaml or",
  "                        .json)",
  "",
  "options:",
  "  -h, --help            show this help message and exit",
  "  --output OUTPUT, -o OUTPUT",
  "                        Output directory (default: $SKELGEN_OUTPUT_DIR or",
  "                        ./generated)",
  "  --task TASKS          Only generate this task (repeatable; default: all",
  "                        tasks)",
  "  --config CONFIG       Settings file saved by an earlier run (e.g.",
  "                        generated/.skelgen.json); replaces the SKELGEN_*",
  "                        environment variables",
  "  --template-dir TEMPLATE_DIR",
  "                        Template root to use instead of the bundled templates",
  "  --force               Overwrite files that were edited since they were",
  "                        generated",
  "  --dry-run             Report what would be written without touching the disk",
  "",
  "Examples:",
  "  python -m skelgen nav.yml",
  "  python -m skelgen nav.yml -o ./nav --task Controller",
  "  python -m skelgen nav.yml --dry-run",
  "  python -m skelgen nav.yml --config generated/.skelgen.json"]

def helpText : String := ofLines (usageLines ++ helpLines)

def UsageFault.report (e : UsageFault) : String :=
  ofLines (usageLines ++ ["skelgen: error: " ++ e.message])

end Scaffold.CommandLine
