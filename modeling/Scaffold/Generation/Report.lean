import Scaffold.Files.Path
/-!
Reports: what became of each file of a run, and which tasks could not be rendered.
-/

namespace Scaffold

/-- What happened to an output file. -/
inductive FileStatus where
  | created
  | unchanged
  | kept
  | overwritten
deriving DecidableEq

def FileStatus.text : FileStatus → String
  | .created => "created"
  | .unchanged => "unchanged"
  | .kept => "kept"
  | .overwritten => "overwritten"

/-- An output file of a run: its path as seen from the output directory, and where the fresh
rendering went if the file was kept. -/
structure GeneratedFile where
  task : String
  path : FilePath
  status : FileStatus
  reference : Option FilePath
deriving DecidableEq

/-- A task that could not be rendered, with the tag that failed and why. -/
structure TaskFailure where
  task : String
  template : String
  line : Nat
  message : String
deriving DecidableEq

structure Report where
  files : List GeneratedFile
  failures : List TaskFailure
deriving DecidableEq

namespace Report

def empty : Report := ⟨[], []⟩

def success (r : Report) : Bool :=
  r.failures.isEmpty

def withStatus (r : Report) (status : FileStatus) : List GeneratedFile :=
  r.files.filter (·.status = status)

def addFiles (files : List GeneratedFile) (r : Report) : Report :=
  { r with files := files ++ r.files }

def addFailure (failure : TaskFailure) (r : Report) : Report :=
  { r with failures := failure :: r.failures }

end Report

end Scaffold
