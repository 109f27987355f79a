import Scaffold.Files.Tree
import Scaffold.Generation.Report
import Scaffold.Settings.Basic
/-!
Writing of renderings.  A file that is missing is made, one that already has the text of the
rendering is left alone.  Any other file was edited: it is kept, and the rendering goes to the
reference directory, unless overwriting is forced.
-/

namespace Scaffold

/-- What becomes of an output file: `found` is the text of the file that is there. -/
def statusOf (s : Settings) (found : Option String) (content : String) : FileStatus :=
  match found with
  | none => .created
  | some text => if text = content then .unchanged else if s.force then .overwritten else .kept

def foundText (disk : FileTree) (p : FilePath) : Except FileFault (Option String) := do
  if ← disk.hasEntry p then (disk.readText p).map some else return none

/-- Where a rendering is written, if it is written at all. -/
def destination? (s : Settings) (relative : FilePath) : FileStatus → Option FilePath
  | .created | .overwritten => some (s.outputDir.join relative)
  | .unchanged => none
  | .kept => some (s.referencePath.join relative)

/-- Writes a rendering, unless the run is a dry one, and reports on its file. -/
def writeRendering (s : Settings) (task : String) (relative : FilePath) (content : String) :
    Disk GeneratedFile := do
  let disk ← getThe FileTree
  let found ← foundText disk (s.outputDir.join relative)
  let status := statusOf s found content
  match destination? s relative status with
  | some path => if s.dryRun then pure () else FileTree.writeText path content
  | none => pure ()
  let reference := FilePath.join (.ofString s.referenceDir) relative
  return ⟨task, relative, status, if status = .kept then some reference else none⟩

def writeRenderings (s : Settings) (task : String) (texts : List (FilePath × String)) :
    Disk (List GeneratedFile) :=
  texts.mapM fun t => writeRendering s task t.1 t.2

end Scaffold
