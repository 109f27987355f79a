import Scaffold.CommandLine.Run
/-!
Consulted files: the paths that a run looks at, so that no more than these need to be known of a
disk before it starts.
-/

namespace Scaffold.CommandLine

open Model

/-- The templates of a run, if they are files of its own. -/
def templatePaths (s : Settings) : List FilePath :=
  match s.templateDir with
  | none => []
  | some dir => s.taskTemplates.templates.map fun template => dir.join (.ofString template)

/-- The paths that the renderings of a task are written to or compared with. -/
def taskPaths (s : Settings) (t : Task) : List FilePath :=
  s.taskTemplates.templates.flatMap fun template =>
    match s.outputPath template t.basename with
    | .ok relative => [s.outputDir.join relative, s.referencePath.join relative]
    | .error _ => []

def generationPaths (c : Component) (s : Settings) : List FilePath :=
  s.filePath :: (templatePaths s ++ c.tasks.flatMap (taskPaths s))

/-- The paths that a run for arguments looks at, as far as the files known so far tell. -/
def Arguments.paths (a : Arguments) (environment : List (String × String)) (disk : FileTree) :
    List FilePath :=
  let project := FilePath.ofString a.project
  let config := (given? a.config).toList.map FilePath.ofString
  let generation :=
    match baseSettings a environment disk, loadComponent .empty disk project with
    | .ok s, (.ok c, _) => generationPaths c (a.override s)
    | _, _ => []
  project :: (config ++ generation)

/-- The paths that a run looks at, as far as the files known so far tell. -/
def consulted (argv : List String) (environment : List (String × String)) (disk : FileTree) :
    List FilePath :=
  match parse argv with
  | .ok (.run a) => a.paths environment disk
  | _ => []

/-- The places that a path leads through, from its start to its end. -/
def placesAlong (here : Place) (p : FilePath) : List Place :=
  let step (place : Place) (name : String) : Place :=
    if name = ".." then place.dropLast else place ++ [name]
  let start := if p.root = .here then here else []
  (List.range (p.parts.length + 1)).map fun n => (p.parts.take n).foldl step start

end Scaffold.CommandLine
