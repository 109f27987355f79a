import Scaffold.Template.Bundled
import Scaffold.Template.Basic
/-!
Registries of templates: the templates below one directory, each read and parsed when it is first
asked for and kept from then on.  A template is known by the path it was asked for.
-/

namespace Scaffold.Template

/-- Where the templates of a registry are. -/
inductive Folder where
  | bundled
  | directory (path : FilePath)
deriving DecidableEq, Inhabited

def Folder.text : Folder → String
  | .bundled => "<bundled>"
  | .directory path => path.text

/-- The files that the paths of a folder lead into. -/
def Folder.tree (disk : FileTree) : Folder → FileTree
  | .bundled => bundledTree
  | .directory _ => disk

def Folder.path : Folder → FilePath
  | .bundled => .here
  | .directory path => path

inductive LookupFault where
  | notFound (path : String) (folder : Folder)
  | malformed (fault : SyntaxFault)
  | unreadable (fault : FileFault)
deriving DecidableEq

def LookupFault.message : LookupFault → String
  | .notFound path folder => "no template " ++ path ++ " in " ++ folder.text
  | .malformed fault => fault.message
  | .unreadable fault => fault.message

/-- A fault of files as seen from outside of the folder. -/
def Folder.outside (folder : Folder) : FileFault → FileFault
  | .obstacle o path =>
    .obstacle o (if folder = .bundled then (FilePath.ofString folder.text).join path else path)
  | fault => fault

/-- The text of the file at a path of a folder, if there is one. -/
def Folder.source (disk : FileTree) (folder : Folder) (path : String) :
    Except FileFault (Option String) := do
  let files := folder.tree disk
  let file := folder.path.join (.ofString path)
  if ← files.isFile file then (files.readText file).map some else return none

/-- The template at a path of a folder, as it is on the disk. -/
def Folder.load (disk : FileTree) (folder : Folder) (path : String) :
    Except LookupFault Template :=
  match folder.source disk path with
  | .ok (some source) => (Template.parse source path).mapError .malformed
  | .ok none => .error (.notFound path folder)
  | .error e => .error (.unreadable (folder.outside e))

/-- A folder of templates and those that were had from it so far. -/
structure Registry where
  folder : Folder
  known : List (String × Template)
deriving Inhabited

namespace Registry

def fresh (folder : Folder) : Registry := ⟨folder, []⟩

/-- The registry with a template known under a path. -/
def know (r : Registry) (path : String) (t : Template) : Registry :=
  { r with known := (path, t) :: r.known }

def get (disk : FileTree) (r : Registry) (path : String) :
    Except LookupFault Template × Registry :=
  match r.known.lookup path with
  | some t => (.ok t, r)
  | none =>
    match r.folder.load disk path with
    | .ok t => (.ok t, r.know path t)
    | .error e => (.error e, r)

/-- What the paths of templates end with. -/
def templateSuffix : String := ".tmpl"

/-- A name that ends as those of templates do. -/
def isTemplateName (name : String) : Bool :=
  templateSuffix.toList.isSuffixOf name.toList

/-- The paths below a directory of the folder whose last names end as those of templates do, as
seen from the folder, in order.  All directories below are looked into, which takes that their paths
are not too long. -/
def list (disk : FileTree) (r : Registry) (start : String) : Except FileFault (List String) := do
  let files := r.folder.tree disk
  let dir := r.folder.path.join (.ofString start)
  match ← (files.look dir).mapError r.folder.outside, files.placeOf dir with
  | some .directory, .ok place =>
    let found := files.below place
    let pathTo (names : Place) := dir.join (.ofString ("/".intercalate names))
    let hidden := found.find? fun e =>
      e.2 = .directory && FileTree.pathLimit < (pathTo e.1).text.utf8ByteSize
    match hidden with
    | some e => throw (r.folder.outside (.obstacle .tooLong (pathTo e.1)))
    | none =>
      let names := (found.map (·.1)).filter (·.getLast?.any isTemplateName)
      let paths := names.filterMap fun names => (pathTo names).relativeTo? r.folder.path
      return (paths.map FilePath.text).mergeSort (decide <| · ≤ ·)
  | _, _ => return []

end Registry

end Scaffold.Template
