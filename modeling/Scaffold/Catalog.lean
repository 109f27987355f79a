import Scaffold.Document
import Scaffold.Model.Signature
/-!
Catalogs: components by name.  A component is searched for in the directories of the catalog, in
order, and kept once it was had; from then on its file is not looked at again.
-/

namespace Scaffold

open Model

/-- The suffixes of descriptions, in the order in which they are tried. -/
def descriptionSuffixes : List String := [".yml", ".yaml", ".json"]

/-- Directories of descriptions, and the components that are known, in the order in which their
names were first heard of. -/
structure Catalog where
  directories : List FilePath
  known : List (String × Component)

/-- Why a catalog has no component or no task of some name. -/
inductive CatalogFault where
  | notFound (fault : NotFound)
  | load (fault : LoadFault)
deriving DecidableEq

namespace Catalog

def fresh (directories : List FilePath) : Catalog := ⟨directories, []⟩

/-- Where the description of a component may be, in the order in which it is looked for. -/
def candidates (c : Catalog) (name : String) : List FilePath :=
  c.directories.flatMap fun d => descriptionSuffixes.map fun s => d.join (.ofString (name ++ s))

/-- The description of a component. -/
def find? (disk : FileTree) (c : Catalog) (name : String) : Except FileFault (Option FilePath) :=
  (c.candidates name).findM? disk.isFile

/-- Whether a component is known or described. -/
def has (disk : FileTree) (c : Catalog) (name : String) : Except FileFault Bool :=
  if (c.known.lookup name).isSome then .ok true else (c.find? disk name).map (·.isSome)

/-- The entries with a component set: in place if its name is there, at the end otherwise. -/
def setComponent (name : String) (x : Component) :
    List (String × Component) → List (String × Component)
  | [] => [(name, x)]
  | e :: rest => if e.1 = name then (name, x) :: rest else e :: setComponent name x rest

/-- The catalog with a component known under its name. -/
def register (c : Catalog) (x : Component) : Catalog :=
  { c with known := setComponent x.name x c.known }

def names (c : Catalog) : List String :=
  c.known.map (·.1)

/-- The component of a name: the known one, or else the one that its description gives. -/
def component (disk : FileTree) (c : Catalog) (own : Ownership) (name : String) :
    Except CatalogFault Component × Catalog × Ownership :=
  match c.known.lookup name with
  | some x => (.ok x, c, own)
  | none =>
    match c.find? disk name with
    | .error e => (.error (.load (.unreadable e)), c, own)
    | .ok none => (.error (.notFound (.component name)), c, own)
    | .ok (some path) =>
      match loadComponent own disk path with
      | (.error e, own) => (.error (.load e), c, own)
      | (.ok x, own) =>
        if x.name = name then (.ok x, c.register x, own)
        else (.error (.load (.ofDescription path (.otherName x.name name))), c, own)

/-- The text before the first double colon and the text after it. -/
def splitQualified? : List Char → Option (List Char × List Char)
  | ':' :: ':' :: rest => some ([], rest)
  | c :: rest => (splitQualified? rest).map fun p => (c :: p.1, p.2)
  | [] => none

/-- The task of a qualified name: its component and its base name, with a double colon between. -/
def task (disk : FileTree) (c : Catalog) (own : Ownership) (name : String) :
    Except CatalogFault Task × Catalog × Ownership :=
  match splitQualified? name.toList with
  | none | some (_, []) => (.error (.notFound (.unqualified name)), c, own)
  | some (owner, basename) =>
    match c.component disk own (String.ofList owner) with
    | (.error e, c, own) => (.error e, c, own)
    | (.ok x, c, own) =>
      ((x.findTask (String.ofList basename)).mapError .notFound, c, own)

end Catalog

end Scaffold
