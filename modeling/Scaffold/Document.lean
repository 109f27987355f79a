import Scaffold.Description
import Scaffold.Files.Tree
import Scaffold.Json.Reader
import Scaffold.Yaml.Reader
/-!
Documents: files that describe a component, in JSON or YAML.  The suffix of the path alone decides
which of the two is read.
-/

namespace Scaffold

open Model

inductive DocumentFault where
  | json (fault : Json.Fault)
  | yaml (fault : Yaml.Fault)
deriving DecidableEq

def DocumentFault.message : DocumentFault → String
  | .json fault => fault.message
  | .yaml fault => fault.message

def readDocument (path : FilePath) (s : String) : Except DocumentFault Value :=
  if path.suffix = ".json" then
    ((Json.read Json.descriptions s).map Value.settled).mapError .json
  else (Yaml.read s).mapError .yaml

/-- Why no component was had from a file. -/
inductive LoadFault where
  | unreadable (fault : FileFault)
  | document (fault : DocumentFault)
  | undescribed (fault : ComponentError)
deriving DecidableEq

def LoadFault.ofDescription (path : FilePath) (fault : DescriptionFault) : LoadFault :=
  .undescribed (.description ⟨path.text, fault⟩)

/-- A fault of the document at a path: a malformed one is a fault of the description. -/
def LoadFault.ofDocument (path : FilePath) : DocumentFault → LoadFault
  | .json .malformed => .ofDescription path .unparsable
  | .yaml .malformed => .ofDescription path .unparsable
  | fault => .document fault

def loadComponent (own : Ownership) (disk : FileTree) (path : FilePath) :
    Except LoadFault Component × Ownership :=
  match disk.readText path with
  | .error e => (.error (.unreadable e), own)
  | .ok s =>
    match readDocument path s with
    | .error e => (.error (.ofDocument path e), own)
    | .ok data =>
      let (r, own) := componentOf own data path.text
      (r.mapError .undescribed, own)

end Scaffold
