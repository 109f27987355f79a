import Scaffold.Files.Path
import Scaffold.Text.Quoted
/-!
File trees: the directories and files that a program sees, and what reading and writing make of
them.  A path leads from the working directory or the top down through directories that exist; its
last name may be new.  An operation that fails says at which path; directories that were made for
its sake stay.
-/

namespace Scaffold

/-- Where an entry is: the names that lead to it from the top. -/
abbrev Place := List String

inductive FileEntry where
  | file (content : ByteArray)
  | directory

instance : DecidableEq FileEntry
  | .file a, .file b =>
    match ByteArray.instDecidableEq a b with
    | isTrue h => isTrue (congrArg FileEntry.file h)
    | isFalse h => isFalse fun hf => h (FileEntry.file.inj hf)
  | .file _, .directory => isFalse nofun
  | .directory, .file _ => isFalse nofun
  | .directory, .directory => isTrue rfl

/-- The entries of a file system, seen from a working directory. -/
structure FileTree where
  here : Place
  entries : List (Place × FileEntry)

inductive Obstacle where
  | missing
  | occupied
  | notDirectory
  | isDirectory
  | tooLong
deriving DecidableEq

/-- The number and the wording of an obstacle. -/
def Obstacle.message : Obstacle → String
  | .missing => "[Errno 2] No such file or directory"
  | .occupied => "[Errno 17] File exists"
  | .notDirectory => "[Errno 20] Not a directory"
  | .isDirectory => "[Errno 21] Is a directory"
  | .tooLong => "[Errno 36] File name too long"

inductive FileFault where
  | obstacle (obstacle : Obstacle) (path : FilePath)
  | nullCharacter
  | notText
deriving DecidableEq

def FileFault.message : FileFault → String
  | .obstacle o path => o.message ++ ": " ++ Text.quoted path.text
  | .nullCharacter => "embedded null byte"
  | .notText => "the bytes of the file are no text"

/-- An operation that may change a file tree, and that leaves it changed even if it fails. -/
abbrev Disk (α : Type) := ExceptT FileFault (StateM FileTree) α

namespace FileTree

def emptyAt (here : Place) : FileTree := ⟨here, []⟩

/-- The entry at a place.  The working directory and those above it are always there. -/
def entry? (t : FileTree) (place : Place) : Option FileEntry :=
  if place.isPrefixOf t.here then some .directory else t.entries.lookup place

def set (t : FileTree) (place : Place) (e : FileEntry) : FileTree :=
  { t with entries := (place, e) :: t.entries.filter (·.1 != place) }

/-- The most bytes that a name may have. -/
def nameLimit : Nat := 255

/-- The most bytes that a path may have. -/
def pathLimit : Nat := 4095

/-- The place that names lead to from another place, through directories that exist. -/
def descend (t : FileTree) (place : Place) : List String → Except Obstacle Place
  | [] => .ok place
  | name :: rest =>
    match t.entry? place with
    | none => .error .missing
    | some (.file _) => .error .notDirectory
    | some .directory =>
      if nameLimit < name.utf8ByteSize then .error .tooLong
      else t.descend (if name = ".." then place.dropLast else place ++ [name]) rest

/-- The place that a path leads to; there need not be an entry. -/
def placeOf (t : FileTree) (p : FilePath) : Except Obstacle Place :=
  if pathLimit < p.text.utf8ByteSize then .error .tooLong
  else t.descend (if p.root = .here then t.here else []) p.parts

/-- The entry that a path leads to. -/
def find? (t : FileTree) (p : FilePath) : Option FileEntry :=
  match t.placeOf p with
  | .ok place => t.entry? place
  | .error _ => none

/-- The entry that a path leads to.  To ask is a fault only if a name is too long. -/
def look (t : FileTree) (p : FilePath) : Except FileFault (Option FileEntry) :=
  if p.hasNull then .ok none
  else
    match t.placeOf p with
    | .ok place => .ok (t.entry? place)
    | .error .tooLong => .error (.obstacle .tooLong p)
    | .error _ => .ok none

def hasEntry (t : FileTree) (p : FilePath) : Except FileFault Bool :=
  (t.look p).map (·.isSome)

def isFile (t : FileTree) (p : FilePath) : Except FileFault Bool :=
  (t.look p).map fun
    | some (.file _) => true
    | _ => false

def isDirectory (t : FileTree) (p : FilePath) : Bool :=
  match t.find? p with
  | some .directory => true
  | _ => false

def readBytes (t : FileTree) (p : FilePath) : Except FileFault ByteArray :=
  if p.hasNull then .error .nullCharacter
  else
    match t.placeOf p with
    | .error o => .error (.obstacle o p)
    | .ok place =>
      match t.entry? place with
      | none => .error (.obstacle .missing p)
      | some .directory => .error (.obstacle .isDirectory p)
      | some (.file content) => .ok content

/-- A text with every line end as a single line feed. -/
def plainLines : List Char → List Char
  | '\r' :: '\n' :: rest => '\n' :: plainLines rest
  | '\r' :: rest => '\n' :: plainLines rest
  | c :: rest => c :: plainLines rest
  | [] => []

def decode (content : ByteArray) : Except FileFault String :=
  match String.fromUTF8? content with
  | some s => .ok (String.ofList (plainLines s.toList))
  | none => .error .notText

def readText (t : FileTree) (p : FilePath) : Except FileFault String := do
  decode (← t.readBytes p)

/-- Makes a directory in one that exists. -/
def makeDirectory (p : FilePath) : Disk Unit := do
  let t ← getThe FileTree
  if p.hasNull then throw .nullCharacter
  match t.placeOf p with
  | .error o => throw (.obstacle o p)
  | .ok place =>
    match t.entry? place with
    | some _ => throw (.obstacle .occupied p)
    | none => MonadStateOf.set (t.set place .directory)

/-- Makes a directory, unless there is one. -/
def makeMissing (p : FilePath) : Disk Unit :=
  tryCatch (makeDirectory p) fun e => do
    let t ← getThe FileTree
    match e with
    | .obstacle .missing _ => throw e
    | .obstacle _ _ => if t.isDirectory p then pure () else throw e
    | _ => throw e

/-- Makes a directory and those above it, as far as they are missing; `above` bounds the number of
levels. -/
def makeAll : Nat → FilePath → Disk Unit
  | 0, p => makeMissing p
  | above + 1, p =>
    tryCatch (makeMissing p) fun e =>
      match e with
      | .obstacle .missing _ => do
        makeAll above p.parent
        makeMissing p
      | e => throw e

def makeDirectories (p : FilePath) : Disk Unit :=
  makeAll p.parts.length p

/-- Writes a file into a directory that exists. -/
def writeFile (p : FilePath) (content : ByteArray) : Disk Unit := do
  let t ← getThe FileTree
  if p.hasNull then throw .nullCharacter
  match t.placeOf p with
  | .error o => throw (.obstacle o p)
  | .ok place =>
    match t.entry? place with
    | some .directory => throw (.obstacle .isDirectory p)
    | _ => MonadStateOf.set (t.set place (.file content))

/-- Writes a text to a file and makes the directories above it. -/
def writeText (p : FilePath) (s : String) : Disk Unit := do
  makeDirectories p.parent
  writeFile p s.toUTF8

/-- The order of places, name by name. -/
def placeLe (p q : Place) : Bool :=
  match compare p q with
  | .gt => false
  | _ => true

/-- All entries.  The working directory and those above it are among them, listed or not. -/
def shown (t : FileTree) : List (Place × FileEntry) :=
  (List.range (t.here.length + 1)).map (fun n => (t.here.take n, .directory)) ++
    t.entries.filter fun e => !e.1.isPrefixOf t.here

/-- The entries below a place, in order, with the names that lead to them from there. -/
def below (t : FileTree) (place : Place) : List (Place × FileEntry) :=
  let inside := t.shown.filter fun e => place.isPrefixOf e.1 && place.length < e.1.length
  (inside.map fun e => (e.1.drop place.length, e.2)).mergeSort fun a b => placeLe a.1 b.1

end FileTree

end Scaffold
