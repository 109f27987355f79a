import Scaffold.Text.Split
/-!
Paths of files: a root and the names that lead down from it.  Empty names and single dots are
dropped when a path is read, double dots are kept, so that equal paths are equal texts.
-/

namespace Scaffold

/-- Where a path starts: at the working directory, or at the top, written with one slash or, in
the one case where it is kept, with two. -/
inductive PathRoot where
  | here
  | top
  | doubleTop
deriving DecidableEq, Inhabited

def PathRoot.text : PathRoot → String
  | .here => ""
  | .top => "/"
  | .doubleTop => "//"

def PathRoot.of : List Char → PathRoot
  | '/' :: '/' :: '/' :: _ => .top
  | '/' :: '/' :: _ => .doubleTop
  | '/' :: _ => .top
  | _ => .here

/-- A name within a path: neither empty nor a single dot, and without a slash. -/
def IsPart (s : String) : Prop :=
  s ≠ "" ∧ s ≠ "." ∧ '/' ∉ s.toList

instance (s : String) : Decidable (IsPart s) :=
  inferInstanceAs (Decidable (s ≠ "" ∧ s ≠ "." ∧ '/' ∉ s.toList))

structure FilePath where
  root : PathRoot
  parts : List String
  proper : ∀ s ∈ parts, IsPart s
deriving DecidableEq

namespace FilePath

/-- The path of the working directory. -/
def here : FilePath := ⟨.here, [], by simp⟩

instance : Inhabited FilePath := ⟨here⟩

def ofString (s : String) : FilePath :=
  ⟨.of s.toList, (Text.pieces '/' s).filter (decide <| IsPart ·), fun _ h => by
    simpa using (List.mem_filter.1 h).2⟩

def text (p : FilePath) : String :=
  if p = here then "." else p.root.text ++ "/".intercalate p.parts

/-- A path seen from another one: a path with a root of its own stays as it is. -/
def join (p q : FilePath) : FilePath :=
  if q.root = .here then
    ⟨p.root, p.parts ++ q.parts, fun s h => (List.mem_append.1 h).elim (p.proper s) (q.proper s)⟩
  else q

/-- The path without its last name. -/
def parent (p : FilePath) : FilePath :=
  ⟨p.root, p.parts.dropLast, fun s h => p.proper s (List.dropLast_subset _ h)⟩

/-- The last name of a path; there is none at its root. -/
def name (p : FilePath) : String :=
  p.parts.getLast?.getD ""

/-- The part of a name from its last dot on, if something stands before and after that dot. -/
def suffixOf (name : List Char) : List Char :=
  let stem := (name.reverse.dropWhile (· != '.')).reverse
  let ending := (name.reverse.takeWhile (· != '.')).reverse
  if stem.length ≤ 1 || ending.isEmpty then [] else '.' :: ending

def suffix (p : FilePath) : String :=
  String.ofList (suffixOf p.name.toList)

/-- A path that lies under a directory, as it is seen from there. -/
def relativeTo? (p dir : FilePath) : Option FilePath :=
  if p.root = dir.root ∧ dir.parts.isPrefixOf p.parts then
    some ⟨.here, p.parts.drop dir.parts.length, fun s h => p.proper s (List.mem_of_mem_drop h)⟩
  else none

/-- A path with a character that no file name may have. -/
def hasNull (p : FilePath) : Bool :=
  p.parts.any fun s => s.toList.contains '\x00'

end FilePath

end Scaffold
