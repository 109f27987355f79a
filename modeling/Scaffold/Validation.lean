import Scaffold.Value
/-!
Validation of records given as mappings.  All fields are looked at and every failure is listed, in
the order of the fields; rules over a whole record are looked at only when its fields are fine.
-/

namespace Scaffold

open Number

/-- A rule that well-formed fields break. -/
inductive Rule where
  | notIdentifier (name : String)
  | namelessType
  | noReturnType (operation : String)
  | operationTwice (operation : String)
  | taskTwice (task : String)
  | operationOwned (operation task : String)
  | taskOwned (task component : String)
deriving DecidableEq

def Rule.message : Rule → String
  | .notIdentifier name => "'" ++ name ++ "' is not a valid identifier"
  | .namelessType => "a type needs a cxx_name or a name"
  | .noReturnType operation =>
    "operation '" ++ operation ++ "' has a return value but declares no return type"
  | .operationTwice operation => "operation '" ++ operation ++ "' is declared twice"
  | .taskTwice task => "task '" ++ task ++ "' is declared twice"
  | .operationOwned operation task =>
    "operation '" ++ operation ++ "' already belongs to task " ++ task
  | .taskOwned task component =>
    "task '" ++ task ++ "' already belongs to component " ++ component

inductive Complaint where
  | missing
  | notText
  | brokenText
  | notTruth
  | unclearTruth
  | notTuple
  | notList
  | notArray
  | notMapping
  | notObject
  | notInstance (className : String)
  | notPath
  | frozen
  | badJson
  | broken (rule : Rule)
deriving DecidableEq

def Complaint.message : Complaint → String
  | .missing => "Field required"
  | .notText => "Input should be a valid string"
  | .brokenText =>
    "Input should be a valid string, unable to parse raw data as a unicode string"
  | .notTruth => "Input should be a valid boolean"
  | .unclearTruth => "Input should be a valid boolean, unable to interpret input"
  | .notTuple => "Input should be a valid tuple"
  | .notList => "Input should be a valid list"
  | .notArray => "Input should be a valid array"
  | .notMapping => "Input should be a valid dictionary"
  | .notObject => "Input should be an object"
  | .notInstance className =>
    "Input should be a valid dictionary or instance of " ++ className
  | .notPath => "Input is not a valid path for <class 'pathlib.Path'>"
  | .frozen => "Instance is frozen"
  | .badJson => "Invalid JSON"
  | .broken rule => "Value error, " ++ rule.message

/-- A complaint and where in the record it lies; a complaint about the whole has no place. -/
structure Finding where
  place : List String
  complaint : Complaint
deriving DecidableEq

/-- The finding seen from one level further out. -/
def Finding.under (f : Finding) (part : String) : Finding :=
  { f with place := part :: f.place }

/-- A part of a place as it is shown: marked off if it holds a point, as points join the parts. -/
def shownPart (part : String) : String :=
  if part.toList.contains '.' then "`" ++ part ++ "`" else part

def Finding.lines (f : Finding) : List String :=
  (if f.place.isEmpty then [] else [".".intercalate (f.place.map shownPart)])
    ++ ["  " ++ f.complaint.message]

/-- A record of a class that was refused. -/
structure ValidationFault where
  className : String
  findings : List Finding
deriving DecidableEq

def ValidationFault.message (e : ValidationFault) : String :=
  let n := e.findings.length
  let heading := toString n ++ (if n = 1 then " validation error" else " validation errors")
    ++ " for " ++ e.className
  "\n".intercalate (heading :: e.findings.flatMap Finding.lines)

/-- A checked value, or all that is wrong with it. -/
abbrev Check (α : Type) := Except (List Finding) α

def complain {α : Type} (c : Complaint) : Check α :=
  .error [⟨[], c⟩]

def Check.map {α β : Type} (f : α → β) : Check α → Check β
  | .ok a => .ok (f a)
  | .error es => .error es

/-- Looks at one more field: its findings come after those of the fields before. -/
def Check.ap {α β : Type} (f : Check (α → β)) (a : Check α) : Check β :=
  match f, a with
  | .ok f, .ok a => .ok (f a)
  | .ok _, .error es => .error es
  | .error es, .ok _ => .error es
  | .error es, .error fs => .error (es ++ fs)

def Check.under {α : Type} (part : String) : Check α → Check α
  | .ok a => .ok a
  | .error es => .error (es.map (·.under part))

/-- Checks every element of a sequence under its position. -/
def checkAll {α β : Type} (check : α → Check β) : Nat → List α → Check (List β)
  | _, [] => .ok []
  | n, a :: as =>
    (((check a).under (toString n)).map List.cons).ap (checkAll check (n + 1) as)

/-- The text that bytes encode. -/
def textOfBytes? (bs : List UInt8) : Option String :=
  String.fromUTF8? ⟨bs.toArray⟩

/-- A text, or bytes that encode one.  A half of a pair is let through, as what stands for it. -/
def checkText : Value → Check String
  | .text s => .ok s
  | .scalar (.unpaired points) => .ok (Text.replacedText points)
  | .scalar (.bytes bs) =>
    match textOfBytes? bs with
    | some s => .ok s
    | none => complain .brokenText
  | _ => complain .notText

def truthWords : List (String × Bool) :=
  [("0", false), ("off", false), ("f", false), ("false", false), ("n", false), ("no", false),
    ("1", true), ("on", true), ("t", true), ("true", true), ("y", true), ("yes", true)]

/-- The bound of 64-bit whole numbers. -/
def wordBound : Nat := Nat.pow 2 63

/-- A double as a truth value: zero and one are, other whole numbers of 64 bits are unclear. -/
def truthOfDouble (x : Double) : Check Bool :=
  match x.toFraction? with
  | none => complain .notTruth
  | some (num, den) =>
    if num = 0 then .ok false
    else if num = den then .ok true
    else if num % den = 0 ∧ num.natAbs / den < wordBound then complain .unclearTruth
    else complain .notTruth

def truthOfInt (n : Int) : Check Bool :=
  if n = 0 then .ok false
  else if n = 1 then .ok true
  else if -(wordBound : Int) ≤ n ∧ n < wordBound then complain .unclearTruth
  else complain .notTruth

/-- A word as a truth value, in any case. -/
def truthOfWord (s : String) : Check Bool :=
  match truthWords.lookup (String.ofList (s.toList.map Char.toLower)) with
  | some b => .ok b
  | none => complain .unclearTruth

/-- A truth value, or what stands for one: zero, one, or one of the words. -/
def checkTruth : Value → Check Bool
  | .bool b => .ok b
  | .int n => truthOfInt n
  | .real x => truthOfDouble x
  | .text s => truthOfWord s
  | .scalar (.unpaired _) => complain .brokenText
  | .scalar (.bytes bs) =>
    match textOfBytes? bs with
    | some s => truthOfWord s
    | none => complain .unclearTruth
  | _ => complain .notTruth

end Scaffold
