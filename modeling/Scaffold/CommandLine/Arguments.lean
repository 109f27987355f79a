import Scaffold.CommandLine.Usage
import Scaffold.Text.Digit
/-!
Arguments: what the words of a command line say.  Options may be shortened as long as one spelling
is meant, and may stand before or behind the project.  After a double hyphen nothing is an option.
-/

namespace Scaffold.CommandLine

open Text

/-- What an option is given: a text, or nothing, for which a double hyphen stands. -/
inductive Given where
  | text (s : String)
  | nothing
deriving DecidableEq

def Given.ofText (s : String) : Given :=
  if s = "--" then .nothing else .text s

/-- What a command line asks for. -/
structure Arguments where
  project : String
  output : Option Given
  tasks : Option (List Given)
  config : Option Given
  templateDir : Option Given
  force : Bool
  dryRun : Bool
deriving DecidableEq, Inhabited

/-- A word of the command line: text of its own, the double hyphen, an option with what is written
behind its spelling in the same word, or an option that there is not.  `short` tells that the
spelling has one hyphen. -/
inductive Word where
  | plain (s : String)
  | separator
  | option (flag : Flag) (short : Bool) (value : Option (List Char))
  | unknown (s : String)
deriving DecidableEq

def isDigits (cs : List Char) : Bool :=
  !cs.isEmpty && cs.all isDecimal

def isNegativeNumber : List Char → Bool
  | '-' :: cs =>
    let cs := if cs.getLast? = some '\n' then cs.dropLast else cs
    isDigits cs || (cs.contains '.' && (cs.takeWhile (· != '.')).all isDecimal
      && isDigits ((cs.dropWhile (· != '.')).drop 1))
  | _ => false

/-- The text before the first equals sign, and the text after it if there is one. -/
def splitValue (cs : List Char) : List Char × Option (List Char) :=
  (cs.takeWhile (· != '='),
    match cs.dropWhile (· != '=') with
    | [] => none
    | _ :: value => some value)

/-- Whether a spelling has one hyphen. -/
def isShort (cs : List Char) : Bool :=
  cs[1]? ≠ some '-'

def flagOf? (cs : List Char) : Option Flag :=
  spellings.lookup (String.ofList cs)

/-- The options that a word with two hyphens may be short for, each with its spelling. -/
def longMatches (cs : List Char) : List (String × Word) :=
  let (start, value) := splitValue cs
  (spellings.filter fun s => start.isPrefixOf s.1.toList).map fun s =>
    (s.1, .option s.2 (isShort s.1.toList) value)

/-- The options that a word with one hyphen may stand for: the one of its letter, with the rest of
the word as its value. -/
def shortMatches (cs : List Char) : List (String × Word) :=
  spellings.filterMap fun s =>
    if s.1.toList = cs.take 2 then some (s.1, .option s.2 true (some (cs.drop 2)))
    else if cs.isPrefixOf s.1.toList then
      some (s.1, .option s.2 (isShort s.1.toList) none)
    else none

/-- What a word is that is spelled like an option, but like none exactly. -/
def guess (s : String) (cs : List Char) : Except UsageFault Word :=
  let found := if isShort cs then shortMatches cs else longMatches cs
  match found with
  | [m] => .ok m.2
  | [] => .ok (if isNegativeNumber cs || cs.contains ' ' then .plain s else .unknown s)
  | ms => .error (.ambiguous s (ms.map (·.1)))

/-- What a word before the double hyphen is. -/
def wordOf (s : String) : Except UsageFault Word :=
  let cs := s.toList
  if cs.head? ≠ some '-' then .ok (.plain s)
  else
    match flagOf? cs with
    | some f => .ok (.option f (isShort cs) none)
    | none =>
      if cs.length = 1 then .ok (.plain s)
      else
        let (spelling, value) := splitValue cs
        match flagOf? spelling, value with
        | some f, some v => .ok (.option f (isShort spelling) (some v))
        | _, _ => guess s cs

def wordsOf : List String → Except UsageFault (List Word)
  | [] => .ok []
  | s :: rest =>
    if s = "--" then .ok (.separator :: rest.map .plain)
    else do
      let w ← wordOf s
      return w :: (← wordsOf rest)

/-- Letters of options in one word, behind one that takes no value: each takes none either, or takes
the rest of the word or the next word as its value.  `follows` tells that a value comes next. -/
def checkCluster (follows : Bool) (flag : Flag) : List Char → Except UsageFault Unit
  | [] => .error (.ignoredValue flag "")
  | c :: rest =>
    match flagOf? ['-', c], rest with
    | none, rest => .error (.ignoredValue flag (String.ofList (c :: rest)))
    | some f, [] => if f.takesValue && !follows then .error (.noValue f) else .ok ()
    | some f, rest => if f.takesValue then .ok () else checkCluster follows f rest

/-- What the words read so far say, and the words that say nothing, in reverse. -/
structure Progress where
  project : Option String
  arguments : Arguments
  extra : List String

def Progress.start : Progress := ⟨none, ⟨"", none, none, none, none, false, false⟩, []⟩

/-- An option that takes a value is given one. -/
def Arguments.give (a : Arguments) (value : String) : Flag → Arguments
  | .output => { a with output := some (.ofText value) }
  | .task => { a with tasks := some (a.tasks.getD [] ++ [.ofText value]) }
  | .config => { a with config := some (.ofText value) }
  | .templateDir => { a with templateDir := some (.ofText value) }
  | .help | .force | .dryRun => a

def Arguments.turnOn (a : Arguments) : Flag → Arguments
  | .force => { a with force := true }
  | .dryRun => { a with dryRun := true }
  | .help | .output | .task | .config | .templateDir => a

/-- What a command line comes to: arguments, or the wish for help. -/
inductive Request where
  | run (arguments : Arguments)
  | help
deriving DecidableEq

def Progress.change (p : Progress) (f : Arguments → Arguments) : Progress :=
  { p with arguments := f p.arguments }

/-- The progress with a word that says nothing. -/
def Progress.pass (p : Progress) (s : String) : Progress :=
  { p with extra := s :: p.extra }

/-- What the words come to in the end. -/
def Progress.finish (p : Progress) : Except UsageFault Request :=
  match p.project with
  | none => .error .noProject
  | some project =>
    if p.extra.isEmpty then .ok (.run { p.arguments with project })
    else .error (.unrecognized p.extra.reverse)

/-- Reads words.  The first text of its own is the project; an option asks for help as soon as it
is read. -/
def readWords (p : Progress) : List Word → Except UsageFault Request
  | [] => p.finish
  | .plain s :: rest =>
    match p.project, rest with
    | some _, rest => readWords (p.pass s) rest
    | none, .separator :: rest => readWords { p with project := some s } rest
    | none, rest => readWords { p with project := some s } rest
  | .separator :: rest =>
    match p.project, rest with
    | none, .plain s :: rest => readWords { p with project := some s } rest
    | _, rest => readWords (p.pass "--") rest
  | .unknown s :: rest => readWords (p.pass s) rest
  | .option f short value :: rest =>
    if f.takesValue then
      match value, rest with
      | some v, rest => readWords (p.change (·.give (String.ofList v) f)) rest
      | none, .plain s :: rest => readWords (p.change (·.give s f)) rest
      | none, _ => .error (.noValue f)
    else
      match value with
      | none => if f = .help then .ok .help else readWords (p.change (·.turnOn f)) rest
      | some v =>
        if short then
          let follows := match rest with
            | .plain _ :: _ => true
            | _ => false
          match checkCluster follows f v with
          | .error e => .error e
          | .ok () => .ok .help
        else .error (.ignoredValue f (String.ofList v))

def parse (argv : List String) : Except UsageFault Request := do
  readWords .start (← wordsOf argv)

end Scaffold.CommandLine
