import Scaffold.Console.Action.Token
import Scaffold.Text.Quoted
/-!
Actions: tags that start with an at sign.  The parameters of an action are a call, of which only
what stands between its parentheses counts, or an expression; in both cases that has to be a
literal: numbers, texts, and collections of them.
-/

namespace Scaffold.Console

open Scaffold.Text

/-- Why an expression is no literal: it is not well formed, or stands for something else. -/
inductive LiteralFault where
  | token (fault : TokenFault)
  | unclosed (bracket : Char)
  | strayBackslash
  | ungrammatical
  | advice (text : String)
  | unhashable (typeName : String)
  | notLiteral
deriving DecidableEq

def LiteralFault.message : LiteralFault → String
  | .token fault => fault.message
  | .unclosed bracket => "'" ++ bracket.toString ++ "' was never closed"
  | .strayBackslash => "unexpected character after line continuation character"
  | .ungrammatical => "invalid syntax"
  | .advice text => text
  | .unhashable typeName => "unhashable type: '" ++ typeName ++ "'"
  | .notLiteral => "malformed node or string on line 1"

/-- Whether the fault lies in the form of an expression, not in what it stands for. -/
def LiteralFault.isFormal : LiteralFault → Bool
  | .unhashable _ => false
  | .notLiteral => false
  | _ => true

/-- The fault of an action: the parameters as they are written, and what of them was read. -/
structure ActionFault where
  parameters : String
  expression : String
  fault : LiteralFault
deriving DecidableEq

def ActionFault.message (e : ActionFault) : String :=
  if e.fault.isFormal then
    "error parsing " ++ quoted e.expression ++ " in " ++ quoted e.parameters ++ "; "
      ++ e.fault.message
  else "error parsing " ++ quoted e.parameters ++ "; " ++ e.fault.message

/-- An expression that was read: what it is called, whether operators alone join its parts, the
type that keeps it from being an element of a set, and why it is no literal. -/
structure Operand where
  kind : String
  joined : Bool := true
  unhashable : Option String := none
  problem : Option LiteralFault := none
deriving Inhabited

/-- An expression that is no literal. -/
def Operand.of (kind : String) (joined : Bool := true) : Operand :=
  { kind, joined, problem := some .notLiteral }

/-- Why a reading stopped: nothing goes on at some token, or something is wrong that has a wording
of its own. -/
inductive Stop where
  | stuck (rest : List ActionToken)
  | wrong (advice : String)

abbrev WithRest (α : Type) := α × List ActionToken

/-- The words that are no names. -/
def keywords : List String := ["False", "None", "True", "and", "as", "assert", "async", "await",
  "break", "class", "continue", "def", "del", "elif", "else", "except", "finally", "for", "from",
  "global", "if", "import", "in", "is", "lambda", "nonlocal", "not", "or", "pass", "raise",
  "return", "try", "while", "with", "yield"]

/-- The marks between two operands that are joined. -/
def joints : List String := ["|", "^", "&", "<<", ">>", "+", "-", "*", "/", "//", "%", "@", "**"]

/-- The marks between two operands that are compared. -/
def comparisons : List String := ["==", "!=", "<", "<=", ">", ">="]

/-- What stands between two operands that are compared, and what follows it. -/
def comparison? : List ActionToken → Option (List ActionToken)
  | .name "not" :: .name "in" :: ts => some ts
  | .name "is" :: .name "not" :: ts => some ts
  | .name s :: ts => if s = "is" ∨ s = "in" then some ts else none
  | .mark m :: ts => if comparisons.contains m then some ts else none
  | _ => none

/-- The names behind which no comma is missing. -/
def softWords : List String := ["match", "case", "_", "print", "exec"]

/-- Whether a comma may have been forgotten behind an operand that starts with some tokens. -/
def mayLackComma : List ActionToken → Bool
  | .name _ :: .text _ :: _ => false
  | .name s :: _ => !softWords.contains s
  | _ => true

def commaAdvice : String := "invalid syntax. Perhaps you forgot a comma?"

def mixtureAdvice : String := "cannot mix bytes and nonbytes literals"

/-- Whether a reading has seen all there is. -/
def isSpent : List ActionToken → Bool
  | [] => true
  | t :: _ => t == .backslash

/-- What becomes of an operand that a whole expression may follow: a comma was forgotten if it does,
and `inside` tells that there is one to be put. -/
def afterAttempt {α : Type} (inside : Bool) (attempt : Except Stop (WithRest α))
    (otherwise : Except Stop (WithRest α)) : Except Stop (WithRest α) :=
  match attempt with
  | .ok (_, rest) =>
    if !inside then otherwise
    else if isSpent rest then .error (.stuck rest)
    else .error (.wrong commaAdvice)
  | .error (.stuck rest) => if isSpent rest then .error (.stuck rest) else otherwise
  | .error (.wrong advice) =>
    if advice = mixtureAdvice ∨ (inside ∧ advice = commaAdvice) then .error (.wrong advice)
    else otherwise

/-- The kinds of operands that no advice on assigning is given for. -/
def settledKinds : List String := ["list", "tuple", "True", "False", "None"]

/-- The last advice on an equals sign between two operands. -/
def equalsAdvice (o : Operand) : Option String :=
  if o.kind = "name" then
    some "invalid syntax. Maybe you meant '==' or ':=' instead of '='?"
  else if o.joined && !settledKinds.contains o.kind then
    some ("cannot assign to " ++ o.kind ++ " here. Maybe you meant '==' instead of '='?")
  else none

/-- A collection of elements of which one is no literal is none either. -/
def firstProblem (os : List Operand) : Option LiteralFault :=
  os.findSome? (·.problem)

/-- Elements that cannot be those of a set. -/
def unhashableAmong (os : List Operand) : Option LiteralFault :=
  (os.findSome? (·.unhashable)).map .unhashable

def tupleOf (os : List Operand) : Operand where
  kind := "tuple"
  unhashable := os.findSome? (·.unhashable)
  problem := firstProblem os

def listOf (os : List Operand) : Operand where
  kind := "list"
  unhashable := some "list"
  problem := firstProblem os

def setOf (os : List Operand) : Operand where
  kind := "set display"
  unhashable := some "set"
  problem := firstProblem os <|> unhashableAmong os

def mappingOf (keys values : List Operand) : Operand where
  kind := "dict literal"
  unhashable := some "dict"
  problem := firstProblem (keys ++ values) <|> unhashableAmong keys

/-- Two operands with a mark between them: numbers make a number. -/
def join (a b : Operand) : Operand :=
  if a.kind = "literal" ∧ b.kind = "literal" then { kind := "expression" }
  else .of "expression"

mutual
/-- Reads an expression; `inside` tells that it stands in brackets. -/
def readExpression (inside : Bool) : Nat → List ActionToken → Except Stop (WithRest Operand)
  | 0, ts => .error (.stuck ts)
  | n + 1, ts => do
    let (a, rest) ← readDisjunction inside n ts
    match rest with
    | .name "if" :: more =>
      let (_, rest) ← readDisjunction inside n more
      match rest with
      | .name "else" :: more =>
        let (_, rest) ← readExpression inside n more
        .ok (.of "conditional expression" false, rest)
      | [] => if inside then .error (.stuck []) else
          .error (.wrong "expected 'else' after 'if' expression")
      | .mark ":" :: _ => .error (.stuck rest)
      | _ => .error (.wrong "expected 'else' after 'if' expression")
    | rest =>
      let told := match ts with
        | .name s :: more =>
          if (s = "print" ∨ s = "exec") ∧ more ≠ [] ∧ more.head? ≠ some (.mark "(") then
            some (s, more)
          else none
        | _ => none
      match told with
      | some (s, more) =>
        match readExpression inside n more with
        | .ok (_, rest) =>
          if inside && isSpent rest then .error (.stuck rest)
          else .error (.wrong ("Missing parentheses in call to '" ++ s ++ "'. Did you mean "
            ++ s ++ "(...)?"))
        | .error (.stuck []) => .error (.stuck [])
        | .error _ => .ok (a, rest)
      | none =>
        if mayLackComma ts && !rest.isEmpty then
          afterAttempt inside (readExpression inside n rest) (.ok (a, rest))
        else .ok (a, rest)

/-- Reads operands with `or` between them, each of them operands with `and` between them. -/
def readDisjunction (inside : Bool) : Nat → List ActionToken → Except Stop (WithRest Operand)
  | 0, ts => .error (.stuck ts)
  | n + 1, ts => do
    let (a, rest) ← readInversion inside n ts
    match rest with
    | .name s :: more =>
      if s = "or" ∨ s = "and" then
        let (_, rest) ← readDisjunction inside n more
        .ok (.of "expression" false, rest)
      else .ok (a, rest)
    | rest => .ok (a, rest)

/-- Reads operands that are compared, or the negation of that. -/
def readInversion (inside : Bool) : Nat → List ActionToken → Except Stop (WithRest Operand)
  | 0, ts => .error (.stuck ts)
  | n + 1, ts =>
    match ts with
    | .name "not" :: ts => do
      let (_, rest) ← readInversion inside n ts
      .ok (.of "expression" false, rest)
    | ts => do
      let (a, rest) ← readJoined inside n ts
      match comparison? rest with
      | some more =>
        let (_, rest) ← readInversion inside n more
        .ok (.of "comparison" false, rest)
      | none => .ok (a, rest)

def readJoined (inside : Bool) : Nat → List ActionToken → Except Stop (WithRest Operand)
  | 0, ts => .error (.stuck ts)
  | n + 1, ts => do
    let (a, rest) ← readUnary inside n ts
    match rest with
    | .mark m :: more =>
      if joints.contains m then
        let (b, rest) ← readJoined inside n more
        .ok (join a b, rest)
      else .ok (a, rest)
    | rest => .ok (a, rest)

def readUnary (inside : Bool) : Nat → List ActionToken → Except Stop (WithRest Operand)
  | 0, ts => .error (.stuck ts)
  | n + 1, .mark m :: ts =>
    if m = "-" ∨ m = "+" ∨ m = "~" then do
      let (a, rest) ← readUnary inside n ts
      .ok (if a.kind = "literal" ∧ m ≠ "~" then { kind := "expression" } else .of "expression",
        rest)
    else do
      let (a, rest) ← readAtom n (.mark m :: ts)
      readTrailers n a rest
  | n + 1, ts => do
    let (a, rest) ← readAtom n ts
    readTrailers n a rest

/-- Reads what follows an operand: members, calls and subscripts. -/
def readTrailers : Nat → Operand → List ActionToken → Except Stop (WithRest Operand)
  | 0, _, ts => .error (.stuck ts)
  | n + 1, a, ts =>
    match ts with
    | .mark "." :: .name s :: rest =>
      if keywords.contains s then .error (.stuck (.name s :: rest))
      else readTrailers n (.of "attribute") rest
    | .mark "." :: rest => .error (.stuck rest)
    | .mark "(" :: rest => do
      let rest ← readArguments n rest
      readTrailers n (.of "function call") rest.2
    | .mark "[" :: rest => do
      if rest.head? = some (.mark "]") then .error (.stuck rest)
      let rest ← readSlices n rest
      readTrailers n (.of "subscript") rest.2
    | ts => .ok (a, ts)

def readArguments : Nat → List ActionToken → Except Stop (WithRest Unit)
  | 0, ts => .error (.stuck ts)
  | n + 1, ts =>
    match ts with
    | .mark ")" :: rest => .ok ((), rest)
    | ts => do
      let start := match ts with
        | .name s :: .mark "=" :: more => if keywords.contains s then ts else more
        | .mark "*" :: more => more
        | .mark "**" :: more => more
        | ts => ts
      let (_, rest) ← readExpression true n start
      match rest with
      | .mark "," :: rest => readArguments n rest
      | .mark ")" :: rest => .ok ((), rest)
      | .mark "=" :: _ =>
        .error (.wrong "expression cannot contain assignment, perhaps you meant \"==\"?")
      | rest => .error (.stuck rest)

/-- Reads what stands between the brackets of a subscript, to its end. -/
def readSlices : Nat → List ActionToken → Except Stop (WithRest Unit)
  | 0, ts => .error (.stuck ts)
  | n + 1, ts =>
    match ts with
    | .mark "]" :: rest => .ok ((), rest)
    | .mark ":" :: rest => readSlices n rest
    | ts => do
      let (_, rest) ← readExpression true n ts
      match rest with
      | .mark "]" :: rest => .ok ((), rest)
      | .mark ":" :: rest => readSlices n rest
      | .mark "," :: rest => readSlices n rest
      | rest => .error (.stuck rest)

/-- Reads an element of a collection, which may be named or unpacked. -/
def readElement : Nat → List ActionToken → Except Stop (WithRest Operand)
  | 0, ts => .error (.stuck ts)
  | n + 1, .mark "*" :: ts =>
    match readExpression true n ts with
    | .ok (_, rest) => .ok (.of "starred" false, rest)
    | .error (.stuck rest) =>
      if isSpent rest then .error (.stuck rest) else .error (.wrong "Invalid star expression")
    | .error e => .error e
  | n + 1, ts => do
    let (a, rest) ← readExpression true n ts
    match rest with
    | .mark "=" :: more =>
      match equalsAdvice a, readJoined true n more with
      | _, .ok (_, []) => .error (.stuck [])
      | _, .error (.stuck []) => .error (.stuck [])
      | some advice, .ok (_, t :: _) =>
        if t = .mark "=" ∨ t = .mark ":=" then .error (.stuck rest) else .error (.wrong advice)
      | _, _ => .error (.stuck rest)
    | .mark ":=" :: more =>
      let (_, rest) ← readExpression true n more
      if a.kind = "name" then .ok (.of "named expression" false, rest)
      else if rest.isEmpty then .error (.stuck [])
      else .error (.wrong ("cannot use assignment expressions with " ++ a.kind))
    | rest => .ok (a, rest)

def readElements (closing : ActionToken) :
    Nat → List ActionToken → Except Stop (WithRest (List Operand))
  | 0, ts => .error (.stuck ts)
  | n + 1, ts =>
    match ts with
    | [] => .error (.stuck [])
    | t :: rest =>
      if t = closing then .ok ([], rest)
      else do
        let (a, rest) ← readElement n ts
        match rest with
        | .mark "," :: rest =>
          let (as, rest) ← readElements closing n rest
          .ok (a :: as, rest)
        | t :: rest => if t = closing then .ok ([a], rest) else .error (.stuck (t :: rest))
        | [] => .error (.stuck [])

/-- Reads the value of an entry of a mapping behind its key, and the entries after it. -/
def readEntry (key : Operand) :
    Nat → List ActionToken → Except Stop (WithRest (List Operand × List Operand))
  | 0, ts => .error (.stuck ts)
  | n + 1, ts => do
    if ts.head? = some (.mark "\x7d") ∨ ts.head? = some (.mark ",") then
      .error (.wrong "expression expected after dictionary key and ':'")
    let (v, rest) ← readExpression true n ts
    let ((ks, vs), rest) ← readNextEntry n rest
    .ok ((key :: ks, v :: vs), rest)

def readNextEntry :
    Nat → List ActionToken → Except Stop (WithRest (List Operand × List Operand))
  | 0, ts => .error (.stuck ts)
  | n + 1, ts =>
    match ts with
    | .mark "\x7d" :: rest => .ok (([], []), rest)
    | .mark "," :: .mark "\x7d" :: rest => .ok (([], []), rest)
    | .mark "," :: .mark "**" :: ts => do
      let (v, rest) ← readExpression true n ts
      let ((ks, vs), rest) ← readNextEntry n rest
      .ok ((.of "starred" :: ks, v :: vs), rest)
    | .mark "," :: ts => do
      let (k, rest) ← readDisjunction true n ts
      match rest with
      | .mark ":" :: rest => readEntry k n rest
      | [] => .error (.stuck [])
      | _ => .error (.wrong "':' expected after dictionary key")
    | ts => .error (.stuck ts)

def readAtom : Nat → List ActionToken → Except Stop (WithRest Operand)
  | 0, ts => .error (.stuck ts)
  | n + 1, ts =>
    match ts with
    | .number :: rest => .ok ({ kind := "literal" }, rest)
    | .text bytes :: _ =>
      let pieces := (ts.takeWhile fun t => t == .text true || t == .text false)
      if pieces.all (· == .text bytes) then
        .ok ({ kind := "literal" }, ts.drop pieces.length)
      else .error (.wrong mixtureAdvice)
    | .name s :: rest =>
      if s = "True" ∨ s = "False" ∨ s = "None" then .ok ({ kind := s }, rest)
      else if keywords.contains s then .error (.stuck ts)
      else .ok (.of "name", rest)
    | .mark "..." :: rest => .ok ({ kind := "ellipsis" }, rest)
    | .mark "(" :: .mark ")" :: rest => .ok (tupleOf [], rest)
    | .mark "(" :: .mark "**" :: more => do
      let (_, rest) ← readExpression true n more
      if rest.head? = some (.mark ")") then
        .error (.wrong "cannot use double starred expression here")
      else .error (.stuck (if rest.isEmpty then [] else ts))
    | .mark "(" :: rest => do
      let (a, rest) ← readElement n rest
      match rest with
      | .mark ")" :: rest =>
        if a.kind = "starred" then .error (.wrong "cannot use starred expression here")
        else .ok ({ a with joined := true }, rest)
      | .mark "," :: rest =>
        let (as, rest) ← readElements (.mark ")") n rest
        .ok (tupleOf (a :: as), rest)
      | rest => .error (.stuck rest)
    | .mark "[" :: rest => do
      let (as, rest) ← readElements (.mark "]") n rest
      .ok (listOf as, rest)
    | .mark "\x7b" :: .mark "\x7d" :: rest => .ok (mappingOf [] [], rest)
    | .mark "\x7b" :: .mark "**" :: rest => do
      let (v, rest) ← readExpression true n rest
      let ((ks, vs), rest) ← readNextEntry n rest
      .ok (mappingOf (.of "starred" :: ks) (v :: vs), rest)
    | .mark "\x7b" :: rest => do
      let (a, rest) ← readElement n rest
      match rest with
      | .mark ":" :: rest =>
        let ((ks, vs), rest) ← readEntry a n rest
        .ok (mappingOf ks vs, rest)
      | .mark "\x7d" :: rest => .ok (setOf [a], rest)
      | .mark "," :: rest =>
        let (as, rest) ← readElements (.mark "\x7d") n rest
        .ok (setOf (a :: as), rest)
      | rest => .error (.stuck rest)
    | ts => .error (.stuck ts)
end

/-- Reads expressions with commas between them, which make a tuple. -/
def readAll (size : Nat) : Nat → List ActionToken → Except Stop (WithRest (List Operand))
  | 0, ts => .error (.stuck ts)
  | n + 1, ts => do
    let (a, rest) ← readExpression false size ts
    match rest with
    | [.mark ","] => .ok ([a], [])
    | .mark "," :: rest =>
      let (as, rest) ← readAll size n rest
      .ok (a :: as, rest)
    | rest => .ok ([a], rest)

def checkLiteral (cs : List Char) : Except LiteralFault Unit := do
  let (ts, opened) ← (actionTokens [] cs.length cs).mapError .token
  let stopped : Stop → LiteralFault
    | .wrong advice => .advice advice
    | .stuck rest =>
      match rest, opened with
      | [], bracket :: _ => .unclosed bracket
      | .backslash :: _, _ => .strayBackslash
      | _, _ => .ungrammatical
  let (as, rest) ← (readAll (16 * ts.length + 16) (ts.length + 1) ts).mapError stopped
  if !rest.isEmpty then throw (stopped (.stuck rest))
  match (tupleOf as).problem with
  | some fault => throw fault
  | none => return ()

/-- What is read of the parameters of an action: of a call the parentheses and what stands between
them, nothing of a bare name. -/
def expressionOf (cs : List Char) : List Char :=
  let name := cs.takeWhile fun c => isWordChar c || c == '.'
  let call := cs.drop name.length
  if call.isEmpty then "()".toList
  else if call.head? = some '(' ∧ call.getLast? = some ')' ∧ !call.contains '\n' then call
  else cs

def checkAction (parameters : List Char) : Except ActionFault Unit :=
  let expression := expressionOf (trim parameters)
  (checkLiteral (expression.dropWhile fun c => c == ' ' || c == '\t')).mapError fun fault =>
    ⟨String.ofList parameters, String.ofList expression, fault⟩

end Scaffold.Console
