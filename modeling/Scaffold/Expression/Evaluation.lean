import Scaffold.Access
import Scaffold.Expression.Basic
import Scaffold.Scope
/-!
Evaluation of expressions in a scope.  A path is read from left to right; a segment that ends in a
question mark must come to a truth value.  Nothing that is read changes.
-/

namespace Scaffold.Expression

open Model

/-- What a segment was looked up in when it could not be resolved. -/
inductive Owner where
  | scope
  | emptySequence
  | kind (typeName : String)
deriving DecidableEq

def Owner.shown : Owner → String
  | .scope => "scope"
  | .emptySequence => "empty sequence"
  | .kind typeName => typeName

/-- What a value is needed as. -/
inductive Expectation where
  | truth
  | sequence
  | text
deriving DecidableEq

def Expectation.shown : Expectation → String
  | .truth => "a boolean"
  | .sequence => "a sequence"
  | .text => "text"

/-- Why an expression has no value, or not one of the kind needed. -/
inductive Failure where
  | unresolved (path segment : String) (owner : Owner)
  | mismatch (path : String) (expected : Expectation) (actual : String)
deriving DecidableEq

def Failure.path : Failure → String
  | .unresolved path _ _ => path
  | .mismatch path _ _ => path

def Failure.message : Failure → String
  | .unresolved path segment .scope =>
    "'" ++ segment ++ "' is not bound in the template scope (in '" ++ path ++ "')"
  | .unresolved path segment owner =>
    "cannot resolve '" ++ segment ++ "' of '" ++ path ++ "' on " ++ owner.shown
  | .mismatch path expected actual =>
    "'" ++ path ++ "' should be " ++ expected.shown ++ ", got " ++ actual

/-- A segment without the question mark that asks for a truth value. -/
def unmarked (segment : String) : String :=
  String.ofList (segment.toList.reverse.dropWhile (· == '?')).reverse

/-- Whether a segment asks for a truth value. -/
def isMarked (segment : String) : Bool :=
  segment.toList.getLast? == some '?'

def isTruth : Value → Bool
  | .bool _ => true
  | _ => false

/-- The value of a segment, if it is of the kind that the segment asks for. -/
def checked (path segment : String) (v : Value) : Except Failure Value :=
  if isMarked segment && !isTruth v then .error (.mismatch path .truth v.typeName) else .ok v

/-- What a value without the accessor asked for is called. -/
def ownerOf : Value → Owner
  | .list [] => .emptySequence
  | .tuple [] => .emptySequence
  | v => .kind v.typeName

def readSegment (own : Ownership) (path : String) (v : Value) (segment : String) :
    Except Failure Value :=
  match v.read? own (unmarked segment) with
  | some w => checked path segment w
  | none => .error (.unresolved path segment (ownerOf v))

def Path.resolve (own : Ownership) (scope : Scope) (p : Path) : Except Failure Value := do
  match scope.find? (unmarked p.head) with
  | none => .error (.unresolved p.shown p.head .scope)
  | some v => p.accessors.foldlM (readSegment own p.shown) (← checked p.shown p.head v)

def asTruth (n : Node) : Value → Except Failure Bool
  | .bool b => .ok b
  | v => .error (.mismatch n.shown .truth v.typeName)

def Node.evaluate (own : Ownership) (scope : Scope) : Node → Except Failure Value
  | .text s => .ok (.text s)
  | .truth b => .ok (.bool b)
  | .path p => p.resolve own scope
  | .negation n => do
    let b ← asTruth n (← n.evaluate own scope)
    return .bool !b
  | .comparison l r negated => do
    let v ← l.evaluate own scope
    let w ← r.evaluate own scope
    return .bool (v.equals w != negated)

def Node.evaluateGuard (own : Ownership) (scope : Scope) (n : Node) : Except Failure Bool := do
  asTruth n (← n.evaluate own scope)

def Node.evaluateSequence (own : Ownership) (scope : Scope) (n : Node) :
    Except Failure (List Value) := do
  match ← n.evaluate own scope with
  | .list items => return items
  | .tuple items => return items
  | v => throw (.mismatch n.shown .sequence v.typeName)

def Node.evaluateText (own : Ownership) (scope : Scope) (n : Node) : Except Failure String := do
  match ← n.evaluate own scope with
  | .text s => return s
  | .bool b => return if b then "true" else "false"
  | .int k => return toString k
  | .real x => return x.text
  | v => throw (.mismatch n.shown .text v.typeName)

end Scaffold.Expression
