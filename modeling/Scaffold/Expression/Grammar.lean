import Scaffold.Expression.Basic
import Scaffold.Expression.Token
import Scaffold.Text.Quoted
/-!
The grammar of expressions, read from left to right with one token of foresight:

    guard    = ("not" | "!") guard | compare
    compare  = operand (("==" | "!=") operand)?
    operand  = literal | "true" | "false" | path | "(" guard ")"
    path     = name ("." name)*
    interp   = guard (("if" | "unless") guard)?

Each reader returns what is left, which is shorter than what it was given.
-/

namespace Scaffold.Expression

open Scaffold.Text

inductive Fault where
  | character (c : Char)
  | truncated
  | expectedClose (found : String)
  | unexpected (found : String)
  | nameAfterDot
  | notAPath
deriving DecidableEq, Inhabited

def Fault.message (source : String) : Fault → String
  | .character c =>
    "unexpected character " ++ quoted (String.singleton c) ++ " in '" ++ source ++ "'"
  | .truncated => "unexpected end of expression '" ++ source ++ "'"
  | .expectedClose found => "expected ')' in '" ++ source ++ "', got '" ++ found ++ "'"
  | .unexpected found => "unexpected '" ++ found ++ "' in '" ++ source ++ "'"
  | .nameAfterDot => "expected a name after '.' in '" ++ source ++ "'"
  | .notAPath => "expected an attribute path, got '" ++ source ++ "'"

/-- The names behind the dots that come next, and what is left. -/
def readAccessors (ts : List Token) :
    Except Fault (List String × { r : List Token // r.length ≤ ts.length }) :=
  match ts with
  | .sign .dot :: .name word :: rest =>
    if isReserved word then .error .nameAfterDot
    else
      match readAccessors rest with
      | .ok (names, ⟨r, h⟩) =>
        .ok (String.ofList word :: names, ⟨r, by simp only [List.length_cons]; omega⟩)
      | .error e => .error e
  | .sign .dot :: _ :: _ => .error .nameAfterDot
  | .sign .dot :: [] => .error .truncated
  | rest => .ok ([], ⟨rest, by simp⟩)

/-- What a reader makes of `ts`: a result and the tokens left over, or a fault. -/
abbrev Reading (α : Type) (ts : List Token) :=
  Except Fault (α × { r : List Token // r.length < ts.length })

/-- The tokens that negate what follows them. -/
def Token.negates : Token → Bool
  | .sign .bang => true
  | .name word => String.ofList word == "not"
  | _ => false

/-- Whether a token compares its two sides, and if so whether the result is negated. -/
def Token.comparison? : Token → Option Bool
  | .sign .equal => some false
  | .sign .unequal => some true
  | _ => none

mutual
def readGuard (ts : List Token) : Reading Node ts :=
  match ts with
  | [] => .error .truncated
  | t :: rest =>
    if t.negates then
      match readGuard rest with
      | .ok (n, ⟨r, h⟩) => .ok (.negation n, ⟨r, by simp only [List.length_cons]; omega⟩)
      | .error e => .error e
    else readCompare (t :: rest)
termination_by (ts.length, 2)

/-- Reads an operand, or two with a comparison between them. -/
def readCompare (ts : List Token) : Reading Node ts :=
  match readOperand ts with
  | .error e => .error e
  | .ok (left, ⟨[], h⟩) => .ok (left, ⟨[], h⟩)
  | .ok (left, ⟨t :: more, h⟩) =>
    match t.comparison? with
    | none => .ok (left, ⟨t :: more, h⟩)
    | some negated =>
      match readOperand more with
      | .ok (right, ⟨r, h'⟩) =>
        .ok (.comparison left right negated, ⟨r, by simp only [List.length_cons] at h; omega⟩)
      | .error e => .error e
termination_by (ts.length, 1)
decreasing_by
  · exact Prod.Lex.right _ (by omega)
  · exact Prod.Lex.left _ _ (Nat.lt_of_succ_lt h)

def readOperand (ts : List Token) : Reading Node ts :=
  match ts with
  | [] => .error .truncated
  | .literal _ body :: rest => .ok (.text (String.ofList (unescape body)), ⟨rest, by simp⟩)
  | .sign .openParen :: rest =>
    match readGuard rest with
    | .error e => .error e
    | .ok (_, ⟨[], _⟩) => .error .truncated
    | .ok (n, ⟨t :: r, h⟩) =>
      if t = .sign .closeParen then
        .ok (n, ⟨r, by simp only [List.length_cons] at h ⊢; omega⟩)
      else .error (.expectedClose t.shown)
  | .name word :: rest =>
    if word = "true".toList then .ok (.truth true, ⟨rest, by simp⟩)
    else if word = "false".toList then .ok (.truth false, ⟨rest, by simp⟩)
    else if isReserved word then .error (.unexpected (String.ofList word))
    else
      match readAccessors rest with
      | .ok (names, ⟨r, h⟩) =>
        .ok (.path ⟨String.ofList word, names⟩, ⟨r, by simp only [List.length_cons]; omega⟩)
      | .error e => .error e
  | t :: _ => .error (.unexpected t.shown)
termination_by (ts.length, 0)
end

def readPath (ts : List Token) : Reading Path ts :=
  match ts with
  | [] => .error .truncated
  | .name word :: rest =>
    if isReserved word then .error .notAPath
    else
      match readAccessors rest with
      | .ok (names, ⟨r, h⟩) =>
        .ok (⟨String.ofList word, names⟩, ⟨r, by simp only [List.length_cons]; omega⟩)
      | .error e => .error e
  | _ :: _ => .error .notAPath

/-- What an interpolation tag holds: a value, and a guard that decides whether it is written. -/
structure Interpolation where
  value : Node
  guard : Option Node
deriving DecidableEq, Inhabited

/-- The guard that an inline `if` or `unless` announces, by the word. -/
def suffixGuard? (t : Token) : Option (Node → Node) :=
  match t with
  | .name word =>
    if word = "if".toList then some id
    else if word = "unless".toList then some .negation
    else none
  | _ => none

/-- Nothing may be left over. -/
def finish {α : Type} (a : α) : List Token → Except Fault α
  | [] => .ok a
  | t :: _ => .error (.unexpected t.shown)

/-- Reads a value with an optional guard behind it, to the end. -/
def readInterpolation (ts : List Token) : Except Fault Interpolation := do
  let (value, ⟨rest, _⟩) ← readGuard ts
  match rest with
  | [] => return ⟨value, none⟩
  | t :: more =>
    match suffixGuard? t with
    | none => finish ⟨value, none⟩ (t :: more)
    | some wrap =>
      let (guard, ⟨left, _⟩) ← readGuard more
      finish ⟨value, some (wrap guard)⟩ left

/-- The tokens of a source, with the character that starts none as a fault. -/
def tokensOf (source : String) : Except Fault (List Token) :=
  (Token.scan source.toList).mapError .character

/-- Parses the expression of a conditional tag. -/
def parseGuard (source : String) : Except Fault Node := do
  let (n, ⟨rest, _⟩) ← readGuard (← tokensOf source)
  finish n rest

/-- Parses a bare path, as an iteration names its collection. -/
def parsePath (source : String) : Except Fault Path := do
  let (p, ⟨rest, _⟩) ← readPath (← tokensOf source)
  finish p rest

def parseInterpolation (source : String) : Except Fault Interpolation := do
  readInterpolation (← tokensOf source)

end Scaffold.Expression
