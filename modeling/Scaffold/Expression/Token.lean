import Scaffold.Naming
import Scaffold.Text.Literal
/-!
Tokens of expressions: quoted literals, signs and names, with any white space between them.
-/

namespace Scaffold.Expression

open Scaffold.Text Scaffold.Naming

inductive Sign where
  | equal
  | unequal
  | bang
  | dot
  | openParen
  | closeParen
deriving DecidableEq, Inhabited

def Sign.chars : Sign → List Char
  | .equal => ['=', '=']
  | .unequal => ['!', '=']
  | .bang => ['!']
  | .dot => ['.']
  | .openParen => ['(']
  | .closeParen => [')']

/-- A token.  A literal keeps the text between its quotes as written. -/
inductive Token where
  | literal (quote : Char) (body : List Char)
  | sign (s : Sign)
  | name (word : List Char)
deriving DecidableEq, Inhabited

def Token.chars : Token → List Char
  | .literal quote body => quote :: body ++ [quote]
  | .sign s => s.chars
  | .name word => word

def Token.shown (t : Token) : String :=
  String.ofList t.chars

/-- The words of the language, which name nothing. -/
def reservedWords : List String :=
  ["not", "if", "unless", "in", "true", "false"]

def isReserved (word : List Char) : Bool :=
  reservedWords.contains (String.ofList word)

/-- The sign that starts with `c`, and what follows it. -/
def signAt? (c : Char) (rest : List Char) : Option (Sign × List Char) :=
  match c, rest with
  | '=', '=' :: r => some (.equal, r)
  | '!', '=' :: r => some (.unequal, r)
  | '!', r => some (.bang, r)
  | '.', r => some (.dot, r)
  | '(', r => some (.openParen, r)
  | ')', r => some (.closeParen, r)
  | _, _ => none

theorem length_le_of_signAt? {c : Char} {rest r : List Char} {s : Sign}
    (h : signAt? c rest = some (s, r)) : r.length ≤ rest.length := by
  unfold signAt? at h
  split at h <;> grind

/-- What a name that starts with `c` goes on with, its question mark included, and the rest. -/
def nameTail (rest : List Char) : List Char × List Char :=
  let word := rest.takeWhile isNameRest
  match rest.dropWhile isNameRest with
  | '?' :: r => (word ++ ['?'], r)
  | r => (word, r)

theorem length_nameTail_le (rest : List Char) : (nameTail rest).2.length ≤ rest.length := by
  have h := (List.dropWhile_sublist isNameRest (l := rest)).length_le
  unfold nameTail
  split <;> simp_all
  omega

/-- A character between the quotes of a literal that stands for itself. -/
def isPlainInLiteral (_ : Char) : Bool := true

/-- A character that a backslash may escape: any but the line feed. -/
def isEscapable (c : Char) : Bool := c != '\n'

/-- The token that starts with `c`, and what follows it. -/
def tokenAt? (c : Char) (rest : List Char) :
    Option (Token × { r : List Char // r.length ≤ rest.length }) :=
  if c = '"' ∨ c = '\'' then
    match h : literalBody? isPlainInLiteral isEscapable c rest with
    | some (body, r) => some (.literal c body, ⟨r, Nat.le_of_lt (length_lt_of_literalBody? h)⟩)
    | none => none
  else
    match h : signAt? c rest with
    | some (s, r) => some (.sign s, ⟨r, length_le_of_signAt? h⟩)
    | none =>
      if isNameStart c then
        some (.name (c :: (nameTail rest).1), ⟨(nameTail rest).2, length_nameTail_le rest⟩)
      else none

/-- The tokens of a text, or the first character that starts none. -/
def Token.scan (cs : List Char) : Except Char (List Token) :=
  match cs with
  | [] => .ok []
  | c :: rest =>
    if isBlank c then Token.scan rest
    else
      match tokenAt? c rest with
      | none => .error c
      | some (t, ⟨r, _⟩) =>
        match Token.scan r with
        | .ok ts => .ok (t :: ts)
        | .error e => .error e
termination_by cs.length
decreasing_by all_goals grind

end Scaffold.Expression
