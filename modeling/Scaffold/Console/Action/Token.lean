import Scaffold.Text.Blank
import Scaffold.Text.Hex
import Scaffold.Text.Printable
/-!
The tokens of an action's parameters: names, numbers, texts and marks.  Brackets are matched while
the tokens are read.
-/

namespace Scaffold.Console

open Scaffold.Text

inductive ActionToken where
  | name (s : String)
  | number
  | text (bytes : Bool)
  | mark (s : String)
  | backslash
deriving DecidableEq

inductive TokenFault where
  | unclosedText
  | unclosedLongText
  | unmatched (bracket : Char)
  | mismatched (closing opening : Char)
  | badNumber (kind : String)
  | badDigit (digit : Char) (kind : String)
  | leadingZeros
  | badCharacter (c : Char)
deriving DecidableEq

/-- The name of a code point, with at least four digits in upper case. -/
def codePointName (c : Char) : String :=
  "U+" ++ String.ofList ((hexDigits 4 c.toNat).map Char.toUpper)

def TokenFault.message : TokenFault → String
  | .unclosedText => "unterminated string literal (detected at line 1)"
  | .unclosedLongText => "unterminated triple-quoted string literal (detected at line 1)"
  | .unmatched bracket => "unmatched '" ++ bracket.toString ++ "'"
  | .mismatched closing opening =>
    "closing parenthesis '" ++ closing.toString ++ "' does not match opening parenthesis '"
      ++ opening.toString ++ "'"
  | .badNumber kind => "invalid " ++ kind ++ " literal"
  | .badDigit digit kind => "invalid digit '" ++ digit.toString ++ "' in " ++ kind ++ " literal"
  | .leadingZeros => "leading zeros in decimal integer literals are not permitted; " ++
      "use an 0o prefix for octal integers"
  | .badCharacter c =>
    if isPrintable c then
      "invalid character '" ++ c.toString ++ "' (" ++ codePointName c ++ ")"
    else "invalid non-printable character " ++ codePointName c

/-- The blocks of signs, from which no word is made. -/
def signRanges : List (Nat × Nat) := [(0x80, 0xA9), (0xAB, 0xB4), (0xB6, 0xB9), (0xBB, 0xBF),
  (0xD7, 0xD7), (0xF7, 0xF7), (0x2000, 0x203E), (0x2041, 0x2053), (0x2055, 0x2070),
  (0x2080, 0x208F), (0x20A0, 0x20CF), (0x2190, 0x2BFF), (0x3000, 0x3004), (0x3008, 0x3020),
  (0x3030, 0x3030), (0xE000, 0xF8FF), (0xFE10, 0xFE1F), (0xFE30, 0xFE32), (0xFE45, 0xFE6F),
  (0xFF00, 0xFF0F), (0xFF1A, 0xFF20), (0xFF3B, 0xFF3E), (0xFF5B, 0xFF65), (0xFFE0, 0xFFFF),
  (0x1F000, 0x1FAFF), (0xE0000, 0xE00FF)]

def isWordChar (c : Char) : Bool :=
  c.isAlphanum || c == '_' || (128 ≤ c.toNat && isPrintable c
    && !signRanges.any fun r => r.1 ≤ c.toNat && c.toNat ≤ r.2)

/-- What follows digits that underscores may separate; there is nothing where a digit is missing.
`after` tells that a digit came last. -/
def afterDigits? (digit : Char → Bool) (after : Bool) : List Char → Option (List Char)
  | [] => if after then some [] else none
  | c :: rest =>
    if digit c then afterDigits? digit true rest
    else if after then
      if c = '_' then afterDigits? digit false rest else some (c :: rest)
    else none

/-- The words that may follow a number at once, as a whole. -/
def wordsAfterNumber : List String := ["and", "else", "for", "not", "or"]

/-- Two letters that may follow a number at once. -/
def pairsAfterNumber : List String := ["if", "in", "is"]

def goesOn (c : Char) : Bool :=
  c.isAlphanum || c == '_' || 128 ≤ c.toNat

def mayFollowNumber (cs : List Char) : Bool :=
  pairsAfterNumber.any (·.toList.isPrefixOf cs) || wordsAfterNumber.any fun w =>
    w.toList.isPrefixOf cs && !(cs[w.length]?.any goesOn)

/-- The end of a number: no word follows it at once. -/
def endNumber (kind : String) (cs : List Char) : Except TokenFault (List Char) :=
  if cs.head?.any (fun c => c.isAlphanum || c == '_') && !mayFollowNumber cs then
    .error (.badNumber kind)
  else .ok cs

/-- A number behind the mark of its base. -/
def basedNumber (kind : String) (digit : Char → Bool) (cs : List Char) :
    Except TokenFault (List Char) :=
  let start := if cs.head? = some '_' then cs.drop 1 else cs
  let wrong := (start.dropWhile fun c => digit c || c == '_').head?
  match afterDigits? digit false start, wrong.filter Char.isDigit with
  | _, some d => .error (.badDigit d kind)
  | some rest, none => endNumber kind rest
  | none, none => .error (.badNumber kind)

/-- The exponent of a number, if there is one, and its end. -/
def exponentEnd (cs : List Char) : Except TokenFault (List Char) :=
  let finish (cs : List Char) : Except TokenFault (List Char) :=
    match cs with
    | c :: rest =>
      if c = 'j' ∨ c = 'J' then endNumber "imaginary" rest else endNumber "decimal" cs
    | [] => .ok []
  match cs with
  | c :: rest =>
    if c = 'e' ∨ c = 'E' then
      let signed := rest.head?.any fun s => s == '+' || s == '-'
      let digits := if signed then rest.drop 1 else rest
      if digits.head?.any Char.isDigit then
        match afterDigits? Char.isDigit false digits with
        | some rest => finish rest
        | none => .error (.badNumber "decimal")
      else if signed then .error (.badNumber "decimal")
      else endNumber "decimal" cs
    else finish cs
  | [] => .ok []

/-- What follows the digits before a point: a fraction, an exponent, and the end. -/
def fractionEnd (cs : List Char) : Except TokenFault (List Char) :=
  match cs with
  | '.' :: rest =>
    if rest.head?.any Char.isDigit then
      match afterDigits? Char.isDigit false rest with
      | some rest => exponentEnd rest
      | none => .error (.badNumber "decimal")
    else exponentEnd rest
  | cs => exponentEnd cs

def afterNumber (cs : List Char) : Except TokenFault (List Char) :=
  match cs with
  | '0' :: c :: rest =>
    if c = 'x' ∨ c = 'X' then basedNumber "hexadecimal" (fun d => (hexValue? d).isSome) rest
    else if c = 'o' ∨ c = 'O' then basedNumber "octal" (fun d => '0' ≤ d && d ≤ '7') rest
    else if c = 'b' ∨ c = 'B' then basedNumber "binary" (fun d => d == '0' || d == '1') rest
    else
      match afterDigits? Char.isDigit false cs with
      | none => .error (.badNumber "decimal")
      | some later =>
        let digits := cs.take (cs.length - later.length)
        let exact := digits.all fun d => d == '0' || d == '_'
        let goesOn := later.head?.any fun d => ".eEjJ".toList.contains d
        if exact || goesOn then fractionEnd later else .error .leadingZeros
  | '.' :: _ => fractionEnd cs
  | cs =>
    match afterDigits? Char.isDigit false cs with
    | some rest => fractionEnd rest
    | none => .error (.badNumber "decimal")

/-- What follows the text of a literal between quotes. -/
def afterQuoted (quote : Char) : List Char → Except TokenFault (List Char)
  | [] => .error .unclosedText
  | ['\\'] => .error .unclosedText
  | '\\' :: _ :: rest => afterQuoted quote rest
  | c :: rest =>
    if c = quote then .ok rest
    else if c = '\n' then .error .unclosedText
    else afterQuoted quote rest

/-- What follows the text of a literal between triple quotes. -/
def afterLongQuoted (quote : Char) : List Char → Except TokenFault (List Char)
  | [] => .error .unclosedLongText
  | ['\\'] => .error .unclosedLongText
  | '\\' :: _ :: rest => afterLongQuoted quote rest
  | c :: rest =>
    if c = quote ∧ rest.take 2 = [quote, quote] then .ok (rest.drop 2)
    else afterLongQuoted quote rest

/-- What may stand before the quote of a literal. -/
def literalMarks : List String :=
  ["", "r", "u", "b", "f", "br", "rb", "fr", "rf"]

/-- The literal that comes next: whether it is one of bytes, and what follows it. -/
def literal? (cs : List Char) : Option (Except TokenFault (Bool × List Char)) :=
  let before := cs.takeWhile Char.isAlpha
  let mark := before.map Char.toLower
  match cs.drop before.length with
  | q :: rest =>
    if (q = '\'' ∨ q = '"') ∧ literalMarks.contains (String.ofList mark) then
      let later := if rest.take 2 = [q, q] then afterLongQuoted q (rest.drop 2)
        else afterQuoted q rest
      some (later.map (mark.contains 'b', ·))
    else none
  | [] => none

/-- The marks of more than one character, the longest first. -/
def longMarks : List String := ["**=", "//=", ">>=", "<<=", "...", "!=", "%=", "&=", "**", "*=",
  "+=", "-=", "->", "//", "/=", ":=", "<<", "<=", "<>", "==", ">=", ">>", "@=", "^=", "|="]

/-- The brackets that close, with those that they close. -/
def bracketPairs : List (Char × Char) := [(')', '('), (']', '['), ('\x7d', '\x7b')]

/-- The brackets that are open behind one more mark. -/
def bracketsAfter (opened : List Char) (c : Char) : Except TokenFault (List Char) :=
  match bracketPairs.lookup c with
  | some opening =>
    match opened with
    | [] => .error (.unmatched c)
    | o :: rest => if o = opening then .ok rest else .error (.mismatched c o)
  | none => .ok (if bracketPairs.any (·.2 == c) then c :: opened else opened)

/-- The tokens of a text, and the brackets that are open at its end, the last one first. -/
def actionTokens (opened : List Char) : Nat → List Char →
    Except TokenFault (List ActionToken × List Char)
  | 0, _ => .ok ([], opened)
  | _, [] => .ok ([], opened)
  | n + 1, c :: rest => do
    let more (t : ActionToken) (later : List Char) := do
      let (ts, open_) ← actionTokens opened n later
      return (t :: ts, open_)
    if c = ' ' ∨ c = '\t' ∨ c = '\x0c' then actionTokens opened n rest
    else if c = '#' then actionTokens opened n (rest.dropWhile (· != '\n'))
    else if c = '\n' then
      if opened.isEmpty && !allBlank rest then more (.mark "\n") rest
      else actionTokens opened n rest
    else if c = '\\' then
      match rest with
      | '\n' :: later => actionTokens opened n later
      | _ => return ([.backslash], opened)
    else if c.isDigit || (c == '.' && rest.head?.any Char.isDigit) then
      more .number (← afterNumber (c :: rest))
    else
      match literal? (c :: rest) with
      | some found => do
        let (bytes, later) ← found
        more (.text bytes) later
      | none =>
        if isWordChar c then
          more (.name (String.ofList (c :: rest.takeWhile isWordChar)))
            (rest.dropWhile isWordChar)
        else if 128 ≤ c.toNat || (c.toNat < 32) then throw (.badCharacter c)
        else
          match longMarks.find? (·.toList.isPrefixOf (c :: rest)) with
          | some m => more (.mark m) (rest.drop (m.length - 1))
          | none => do
            let opened ← bracketsAfter opened c
            let (ts, open_) ← actionTokens opened n rest
            return (.mark c.toString :: ts, open_)

end Scaffold.Console
