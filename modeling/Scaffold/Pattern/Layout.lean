import Scaffold.Pattern.Field
import Scaffold.Text.Digit
/-!
Layouts: how the text of a field is cut and padded.  What is meant for numbers is read too, and
refused for a text.
-/

namespace Scaffold.Pattern

/-- The largest number that a pattern may name. -/
def numberBound : Nat := Nat.pow 2 63 - 1

/-- Reads digits, of any script, after a number read so far. -/
def readDigits (n : Nat) : List Char → Except FormFault (Nat × List Char)
  | [] => .ok (n, [])
  | c :: rest =>
    match Text.digitValue? c with
    | some d =>
      let m := n * 10 + d
      if numberBound < m then .error .tooManyDigits else readDigits m rest
    | none => .ok (n, c :: rest)

def readNumber? : List Char → Except FormFault (Option Nat × List Char)
  | [] => .ok (none, [])
  | c :: rest =>
    if Text.isDecimal c then (readDigits 0 (c :: rest)).map fun p => (some p.1, p.2)
    else .ok (none, c :: rest)

/-- A sign that places a text within a wider field. -/
def isAlignment (c : Char) : Bool :=
  c == '<' || c == '>' || c == '=' || c == '^'

structure Layout where
  fill : Char
  alignment : Char
  sign : Option Char
  negativeZero : Bool
  alternate : Bool
  width : Nat
  separator : Option Char
  precision : Option Nat
  kind : Char
deriving DecidableEq

/-- Reads the fill character and the alignment, if they are given. -/
def readAlignment : List Char → Option Char × Option Char × List Char
  | c :: d :: rest =>
    if isAlignment d then (some c, some d, rest)
    else if isAlignment c then (none, some c, d :: rest)
    else (none, none, c :: d :: rest)
  | [c] => if isAlignment c then (none, some c, []) else (none, none, [c])
  | [] => (none, none, [])

def readMark (marks : List Char) : List Char → Option Char × List Char
  | [] => (none, [])
  | c :: rest => if marks.contains c then (some c, rest) else (none, c :: rest)

def readSeparator (cs : List Char) : Except FormFault (Option Char × List Char) :=
  let (comma, cs) := readMark [','] cs
  let (score, cs) := readMark ['_'] cs
  match comma, score with
  | some _, some _ => .error .bothSeparators
  | none, some _ => if cs.head? = some ',' then .error .bothSeparators else .ok (score, cs)
  | comma, none => .ok (comma, cs)

def readPrecision (cs : List Char) : Except FormFault (Option Nat × List Char) :=
  match readMark ['.'] cs with
  | (none, cs) => .ok (none, cs)
  | (some _, cs) =>
    match readNumber? cs with
    | .error e => .error e
    | .ok (none, _) => .error .noPrecision
    | .ok (some n, cs) => .ok (some n, cs)

/-- The kinds of numbers whose thousands may be set apart by a separator. -/
def separatesThousands (mark kind : Char) : Bool :=
  ['d', 'e', 'f', 'g', 'E', 'G', '%', 'F', '\x00'].contains kind
    || (mark == '_' && ['b', 'o', 'x', 'X'].contains kind)

def readLayout (spec : List Char) : Except FormFault Layout := do
  let (fill, alignment, cs) := readAlignment spec
  let (sign, cs) := readMark [' ', '+', '-'] cs
  let (negativeZero, cs) := readMark ['z'] cs
  let (alternate, cs) := readMark ['#'] cs
  let (zero, cs) := if fill.isSome then (none, cs) else readMark ['0'] cs
  let (width, cs) ← readNumber? cs
  let (separator, cs) ← readSeparator cs
  let (precision, cs) ← readPrecision cs
  let kind ← match cs with
    | [] => pure 's'
    | [c] => pure c
    | _ => throw (.badSpec (String.ofList spec))
  match separator with
  | some mark => if separatesThousands mark kind then pure () else throw (.separator mark kind)
  | none => pure ()
  return ⟨(fill <|> zero).getD ' ', alignment.getD '<', sign, negativeZero.isSome,
    alternate.isSome, width.getD 0, separator, precision, kind⟩

/-- A layout has to be one of a text. -/
def Layout.check (l : Layout) : Except FormFault Unit :=
  if l.kind ≠ 's' then .error (.unknownKind l.kind)
  else if l.sign = some ' ' then .error .spaceSign
  else if l.sign.isSome then .error .sign
  else if l.negativeZero then .error .negativeZero
  else if l.alternate then .error .alternate
  else if l.alignment = '=' then .error .equalsSign
  else .ok ()

/-- A text cut to the precision and padded to the width. -/
def Layout.apply (l : Layout) (cs : List Char) : List Char :=
  let cs := match l.precision with
    | some n => cs.take n
    | none => cs
  let gap := l.width - cs.length
  let left := if l.alignment = '>' then gap else if l.alignment = '^' then gap / 2 else 0
  List.replicate left l.fill ++ cs ++ List.replicate (gap - left) l.fill

/-- A text laid out as a specification says; an empty one leaves it as it is. -/
def layOut (spec cs : List Char) : Except FormFault (List Char) :=
  if spec.isEmpty then .ok cs
  else do
    let l ← readLayout spec
    l.check
    return l.apply cs

end Scaffold.Pattern
