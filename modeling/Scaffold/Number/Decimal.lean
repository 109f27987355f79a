import Scaffold.Number.Double
import Scaffold.Text.Digit
/-!
Decimal text of doubles: the fewest digits that read back, a fixed number of places, and reading.
-/

namespace Scaffold.Number

def digitsOf (n : Nat) : List Char :=
  Nat.toDigits 10 n

def ofDigits (cs : List Char) : Nat :=
  cs.foldl (fun n c => 10 * n + (c.toNat - '0'.toNat)) 0

/-- The point position `p` of a positive fraction: `10 ^ (p - 1) ≤ num / den < 10 ^ p`.
The fraction is enlarged first, so that it has digits before the point. -/
def pointPosition (num den : Nat) : Int :=
  ((digitsOf (num * Nat.pow 10 400 / den)).length : Int) - 400

/-- The reals that round to a double, between `low / unit` and `high / unit`, with the double
itself at `value / unit`; the ends belong to it when its mantissa is even. -/
structure Interval where
  low : Nat
  value : Nat
  high : Nat
  unit : Nat
  closed : Bool

/-- The rounding interval of `mantissa * 2 ^ exponent`.  Below a power of two the neighbouring
double is half as far away. -/
def Interval.ofDouble (mantissa : Nat) (exponent : Int) : Interval :=
  let below := if mantissa = Nat.pow 2 52 ∧ minExponent < exponent then 1 else 2
  let scale := fractionOf 1 (exponent - 2)
  { low := (4 * mantissa - below) * scale.1
    value := 4 * mantissa * scale.1
    high := (4 * mantissa + 2) * scale.1
    unit := scale.2
    closed := mantissa % 2 = 0 }

/-- Whether the number `num / den` rounds to the double of the interval. -/
def Interval.holds (i : Interval) (num den : Nat) : Bool :=
  let x := num * i.unit
  if i.closed then i.low * den ≤ x && x ≤ i.high * den else i.low * den < x && x < i.high * den

/-- The grid point among the two neighbours of the value on the multiples of `10 ^ place` that
reads back, the nearer one if both do, the even one at equal distance. -/
def Interval.onGrid? (i : Interval) (place : Int) : Option Nat :=
  let step := if 0 ≤ place then (Nat.pow 10 place.toNat, 1) else (1, Nat.pow 10 (-place).toNat)
  let below := i.value * step.2 / (i.unit * step.1)
  let above := below + 1
  let fits n := i.holds (n * step.1) step.2
  match fits below, fits above with
  | true, true =>
    let down := i.value * step.2 - below * step.1 * i.unit
    let up := above * step.1 * i.unit - i.value * step.2
    if down < up then some below else if up < down then some above
    else some (if below % 2 = 0 then below else above)
  | true, false => some below
  | false, true => some above
  | false, false => none

/-- The shortest digits at the grids from `count` digits on, with the place of the last one. -/
def Interval.shortestFrom (i : Interval) (point : Int) (count : Nat) : Nat → Nat × Int
  | 0 => (i.value / i.unit, 0)
  | fuel + 1 =>
    let place := point - count
    match i.onGrid? place with
    | some n => (n, place)
    | none => i.shortestFrom point (count + 1) fuel

/-- The fewest digits that read back as `mantissa * 2 ^ exponent`, and the position of the point
counted from the first of them. Seventeen digits always suffice. -/
def shortestDigits (mantissa : Nat) (exponent : Int) : List Char × Int :=
  let i := Interval.ofDouble mantissa exponent
  let found := i.shortestFrom (pointPosition i.value i.unit) 1 18
  let digits := digitsOf found.1
  let point := found.2 + digits.length
  let kept := (digits.reverse.dropWhile (· == '0')).reverse
  (kept, point)

structure Layout where
  /-- The least position of the point that is written without an exponent. -/
  leastPoint : Int
  /-- The greatest position of the point that is written without an exponent. -/
  greatestPoint : Int
  /-- The least number of digits in an exponent. -/
  exponentDigits : Nat
  infinity : String
  notANumber : String

/-- Numbers from a ten-thousandth to ten to the sixteenth are written positionally; an exponent
has a sign and two digits. -/
def plainLayout : Layout :=
  { leastPoint := -3, greatestPoint := 16, exponentDigits := 2, infinity := "inf",
    notANumber := "nan" }

def zeros (n : Nat) : List Char :=
  List.replicate n '0'

/-- Digits with a point at `point`, and at least one digit on either side of it. -/
def positional (digits : List Char) (point : Int) : List Char :=
  if point ≤ 0 then '0' :: '.' :: (zeros (-point).toNat ++ digits)
  else
    let n := point.toNat
    if digits.length ≤ n then digits ++ zeros (n - digits.length) ++ ['.', '0']
    else digits.take n ++ '.' :: digits.drop n

/-- Digits with a point after the first one, if more follow, and an exponent. -/
def scientific (layout : Layout) (digits : List Char) (point : Int) : List Char :=
  let exponent := point - 1
  let size := digitsOf exponent.natAbs
  let lead := match digits with
    | [] => ['0']
    | [d] => [d]
    | d :: more => d :: '.' :: more
  lead ++ 'e' :: (if exponent < 0 then '-' else '+')
    :: (zeros (layout.exponentDigits - size.length) ++ size)

def Double.format (layout : Layout) : Double → String
  | .nan _ => layout.notANumber
  | .infinite negative => (if negative then "-" else "") ++ layout.infinity
  | .finite negative mantissa exponent =>
    let body :=
      if mantissa = 0 then ['0', '.', '0']
      else
        let s := shortestDigits mantissa exponent
        if layout.leastPoint ≤ s.2 ∧ s.2 ≤ layout.greatestPoint then positional s.1 s.2
        else scientific layout s.1 s.2
    String.ofList (if negative then '-' :: body else body)

/-- The shortest text of a double. -/
def Double.text (x : Double) : String :=
  x.format plainLayout

/-- A fraction written with one decimal place, a tie to the even digit. -/
def onePlace (num den : Nat) : String :=
  let tenths := roundHalfEven (10 * num) den
  String.ofList (digitsOf (tenths / 10) ++ '.' :: digitsOf (tenths % 10))

/-- Decimal digits with single underscores between them: the digits and the rest. -/
def digitRun : List Char → List Char × List Char
  | '_' :: d :: rest =>
    if d.isDigit then
      let r := digitRun rest
      (d :: r.1, r.2)
    else ([], '_' :: d :: rest)
  | d :: rest =>
    if d.isDigit then
      let r := digitRun rest
      (d :: r.1, r.2)
    else ([], d :: rest)
  | [] => ([], [])

/-- A run of digits that does not start with an underscore. -/
def digitsHere : List Char → List Char × List Char
  | '_' :: rest => ([], '_' :: rest)
  | cs => digitRun cs

/-- An exponent mark with a signed whole number after it, to the end of the text. -/
def exponentPart? : List Char → Option Int
  | [] => some 0
  | e :: rest =>
    if e = 'e' ∨ e = 'E' then
      let signed := match rest with
        | '-' :: r => (true, r)
        | '+' :: r => (false, r)
        | r => (false, r)
      match digitsHere signed.2 with
      | ([], _) => none
      | (ds, []) => some (if signed.1 then -(ofDigits ds : Int) else ofDigits ds)
      | _ => none
    else none

/-- The double nearest to `digits * 10 ^ exponent`; an exponent out of all range is cut first. -/
def Double.ofDecimal (negative : Bool) (digits : List Char) (exponent : Int) : Double :=
  let n := ofDigits digits
  let size := (digits.length : Int) + exponent
  if n = 0 then .finite negative 0 minExponent
  else if 400 < size - ((digits.takeWhile (· == '0')).length : Int) then .infinite negative
  else if size < -400 then .finite negative 0 minExponent
  else if 0 ≤ exponent then .ofFraction negative (n * Nat.pow 10 exponent.toNat) 1
  else .ofFraction negative n (Nat.pow 10 (-exponent).toNat)

/-- A number without its sign: digits with an optional point and exponent. -/
def Double.ofUnsigned? (negative : Bool) (cs : List Char) : Option Double :=
  let whole := digitsHere cs
  match whole.2 with
  | '.' :: rest =>
    let places := digitsHere rest
    if whole.1.isEmpty && places.1.isEmpty then none
    else (exponentPart? places.2).map fun e =>
      .ofDecimal negative (whole.1 ++ places.1) (e - places.1.length)
  | rest =>
    if whole.1.isEmpty then none
    else (exponentPart? rest).map fun e => .ofDecimal negative whole.1 e

/-- A digit of any script as the digit of the same value. -/
def plainDigit (c : Char) : Char :=
  match Text.digitValue? c with
  | some d => Char.ofNat ('0'.toNat + d)
  | none => c

/-- Reads a double: a sign, then a decimal number in the digits of any script, an infinity or a
not-a-number in any case. -/
def Double.ofText? (label : Nat) (cs : List Char) : Option Double :=
  let signed := match cs.map plainDigit with
    | '-' :: r => (true, r)
    | '+' :: r => (false, r)
    | r => (false, r)
  let word := String.ofList (signed.2.map Char.toLower)
  if word = "inf" ∨ word = "infinity" then some (.infinite signed.1)
  else if word = "nan" then some (.nan label)
  else Double.ofUnsigned? signed.1 signed.2

end Scaffold.Number
