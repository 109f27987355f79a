/-!
Double-precision numbers as exact values: a sign, a whole mantissa below `2 ^ 53` and a power of
two.  Arithmetic is done on fractions and rounded once, to the nearest double with ties to even.
-/

namespace Scaffold.Number

/-- A double-precision number.  Each not-a-number carries a label, so that two of them can be told
apart: they are one element of a sequence only if they are one and the same. -/
inductive Double where
  | finite (negative : Bool) (mantissa : Nat) (exponent : Int)
  | infinite (negative : Bool)
  | nan (label : Nat)
deriving DecidableEq, Inhabited

/-- A quotient rounded to the nearest whole number, a tie to the even one. -/
def roundHalfEven (num den : Nat) : Nat :=
  let q := num / den
  let r := num % den
  if 2 * r < den then q
  else if den < 2 * r then q + 1
  else if q % 2 = 0 then q else q + 1

def minExponent : Int := -1074

def maxExponent : Int := 971

/-- `num / den` as a fraction in units of `2 ^ exponent`. -/
def inUnits (num den : Nat) (exponent : Int) : Nat × Nat :=
  if 0 ≤ exponent then (num, den * Nat.pow 2 exponent.toNat)
  else (num * Nat.pow 2 (-exponent).toNat, den)

/-- The exponent at which `num / den` has 53 binary digits, or the least one. -/
def exponentOf (num den : Nat) : Int :=
  let guess : Int := (Nat.log2 num : Int) - (Nat.log2 den : Int) - 53
  let scaled := inUnits num den guess
  let exponent := if Nat.pow 2 53 ≤ scaled.1 / scaled.2 then guess + 1 else guess
  if exponent < minExponent then minExponent else exponent

/-- The double of the given sign nearest to `num / den`. -/
def Double.ofFraction (negative : Bool) (num den : Nat) : Double :=
  if num = 0 then .finite negative 0 minExponent
  else
    let exponent := exponentOf num den
    let scaled := inUnits num den exponent
    let mantissa := roundHalfEven scaled.1 scaled.2
    let carried := if mantissa = Nat.pow 2 53 then (Nat.pow 2 52, exponent + 1)
      else (mantissa, exponent)
    if maxExponent < carried.2 then .infinite negative
    else .finite negative carried.1 carried.2

/-- The size of `mantissa * 2 ^ exponent` as a fraction. -/
def fractionOf (mantissa : Nat) (exponent : Int) : Nat × Nat :=
  if 0 ≤ exponent then (mantissa * Nat.pow 2 exponent.toNat, 1)
  else (mantissa, Nat.pow 2 (-exponent).toNat)

def Double.hasSign : Double → Bool
  | .finite negative _ _ => negative
  | .infinite negative => negative
  | .nan _ => false

/-- The value of a finite double: a signed numerator over a positive denominator. -/
def Double.toFraction? : Double → Option (Int × Nat)
  | .finite negative mantissa exponent =>
    let f := fractionOf mantissa exponent
    some (if negative then -(f.1 : Int) else f.1, f.2)
  | _ => none

/-- The double nearest to a fraction; `negative` is the sign of a zero. -/
def Double.ofSigned (negative : Bool) (num : Int) (den : Nat) : Double :=
  .ofFraction (if num = 0 then negative else num < 0) num.natAbs den

/-- The sum of two finite doubles, rounded once. -/
def Double.add (x y : Double) : Double :=
  match x.toFraction?, y.toFraction? with
  | some (a, b), some (c, d) => .ofSigned (x.hasSign && y.hasSign) (a * d + c * b) (b * d)
  | some _, none => y
  | _, _ => x

def Double.ofNat (n : Nat) : Double := .ofFraction false n 1

/-- The product of two finite doubles, rounded once. -/
def Double.times (x y : Double) : Double :=
  match x.toFraction?, y.toFraction? with
  | some (a, b), some (c, d) => .ofSigned (x.hasSign != y.hasSign) (a * c) (b * d)
  | some _, none => y
  | _, _ => x

def Double.negate : Double → Double
  | .finite negative mantissa exponent => .finite (!negative) mantissa exponent
  | .infinite negative => .infinite (!negative)
  | .nan label => .nan label

/-- A whole number equals a double when the double is finite and has that value. -/
def Double.equalsInt (x : Double) (n : Int) : Bool :=
  match x.toFraction? with
  | some (num, den) => num == n * den
  | none => false

/-- Equality of values: both zeros are equal, a not-a-number equals nothing. -/
def Double.equals : Double → Double → Bool
  | .infinite s, .infinite t => s == t
  | x, y =>
    match x.toFraction?, y.toFraction? with
    | some (a, b), some (c, d) => a * d == c * b
    | _, _ => false

def Double.isZero : Double → Bool
  | .finite _ mantissa _ => mantissa == 0
  | _ => false

def Double.isNegative : Double → Bool
  | .finite negative mantissa _ => negative && mantissa != 0
  | .infinite negative => negative
  | .nan _ => false

end Scaffold.Number
