import Scaffold.Text.Blank
import Scaffold.Text.Digit
import Scaffold.Text.Quoted
/-!
Whole numbers as text in some base.  In base ten the digits of any script count, and their number is
limited; a base that is a power of two has neither limit.
-/

namespace Scaffold.Number

open Text

/-- The most digits that a decimal text may have, read or written. -/
def maxDigits : Nat := 4300

def hasTooManyDigits (n : Int) : Bool :=
  Nat.pow 10 maxDigits ≤ n.natAbs

inductive WholeFault where
  | notWhole (text : String) (base : Nat)
  | tooManyDigits (digits : Nat)
deriving DecidableEq

def digitLimitAdvice : String :=
  "use sys.set_int_max_str_digits() to increase the limit"

def unwritableMessage : String :=
  "Exceeds the limit (" ++ toString maxDigits ++ " digits) for integer string conversion; "
    ++ digitLimitAdvice

/-- How much of a quoted text the wording shows. -/
def shownText : Nat := 200

def WholeFault.message : WholeFault → String
  | .notWhole text base =>
    "invalid literal for int() with base " ++ toString base ++ ": "
      ++ String.ofList ((quoted text).toList.take shownText)
  | .tooManyDigits digits =>
    "Exceeds the limit (" ++ toString maxDigits ++ " digits) for integer string conversion: value "
      ++ "has " ++ toString digits ++ " digits; " ++ digitLimitAdvice

def digitOf? (c : Char) : Option Nat :=
  if 'a' ≤ c ∧ c ≤ 'z' then some (c.toNat - 'a'.toNat + 10)
  else if 'A' ≤ c ∧ c ≤ 'Z' then some (c.toNat - 'A'.toNat + 10)
  else digitValue? c

/-- The values of digits, between which single underscores may stand.  `after` tells that a digit
came last. -/
def digitValues? (base : Nat) (after : Bool) : List Char → Option (List Nat)
  | [] => if after then some [] else none
  | c :: rest =>
    match digitOf? c with
    | some d => if d < base then (digitValues? base true rest).map (d :: ·) else none
    | none => if c = '_' ∧ after then digitValues? base false rest else none

/-- The mark that digits of a base may start with. -/
def baseMark? : Nat → Option Char
  | 2 => some 'b'
  | 8 => some 'o'
  | 16 => some 'x'
  | _ => none

/-- A text without the mark of its base; an underscore may follow the mark. -/
def withoutMark (base : Nat) (cs : List Char) : List Char :=
  match cs with
  | '0' :: m :: rest =>
    if baseMark? base = some m.toLower then
      if rest.head? = some '_' then rest.drop 1 else rest
    else cs
  | cs => cs

/-- The whole number that a text is in a base. -/
def wholeIn (base : Nat) (text : List Char) : Except WholeFault Int :=
  let cs := trim text
  let signed := match cs with
    | '-' :: r => (true, r)
    | '+' :: r => (false, r)
    | r => (false, r)
  match digitValues? base false (withoutMark base signed.2) with
  | none => .error (.notWhole (String.ofList text) base)
  | some ds =>
    if base = 10 ∧ maxDigits < ds.length then .error (.tooManyDigits ds.length)
    else
      let n := ds.foldl (fun n d => n * base + d) 0
      .ok (if signed.1 then -n else n)

end Scaffold.Number
