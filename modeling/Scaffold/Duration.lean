import Scaffold.Number.Decimal
/-!
Durations: a number of seconds written as minutes and whole seconds, or as seconds with one
decimal place when it is shorter than a minute.
-/

namespace Scaffold

open Number

inductive Seconds where
  | whole (n : Int)
  | real (x : Double)

inductive DurationFault where
  | notANumber
deriving DecidableEq

def DurationFault.message : DurationFault → String
  | .notANumber => "cannot convert float NaN to integer"

/-- The number of times that sixty goes into the double `num / den` whose remainder is taken off
first, as double arithmetic counts it. -/
def wholeMinutes (num den : Nat) : Nat :=
  let rest := num % (60 * den)
  match (Double.ofFraction false (num - rest) den).toFraction? with
  | none => 0
  | some (n, d) =>
    match (Double.ofFraction false n.toNat (60 * d)).toFraction? with
    | none => 0
    | some (n, d) => if d < 2 * (n.toNat % d) then n.toNat / d + 1 else n.toNat / d

/-- Minutes and seconds, where `secs / den` is what is left of the last minute. -/
def minutesText (minutes secs den : Nat) : String :=
  if 0 < minutes then toString minutes ++ "m " ++ toString (secs / den) ++ "s"
  else onePlace secs den ++ "s"

/-- The text of a duration; one below zero counts as none. -/
def Seconds.text : Seconds → Except DurationFault String
  | .whole n =>
    if n < 0 then .ok "0.0s" else .ok (minutesText (n.toNat / 60) (n.toNat % 60) 1)
  | .real x =>
    if x.isNegative then .ok "0.0s"
    else
      match x.toFraction? with
      | none => .error .notANumber
      | some (num, den) =>
        .ok (minutesText (wholeMinutes num.toNat den) (num.toNat % (60 * den)) den)

/-- A duration as it is told; one that has no text is told by its fault. -/
def Seconds.shown (s : Seconds) : String :=
  match s.text with
  | .ok text => text
  | .error e => e.message

end Scaffold
