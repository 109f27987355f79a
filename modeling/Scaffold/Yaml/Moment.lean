import Scaffold.Number.Decimal
import Scaffold.Value
/-!
Days and moments as text: a year, a month and a day, and perhaps a time with a fraction of a second
and an offset.
-/

namespace Scaffold.Yaml

open Number

structure TimeText where
  hour : Nat
  minute : Nat
  second : Nat
  micro : Nat
  offset : Option Int

/-- A day, and perhaps a time of it.  `full` tells that month and day have two digits each. -/
structure MomentText where
  year : Nat
  month : Nat
  day : Nat
  full : Bool
  time : Option TimeText

/-- Digits, at least so many and at most so many, and what follows them. -/
def digits? (least most : Nat) (cs : List Char) : Option (List Char × List Char) :=
  let ds := (cs.take most).takeWhile Char.isDigit
  if ds.length < least then none else some (ds, cs.drop ds.length)

def behind? (mark : Char) : List Char → Option (List Char)
  | [] => none
  | c :: cs => if c = mark then some cs else none

def isMomentBlank (c : Char) : Bool := c == ' ' || c == '\t'

/-- An offset in seconds, or none. -/
def offsetText? (cs : List Char) : Option (Option Int) :=
  match cs, cs.dropWhile isMomentBlank with
  | [], _ => some none
  | _, ['Z'] => some (some 0)
  | _, sign :: rest => do
    let (hours, rest) ← digits? 1 2 rest
    let (minutes, rest) ← match rest with
      | ':' :: rest => digits? 2 2 rest
      | rest => some ([], rest)
    let seconds : Int := ofDigits hours * 3600 + ofDigits minutes * 60
    if !rest.isEmpty then none
    else if sign = '+' then return some seconds
    else if sign = '-' then return some (-seconds)
    else none
  | _, [] => none

/-- A fraction of a second, in millionths. -/
def micros (fraction : List Char) : Nat :=
  ofDigits (fraction.take 6 ++ List.replicate (6 - fraction.length) '0')

/-- A time behind its hours. -/
def timeText? (hour : Nat) (cs : List Char) : Option TimeText := do
  let (minute, cs) ← digits? 2 2 (← behind? ':' cs)
  let (second, cs) ← digits? 2 2 (← behind? ':' cs)
  let (fraction, cs) := match cs with
    | '.' :: cs => (cs.takeWhile Char.isDigit, cs.dropWhile Char.isDigit)
    | cs => ([], cs)
  return ⟨hour, ofDigits minute, ofDigits second, micros fraction, ← offsetText? cs⟩

/-- What follows the sign between a day and a time: a letter, or blanks. -/
def behindDay? : List Char → Option (List Char)
  | [] => none
  | c :: cs =>
    if c = 'T' ∨ c = 't' then some cs
    else if isMomentBlank c then some (cs.dropWhile isMomentBlank)
    else none

def momentText? (cs : List Char) : Option MomentText := do
  let (year, cs) ← digits? 4 4 cs
  let (month, cs) ← digits? 1 2 (← behind? '-' cs)
  let (day, cs) ← digits? 1 2 (← behind? '-' cs)
  let time ← if cs.isEmpty then some none
    else do
      let (hour, cs) ← digits? 1 2 (← behindDay? cs)
      (timeText? (ofDigits hour) cs).map some
  return ⟨ofDigits year, ofDigits month, ofDigits day, month.length == 2 && day.length == 2, time⟩

/-- What is understood without a tag: a day needs all of its digits. -/
def MomentText.isPlain (m : MomentText) : Bool :=
  m.full || m.time.isSome

def MomentText.scalar (m : MomentText) : Except CalendarFault Scalar := do
  match m.time with
  | none => return .date (← Date.of m.year m.month m.day)
  | some t =>
    let offset ← t.offset.mapM checkOffset
    let date ← Date.of m.year m.month m.day
    return .moment (← date.at t.hour t.minute t.second t.micro offset)

end Scaffold.Yaml
