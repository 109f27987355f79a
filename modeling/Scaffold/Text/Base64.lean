/-!
Bytes as text in base sixty-four: four characters stand for three bytes.  Characters that are no
digits are passed over, and padding ends the text.
-/

namespace Scaffold.Text

def sixBits? (c : Char) : Option Nat :=
  if 'A' ≤ c ∧ c ≤ 'Z' then some (c.toNat - 'A'.toNat)
  else if 'a' ≤ c ∧ c ≤ 'z' then some (c.toNat - 'a'.toNat + 26)
  else if '0' ≤ c ∧ c ≤ '9' then some (c.toNat - '0'.toNat + 52)
  else if c = '+' then some 62
  else if c = '/' then some 63
  else none

/-- The bytes of a text, in which `place` digits of a group of four have been read, `pads` signs of
padding stand before, and `left` is what of the last digit has made no byte yet. -/
def bytesFrom? (place pads left : Nat) : List Char → Option (List UInt8)
  | [] => if place = 0 then some [] else none
  | c :: rest =>
    if c = '=' then
      if 2 ≤ place ∧ 4 ≤ place + pads + 1 then some []
      else bytesFrom? place (if 2 ≤ place then pads + 1 else pads) left rest
    else
      match sixBits? c with
      | none => bytesFrom? place pads left rest
      | some d =>
        let byte (shift keep : Nat) : Option (List UInt8) :=
          (bytesFrom? ((place + 1) % 4) 0 (d % keep) rest).map
            ((left * Nat.pow 2 shift + d / keep).toUInt8 :: ·)
        match place with
        | 0 => bytesFrom? 1 0 d rest
        | 1 => byte 2 16
        | 2 => byte 4 4
        | _ => byte 6 1

def bytes? (cs : List Char) : Option (List UInt8) :=
  bytesFrom? 0 0 0 cs

end Scaffold.Text
