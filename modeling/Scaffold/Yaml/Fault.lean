import Scaffold.Calendar
import Scaffold.Number.Whole
/-!
Why a text is no document in YAML.  Most often it is malformed; the other faults name a character, a
word, a number or a moment that there is not, or tell that its parts are nested too deep.
-/

namespace Scaffold.Yaml

open Number

inductive Fault where
  | malformed
  | noCharacter (code : Nat)
  | noTruth (word : String)
  | noReal (text : String)
  | noWhole (fault : WholeFault)
  | emptyNumber
  | noMoment
  | noText
  | calendar (fault : CalendarFault)
  | tooLarge
  | tooDeep
deriving DecidableEq

def Fault.message : Fault → String
  | .malformed => "malformed"
  | .noCharacter code => if code < Nat.pow 2 31 then "chr() arg not in range(0x110000)"
      else "Python int too large to convert to C int"
  | .noTruth word => Text.quoted word
  | .noReal text => "could not convert string to float: " ++ Text.quoted text
  | .noWhole fault => fault.message
  | .emptyNumber => "string index out of range"
  | .noMoment => "'NoneType' object has no attribute 'groupdict'"
  | .noText => "expected string or bytes-like object, got 'list'"
  | .calendar fault => fault.message
  | .tooLarge => "int too large to convert to float"
  | .tooDeep => "maximum recursion depth exceeded"

/-- What may be missing, as a result: its absence makes a document malformed. -/
def wellFormed {α : Type} : Option α → Except Fault α
  | some a => .ok a
  | none => .error .malformed

end Scaffold.Yaml
