import Scaffold.Number.Decimal
import Scaffold.Text.Hex
import Scaffold.Yaml.Cursor
import Scaffold.Yaml.Fault
/-!
Properties of parts of a document, and directives, which stand before a document.  An anchor gives a
part a name and an alias refers to it; a tag says what a part is, in full or behind a handle, which
a directive may declare.
-/

namespace Scaffold.Yaml

/-- A tag as it is written: behind a handle, or without one. -/
structure TagMark where
  handle : Option String
  suffix : String
deriving DecidableEq, Inhabited

/-- A line that says something of the document behind it: the first number of its version, or what
a handle stands for. -/
inductive Directive where
  | version (major : Nat)
  | handle (name meaning : String)
  | other
deriving DecidableEq, Inhabited

def isNameChar (c : Char) : Bool :=
  c.isAlphanum || c == '-' || c == '_'

/-- A character of a tag, escapes included. -/
def isTagChar (c : Char) : Bool :=
  c.isAlphanum || "-;/?:@&=+$,_.!~*'()[]%".toList.contains c

/-- A blank, a line end or the end of the document. -/
def isEnd (c : Option Char) : Bool :=
  isGap c && c ≠ some '\t'

/-- What may follow the name of an anchor or an alias. -/
def endsName (c : Option Char) : Bool :=
  isGap c || c.any fun d => "?:,]\x7d%@\x60".toList.contains d

/-- The name of an anchor or an alias behind its mark. -/
def anchorName? (c : Cursor) : Option (String × Cursor) :=
  let (name, c) := c.takeWhile isNameChar
  if name.isEmpty || !endsName c.next? then none else some (String.ofList name, c)

/-- The bytes of a tag; an escape stands for one. -/
def tagBytes? : List Char → Option (List UInt8)
  | [] => some []
  | '%' :: a :: b :: rest => do
    let n ← Text.hexNumber? [a, b]
    return n.toUInt8 :: (← tagBytes? rest)
  | '%' :: _ => none
  | c :: rest => (tagBytes? rest).map (c.toNat.toUInt8 :: ·)

/-- The text of a tag, or of what a handle stands for. -/
def tagText? (c : Cursor) : Option (String × Cursor) := do
  let (run, c) := c.takeWhile isTagChar
  let bytes ← tagBytes? run
  if bytes.isEmpty then none
  else return (← String.fromUTF8? ⟨bytes.toArray⟩, c)

/-- A handle: a mark alone, or a name between two marks. -/
def tagHandle? (c : Cursor) : Option (String × Cursor) :=
  if !c.sees (· == '!') then none
  else
    let c := c.advance
    if c.sees (· == ' ') then some ("!", c)
    else
      let (name, c) := c.takeWhile isNameChar
      if c.sees (· == '!') then some ("!" ++ String.ofList name ++ "!", c.advance) else none

/-- The handle that a tag starts with: its mark alone, unless another mark stands in the tag. -/
def ownHandle? (c : Cursor) : Option (String × Cursor) :=
  let word := c.advance.rest.takeWhile fun d => !isEnd (some d)
  if word.contains '!' then tagHandle? c else some ("!", c.advance)

/-- A tag, whatever follows it. -/
def tagHere? (c : Cursor) : Option (TagMark × Cursor) :=
  let behind := c.advance
  if behind.sees (· == '<') then do
    let (text, c) ← tagText? behind.advance
    if c.sees (· == '>') then some (⟨none, text⟩, c.advance) else none
  else if isGap behind.next? then some (⟨none, "!"⟩, behind)
  else do
    let (handle, c) ← ownHandle? c
    let (text, c) ← tagText? c
    return (⟨some handle, text⟩, c)

def tagMark? (c : Cursor) : Option (TagMark × Cursor) :=
  (tagHere? c).filter fun r => isEnd r.2.next?

/-- A number of a version. -/
def versionNumber (c : Cursor) : Except Fault (Nat × Cursor) :=
  let (digits, c) := c.takeWhile Char.isDigit
  if digits.isEmpty then .error .malformed
  else if Number.maxDigits < digits.length then .error (.noWhole (.tooManyDigits digits.length))
  else .ok (Number.ofDigits digits, c)

/-- A version: two numbers with a point between them. -/
def versionOf (c : Cursor) : Except Fault (Directive × Cursor) := do
  let (major, c) ← versionNumber c.dropBlanks
  if !c.sees (· == '.') then .error .malformed
  else
    let (_, c) ← versionNumber c.advance
    if isEnd c.next? then return (.version major, c) else .error .malformed

/-- A handle and what it stands for. -/
def handleOf? (c : Cursor) : Option (Directive × Cursor) := do
  let (handle, c) ← tagHandle? c.dropBlanks
  if !c.sees (· == ' ') then none
  else
    let (meaning, c) ← tagText? c.dropBlanks
    if isEnd c.next? then some (.handle handle meaning, c) else none

/-- What a directive of some name says. -/
def directiveValue (name : String) (c : Cursor) : Except Fault (Directive × Cursor) :=
  if name = "YAML" then versionOf c
  else if name = "TAG" then wellFormed (handleOf? c)
  else .ok (.other, c.dropWhile (!isBreak ·))

/-- A directive behind its mark, with the rest of its line. -/
def directive (c : Cursor) : Except Fault (Directive × Cursor) := do
  let (name, c) := c.takeWhile isNameChar
  if name.isEmpty || !isEnd c.next? then .error .malformed
  else
    let (directive, c) ← directiveValue (String.ofList name) c
    return (directive, ← wellFormed c.nextLine?)

end Scaffold.Yaml
