import Scaffold.Yaml.Block
import Scaffold.Yaml.Plain
import Scaffold.Yaml.Property
import Scaffold.Yaml.Quoted
/-!
The tokens of a document.  Indentation opens and closes collections, and a scalar or a bracketed
collection turns out to be a key only when a colon follows it on its line.  Where no token can be
had, a last one says why.
-/

namespace Scaffold.Yaml

inductive Token where
  | documentStart
  | documentEnd
  | blockSequence
  | blockMapping
  | blockEnd
  | openList
  | closeList
  | openMap
  | closeMap
  | comma
  | dash
  | key
  | colon
  | scalar (points : List Nat) (plain : Bool)
  | directive (d : Directive)
  | alias (name : String)
  | anchor (name : String)
  | tag (mark : TagMark)
  | broken (fault : Fault)
deriving DecidableEq, Inhabited

/-- Where a key may have started: before which token, and at which place of the document. -/
structure KeyPlace where
  tokens : Nat
  index : Nat
  line : Nat
  column : Nat
  required : Bool

/-- What is known of a document up to some place.  The tokens are in reverse.  A block collection
whose elements stand in column `n` has the indentation `n + 1`; outside of all there is none.
`keys` holds, for each level of brackets, where a key may have started there. -/
structure Lexer where
  cursor : Cursor
  tokens : List Token
  count : Nat
  indent : Nat
  outer : List Nat
  flow : Nat
  mayStart : Bool
  keys : List (Nat × KeyPlace)

namespace Lexer

def start (cs : List Char) : Lexer := ⟨.start cs, [], 0, 0, [], 0, true, []⟩

def push (l : Lexer) (t : Token) : Lexer :=
  { l with tokens := t :: l.tokens, count := l.count + 1 }

/-- A token put in before those from some number on. -/
def insert (l : Lexer) (at_ : Nat) (t : Token) : Lexer :=
  let later := l.count - at_
  { l with tokens := l.tokens.take later ++ t :: l.tokens.drop later, count := l.count + 1 }

def goto (l : Lexer) (c : Cursor) : Lexer := { l with cursor := c }

/-- Whether a key may start at the next token. -/
def allow (l : Lexer) (mayStart : Bool) : Lexer := { l with mayStart }

/-- Closes the block collections that are indented deeper than `bound`. -/
def unwindFrom (l : Lexer) (bound indent : Nat) : List Nat → Lexer
  | [] => { l with indent, outer := [] }
  | n :: outer =>
    if bound < indent then (l.push .blockEnd).unwindFrom bound n outer
    else { l with indent, outer := n :: outer }

/-- Closes the block collections that are indented deeper than `bound`; between brackets there are
none. -/
def unwind (l : Lexer) (bound : Nat) : Lexer :=
  if l.flow = 0 then l.unwindFrom bound l.indent l.outer else l

/-- Whether a key can no longer be: it and its colon stand on one line, and not too far apart. -/
def isStale (l : Lexer) (k : KeyPlace) : Bool :=
  k.line ≠ l.cursor.line || 1024 < l.cursor.index - k.index

/-- Forgets the keys that can no longer be. -/
def dropStale (l : Lexer) : Except Fault Lexer :=
  if l.keys.any fun k => l.isStale k.2 && k.2.required then .error .malformed
  else .ok { l with keys := l.keys.filter fun k => !l.isStale k.2 }

/-- Forgets the key of the present level. -/
def dropKey (l : Lexer) : Except Fault Lexer :=
  if (l.keys.lookup l.flow).any (·.required) then .error .malformed
  else .ok { l with keys := l.keys.filter (·.1 != l.flow) }

/-- Remembers that a key may start here. -/
def saveKey (l : Lexer) : Except Fault Lexer :=
  if l.mayStart then do
    let l ← l.dropKey
    let c := l.cursor
    let place : KeyPlace :=
      ⟨l.count, c.index, c.line, c.column, l.flow == 0 && l.indent == c.column + 1⟩
    return { l with keys := (l.flow, place) :: l.keys }
  else .ok l

/-- Whether elements in a column make a new block collection. -/
def deeper (l : Lexer) (column : Nat) : Bool := l.flow == 0 && l.indent ≤ column

def indentTo (l : Lexer) (column : Nat) : Lexer :=
  { l with indent := column + 1, outer := l.indent :: l.outer }

/-- Takes up the start of a bracketed collection. -/
def openFlow (l : Lexer) (t : Token) : Except Fault Lexer := do
  let l ← l.saveKey
  let l := l.push t
  return { l with flow := l.flow + 1, mayStart := true, cursor := l.cursor.advance }

/-- Takes up the end of a bracketed collection. -/
def closeFlow (l : Lexer) (t : Token) : Except Fault Lexer := do
  if l.flow = 0 then .error .malformed
  else
    let l := (← l.dropKey).push t
    return { l with flow := l.flow - 1, mayStart := false, cursor := l.cursor.advance }

/-- Takes up the mark of an element or of a key: a new collection may start with it. -/
def mark (l : Lexer) (collection t : Token) (mayStart : Bool) : Except Fault Lexer := do
  if l.flow = 0 && !l.mayStart then .error .malformed
  else
    let column := l.cursor.column
    let l := if l.deeper column then (l.push collection).indentTo column else l
    let l ← l.dropKey
    return ((l.push t).allow mayStart).goto l.cursor.advance

/-- Takes up a colon: it makes a key of what stands before it, if that may be one. -/
def colon (l : Lexer) : Except Fault Lexer :=
  match l.keys.lookup l.flow with
  | some k =>
    let l := { l with keys := l.keys.filter (·.1 != l.flow) }
    let l := l.insert k.tokens .key
    let l := if l.deeper k.column then (l.insert k.tokens .blockMapping).indentTo k.column else l
    .ok (((l.push .colon).allow false).goto l.cursor.advance)
  | none => l.mark .blockMapping .colon (l.flow = 0)

def separator (l : Lexer) (t : Token) : Except Fault Lexer := do
  let l ← (l.unwind 0).dropKey
  return ((l.push t).allow false).goto (l.cursor.skip 3)

def directive (l : Lexer) : Except Fault Lexer := do
  let l ← (l.unwind 0).dropKey
  let (d, c) ← Yaml.directive l.cursor.advance
  return ((l.push (.directive d)).allow false).goto c

/-- Takes up a token that a key may start with. -/
def keyed (l : Lexer) (t : Token) (mayStart : Bool) (c : Cursor) : Except Fault Lexer := do
  return (((← l.saveKey).push t).allow mayStart).goto c

/-- Takes up an anchor, or the alias of one. -/
def named (l : Lexer) (t : String → Token) : Except Fault Lexer := do
  let (name, c) ← wellFormed (anchorName? l.cursor.advance)
  l.keyed (t name) false c

def tagged (l : Lexer) : Except Fault Lexer := do
  let (mark, c) ← wellFormed (tagMark? l.cursor)
  l.keyed (.tag mark) false c

def quoted (l : Lexer) (quote : Char) : Except Fault Lexer := do
  let c := l.cursor.advance
  let (points, c) ← quotedText quote (c.rest.length + 1) c
  l.keyed (.scalar points false) false c

def block (l : Lexer) (folded : Bool) : Except Fault Lexer := do
  let l ← l.dropKey
  let (text, c) ← wellFormed (blockText folded l.indent l.cursor.advance)
  return ((l.push (.scalar (text.map Char.toNat) false)).allow true).goto c

def plain (l : Lexer) : Except Fault Lexer :=
  let (text, ended, c) := plainText (0 < l.flow) l.indent (l.cursor.rest.length + 1) l.cursor
  l.keyed (.scalar (text.map Char.toNat) true) ended c

/-- Whether a plain scalar starts with a character that another one follows. -/
def startsPlain (flow : Bool) (c : Char) (next : Option Char) : Bool :=
  !(isGap (some c) || "-?:,[]\x7b\x7d#&*!|>'\"%@".toList.contains c || c == '\x60')
    || (!isGap next && (c == '-' || (!flow && (c == '?' || c == ':'))))

/-- Blanks, line ends and comments are passed over; outside of brackets a key may start on a new
line. -/
def toToken : Nat → Lexer → Lexer
  | 0, l => l
  | n + 1, l =>
    let c := l.cursor.dropComment
    if c.seesBreak then
      toToken n ((l.goto c.skipBreak.2).allow (l.mayStart || l.flow == 0))
    else l.goto c

/-- Takes up the next token, which starts with the character `c`. -/
def token (l : Lexer) (c : Char) : Except Fault Lexer :=
  let next := l.cursor.second?
  let flow := 0 < l.flow
  let first := l.cursor.column = 0
  if c = '%' ∧ first then l.directive
  else if first ∧ seesSeparator l.cursor then
    l.separator (if c = '-' then .documentStart else .documentEnd)
  else if c = '[' then l.openFlow .openList
  else if c = '\x7b' then l.openFlow .openMap
  else if c = ']' then l.closeFlow .closeList
  else if c = '\x7d' then l.closeFlow .closeMap
  else if c = ',' then do
    let l ← (l.allow true).dropKey
    return (l.push .comma).goto l.cursor.advance
  else if c = '-' ∧ isGap next then l.mark .blockSequence .dash true
  else if c = '?' ∧ (flow || isGap next) then l.mark .blockMapping .key (!flow)
  else if c = ':' ∧ (flow || isGap next) then l.colon
  else if c = '*' then l.named .alias
  else if c = '&' then l.named .anchor
  else if c = '!' then l.tagged
  else if c = '|' ∧ !flow then l.block false
  else if c = '>' ∧ !flow then l.block true
  else if c = '\'' ∨ c = '"' then l.quoted c
  else if startsPlain flow c next then l.plain
  else .error .malformed

/-- Takes up what comes next, and tells whether anything did. -/
def step (l : Lexer) : Except Fault (Bool × Lexer) := do
  let l ← (toToken (l.cursor.rest.length + 1) l).dropStale
  match l.cursor.next? with
  | none => return (false, ← (l.unwind 0).dropKey)
  | some c => return (true, ← (l.unwind (l.cursor.column + 1)).token c)

/-- The tokens up to the first place where a key may have started.  Those behind it are not given
out before it is known whether it has. -/
def settled (l : Lexer) : List Token :=
  let pending := l.keys.filter fun k => !l.isStale k.2 || k.2.required
  let first := (pending.map (·.2.tokens)).foldr min l.count
  l.tokens.drop (l.count - first)

/-- All tokens, once those of the rest of a document were taken up. -/
def run : Nat → Lexer → List Token
  | 0, l => (l.push (.broken .malformed)).tokens.reverse
  | n + 1, l =>
    match l.step with
    | .ok (true, l) => run n l
    | .ok (false, l) => l.tokens.reverse
    | .error fault => (.broken fault :: l.settled).reverse

end Lexer

def tokens (cs : List Char) : List Token :=
  if cs.all isAdmitted then
    let cs := if cs.head? = some orderMark then cs.drop 1 else cs
    (Lexer.start cs).run (cs.length + 1)
  else [.broken .malformed]

end Scaffold.Yaml
