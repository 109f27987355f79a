import Scaffold.Yaml.Node
/-!
Composition: the node that the tokens of a document make.  What is wrong with a property is seen
where it stands, so that of several faults the first one counts, and collections are nested only so
deep.
-/

namespace Scaffold.Yaml

/-- The most collections around a part of a document. -/
def maxDepth : Nat := 494

/-- What was made of tokens, what anchors name then, and the tokens that are left. -/
abbrev Composed (α : Type) := α × Anchors × List Token

/-- Tokens that cannot be read on: if they are broken off here, the reason is why. -/
def stuck {α : Type} : List Token → Except Fault α
  | .broken fault :: _ => .error fault
  | _ => .error .malformed

/-- Whether an element of a block collection is left out before a token. -/
def leavesOut : List Token → Bool
  | [] => true
  | t :: _ => t == .key || t == .colon || t == .blockEnd

def leavesOutItem (ts : List Token) : Bool :=
  leavesOut ts || ts.head? == some .dash

def leavesOutFlow (closing : Token) : List Token → Bool
  | [] => true
  | t :: _ => t == .comma || t == closing

/-- The tokens behind the comma that has to come next, unless the element is the first one. -/
def behindComma (first : Bool) (ts : List Token) : Except Fault (List Token) :=
  if first then .ok ts
  else
    match ts with
    | .comma :: ts => .ok ts
    | ts => stuck ts

/-- A part, or what stands for it where it is left out. -/
@[macro_inline]
def partUnless (leftOut : Bool) (known : Anchors) (ts : List Token)
    (part : Except Fault (Composed Node)) : Except Fault (Composed Node) :=
  if leftOut then .ok (.empty, known, ts) else part

def aliased (known : Anchors) (name : String) (ts : List Token) : Except Fault (Composed Node) :=
  wellFormed ((known.lookup name).map (·, known, ts))

namespace Properties

def scalar (handles : Handles) (known : Anchors) (ps : Properties) (points : List Nat)
    (plain : Bool) (ts : List Token) : Except Fault (Composed Node) := do
  let own := if plain then plainTag points else .text
  let tag ← wellFormed (ps.tagOr? handles own (bareTagOf points))
  let node := Node.scalar tag points
  return (node, ← wellFormed (ps.anchored? node known), ts)

/-- Why tokens that are broken off behind properties make no part.  Behind an anchor and a tag no
more properties can stand, so that their handle is looked up first. -/
def brokenOff (handles : Handles) (ps : Properties) (fault : Fault) : Fault :=
  if ps.anchor.isSome && (ps.tagOr? handles .text .text).isNone then .malformed else fault

/-- A collection with properties, within so many others; `kind` is its tag unless another one is
given. -/
def collection {α : Type} (handles : Handles) (known : Anchors) (depth : Nat) (ps : Properties)
    (kind : Tag) (make : Tag → List α → Node)
    (parts : Anchors → Except Fault (Composed (List α))) : Except Fault (Composed Node) := do
  let tag ← wellFormed (ps.tagOr? handles kind kind)
  let known ← wellFormed (ps.anchored? (make tag []) known)
  if maxDepth ≤ depth then .error .tooDeep
  else
    let (items, known, ts) ← parts known
    let node := make tag items
    return (node, ps.settle node known, ts)

end Properties

mutual
/-- Reads a part within so many collections; `block` tells that a block collection may stand here,
`flush` that a list may without being indented. -/
def node (handles : Handles) (depth : Nat) (block flush : Bool) :
    Nat → Anchors → List Token → Except Fault (Composed Node)
  | 0, _, ts => stuck ts
  | _ + 1, known, .alias name :: ts => aliased known name ts
  | n + 1, known, ts =>
    let (ps, rest) := Properties.ofTokens ts
    let bare : Except Fault (Composed Node) :=
      if ps = .absent then stuck rest else ps.scalar handles known [] true rest
    match rest with
    | .broken fault :: _ => .error (ps.brokenOff handles fault)
    | .scalar points plain :: ts => ps.scalar handles known points plain ts
    | .openList :: ts =>
      ps.collection handles known depth .list .list fun known =>
        flowItems handles (depth + 1) true n known ts
    | .openMap :: ts =>
      ps.collection handles known depth .mapping .mapping fun known =>
        flowEntries handles (depth + 1) true n known ts
    | .dash :: _ =>
      if flush then
        ps.collection handles known depth .list .list fun known =>
          blockItems handles (depth + 1) n known rest
      else bare
    | .blockSequence :: ts =>
      if block then
        ps.collection handles known depth .list .list fun known => do
          let (items, known, ts) ← blockItems handles (depth + 1) n known ts
          match ts with
          | .blockEnd :: ts => return (items, known, ts)
          | ts => stuck ts
      else bare
    | .blockMapping :: ts =>
      if block then
        ps.collection handles known depth .mapping .mapping fun known =>
          blockEntries handles (depth + 1) n known ts
      else bare
    | _ => bare
termination_by structural n => n

/-- Reads the elements of a list, each behind a dash. -/
def blockItems (handles : Handles) (depth : Nat) :
    Nat → Anchors → List Token → Except Fault (Composed (List Node))
  | 0, _, ts => stuck ts
  | n + 1, known, .dash :: ts => do
    let (item, known, ts) ← partUnless (leavesOutItem ts) known ts
      (node handles depth true false n known ts)
    let (items, known, ts) ← blockItems handles depth n known ts
    return (item :: items, known, ts)
  | _ + 1, known, ts => .ok ([], known, ts)
termination_by structural n => n

/-- Reads the entries of a mapping and its end. -/
def blockEntries (handles : Handles) (depth : Nat) :
    Nat → Anchors → List Token → Except Fault (Composed (List (Node × Node)))
  | 0, _, ts => stuck ts
  | _ + 1, known, .blockEnd :: ts => .ok ([], known, ts)
  | n + 1, known, .key :: ts => do
    let (k, known, ts) ← partUnless (leavesOut ts) known ts
      (node handles depth true true n known ts)
    let (v, known, ts) ← entryValue handles depth n known ts
    let (es, known, ts) ← blockEntries handles depth n known ts
    return ((k, v) :: es, known, ts)
  | _ + 1, _, ts => stuck ts
termination_by structural n => n

/-- Reads the value of an entry of a mapping, if there is one. -/
def entryValue (handles : Handles) (depth : Nat) :
    Nat → Anchors → List Token → Except Fault (Composed Node)
  | 0, _, ts => stuck ts
  | n + 1, known, .colon :: ts =>
    partUnless (leavesOut ts) known ts (node handles depth true true n known ts)
  | _ + 1, known, ts => .ok (.empty, known, ts)
termination_by structural n => n

/-- Reads the elements of a bracketed list and its end; `first` tells that none was read. -/
def flowItems (handles : Handles) (depth : Nat) (first : Bool) :
    Nat → Anchors → List Token → Except Fault (Composed (List Node))
  | 0, _, ts => stuck ts
  | _ + 1, known, .closeList :: ts => .ok ([], known, ts)
  | n + 1, known, ts => do
    match ← behindComma first ts with
    | .closeList :: ts => return ([], known, ts)
    | .key :: ts =>
      let (item, known, ts) ← Properties.absent.collection handles known depth .mapping .mapping
        fun known => do
          let (e, known, ts) ← flowEntry handles (depth + 1) .closeList n known ts
          return ([e], known, ts)
      let (items, known, ts) ← flowItems handles depth false n known ts
      return (item :: items, known, ts)
    | ts =>
      let (item, known, ts) ← node handles depth false false n known ts
      let (items, known, ts) ← flowItems handles depth false n known ts
      return (item :: items, known, ts)
termination_by structural n => n

/-- Reads the entries of a bracketed mapping and its end; `first` tells that none was read. -/
def flowEntries (handles : Handles) (depth : Nat) (first : Bool) :
    Nat → Anchors → List Token → Except Fault (Composed (List (Node × Node)))
  | 0, _, ts => stuck ts
  | _ + 1, known, .closeMap :: ts => .ok ([], known, ts)
  | n + 1, known, ts => do
    match ← behindComma first ts with
    | .closeMap :: ts => return ([], known, ts)
    | .key :: ts =>
      let (e, known, ts) ← flowEntry handles depth .closeMap n known ts
      let (es, known, ts) ← flowEntries handles depth false n known ts
      return (e :: es, known, ts)
    | ts =>
      let (k, known, ts) ← node handles depth false false n known ts
      let (es, known, ts) ← flowEntries handles depth false n known ts
      return ((k, .empty) :: es, known, ts)
termination_by structural n => n

/-- Reads the key and the value of an entry between brackets. -/
def flowEntry (handles : Handles) (depth : Nat) (closing : Token) :
    Nat → Anchors → List Token → Except Fault (Composed (Node × Node))
  | 0, _, ts => stuck ts
  | n + 1, known, ts => do
    let (k, known, ts) ← partUnless (ts.head? == some .colon || leavesOutFlow closing ts) known ts
      (node handles depth false false n known ts)
    match ts with
    | .colon :: ts =>
      let (v, known, ts) ← partUnless (leavesOutFlow closing ts) known ts
        (node handles depth false false n known ts)
      return ((k, v), known, ts)
    | ts => return ((k, .empty), known, ts)
termination_by structural n => n
end

def dropEnds : List Token → List Token
  | .documentEnd :: ts => dropEnds ts
  | ts => ts

/-- The directives that tokens start with, and the tokens behind them. -/
def directivesOf : List Token → List Directive × List Token
  | .directive d :: ts =>
    let (ds, ts) := directivesOf ts
    (d :: ds, ts)
  | ts => ([], ts)

/-- The node of a document whose start has been read. -/
def contentOf (handles : Handles) (n : Nat) : List Token → Except Fault (Composed Node)
  | [] => .ok (.empty, [], [])
  | t :: ts =>
    match t with
    | .documentStart => .ok (.empty, [], t :: ts)
    | .documentEnd => .ok (.empty, [], t :: ts)
    | .directive _ => .ok (.empty, [], t :: ts)
    | _ => node handles 0 true false n [] (t :: ts)

/-- The node of a document that comes next, if there is one, and the tokens behind it. -/
def documentOf (ts : List Token) : Except Fault (Composed (Option Node)) := do
  let n := 3 * ts.length + 3
  let (ds, ts) := directivesOf ts
  let handles ← wellFormed (handlesOf false [] ds)
  match ds, ts with
  | [], [] => return (none, [], [])
  | _, .documentStart :: ts =>
    let (root, known, ts) ← contentOf handles n ts
    return (some root, known, ts)
  | [], ts =>
    let (root, known, ts) ← node handles 0 true false n [] ts
    return (some root, known, ts)
  | _, ts => stuck ts

/-- The node of tokens that make one document or none. -/
def Node.ofTokens? (ts : List Token) : Except Fault (Option Node) := do
  let (root, _, rest) ← documentOf ts
  match dropEnds rest with
  | [] => return root
  | ts => stuck ts

end Scaffold.Yaml
