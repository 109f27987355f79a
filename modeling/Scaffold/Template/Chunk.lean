import Scaffold.Expression.Grammar
import Scaffold.Template.Lexeme
/-!
Chunks: the tree of a template.  The tags of a template are read in order with the open blocks on
a stack; a chunk goes into the branch of the innermost open block that is being filled.
-/

namespace Scaffold.Template

open Expression Scaffold.Text

/-- A part of a parsed template.  Tags keep the line they start on. -/
inductive Chunk where
  | text (s : String)
  | interpolation (value : Node) (guard : Option Node) (line : Nat)
  | conditional (guard : Node) (whenTrue whenFalse : List Chunk) (line : Nat)
  | iteration (binder : String) (collection : Path) (body : List Chunk) (line : Nat)
deriving Inhabited

/-- Why the tags of a template make no tree. -/
inductive TagFault where
  | expression (source : String) (fault : Fault)
  | badIteration
  | strayElse
  | strayEnd
  | unclosed (word : String)
  | unknown (content : String)
deriving DecidableEq

def TagFault.message : TagFault → String
  | .expression source fault => fault.message source
  | .badIteration => "expected 'each <name> in <path>'"
  | .strayElse => "'else' outside of an 'if' or 'unless' block"
  | .strayEnd => "'end' without an open block"
  | .unclosed word => "'" ++ word ++ "' block is never closed with 'end'"
  | .unknown content => "unknown tag '" ++ content ++ "'"

/-- A fault with the line of the tag it lies in. -/
structure LineFault where
  line : Nat
  fault : TagFault
deriving DecidableEq

inductive Opening where
  | conditional (word : String) (guard : Node)
  | iteration (binder : String) (collection : Path)
deriving DecidableEq

def Opening.word : Opening → String
  | .conditional word _ => word
  | .iteration _ _ => "each"

/-- What a control tag does. -/
inductive Control where
  | openBlock (opening : Opening)
  | elseBranch
  | closeBlock
deriving DecidableEq

/-- An open block, with its chunks so far in reverse; the second branch is there from its `else`
on. -/
structure Block where
  opening : Opening
  line : Nat
  first : List Chunk
  second : Option (List Chunk)

/-- The block with one more chunk in the branch that is being filled. -/
def Block.add (b : Block) (c : Chunk) : Block :=
  match b.second with
  | none => { b with first := c :: b.first }
  | some cs => { b with second := some (c :: cs) }

def Block.close (b : Block) : Chunk :=
  match b.opening with
  | .conditional _ guard =>
    .conditional guard b.first.reverse (b.second.getD []).reverse b.line
  | .iteration binder collection => .iteration binder collection b.first.reverse b.line

/-- The open blocks, the innermost first, and the finished chunks outside of them in reverse. -/
structure Builder where
  blocks : List Block
  root : List Chunk

def Builder.add (b : Builder) (c : Chunk) : Builder :=
  match b.blocks with
  | [] => { b with root := c :: b.root }
  | block :: outer => { b with blocks := block.add c :: outer }

/-- The variable and the collection of an iteration, from the words behind `each`. -/
def splitIteration? (rest : List Char) : Option (List Char × List Char) :=
  match rest with
  | [] => none
  | c :: more =>
    if Naming.isNameStart c then
      let binder := c :: more.takeWhile Naming.isNameRest
      match more.dropWhile Naming.isNameRest with
      | [] => none
      | gap :: later =>
        if isBlank gap then
          match trimLeft later with
          | 'i' :: 'n' :: gap :: collection =>
            if isBlank gap then
              let path := trim collection
              if path.isEmpty then none else some (binder, path)
            else none
          | _ => none
        else none
    else none

def readControl (content : List Char) : Except TagFault Control :=
  let (word, rest) := firstWord content
  let source := String.ofList rest
  if word = "if".toList then
    match parseGuard source with
    | .ok guard => .ok (.openBlock (.conditional "if" guard))
    | .error e => .error (.expression source e)
  else if word = "unless".toList then
    match parseGuard source with
    | .ok guard => .ok (.openBlock (.conditional "unless" (.negation guard)))
    | .error e => .error (.expression source e)
  else if word = "each".toList then
    match splitIteration? rest with
    | none => .error .badIteration
    | some (binder, path) =>
      match parsePath (String.ofList path) with
      | .ok collection => .ok (.openBlock (.iteration (String.ofList binder) collection))
      | .error e => .error (.expression (String.ofList path) e)
  else if word = "else".toList ∧ rest = [] then .ok .elseBranch
  else if word = "end".toList ∧ rest = [] then .ok .closeBlock
  else .error (.unknown (String.ofList content))

def Builder.control (b : Builder) (line : Nat) : Control → Except TagFault Builder
  | .openBlock opening => .ok { b with blocks := ⟨opening, line, [], none⟩ :: b.blocks }
  | .elseBranch =>
    match b.blocks with
    | block :: outer =>
      match block.opening, block.second with
      | .conditional _ _, none => .ok { b with blocks := { block with second := some [] } :: outer }
      | _, _ => .error .strayElse
    | [] => .error .strayElse
  | .closeBlock =>
    match b.blocks with
    | block :: outer => .ok (Builder.add { b with blocks := outer } block.close)
    | [] => .error .strayEnd

def Builder.tag (b : Builder) (t : Tag) : Except TagFault Builder :=
  let content := trim t.body
  match t.kind with
  | .comment => .ok b
  | .interpolation =>
    match parseInterpolation (String.ofList content) with
    | .ok i => .ok (b.add (.interpolation i.value i.guard t.line))
    | .error e => .error (.expression (String.ofList content) e)
  | .control =>
    match readControl content with
    | .ok c => b.control t.line c
    | .error e => .error e

def Builder.step (b : Builder) : Lexeme → Except LineFault Builder
  | .text s => .ok (b.add (.text (String.ofList s)))
  | .tag t => (b.tag t).mapError (⟨t.line, ·⟩)

/-- The finished tree, if no block is left open. -/
def Builder.finish (b : Builder) : Except LineFault (List Chunk) :=
  match b.blocks with
  | [] => .ok b.root.reverse
  | block :: _ => .error ⟨block.line, .unclosed block.opening.word⟩

def chunksOf (ls : List Lexeme) : Except LineFault (List Chunk) := do
  (← ls.foldlM Builder.step ⟨[], []⟩).finish

def parseChunks (source : String) : Except LineFault (List Chunk) :=
  chunksOf (lexemes source)

end Scaffold.Template
