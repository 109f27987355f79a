import Scaffold.Expression.Evaluation
import Scaffold.Template.Chunk
/-!
Templates: parsed once under a name, rendered any number of times.  Rendering depends on the tree
and the scope alone, and a failure names the template, the line of the tag and the cause.
-/

namespace Scaffold

open Model Expression Template

structure Template where
  name : String
  chunks : List Chunk
deriving Inhabited

namespace Template

/-- A template whose tags make no tree. -/
structure SyntaxFault where
  template : String
  line : Nat
  fault : TagFault
deriving DecidableEq

/-- The wording of a syntax fault, without the place. -/
def SyntaxFault.detail (e : SyntaxFault) : String :=
  e.fault.message

def SyntaxFault.message (e : SyntaxFault) : String :=
  e.template ++ ":" ++ toString e.line ++ ": " ++ e.detail

/-- A tag that could not be rendered. -/
structure RenderFault where
  template : String
  line : Nat
  cause : Failure
deriving DecidableEq

def RenderFault.message (e : RenderFault) : String :=
  e.template ++ ":" ++ toString e.line ++ ": " ++ e.cause.message

/-- The name of a template that was given as text only. -/
def anonymous : String := "<string>"

def parse (source : String) (name : String) : Except SyntaxFault Template :=
  match parseChunks source with
  | .ok chunks => .ok ⟨name, chunks⟩
  | .error e => .error ⟨name, e.line, e.fault⟩

/-- Puts the line of a tag to a failure. -/
def atLine {α : Type} (line : Nat) : Except Failure α → Except (Nat × Failure) α
  | .ok a => .ok a
  | .error e => .error (line, e)

mutual
def renderChunk (own : Ownership) (scope : Scope) : Chunk → Except (Nat × Failure) String
  | .text s => .ok s
  | .interpolation value guard line => do
    let wanted ← match guard with
      | none => pure true
      | some g => atLine line (g.evaluateGuard own scope)
    if wanted then atLine line (value.evaluateText own scope) else pure ""
  | .conditional guard whenTrue whenFalse line => do
    if ← atLine line (guard.evaluateGuard own scope) then renderChunks own scope whenTrue
    else renderChunks own scope whenFalse
  | .iteration binder collection body line => do
    let items ← atLine line ((Node.path collection).evaluateSequence own scope)
    let texts ← items.mapM fun item => renderChunks own (scope.child [(binder, item)]) body
    return String.join texts

def renderChunks (own : Ownership) (scope : Scope) : List Chunk → Except (Nat × Failure) String
  | [] => .ok ""
  | c :: cs => do
    let s ← renderChunk own scope c
    let rest ← renderChunks own scope cs
    return s ++ rest
end

def render (own : Ownership) (t : Template) (scope : Scope) : Except RenderFault String :=
  match renderChunks own scope t.chunks with
  | .ok s => .ok s
  | .error (line, cause) => .error ⟨t.name, line, cause⟩

/-- The scope of bindings with further ones on top, if there are any. -/
def scopeWith (scope : Scope) (extra : Bindings) : Scope :=
  if extra.isEmpty then scope else scope.child extra

/-- A value that no template can be rendered against. -/
structure NotRenderable where
  typeName : String
deriving DecidableEq

def NotRenderable.message (e : NotRenderable) : String :=
  "cannot render against a " ++ e.typeName

/-- The texts among the keys of a mapping, with their values. -/
def textBindings (entries : List (Scalar × Value)) : Bindings :=
  entries.filterMap fun e =>
    match e.1 with
    | .text name => some (name, e.2)
    | _ => none

/-- The bindings of a template that is rendered against a task: the task and its component. -/
def taskBindings (own : Ownership) (t : Task) : Bindings :=
  let component := match own.component? t with
    | some c => Value.entity (.component c)
    | none => .null
  [("task", .entity (.task t)), ("component", component)]

/-- The root bindings that a template sees when it is rendered against a model.  A task brings its
component along, any other entity stands under its own name, a mapping is used as it is. -/
def bindingsFor (own : Ownership) : Value → Except NotRenderable Bindings
  | .dict entries => .ok (textBindings entries)
  | .entity (.task t) => .ok (taskBindings own t)
  | .entity e => .ok [(e.bindingName, .entity e)]
  | v => .error ⟨v.typeName⟩

end Template

end Scaffold
