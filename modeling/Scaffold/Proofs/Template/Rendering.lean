import Scaffold.Template.Basic

/-! Laws of rendering: chunks are rendered one after the other, each in the scope of the whole, and
a negated guard is the guard with its answers exchanged. -/
namespace Scaffold.Template
open Expression

variable (own : Model.Ownership) (scope : Scope)

@[simp] theorem renderChunks_nil : renderChunks own scope [] = pure "" := rfl

theorem renderChunks_cons (c : Chunk) (cs : List Chunk) :
    renderChunks own scope (c :: cs) = do
      let s ← renderChunk own scope c
      return s ++ (← renderChunks own scope cs) := rfl

theorem renderChunks_append (cs ds : List Chunk) :
    renderChunks own scope (cs ++ ds) = do
      let s ← renderChunks own scope cs
      return s ++ (← renderChunks own scope ds) := by
  induction cs with
  | nil => simp only [List.nil_append, renderChunks_nil, pure_bind, String.empty_append, bind_pure]
  | cons c cs ih =>
    simp only [List.cons_append, renderChunks_cons, ih, bind_assoc, pure_bind, String.append_assoc]

/-- A negated guard is false where the guard is true, and fails where the guard does. -/
theorem evaluateGuard_negation (m : Node) : m.negation.evaluateGuard own scope = do
    return !(← m.evaluateGuard own scope) := by
  simp only [Node.evaluateGuard, Node.evaluate, bind_assoc]
  rfl

theorem atLine_negation (n : Nat) (m : Node) : atLine n (m.negation.evaluateGuard own scope) = do
    return !(← atLine n (m.evaluateGuard own scope)) := by
  rw [evaluateGuard_negation]
  cases m.evaluateGuard own scope <;> rfl

end Scaffold.Template
