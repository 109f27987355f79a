import Scaffold.Proofs.Template.Outline
import Scaffold.Proofs.Template.Rendering

/-! Rendering of outlines.  An outline is rendered line by line: the lines of a block that is passed
over are missing, and nothing stands in their place. -/
namespace Scaffold.Template
open Expression Text

variable (own : Model.Ownership) (scope : Scope)

/-- The text of a part. -/
def Part.render (n : Nat) : Part → Except (Nat × Failure) String
  | .text s => return s
  | .inset (.path p) => atLine n ((Node.path p).evaluateText own scope)
  | .inset (.textUnless s p) => do
    return if ← atLine n ((Node.path p).evaluateGuard own scope) then "" else s

mutual
/-- The lines of an outline that starts on line `n` of its template. -/
def Outline.render (scope : Scope) (n : Nat) : Outline → Except (Nat × Failure) (List String)
  | .line parts => do
    return [String.join (← parts.mapM (Part.render own scope n))]
  | .block _ (.onTrue p) body => do
    if ← atLine n ((Node.path p).evaluateGuard own scope) then bodyRender scope (n + 1) body
    else return []
  | .block _ (.onFalse p) body => do
    if ← atLine n ((Node.path p).evaluateGuard own scope) then return []
    else bodyRender scope (n + 1) body
  | .block _ (.each binder p) body => do
    let items ← atLine n ((Node.path p).evaluateSequence own scope)
    let lines ← items.mapM fun item => bodyRender (scope.child [(binder, item)]) (n + 1) body
    return lines.flatten

def bodyRender (scope : Scope) (n : Nat) : List Outline → Except (Nat × Failure) (List String)
  | [] => return []
  | o :: os => do
    let lines ← o.render scope n
    return lines ++ (← bodyRender scope (n + o.height) os)
end

theorem ofLines_append (ls ms : List String) : ofLines (ls ++ ms) = ofLines ls ++ ofLines ms := by
  simp [ofLines]

theorem ofLines_flatten (lss : List (List String)) :
    ofLines lss.flatten = String.join (lss.map ofLines) := by
  induction lss with
  | nil => rfl
  | cons ls lss ih => simp [ofLines_append, ih]

theorem renderChunks_addText (s : String) (cs : List Chunk) :
    renderChunks own scope (addText s cs) = (s ++ ·) <$> renderChunks own scope cs := by
  have htext (t : String) (ds : List Chunk) : renderChunks own scope (.text t :: ds) =
      (t ++ ·) <$> renderChunks own scope ds := by
    rw [renderChunks_cons, renderChunk, map_eq_pure_bind]
    rfl
  unfold addText
  split
  next t ds =>
    rw [htext, htext, ← comp_map]
    simp [Function.comp_def, String.append_assoc]
  next ds _ =>
    by_cases hs : s = ""
    · rw [if_pos hs, hs]
      simp
    · rw [if_neg hs, htext]

/-- A part in front of chunks is rendered in front of their text. -/
theorem renderChunks_part (n : Nat) (p : Part) (cs : List Chunk) :
    renderChunks own scope (p.onto n cs) = do
      let s ← p.render own scope n
      return s ++ (← renderChunks own scope cs) := by
  cases p with
  | text s =>
    rw [Part.onto, renderChunks_addText, Part.render, pure_bind, map_eq_pure_bind]
  | inset i =>
    rw [Part.onto, renderChunks_cons]
    cases i with
    | path p => simp only [Inset.reading, renderChunk, Part.render, pure_bind, if_true]
    | textUnless s p =>
      simp only [Inset.reading, renderChunk, atLine_negation, Part.render, bind_assoc, pure_bind]
      congr 1
      funext b
      cases b <;> rfl

theorem renderChunks_parts (n : Nat) (parts : List Part) (cs : List Chunk) :
    renderChunks own scope (parts.foldr (fun p cs => p.onto n cs) cs) = do
      let texts ← parts.mapM (Part.render own scope n)
      return String.join texts ++ (← renderChunks own scope cs) := by
  induction parts with
  | nil => simp only [List.foldr_nil, List.mapM_nil, pure_bind, String.join_nil,
      String.empty_append, bind_pure]
  | cons p parts ih =>
    simp only [List.foldr_cons, renderChunks_part, ih, List.mapM_cons, bind_assoc, pure_bind,
      String.join_cons, String.append_assoc]

theorem mapM_bind_pure {α β γ ε : Type} (f : α → Except ε β) (g : β → γ) (as : List α) :
    (as.mapM fun a => do return g (← f a)) = do return (← as.mapM f).map g := by
  induction as with
  | nil => rfl
  | cons a as ih =>
    simp only [List.mapM_cons, ih, bind_assoc, pure_bind, List.map_cons]

mutual
/-- An outline in front of chunks is rendered in front of their text. -/
theorem renderChunks_outline (scope : Scope) (n : Nat) (o : Outline) (cs : List Chunk) :
    renderChunks own scope (o.onto n cs) = do
      let lines ← o.render own scope n
      return ofLines lines ++ (← renderChunks own scope cs) := by
  cases o with
  | line parts =>
    simp only [Outline.onto, renderChunks_parts, renderChunks_addText, Outline.render,
      map_eq_pure_bind, bind_assoc, pure_bind, ofLines, List.map_cons, List.map_nil,
      String.join_cons, String.join_nil, String.append_empty, String.append_assoc]
  | block indent heading body =>
    -- The scope is general here, as a loop renders its body in scopes of its own.
    have hbody (scope : Scope) : renderChunks own scope (bodyOnto (n + 1) [] body) = do
        return ofLines (← bodyRender own scope (n + 1) body) := by
      rw [renderChunks_body scope (n + 1) body []]
      simp only [renderChunks_nil, pure_bind, String.append_empty]
    have hskip : ofLines [] = "" := rfl
    cases heading with
    | onTrue p =>
      simp only [Outline.onto, Heading.chunk, renderChunks_cons, renderChunk, Outline.render, hbody,
        bind_assoc]
      congr 1
      funext b
      cases b <;> simp only [Bool.false_eq_true, ↓reduceIte, renderChunks_nil, pure_bind, hskip,
        bind_assoc]
    | onFalse p =>
      simp only [Outline.onto, Heading.chunk, renderChunks_cons, renderChunk, Outline.render, hbody,
        bind_assoc, atLine_negation, pure_bind]
      congr 1
      funext b
      cases b <;> simp only [Bool.false_eq_true, ↓reduceIte, Bool.not_false, Bool.not_true,
        renderChunks_nil, pure_bind, hskip, bind_assoc]
    | each binder p =>
      simp only [Outline.onto, Heading.chunk, renderChunks_cons, renderChunk, Outline.render, hbody,
        mapM_bind_pure, bind_assoc, pure_bind, ofLines_flatten]

theorem renderChunks_body (scope : Scope) (n : Nat) (os : List Outline) (cs : List Chunk) :
    renderChunks own scope (bodyOnto n cs os) = do
      let lines ← bodyRender own scope n os
      return ofLines lines ++ (← renderChunks own scope cs) := by
  cases os with
  | nil => simp only [bodyOnto, bodyRender, pure_bind, ofLines, List.map_nil, String.join_nil,
      String.empty_append, bind_pure]
  | cons o os =>
    rw [bodyOnto, renderChunks_outline scope n o, bodyRender]
    simp only [renderChunks_body scope (n + o.height) os, ofLines_append, bind_assoc, pure_bind,
      String.append_assoc]
end

/-- An outline is rendered to its lines. -/
theorem render_outlineChunks (name : String) (os : List Outline) :
    render own ⟨name, outlineChunks os⟩ scope =
      match bodyRender own scope 1 os with
      | .ok lines => .ok (ofLines lines)
      | .error (line, cause) => .error ⟨name, line, cause⟩ := by
  rw [render, outlineChunks, renderChunks_body, renderChunks_nil]
  simp only [pure_bind, String.append_empty]
  cases bodyRender own scope 1 os <;> rfl

end Scaffold.Template
