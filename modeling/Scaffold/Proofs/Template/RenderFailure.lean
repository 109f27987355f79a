import Scaffold.Proofs.Template.Outline
import Scaffold.Proofs.Template.PlainScope
import Scaffold.Proofs.Template.TagPlace

/-! Failures of rendering.  Over plain values a template is rendered to a text, or it fails at one
of the tags that rendering meets: on the line of that tag, and with the cause that evaluation gives
in the scope the tag is met in. -/
namespace Scaffold.Template
open Model Expression

/-! ### What tags ask for -/

/-- What a tag needs of the scope: the truth value of a guard, the text of a value, or the elements
of a collection. -/
inductive Demand where
  | truth (guard : Node)
  | text (value : Node)
  | sequence (collection : Path)

def Demand.node : Demand → Node
  | truth g => g
  | text v => v
  | sequence p => .path p

def Demand.Fails (own : Ownership) (s : Scope) (e : Failure) : Demand → Prop
  | truth g => g.evaluateGuard own s = .error e
  | text v => v.evaluateText own s = .error e
  | sequence p => (Node.path p).evaluateSequence own s = .error e

inductive Tag.Asks : Tag → Demand → Prop
  | value {t : Tag} {i : Interpolation} : t.Writes i → t.Asks (.text i.value)
  | suffix {t : Tag} {i : Interpolation} {g : Node} : t.Writes i → i.guard = some g →
      t.Asks (.truth g)
  | guard {t : Tag} {word : String} {g : Node} : t.Opens (.conditional word g) → t.Asks (.truth g)
  | collection {t : Tag} {x : String} {p : Path} : t.Opens (.iteration x p) → t.Asks (.sequence p)

section
variable {own : Ownership} {s s' : Scope} {e : Failure} {d : Demand}

/-- A demand that is not met fails with its expression or a part of it. -/
theorem Demand.Fails.exists_part (h : d.Fails own s e) : ∃ m ∈ d.node.parts, e.path = m.shown := by
  cases d with
  | truth g => exact Node.exists_part_of_evaluateGuard h
  | text v => exact Node.exists_part_of_evaluateText h
  | sequence p => exact Node.exists_part_of_evaluateSequence h

/-! ### Tags that rendering meets -/

/-- Rendering a body in a scope meets a tag behind some lexemes in a scope of its own.  A branch is
entered as its guard says, and the body of a loop once for each element, with the element bound. -/
inductive Meets (own : Ownership) : Scope → List Phrase → List Lexeme → Tag → Scope → Prop
  | interpolation (s : Scope) (t : Tag) (i : Interpolation) (ps : List Phrase) :
      Meets own s (.interpolation t i :: ps) [] t s
  | opening {p : Phrase} {o d : Tag} {a : Opening} {body : List Phrase}
      {branch : Option (List Phrase × Tag)} (s : Scope) (ps : List Phrase) :
      p.IsBlock o a body d branch → Meets own s (p :: ps) [] o s
  | whenTrue {s s' : Scope} {p : Phrase} {o d t : Tag} {word : String} {g : Node}
      {body : List Phrase} {branch : Option (List Phrase × Tag)} {pre : List Lexeme}
      (ps : List Phrase) : p.IsBlock o (.conditional word g) body d branch →
      g.evaluateGuard own s = .ok true → Meets own s body pre t s' →
      Meets own s (p :: ps) (.tag o :: pre) t s'
  | whenFalse {s s' : Scope} {p : Phrase} {o d c t : Tag} {word : String} {g : Node}
      {body other : List Phrase} {pre : List Lexeme} (ps : List Phrase) :
      p.IsBlock o (.conditional word g) body d (some (other, c)) →
      g.evaluateGuard own s = .ok false → Meets own s other pre t s' →
      Meets own s (p :: ps) (.tag o :: (bodyLexemes body ++ .tag d :: pre)) t s'
  | loop {s s' : Scope} {p : Phrase} {o d t : Tag} {x : String} {collection : Path}
      {body : List Phrase} {branch : Option (List Phrase × Tag)} {items : List Value} {item : Value}
      {pre : List Lexeme} (ps : List Phrase) :
      p.IsBlock o (.iteration x collection) body d branch →
      (Node.path collection).evaluateSequence own s = .ok items → item ∈ items →
      Meets own (s.child [(x, item)]) body pre t s' → Meets own s (p :: ps) (.tag o :: pre) t s'
  | later {s s' : Scope} {ps : List Phrase} {pre : List Lexeme} {t : Tag} (p : Phrase) :
      Meets own s ps pre t s' → Meets own s (p :: ps) (p.lexemes ++ pre) t s'

variable {ps : List Phrase} {pre : List Lexeme} {t : Tag}

/-- A tag that is met is a lexeme of the body, behind those in front of it. -/
theorem Meets.bodyLexemes_eq (h : Meets own s ps pre t s') :
    ∃ post, bodyLexemes ps = pre ++ .tag t :: post := by
  induction h with
  | interpolation s t i ps => exact ⟨bodyLexemes ps, rfl⟩
  | opening s ps hp =>
    rw [bodyLexemes, hp.lexemes_append]
    exact ⟨_, rfl⟩
  | whenTrue ps hp _ _ ih | loop ps hp _ _ _ ih =>
    obtain ⟨post, hpost⟩ := ih
    rw [bodyLexemes, hp.lexemes_append, hpost, List.append_assoc, List.cons_append]
    exact ⟨_, rfl⟩
  | whenFalse ps hp _ _ ih =>
    obtain ⟨post, hpost⟩ := ih
    rw [bodyLexemes, hp.lexemes_append, branchLexemes, hpost]
    simp only [List.append_assoc, List.cons_append]
    exact ⟨_, rfl⟩
  | later p _ ih =>
    obtain ⟨post, hpost⟩ := ih
    rw [bodyLexemes, hpost, ← List.append_assoc]
    exact ⟨post, rfl⟩

/-- Only elements of collections are bound on the way to a tag, so that its scope is plain too. -/
theorem Meets.isPlain (h : Meets own s ps pre t s') (hs : s.IsPlain own) : s'.IsPlain own := by
  induction h with
  | interpolation | opening => exact hs
  | whenTrue _ _ _ _ ih | whenFalse _ _ _ _ ih => exact ih hs
  | loop _ _ hitems hitem _ ih => exact ih (hs.child (hs.of_mem_evaluateSequence hitems hitem))
  | later _ _ ih => exact ih hs

/-! ### Where rendering fails -/

variable {n m : Nat}

theorem atLine_eq_error_iff {α : Type} {r : Except Failure α} :
    atLine m r = .error (n, e) ↔ m = n ∧ r = .error e := by
  cases r <;> simp [atLine]

theorem atLine_eq_ok_iff {α : Type} {r : Except Failure α} {a : α} :
    atLine m r = .ok a ↔ r = .ok a := by
  cases r <;> simp [atLine]

theorem renderChunk_interpolation_eq_error {value : Node} {guard : Option Node}
    (h : renderChunk own s (.interpolation value guard m) = .error (n, e)) :
    m = n ∧ ((∃ g, guard = some g ∧ g.evaluateGuard own s = .error e) ∨
      value.evaluateText own s = .error e) := by
  cases guard with
  | none =>
    simp only [renderChunk, pure_bind] at h
    exact (atLine_eq_error_iff.mp h).imp_right .inr
  | some g =>
    rw [renderChunk] at h
    obtain h | ⟨b, -, h⟩ := bind_eq_error_iff.mp h
    · exact (atLine_eq_error_iff.mp h).imp_right fun hg => .inl ⟨g, rfl, hg⟩
    · cases b with
      | false => cases h
      | true => exact (atLine_eq_error_iff.mp h).imp_right .inr

theorem renderChunk_conditional_eq_error {guard : Node} {whenTrue whenFalse : List Chunk}
    (h : renderChunk own s (.conditional guard whenTrue whenFalse m) = .error (n, e)) :
    (m = n ∧ guard.evaluateGuard own s = .error e) ∨
    (guard.evaluateGuard own s = .ok true ∧ renderChunks own s whenTrue = .error (n, e)) ∨
    (guard.evaluateGuard own s = .ok false ∧ renderChunks own s whenFalse = .error (n, e)) := by
  rw [renderChunk] at h
  obtain h | ⟨b, hb, h⟩ := bind_eq_error_iff.mp h
  · exact .inl (atLine_eq_error_iff.mp h)
  · cases b with
    | true => exact .inr (.inl ⟨atLine_eq_ok_iff.mp hb, h⟩)
    | false => exact .inr (.inr ⟨atLine_eq_ok_iff.mp hb, h⟩)

theorem renderChunk_iteration_eq_error {x : String} {collection : Path} {body : List Chunk}
    (h : renderChunk own s (.iteration x collection body m) = .error (n, e)) :
    (m = n ∧ (Node.path collection).evaluateSequence own s = .error e) ∨
    ∃ items item, (Node.path collection).evaluateSequence own s = .ok items ∧ item ∈ items ∧
      renderChunks own (s.child [(x, item)]) body = .error (n, e) := by
  rw [renderChunk] at h
  obtain h | ⟨items, hitems, h⟩ := bind_eq_error_iff.mp h
  · exact .inl (atLine_eq_error_iff.mp h)
  · right
    obtain h | ⟨texts, -, h⟩ := bind_eq_error_iff.mp h
    · obtain ⟨ys, hys, -⟩ | ⟨before, item, after, e', rfl, -, hitem, he⟩ := mapM_except_cases
        (fun item => renderChunks own (s.child [(x, item)]) body) items
      · cases hys.symm.trans h
      · cases he.symm.trans h
        exact ⟨_, item, atLine_eq_ok_iff.mp hitems, by simp, hitem⟩
    · cases h

mutual
/-- Where the chunk of a node fails, rendering meets a tag that asks for what fails. -/
theorem exists_meets_of_renderChunk {p : Phrase} (hp : p.IsDerivation) {s : Scope}
    (h : renderChunk own s p.chunk = .error (n, e)) (ps : List Phrase) :
    ∃ pre t s' d, Meets own s (p :: ps) pre t s' ∧ t.line = n ∧ t.Asks d ∧ d.Fails own s' e := by
  cases p with
  | text => cases h
  | interpolation t i =>
    obtain ⟨hline, ⟨g, hguard, hg⟩ | hvalue⟩ := renderChunk_interpolation_eq_error h
    · exact ⟨[], t, s, .truth g, .interpolation s t i ps, hline, .suffix hp hguard, hg⟩
    · exact ⟨[], t, s, .text i.value, .interpolation s t i ps, hline, .value hp, hvalue⟩
  | conditional o g body c =>
    obtain ⟨⟨word, ho⟩, hb, -⟩ := hp
    have hblock : (Phrase.conditional o g body c).IsBlock o (.conditional word g) body c none :=
      .conditional
    obtain ⟨hline, hg⟩ | ⟨hg, hbody⟩ | ⟨-, hother⟩ := renderChunk_conditional_eq_error h
    · exact ⟨[], o, s, .truth g, .opening s ps hblock, hline, .guard ho, hg⟩
    · obtain ⟨pre, t, s', d, hmeets, hrest⟩ := exists_meets_of_renderChunks hb hbody
      exact ⟨_, t, s', d, .whenTrue ps hblock hg hmeets, hrest⟩
    · cases hother
  | alternative o g body m other c =>
    obtain ⟨⟨word, ho⟩, hb, -, hother, -⟩ := hp
    have hblock : (Phrase.alternative o g body m other c).IsBlock o (.conditional word g) body m
        (some (other, c)) := .alternative
    obtain ⟨hline, hg⟩ | ⟨hg, hbody⟩ | ⟨hg, hfalse⟩ := renderChunk_conditional_eq_error h
    · exact ⟨[], o, s, .truth g, .opening s ps hblock, hline, .guard ho, hg⟩
    · obtain ⟨pre, t, s', d, hmeets, hrest⟩ := exists_meets_of_renderChunks hb hbody
      exact ⟨_, t, s', d, .whenTrue ps hblock hg hmeets, hrest⟩
    · obtain ⟨pre, t, s', d, hmeets, hrest⟩ := exists_meets_of_renderChunks hother hfalse
      exact ⟨_, t, s', d, .whenFalse ps hblock hg hmeets, hrest⟩
  | loop o x collection body c =>
    obtain ⟨ho, hb, -⟩ := hp
    obtain ⟨hline, hitems⟩ | ⟨items, item, hitems, hitem, hbody⟩ := renderChunk_iteration_eq_error h
    · exact ⟨[], o, s, .sequence collection, .opening s ps .loop, hline, .collection ho, hitems⟩
    · obtain ⟨pre, t, s', d, hmeets, hrest⟩ := exists_meets_of_renderChunks hb hbody
      exact ⟨_, t, s', d, .loop ps .loop hitems hitem hmeets, hrest⟩

theorem exists_meets_of_renderChunks {ps : List Phrase} (hp : BodyIsDerivation ps) {s : Scope}
    (h : renderChunks own s (bodyChunks ps) = .error (n, e)) :
    ∃ pre t s' d, Meets own s ps pre t s' ∧ t.line = n ∧ t.Asks d ∧ d.Fails own s' e := by
  cases ps with
  | nil => cases h
  | cons p ps =>
    rw [bodyChunks, renderChunks_cons] at h
    obtain h | ⟨text, -, h⟩ := bind_eq_error_iff.mp h
    · exact exists_meets_of_renderChunk hp.1 h ps
    · obtain h | ⟨rest, -, h⟩ := bind_eq_error_iff.mp h
      · obtain ⟨pre, t, s', d, hmeets, hrest⟩ := exists_meets_of_renderChunks hp.2 h
        exact ⟨_, t, s', d, .later p hmeets, hrest⟩
      · cases h
end

/-! ### Outcomes -/

/-- A failure is that of a tag of the source.  Rendering meets the tag, and what it asks for fails
with this cause in the scope it is met in; the line is one more than the line feeds in front of the
tag; and the cause names the expression that was asked for or a part of it. -/
def IsDueToTag (own : Ownership) (source : String) (body : List Phrase) (s : Scope) (line : Nat)
    (cause : Failure) : Prop :=
  ∃ pre t s' before d, Meets own s body pre t s' ∧
    t.StandsIn source (pre.filterMap Lexeme.active?) before ∧ before ++ t.chars <+: source.toList ∧
    line = 1 + lineFeeds before ∧ t.Asks d ∧ d.Fails own s' cause ∧
    ∃ m ∈ d.node.parts, cause.path = m.shown

/-- A template that was parsed is rendered over plain values to a text, or it fails under its name
at a tag of the source.  Nothing else can come of it: in every scope in which a tag is met, whatever
is read can be read on, compared and written. -/
theorem render_cases {source name : String} {t : Template} (ht : parse source name = .ok t)
    (hs : s.IsPlain own) : ∃ body, Derives body (withoutComments (lexemes source)) ∧
      (∀ pre u s', Meets own s body pre u s' → s'.IsSafe own) ∧
      ((∃ text, t.render own s = .ok text) ∨ ∃ line cause,
        t.render own s = .error ⟨name, line, cause⟩ ∧
          IsDueToTag own source body s line cause) := by
  obtain ⟨cs, hcs, rfl⟩ := parse_eq_ok_iff.mp ht
  obtain ⟨body, hbody, hlexemes, rfl⟩ := chunksOf_eq_ok_iff.mp hcs
  refine ⟨body, ⟨hbody, hlexemes⟩, fun pre u s' hmeets => (hmeets.isPlain hs).isSafe, ?_⟩
  cases hr : renderChunks own s (bodyChunks body) with
  | ok text => exact .inl ⟨text, by rw [render, hr]⟩
  | error fault =>
    obtain ⟨line, cause⟩ := fault
    obtain ⟨pre, u, s', d, hmeets, rfl, hasks, hfails⟩ := exists_meets_of_renderChunks hbody hr
    obtain ⟨post, hpost⟩ := hmeets.bodyLexemes_eq
    obtain ⟨before, hplace, hprefix, hline⟩ := exists_standsIn (hlexemes.symm.trans hpost)
    exact .inr ⟨u.line, cause, by rw [render, hr], pre, u, s', before, d, hmeets, hplace, hprefix,
      hline, hasks, hfails, hfails.exists_part⟩

end

/-- A loop over `ops` that writes what each of them returns. -/
def spellings : List Outline :=
  [.block 0 (.each "op" ⟨"ops", []⟩) [.line [.inset (.path ⟨"op", ["return_spelling"]⟩)]]]

/-- An operation, and a text that is none. -/
def mixed : Scope := Scope.child [] [("ops", .list [.entity (.operation reset), .text "halt"])]

theorem isPlain_mixed : mixed.IsPlain ⟨1, [], []⟩ := by
  have hempty : Scope.IsPlain ⟨1, [], []⟩ [] := fun x v h => by cases h
  have hreset : (Entity.operation reset).IsConstructible ⟨1, [], []⟩ := ⟨_, reached_reset, by simp⟩
  refine hempty.child (.list fun v hv => ?_)
  simp only [List.mem_cons, List.not_mem_nil, or_false] at hv
  obtain rfl | rfl := hv
  · exact .entity hreset
  · exact .text _

theorem render_cases_mixed :
    parse (sourceOf spellings) "spellings" = .ok ⟨"spellings", outlineChunks spellings⟩ ∧
    mixed.IsPlain ⟨1, [], []⟩ ∧ ∃ body,
      Derives body (withoutComments (lexemes (sourceOf spellings))) ∧
      IsDueToTag ⟨1, [], []⟩ (sourceOf spellings) body mixed 2
        (.unresolved "op.return_spelling" "return_spelling" (.kind "str")) := by
  have hwritable : bodyIsWritable spellings = true := by decide
  have hparse := parse_sourceOf hwritable "spellings"
  have hrender : render ⟨1, [], []⟩ ⟨"spellings", outlineChunks spellings⟩ mixed = .error
      ⟨"spellings", 2, .unresolved "op.return_spelling" "return_spelling" (.kind "str")⟩ := by
    decide
  refine ⟨hparse, isPlain_mixed, ?_⟩
  obtain ⟨body, hbody, -, ⟨text, htext⟩ | ⟨line, cause, herror, hdue⟩⟩ :=
    render_cases hparse isPlain_mixed
  · cases hrender.symm.trans htext
  · cases hrender.symm.trans herror
    exact ⟨body, hbody, hdue⟩

end Scaffold.Template
