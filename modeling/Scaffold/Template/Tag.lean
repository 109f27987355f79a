import Scaffold.Text.Literal
/-!
Tags: the parts of a template between `<%` and `%>`.  A comment ends at the first `%>`; in any
other tag a `%>` inside a quoted literal does not end it, unless nothing behind the literal would.
Main statement: a source is its texts and tags, one after the other.
-/

namespace Scaffold.Template

open Scaffold.Text

/-- What the first character behind `<%` makes of a tag. -/
inductive TagKind where
  | comment
  | interpolation
  | control
deriving DecidableEq, Inhabited

def TagKind.mark : TagKind → List Char
  | .comment => ['#']
  | .interpolation => ['=']
  | .control => []

/-- A tag with the line it starts on. -/
structure Tag where
  kind : TagKind
  body : List Char
  line : Nat
deriving DecidableEq, Inhabited

def Tag.chars (t : Tag) : List Char :=
  '<' :: '%' :: (t.kind.mark ++ t.body ++ ['%', '>'])

/-- The text before the first `%>` and what follows it. -/
def upToClose? : List Char → Option (List Char × List Char)
  | '%' :: '>' :: rest => some ([], rest)
  | c :: rest => (upToClose? rest).map fun r => (c :: r.1, r.2)
  | [] => none

/-- Whether a `%>` is still to come. -/
def closes (cs : List Char) : Bool :=
  (upToClose? cs).isSome

/-- The literal that a quote opens inside a tag, quotes included, and the rest.  It stays on its
line; a backslash takes any character with it. -/
def literalInTag? (quote : Char) (rest : List Char) : Option (List Char × List Char) :=
  if quote = '"' ∨ quote = '\'' then
    (literalBody? (· != '\n') (fun _ => true) quote rest).map fun r =>
      (quote :: r.1 ++ [quote], r.2)
  else none

theorem eq_append_of_literalInTag? {quote : Char} {rest literal after : List Char}
    (h : literalInTag? quote rest = some (literal, after)) :
    quote :: rest = literal ++ after := by
  unfold literalInTag? at h
  split at h
  · obtain ⟨⟨b, r⟩, hr, heq⟩ := Option.map_eq_some_iff.1 h
    simp only [Prod.mk.injEq] at heq
    obtain ⟨rfl, rfl⟩ := heq
    simp [eq_append_of_literalBody? hr]
  · simp at h

theorem length_le_of_literalInTag? {quote : Char} {rest literal after : List Char}
    (h : literalInTag? quote rest = some (literal, after)) : after.length ≤ rest.length := by
  unfold literalInTag? at h
  split at h
  · obtain ⟨⟨b, r⟩, hr, heq⟩ := Option.map_eq_some_iff.1 h
    simp only [Prod.mk.injEq] at heq
    obtain ⟨rfl, rfl⟩ := heq
    exact Nat.le_of_lt (length_lt_of_literalBody? hr)
  · simp at h

/-- The body of a tag and what follows its `%>`.  A literal is passed over whole if a `%>` comes
behind it. -/
def bodyToClose? (cs : List Char) : Option (List Char × List Char) :=
  match cs with
  | [] => none
  | c :: rest =>
    if c = '%' ∧ rest.head? = some '>' then some ([], rest.tail)
    else
      match _h : literalInTag? c rest with
      | some (literal, after) =>
        if closes after then (bodyToClose? after).map fun r => (literal ++ r.1, r.2)
        else (bodyToClose? rest).map fun r => (c :: r.1, r.2)
      | none => (bodyToClose? rest).map fun r => (c :: r.1, r.2)
termination_by cs.length
decreasing_by
  · have := length_le_of_literalInTag? _h
    simp only [List.length_cons]
    omega
  · simp
  · simp

/-- The tag that follows `<%`: its kind, its body and what comes behind it. -/
def tagAfter? (cs : List Char) : Option (TagKind × List Char × List Char) :=
  match cs with
  | '#' :: rest => (upToClose? rest).map fun r => (.comment, r.1, r.2)
  | '=' :: rest => (bodyToClose? rest).map fun r => (.interpolation, r.1, r.2)
  | rest => (bodyToClose? rest).map fun r => (.control, r.1, r.2)

theorem eq_append_of_upToClose? {cs body rest : List Char}
    (h : upToClose? cs = some (body, rest)) : cs = body ++ '%' :: '>' :: rest := by
  fun_induction upToClose? cs generalizing body rest with
  | case1 => simp_all
  | case2 c r _ ih =>
    obtain ⟨⟨b, r'⟩, hr, heq⟩ := Option.map_eq_some_iff.1 h
    simp only [Prod.mk.injEq] at heq
    obtain ⟨rfl, rfl⟩ := heq
    simp [ih hr]
  | case3 => simp at h

theorem eq_append_of_bodyToClose? {cs body rest : List Char}
    (h : bodyToClose? cs = some (body, rest)) : cs = body ++ '%' :: '>' :: rest := by
  fun_induction bodyToClose? cs generalizing body rest with
  | case1 => simp at h
  | case2 c r hc =>
    obtain ⟨rfl, hr⟩ := hc
    cases r with
    | nil => simp at hr
    | cons d r => simp_all
  | case3 c r hc literal after hl _ ih =>
    obtain ⟨⟨b, r'⟩, hr, heq⟩ := Option.map_eq_some_iff.1 h
    simp only [Prod.mk.injEq] at heq
    obtain ⟨rfl, rfl⟩ := heq
    simp [eq_append_of_literalInTag? hl, ih hr]
  | case4 c r hc literal after hl _ ih =>
    obtain ⟨⟨b, r'⟩, hr, heq⟩ := Option.map_eq_some_iff.1 h
    simp only [Prod.mk.injEq] at heq
    obtain ⟨rfl, rfl⟩ := heq
    simp [ih hr]
  | case5 c r hc hl ih =>
    obtain ⟨⟨b, r'⟩, hr, heq⟩ := Option.map_eq_some_iff.1 h
    simp only [Prod.mk.injEq] at heq
    obtain ⟨rfl, rfl⟩ := heq
    simp [ih hr]

/-- The mark and the body of a tag, its `%>` and the rest make up the input. -/
theorem eq_append_of_tagAfter? {cs body rest : List Char} {kind : TagKind}
    (h : tagAfter? cs = some (kind, body, rest)) :
    cs = kind.mark ++ body ++ '%' :: '>' :: rest := by
  unfold tagAfter? at h
  split at h <;>
    (obtain ⟨⟨b, r⟩, hr, heq⟩ := Option.map_eq_some_iff.1 h
     simp only [Prod.mk.injEq] at heq
     obtain ⟨rfl, rfl, rfl⟩ := heq)
  · simp [eq_append_of_upToClose? hr, TagKind.mark]
  · simp [eq_append_of_bodyToClose? hr, TagKind.mark]
  · simp [eq_append_of_bodyToClose? hr, TagKind.mark]

/-- A source cut at its tags: the text before the first one, then each tag with the text behind
it. -/
structure Cut where
  lead : List Char
  tags : List (Tag × List Char)
deriving Inhabited

def lineFeeds (cs : List Char) : Nat :=
  cs.count '\n'

/-- The tag that starts with the character `c`, if one does. -/
def tagHere? (c : Char) (rest : List Char) : Option (TagKind × List Char × List Char) :=
  if c = '<' ∧ rest.head? = some '%' then tagAfter? rest.tail else none

theorem eq_append_of_tagHere? {c : Char} {rest body after : List Char} {kind : TagKind}
    (h : tagHere? c rest = some (kind, body, after)) :
    c :: rest = '<' :: '%' :: (kind.mark ++ body ++ '%' :: '>' :: after) := by
  unfold tagHere? at h
  split at h
  · rename_i hc
    obtain ⟨rfl, hr⟩ := hc
    cases rest with
    | nil => simp at hr
    | cons d rest =>
      simp only [List.head?_cons, Option.some.injEq] at hr
      subst hr
      rw [← eq_append_of_tagAfter? h, List.tail_cons]
  · simp at h

/-- Cuts a source at its tags; `line` is the number of its first line. -/
def cutFrom (line : Nat) (cs : List Char) : Cut :=
  match cs with
  | [] => ⟨[], []⟩
  | c :: rest =>
    match _h : tagHere? c rest with
    | some (kind, body, after) =>
      let r := cutFrom (line + lineFeeds body) after
      ⟨[], (⟨kind, body, line⟩, r.lead) :: r.tags⟩
    | none =>
      let r := cutFrom (if c = '\n' then line + 1 else line) rest
      ⟨c :: r.lead, r.tags⟩
termination_by cs.length
decreasing_by
  · have := congrArg List.length (eq_append_of_tagHere? _h)
    simp only [List.length_append, List.length_cons] at this ⊢
    omega
  · simp

def cut (cs : List Char) : Cut :=
  cutFrom 1 cs

def Cut.chars (c : Cut) : List Char :=
  c.lead ++ c.tags.flatMap fun t => t.1.chars ++ t.2

/-- Cutting loses nothing. -/
theorem chars_cutFrom (line : Nat) (cs : List Char) : (cutFrom line cs).chars = cs := by
  fun_induction cutFrom line cs with
  | case1 => simp [Cut.chars]
  | case2 line c rest kind body after h r ih =>
    rw [eq_append_of_tagHere? h]
    simp only [Cut.chars, List.nil_append, List.flatMap_cons, List.append_assoc]
    show Tag.chars _ ++ r.chars = _
    rw [ih]
    simp [Tag.chars]
  | case3 line c rest h r ih => exact congrArg (c :: ·) ih

end Scaffold.Template
