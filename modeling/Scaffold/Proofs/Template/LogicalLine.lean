import Mathlib.Data.List.TakeWhile
import Scaffold.Template.Lexeme

/-! Logical lines of a template.  A line feed inside a tag ends no line, so lines are made of whole
tags and the characters between them.  Lexing drops the characters of control lines, and nothing
else. -/
namespace Scaffold.Template
open Scaffold.Text

/-- A character outside of all tags, or a whole tag. -/
inductive Piece where
  | char (c : Char)
  | tag (t : Tag)
  deriving DecidableEq

/-- A piece as it is written. -/
def Piece.chars : Piece → List Char
  | .char c => [c]
  | .tag t => t.chars

/-- Blanks, comments and control tags: all that a control line may hold. -/
def Piece.isQuiet : Piece → Bool
  | .char c => isBlank c
  | .tag t => t.kind != .interpolation

def Piece.isTag : Piece → Bool
  | .char _ => false
  | .tag _ => true

def Piece.feed : Piece := .char '\n'

/-- The characters between two tags, as pieces. -/
def charPieces (s : List Char) : List Piece := s.map .char

def tagPieces (tags : List (Tag × List Char)) : List Piece :=
  tags.flatMap fun t => Piece.tag t.1 :: charPieces t.2

def Cut.pieces (c : Cut) : List Piece := charPieces c.lead ++ tagPieces c.tags

/-- The lines of a source: each but the last ends with the only line feed it has outside of
tags. -/
def logicalLines : List Piece → List (List Piece)
  | [] => []
  | p :: rest =>
    if p = .feed then [p] :: logicalLines rest
    else
      match logicalLines rest with
      | [] => [[p]]
      | line :: lines => (p :: line) :: lines

/-- A line with tags, none of them an interpolation, and otherwise blank. -/
def isControlLine (line : List Piece) : Bool := line.any Piece.isTag && line.all Piece.isQuiet

/-- What lexing keeps of a line: of a control line the tags, of any other line everything. -/
def keptOf (line : List Piece) : List Piece :=
  if isControlLine line then line.filter Piece.isTag else line

/-- The lexemes of pieces: tags, and maximal runs of characters as texts. -/
def assemble : List Piece → List Lexeme
  | [] => []
  | .tag t :: rest => .tag t :: assemble rest
  | .char c :: rest =>
    match assemble rest with
    | .text s :: ls => .text (c :: s) :: ls
    | ls => .text [c] :: ls

@[simp] theorem charPieces_nil : charPieces [] = [] := rfl

@[simp] theorem charPieces_cons (c : Char) (s : List Char) :
    charPieces (c :: s) = .char c :: charPieces s := rfl

@[simp] theorem charPieces_append (s t : List Char) :
    charPieces (s ++ t) = charPieces s ++ charPieces t := List.map_append

@[simp] theorem feed_mem_charPieces {s : List Char} : Piece.feed ∈ charPieces s ↔ '\n' ∈ s := by
  simp [charPieces, Piece.feed]

@[simp] theorem filter_isTag_charPieces (s : List Char) :
    (charPieces s).filter Piece.isTag = [] := by
  simp [charPieces, List.filter_eq_nil_iff, Piece.isTag]

theorem any_isTag_charPieces (s : List Char) : (charPieces s).any Piece.isTag = false := by
  simp [charPieces, Piece.isTag]

theorem isQuiet_of_mem_charPieces {s : List Char} (h : allBlank s = true) {p : Piece}
    (hp : p ∈ charPieces s) : p.isQuiet = true := by
  obtain ⟨c, hc, rfl⟩ := List.mem_map.mp hp
  exact List.all_eq_true.mp h c hc

/-- A text that is not blank shows in its pieces. -/
theorem exists_loud_of_not_allBlank {s : List Char} (h : allBlank s = false) :
    ∃ p ∈ charPieces s, p.isQuiet = false := by
  obtain ⟨c, hc, hb⟩ := List.all_eq_false.mp h
  exact ⟨.char c, List.mem_map_of_mem hc, by simpa [Piece.isQuiet] using hb⟩

/-! ### Lines -/

theorem logicalLines_feed (rest : List Piece) :
    logicalLines (Piece.feed :: rest) = [Piece.feed] :: logicalLines rest := by
  simp [logicalLines]

theorem logicalLines_cons {p : Piece} (hp : p ≠ .feed) {rest line : List Piece}
    {lines : List (List Piece)} (h : logicalLines rest = line :: lines) :
    logicalLines (p :: rest) = (p :: line) :: lines := by
  simp [logicalLines, hp, h]

/-- Lines lose nothing and keep the order. -/
theorem flatten_logicalLines (ps : List Piece) : (logicalLines ps).flatten = ps := by
  induction ps with
  | nil => rfl
  | cons p rest ih =>
    rw [logicalLines]
    split
    · simp [ih]
    · split
      next h =>
        rw [h] at ih
        simp [← ih]
      next line lines h =>
        rw [h] at ih
        simp [← ih]

theorem eq_nil_of_logicalLines {ps : List Piece} (h : logicalLines ps = []) : ps = [] := by
  rw [← flatten_logicalLines ps, h]
  rfl

/-- A line feed ends a line, whatever follows. -/
theorem logicalLines_append_feed (ps rest : List Piece) :
    logicalLines (ps ++ Piece.feed :: rest) =
      logicalLines (ps ++ [Piece.feed]) ++ logicalLines rest := by
  induction ps with
  | nil => simp [logicalLines_feed, logicalLines]
  | cons p ps ih =>
    by_cases hp : p = .feed
    · subst hp
      simp only [List.cons_append, logicalLines_feed, ih]
    · cases h : logicalLines (ps ++ [Piece.feed]) with
      | nil => exact absurd (eq_nil_of_logicalLines h) (by simp)
      | cons line lines =>
        rw [List.cons_append, logicalLines_cons hp (ih.trans (by rw [h]; rfl)), List.cons_append,
          logicalLines_cons hp h]
        rfl

theorem logicalLines_of_notMem {line : List Piece} (h : Piece.feed ∉ line) (hne : line ≠ []) :
    logicalLines line = [line] := by
  induction line with
  | nil => exact absurd rfl hne
  | cons p line ih =>
    simp only [List.mem_cons, not_or] at h
    cases line with
    | nil => simp [logicalLines, Ne.symm h.1]
    | cons q line => exact logicalLines_cons (Ne.symm h.1) (ih h.2 (by simp))

theorem logicalLines_line {line : List Piece} (h : Piece.feed ∉ line) :
    logicalLines (line ++ [Piece.feed]) = [line ++ [Piece.feed]] := by
  induction line with
  | nil => simp [logicalLines]
  | cons p line ih =>
    simp only [List.mem_cons, not_or] at h
    exact logicalLines_cons (Ne.symm h.1) (ih h.2)

theorem ne_nil_of_mem_logicalLines {ps line : List Piece} (h : line ∈ logicalLines ps) :
    line ≠ [] := by
  induction ps generalizing line with
  | nil => simp [logicalLines] at h
  | cons p rest ih =>
    rw [logicalLines] at h
    split at h
    · rcases List.mem_cons.mp h with rfl | h
      · simp
      · exact ih h
    · split at h
      next => simp_all
      next l ls hl =>
        rcases List.mem_cons.mp h with rfl | h
        · simp
        · exact ih (hl ▸ List.mem_cons_of_mem _ h)

/-- No line goes on behind a line feed. -/
theorem feed_notMem_dropLast {ps line : List Piece} (h : line ∈ logicalLines ps) :
    Piece.feed ∉ line.dropLast := by
  induction ps generalizing line with
  | nil => simp [logicalLines] at h
  | cons p rest ih =>
    by_cases hp : p = .feed
    · rw [hp, logicalLines_feed] at h
      rcases List.mem_cons.mp h with rfl | h
      · simp
      · exact ih h
    · cases hl : logicalLines rest with
      | nil =>
        rw [logicalLines, if_neg hp, hl] at h
        obtain rfl := List.mem_singleton.mp h
        simp
      | cons l ls =>
        rw [logicalLines_cons hp hl] at h
        rcases List.mem_cons.mp h with rfl | h
        · have hm : l ∈ logicalLines rest := by simp [hl]
          rw [List.dropLast_cons_of_ne_nil (ne_nil_of_mem_logicalLines hm)]
          exact List.not_mem_cons_of_ne_of_not_mem (Ne.symm hp) (ih hm)
        · exact ih (hl ▸ List.mem_cons_of_mem _ h)

/-- Every line but the last ends with a line feed. -/
theorem getLast?_of_mem_dropLast {ps line : List Piece} (h : line ∈ (logicalLines ps).dropLast) :
    line.getLast? = some .feed := by
  induction ps generalizing line with
  | nil => simp [logicalLines] at h
  | cons p rest ih =>
    by_cases hp : p = .feed
    · cases hl : logicalLines rest with
      | nil => simp [hp, logicalLines_feed, hl] at h
      | cons l ls =>
        rw [hp, logicalLines_feed, hl, List.dropLast_cons_of_ne_nil (by simp)] at h
        rcases List.mem_cons.mp h with rfl | h
        · rfl
        · exact ih (hl ▸ h)
    · cases hl : logicalLines rest with
      | nil => simp [logicalLines, hp, hl] at h
      | cons l ls =>
        rw [logicalLines_cons hp hl] at h
        cases ls with
        | nil => simp at h
        | cons l' ls =>
          have hm : l ∈ logicalLines rest := by simp [hl]
          rw [List.dropLast_cons_of_ne_nil (by simp)] at h
          rcases List.mem_cons.mp h with rfl | h
          · rw [List.getLast?_cons_of_ne_nil (ne_nil_of_mem_logicalLines hm)]
            exact ih (by simp [hl])
          · exact ih (by rw [hl, List.dropLast_cons_of_ne_nil (by simp)]
                         exact List.mem_cons_of_mem _ h)

/-! ### What is kept -/

/-- What lexing keeps of pieces; `mixed` tells that their first line is already known to hold more
than control tags, by what comes before them. -/
def kept (mixed : Bool) (ps : List Piece) : List Piece :=
  match logicalLines ps with
  | [] => []
  | line :: lines => (if mixed then line else keptOf line) ++ lines.flatMap keptOf

@[simp] theorem kept_nil (mixed : Bool) : kept mixed [] = [] := rfl

theorem kept_false (ps : List Piece) : kept false ps = (logicalLines ps).flatMap keptOf := by
  rw [kept]
  split <;> simp_all

theorem keptOf_of_loud {line : List Piece} (h : ∃ p ∈ line, p.isQuiet = false) :
    keptOf line = line := by
  have hq : line.all Piece.isQuiet = false := List.all_eq_false.mpr (by simpa using h)
  simp [keptOf, isControlLine, hq]

theorem keptOf_of_tagless {line : List Piece} (h : line.any Piece.isTag = false) :
    keptOf line = line := by
  simp [keptOf, isControlLine, h]

theorem keptOf_of_quiet {line : List Piece} {t : Tag} (ht : .tag t ∈ line)
    (h : ∀ p ∈ line, p.isQuiet = true) : keptOf line = line.filter Piece.isTag := by
  have ha : line.any Piece.isTag = true := List.any_eq_true.mpr ⟨_, ht, rfl⟩
  have hq : line.all Piece.isQuiet = true := List.all_eq_true.mpr h
  simp [keptOf, isControlLine, ha, hq]

theorem kept_of_notMem (mixed : Bool) {line : List Piece} (h : Piece.feed ∉ line) :
    kept mixed line = if mixed then line else keptOf line := by
  cases line with
  | nil => simp [kept, logicalLines, keptOf]
  | cons p line => simp [kept, logicalLines_of_notMem h]

theorem kept_line (mixed : Bool) {line : List Piece} (h : Piece.feed ∉ line)
    (rest : List Piece) :
    kept mixed (line ++ Piece.feed :: rest) =
      (if mixed then line ++ [Piece.feed] else keptOf (line ++ [Piece.feed])) ++
        kept false rest := by
  rw [kept, logicalLines_append_feed, logicalLines_line h, kept_false]
  rfl

/-- Lines without tags stay, whatever is known of the first one. -/
theorem kept_tagless (mixed : Bool) {ps : List Piece} (h : ps.any Piece.isTag = false) :
    kept mixed ps = ps := by
  have hk : ∀ line ∈ logicalLines ps, keptOf line = line := by
    intro line hl
    apply keptOf_of_tagless
    rw [List.any_eq_false] at h ⊢
    intro p hp
    apply h
    rw [← flatten_logicalLines ps]
    exact List.mem_flatten_of_mem hl hp
  rw [kept]
  refine Eq.trans ?_ (flatten_logicalLines ps)
  split
  next hl => simp [hl]
  next line lines hl =>
    rw [hl] at hk ⊢
    simp only [List.mem_cons, forall_eq_or_imp] at hk
    rw [hk.1, ite_self, List.flatMap_def, List.map_congr_left hk.2, List.map_id', List.flatten_cons]

/-- Text up to the end of a line is kept, and a new line begins behind it. -/
theorem kept_charPieces_append {mixed : Bool} {s : List Char} (hs : s = [] ∨ s.getLast? = some '\n')
    (rest : List Piece) :
    kept mixed (charPieces s ++ rest) = charPieces s ++ kept (mixed && s.isEmpty) rest := by
  rcases hs with rfl | hs
  · simp
  obtain ⟨t, rfl⟩ := List.getLast?_eq_some_iff.mp hs
  have ht := kept_tagless mixed (any_isTag_charPieces (t ++ ['\n']))
  have hsplit : charPieces (t ++ ['\n']) ++ rest = charPieces t ++ Piece.feed :: rest := by
    simp [Piece.feed]
  have hfeed : charPieces (t ++ ['\n']) = charPieces t ++ [Piece.feed] := by simp [Piece.feed]
  rw [hsplit, kept, logicalLines_append_feed, ← hfeed]
  rw [kept] at ht
  cases hl : logicalLines (charPieces (t ++ ['\n'])) with
  | nil => exact absurd (eq_nil_of_logicalLines hl) (by simp)
  | cons line lines =>
    have hne : (t ++ ['\n']).isEmpty = false := by cases t <;> rfl
    rw [hl] at ht
    simp only [List.cons_append, List.flatMap_append, ← List.append_assoc, ht]
    rw [hne, Bool.and_false, kept_false]

/-- The rest of a mixed line is kept whole, whatever it holds. -/
theorem kept_mixed_append {mid : List Piece} (h : Piece.feed ∉ mid) (rest : List Piece) :
    kept true (mid ++ rest) = mid ++ kept true rest := by
  by_cases hr : Piece.feed ∈ rest
  · obtain ⟨line, after, rfl, hl⟩ := List.eq_append_cons_of_mem hr
    have hm : Piece.feed ∉ mid ++ line := by simp [h, hl]
    rw [← List.append_assoc, kept_line _ hm, kept_line _ hl]
    simp
  · have hm : Piece.feed ∉ mid ++ rest := by simp [h, hr]
    rw [kept_of_notMem _ hm, kept_of_notMem _ hr]
    rfl

/-- A piece that no control line may hold makes its line a mixed one, be it before or behind the
place where the rest of the line begins. -/
theorem kept_append_of_loud {mid rest : List Piece} (h : Piece.feed ∉ mid)
    (hloud : ∃ p ∈ mid ++ rest.takeWhile (· != .feed), p.isQuiet = false) :
    kept false (mid ++ rest) = mid ++ kept true rest := by
  by_cases hr : Piece.feed ∈ rest
  · obtain ⟨line, after, rfl, hl⟩ := List.eq_append_cons_of_mem hr
    have hm : Piece.feed ∉ mid ++ line := by simp [h, hl]
    have htake : (line ++ Piece.feed :: after).takeWhile (· != .feed) = line := by
      rw [List.takeWhile_append_of_pos]
      · simp
      · intro p hp
        exact bne_iff_ne.mpr fun he => hl (he ▸ hp)
    rw [htake] at hloud
    have hk : keptOf (mid ++ line ++ [Piece.feed]) = mid ++ line ++ [Piece.feed] := by
      obtain ⟨p, hp, hq⟩ := hloud
      exact keptOf_of_loud ⟨p, List.mem_append_left _ hp, hq⟩
    rw [← List.append_assoc, kept_line _ hm, kept_line _ hl, if_neg Bool.false_ne_true, hk]
    simp
  · have hm : Piece.feed ∉ mid ++ rest := by simp [h, hr]
    have htake : rest.takeWhile (· != .feed) = rest :=
      List.takeWhile_eq_self_iff.mpr fun p hp => bne_iff_ne.mpr fun he => hr (he ▸ hp)
    rw [htake] at hloud
    rw [kept_of_notMem _ hm, kept_of_notMem _ hr]
    simpa using keptOf_of_loud hloud

/-! ### Lexemes of pieces -/

theorem assemble_charPieces (s : List Char) : assemble (charPieces s) = textLexeme s := by
  induction s with
  | nil => rfl
  | cons c s ih => cases s <;> simp_all [assemble, textLexeme]

theorem assemble_append_tag (ps : List Piece) (t : Tag) (qs : List Piece) :
    assemble (ps ++ .tag t :: qs) = assemble ps ++ .tag t :: assemble qs := by
  induction ps with
  | nil => rfl
  | cons p ps ih =>
    cases p with
    | tag u => simp [assemble, ih]
    | char c =>
      rw [List.cons_append, assemble, assemble, ih]
      cases assemble ps with
      | nil => rfl
      | cons l ls => cases l <;> rfl

theorem assemble_charPieces_tag (s : List Char) (t : Tag) (rest : List Piece) :
    assemble (charPieces s ++ .tag t :: rest) = textLexeme s ++ .tag t :: assemble rest := by
  rw [assemble_append_tag, assemble_charPieces]

theorem assemble_tags (run : List (Tag × List Char)) (rest : List Piece) :
    assemble (run.map (fun t => Piece.tag t.1) ++ rest) =
      run.map (fun t => Lexeme.tag t.1) ++ assemble rest := by
  induction run with
  | nil => rfl
  | cons t run ih => simp [assemble, ih]

/-! ### Runs of tags -/

/-- The pieces of a run of tags, without the text behind the last one. -/
def runPieces : List (Tag × List Char) → List Piece
  | [] => []
  | [(t, _)] => [.tag t]
  | (t, gap) :: rest => .tag t :: (charPieces gap ++ runPieces rest)

section
variable (t u : Tag × List Char) (run : List (Tag × List Char))

@[simp] theorem runPieces_cons_cons :
    runPieces (t :: u :: run) = .tag t.1 :: (charPieces t.2 ++ runPieces (u :: run)) := rfl

@[simp] theorem runLexemes_cons_cons :
    runLexemes (t :: u :: run) = .tag t.1 :: (textLexeme t.2 ++ runLexemes (u :: run)) := rfl

@[simp] theorem runTail_cons_cons : runTail (t :: u :: run) = runTail (u :: run) := by
  simp [runTail]

theorem runPieces_eq_tag_cons : ∃ ps, runPieces (t :: run) = .tag t.1 :: ps := by
  cases run with
  | nil => exact ⟨_, rfl⟩
  | cons => exact ⟨_, rfl⟩

theorem tagPieces_eq_runPieces :
    tagPieces (t :: run) = runPieces (t :: run) ++ charPieces (runTail (t :: run)) := by
  induction run generalizing t with
  | nil => simp [tagPieces, runPieces, runTail]
  | cons u run ih =>
    rw [runPieces_cons_cons, runTail_cons_cons, List.cons_append, List.append_assoc, ← ih u]
    rfl

theorem assemble_runPieces (rest : List Piece) :
    assemble (runPieces (t :: run) ++ rest) = runLexemes (t :: run) ++ assemble rest := by
  induction run generalizing t with
  | nil => rfl
  | cons u run ih =>
    obtain ⟨ps, hp⟩ := runPieces_eq_tag_cons u run
    have hu := ih u
    rw [hp, List.cons_append, assemble] at hu
    rw [runPieces_cons_cons, hp, List.cons_append, List.append_assoc, List.cons_append, assemble,
      assemble_charPieces_tag, hu, runLexemes_cons_cons]
    simp

theorem filter_isTag_runPieces :
    (runPieces (t :: run)).filter Piece.isTag = (t :: run).map fun t => Piece.tag t.1 := by
  induction run generalizing t with
  | nil => rfl
  | cons u run ih =>
    rw [runPieces_cons_cons, List.filter_cons_of_pos rfl, List.filter_append, ih u]
    simp

theorem tagRun_append : (tagRun run).1 ++ (tagRun run).2 = run := by
  fun_induction tagRun run with
  | case1 => rfl
  | case2 t gap rest h r ih => exact congrArg ((t, gap) :: ·) ih
  | case3 => rfl

theorem tagRun_ne_nil : (tagRun (t :: run)).1 ≠ [] := by
  rw [tagRun]
  split <;> simp

end

/-- Between the tags of a run there are blanks that stay on the line. -/
theorem isInlineBlank_of_mem_runPieces {tags : List (Tag × List Char)} {c : Char}
    (h : .char c ∈ runPieces (tagRun tags).1) : (isBlank c && c != '\n') = true := by
  fun_induction tagRun tags with
  | case1 => simp [runPieces] at h
  | case2 t gap rest hgap r ih =>
    obtain ⟨hblank, hrest⟩ := Bool.and_eq_true_iff.mp hgap
    cases rest with
    | nil => simp at hrest
    | cons u rest =>
      cases hr : r.1 with
      | nil => exact absurd hr (tagRun_ne_nil u rest)
      | cons v run =>
        rw [hr, runPieces_cons_cons, List.mem_cons, List.mem_append] at h
        rcases h with h | h | h
        · simp at h
        · obtain ⟨d, hd, he⟩ := List.mem_map.mp h
          cases he
          exact List.all_eq_true.mp hblank c hd
        · exact ih (hr ▸ h)
  | case3 => simp [runPieces] at h

theorem isInlineBlank_of_allBlank {s : List Char} (h : '\n' ∉ s) (hb : allBlank s = true) :
    isInlineBlank s = true :=
  List.all_eq_true.mpr fun c hc => Bool.and_eq_true_iff.mpr
    ⟨List.all_eq_true.mp hb c hc, bne_iff_ne.mpr fun he => h (he ▸ hc)⟩

/-- A run ends with the tags, or where something stands between two of them. -/
theorem tagRun_stops (tags : List (Tag × List Char)) :
    (tagRun tags).2 = [] ∨ isInlineBlank (runTail (tagRun tags).1) = false := by
  fun_induction tagRun tags with
  | case1 => exact .inl rfl
  | case2 t gap rest hgap r ih =>
    cases rest with
    | nil => exact .inl rfl
    | cons u rest =>
      cases hr : r.1 with
      | nil => exact absurd hr (tagRun_ne_nil u rest)
      | cons v run => exact ih.imp_right fun h => by rwa [runTail_cons_cons, ← hr]
  | case3 t gap rest h =>
    cases rest with
    | nil => exact .inl rfl
    | cons u rest => exact .inr (by simpa [runTail] using h)

/-! ### Indentation and the rest of a line -/

/-- A text is its whole lines and its last line. -/
theorem exists_last_line (s : List Char) : ∃ head last, s = head ++ last ∧ '\n' ∉ last ∧
    (head = [] ∨ head.getLast? = some '\n') ∧
    ∀ opens, dropIndent? opens s =
      if allBlank last && (opens || !head.isEmpty) then some head else none := by
  refine ⟨(s.reverse.dropWhile (· != '\n')).reverse, (s.reverse.takeWhile (· != '\n')).reverse,
    ?_, ?_, ?_, fun opens => rfl⟩
  · rw [← List.reverse_append, List.takeWhile_append_dropWhile, List.reverse_reverse]
  · intro h
    simpa using List.mem_takeWhile_imp (List.mem_reverse.mp h)
  · rw [List.getLast?_reverse]
    cases h : s.reverse.dropWhile (· != '\n') with
    | nil => exact .inl rfl
    | cons c cs =>
      have hc := List.head?_dropWhile_not (· != '\n') s.reverse
      simp only [h, List.head?_cons] at hc
      exact .inr (by simpa using hc)

/-- A text is its first line and, if a line feed ends that line, the text behind it. -/
theorem dropLineRest?_eq (atEnd : Bool) (after : List Char) :
    (∃ first rest, after = first ++ '\n' :: rest ∧ '\n' ∉ first ∧
      dropLineRest? atEnd after = if allBlank first then some rest else none) ∨
    ('\n' ∉ after ∧
      dropLineRest? atEnd after = if atEnd && allBlank after then some [] else none) := by
  by_cases h : '\n' ∈ after
  · obtain ⟨first, rest, rfl, hf⟩ := List.eq_append_cons_of_mem h
    have hne : ∀ c ∈ first, (c != '\n') = true := fun c hc => bne_iff_ne.mpr fun he => hf (he ▸ hc)
    refine .inl ⟨first, rest, rfl, hf, ?_⟩
    rw [dropLineRest?, List.takeWhile_append_of_pos hne, List.dropWhile_append_of_pos hne]
    simp
  · have hne : ∀ c ∈ after, (c != '\n') = true := fun c hc => bne_iff_ne.mpr fun he => h (he ▸ hc)
    refine .inr ⟨h, ?_⟩
    rw [dropLineRest?, List.takeWhile_eq_self_iff.mpr hne, List.dropWhile_eq_nil_iff.mpr hne]

/-! ### Lexing line by line -/

section
variable {opens : Bool} {before : List Char} {t : Tag × List Char} {more : List (Tag × List Char)}

theorem feed_notMem_runPieces (tags : List (Tag × List Char)) :
    Piece.feed ∉ runPieces (tagRun tags).1 := by
  intro h
  simpa using isInlineBlank_of_mem_runPieces h

theorem tag_mem_runPieces {u : Tag} :
    .tag u ∈ runPieces (tagRun (t :: more)).1 ↔ ∃ v ∈ (tagRun (t :: more)).1, v.1 = u := by
  obtain ⟨v, run, hr⟩ := List.exists_cons_of_ne_nil (tagRun_ne_nil t more)
  have hf : .tag u ∈ (runPieces (v :: run)).filter Piece.isTag ↔ .tag u ∈ runPieces (v :: run) := by
    simp [Piece.isTag]
  rw [hr, ← hf, filter_isTag_runPieces, List.mem_map]
  simp only [Piece.tag.injEq]

/-- The pieces of a run are quiet unless one of its tags is an interpolation. -/
theorem isQuiet_of_mem_runPieces
    (h : (tagRun (t :: more)).1.all (·.1.kind != .interpolation) = true) {p : Piece}
    (hp : p ∈ runPieces (tagRun (t :: more)).1) : p.isQuiet = true := by
  cases p with
  | char c => exact (Bool.and_eq_true_iff.mp (isInlineBlank_of_mem_runPieces hp)).1
  | tag u =>
    obtain ⟨v, hv, rfl⟩ := tag_mem_runPieces.mp hp
    exact List.all_eq_true.mp h v hv

theorem tagPieces_eq_tagRun : tagPieces (t :: more) = runPieces (tagRun (t :: more)).1 ++
    (charPieces (runTail (tagRun (t :: more)).1) ++ tagPieces (tagRun (t :: more)).2) := by
  have h := tagRun_append (t :: more)
  obtain ⟨v, run, hr⟩ := List.exists_cons_of_ne_nil (tagRun_ne_nil t more)
  conv => lhs; rw [← h]
  rw [hr, tagPieces, List.flatMap_append, ← tagPieces, ← tagPieces, tagPieces_eq_runPieces,
    List.append_assoc]

theorem fillsLine?_eq_some {run rest : List (Tag × List Char)} {head tail : List Char}
    (h : fillsLine? opens before run rest = some (head, tail)) :
    run.all (·.1.kind != .interpolation) = true ∧ dropIndent? opens before = some head ∧
      dropLineRest? rest.isEmpty (runTail run) = some tail := by
  rw [fillsLine?] at h
  split at h
  next hk =>
    split at h
    next hh ht =>
      cases h
      exact ⟨hk, hh, ht⟩
    next => simp at h
  next => simp at h

theorem fillsLine?_eq_none {run rest : List (Tag × List Char)}
    (h : fillsLine? opens before run rest = none) :
    run.all (·.1.kind != .interpolation) = false ∨ dropIndent? opens before = none ∨
      dropLineRest? rest.isEmpty (runTail run) = none := by
  rw [fillsLine?] at h
  split at h
  next =>
    cases hh : dropIndent? opens before with
    | none => exact .inr (.inl rfl)
    | some head =>
      cases ht : dropLineRest? rest.isEmpty (runTail run) with
      | none => exact .inr (.inr rfl)
      | some tail => simp [hh, ht] at h
  next hk => exact .inl (by simpa using hk)

/-- Of a line that holds a run of control tags and blanks, the tags are kept. -/
theorem keptOf_run {last gap : List Char} (hlast : allBlank last = true)
    (hgap : allBlank gap = true)
    (hkinds : (tagRun (t :: more)).1.all (·.1.kind != .interpolation) = true) :
    keptOf (charPieces last ++ (runPieces (tagRun (t :: more)).1 ++ charPieces gap)) =
      (tagRun (t :: more)).1.map fun t => Piece.tag t.1 := by
  obtain ⟨v, run, hr⟩ := List.exists_cons_of_ne_nil (tagRun_ne_nil t more)
  have hv : .tag v.1 ∈ runPieces (tagRun (t :: more)).1 :=
    tag_mem_runPieces.mpr ⟨v, by simp [hr], rfl⟩
  rw [keptOf_of_quiet (t := v.1)]
  · rw [hr, List.filter_append, List.filter_append, filter_isTag_runPieces]
    simp
  · exact List.mem_append_right _ (List.mem_append_left _ hv)
  · intro p hp
    rcases List.mem_append.mp hp with hp | hp
    · exact isQuiet_of_mem_charPieces hlast hp
    rcases List.mem_append.mp hp with hp | hp
    · exact isQuiet_of_mem_runPieces hkinds hp
    · exact isQuiet_of_mem_charPieces hgap hp

/-- A line that a run of control tags fills is dropped but for the tags. -/
theorem kept_of_fillsLine {head tail : List Char}
    (h : fillsLine? opens before (tagRun (t :: more)).1 (tagRun (t :: more)).2 =
      some (head, tail)) :
    kept (!opens) (charPieces before ++ tagPieces (t :: more)) = charPieces head ++
      ((tagRun (t :: more)).1.map (fun t => Piece.tag t.1) ++
        kept false (charPieces tail ++ tagPieces (tagRun (t :: more)).2)) := by
  obtain ⟨hkinds, hhead, htail⟩ := fillsLine?_eq_some h
  obtain ⟨front, last, rfl, hlast, hfront, hindent⟩ := exists_last_line before
  rw [hindent opens, Option.ite_none_right_eq_some, Bool.and_eq_true_iff] at hhead
  obtain ⟨⟨hblank, hopens⟩, hhead⟩ := hhead
  obtain rfl := Option.some.inj hhead
  have hfresh : (!opens && front.isEmpty) = false := by
    cases opens <;> simp_all
  rw [charPieces_append, tagPieces_eq_tagRun, List.append_assoc, kept_charPieces_append hfront,
    hfresh]
  congr 1
  rcases dropLineRest?_eq (tagRun (t :: more)).2.isEmpty (runTail (tagRun (t :: more)).1) with
    ⟨first, rest, htext, hfirst, heq⟩ | ⟨hnofeed, heq⟩
  · rw [heq, Option.ite_none_right_eq_some] at htail
    obtain ⟨hgap, htail⟩ := htail
    obtain rfl := Option.some.inj htail
    have hgap' : allBlank (first ++ ['\n']) = true := by
      rw [allBlank, List.all_append]
      exact Bool.and_eq_true_iff.mpr ⟨hgap, by decide⟩
    have hline := keptOf_run hblank hgap' hkinds
    have hnofeed : Piece.feed ∉
        charPieces last ++ (runPieces (tagRun (t :: more)).1 ++ charPieces first) := by
      simp [hlast, hfirst, feed_notMem_runPieces]
    have hk := kept_line false hnofeed
      (charPieces rest ++ tagPieces (tagRun (t :: more)).2)
    rw [if_neg Bool.false_ne_true] at hk
    simp only [charPieces_append, charPieces_cons, charPieces_nil, ← Piece.feed.eq_def,
      List.append_assoc] at hline hk
    rw [htext, ← hline]
    simpa [← Piece.feed.eq_def] using hk
  · rw [heq, Option.ite_none_right_eq_some, Bool.and_eq_true_iff] at htail
    obtain ⟨⟨hend, hgap⟩, htail⟩ := htail
    obtain rfl := Option.some.inj htail
    have hline : Piece.feed ∉ charPieces last ++ (runPieces (tagRun (t :: more)).1 ++
        charPieces (runTail (tagRun (t :: more)).1)) := by
      simp [hlast, hnofeed, feed_notMem_runPieces]
    have hk := kept_of_notMem false hline
    rw [if_neg Bool.false_ne_true, keptOf_run hblank hgap hkinds] at hk
    simp [List.isEmpty_iff.mp hend, tagPieces, hk]

/-- Where the rest of a line is not dropped, there is something on it. -/
theorem exists_loud_of_dropLineRest?
    (h : dropLineRest? (tagRun (t :: more)).2.isEmpty (runTail (tagRun (t :: more)).1) = none) :
    ∃ p ∈ (charPieces (runTail (tagRun (t :: more)).1) ++
      tagPieces (tagRun (t :: more)).2).takeWhile (· != .feed), p.isQuiet = false := by
  have hfeed {s : List Char} (hs : '\n' ∉ s) : ∀ p ∈ charPieces s, (p != .feed) = true :=
    fun p hp => bne_iff_ne.mpr fun he => hs (feed_mem_charPieces.mp (he ▸ hp))
  rcases dropLineRest?_eq (tagRun (t :: more)).2.isEmpty (runTail (tagRun (t :: more)).1) with
    ⟨first, rest, htext, hfirst, heq⟩ | ⟨hnofeed, heq⟩
  · have hblank : allBlank first = false := by simpa [h] using heq
    obtain ⟨p, hp, hq⟩ := exists_loud_of_not_allBlank hblank
    rw [htext, charPieces_append, List.append_assoc, List.takeWhile_append_of_pos (hfeed hfirst)]
    exact ⟨p, List.mem_append_left _ hp, hq⟩
  · have hblank : allBlank (runTail (tagRun (t :: more)).1) = false := by
      rcases tagRun_stops (t :: more) with hs | hs
      · rw [h, hs] at heq
        simpa using heq
      · cases hb : allBlank (runTail (tagRun (t :: more)).1) with
        | true => simp [isInlineBlank_of_allBlank hnofeed hb] at hs
        | false => rfl
    obtain ⟨p, hp, hq⟩ := exists_loud_of_not_allBlank hblank
    rw [List.takeWhile_append_of_pos (hfeed hnofeed)]
    exact ⟨p, List.mem_append_left _ hp, hq⟩

/-- Where a run of tags does not fill its line, that line is kept. -/
theorem kept_of_not_fillsLine
    (h : fillsLine? opens before (tagRun (t :: more)).1 (tagRun (t :: more)).2 = none) :
    kept (!opens) (charPieces before ++ tagPieces (t :: more)) = charPieces before ++
      (runPieces (tagRun (t :: more)).1 ++
        kept true (charPieces (runTail (tagRun (t :: more)).1) ++
          tagPieces (tagRun (t :: more)).2)) := by
  obtain ⟨front, last, rfl, hlast, hfront, hindent⟩ := exists_last_line before
  have hmid : Piece.feed ∉ charPieces last ++ runPieces (tagRun (t :: more)).1 := by
    simp [hlast, feed_notMem_runPieces]
  rw [charPieces_append, tagPieces_eq_tagRun, List.append_assoc, kept_charPieces_append hfront,
    ← List.append_assoc (charPieces last)]
  have hk : kept (!opens && front.isEmpty) (charPieces last ++ runPieces (tagRun (t :: more)).1 ++
      (charPieces (runTail (tagRun (t :: more)).1) ++ tagPieces (tagRun (t :: more)).2)) =
      charPieces last ++ runPieces (tagRun (t :: more)).1 ++
        kept true (charPieces (runTail (tagRun (t :: more)).1) ++
          tagPieces (tagRun (t :: more)).2) := by
    cases hm : !opens && front.isEmpty with
    | true => exact kept_mixed_append hmid _
    | false =>
      refine kept_append_of_loud hmid ?_
      rcases fillsLine?_eq_none h with hk | hk | hk
      · -- one of the tags is an interpolation
        obtain ⟨u, hu, hq⟩ := List.all_eq_false.mp hk
        refine ⟨.tag u.1, ?_, by simpa [Piece.isQuiet] using hq⟩
        exact List.mem_append_left _ (List.mem_append_right _ (tag_mem_runPieces.mpr ⟨u, hu, rfl⟩))
      · -- the indentation is not blank
        have hblank : allBlank last = false := by
          rw [hindent opens] at hk
          cases opens <;> simp_all
        obtain ⟨p, hp, hq⟩ := exists_loud_of_not_allBlank hblank
        exact ⟨p, List.mem_append_left _ (List.mem_append_left _ hp), hq⟩
      · -- something stands behind the run on its line
        obtain ⟨p, hp, hq⟩ := exists_loud_of_dropLineRest? hk
        exact ⟨p, List.mem_append_right _ hp, hq⟩
  rw [hk]
  simp

end

/-- Laying out a text and its tags drops exactly what control lines hold besides tags. -/
theorem layout_eq_assemble_kept (opens : Bool) (before : List Char)
    (tags : List (Tag × List Char)) :
    layout opens before tags =
      assemble (kept (!opens) (charPieces before ++ tagPieces tags)) := by
  -- `opens` tells that the text in front starts a line; where it does not, its line is mixed.
  fun_induction layout opens before tags with
  | case1 opens before =>
    rw [tagPieces, List.flatMap_nil, List.append_nil, kept_tagless _ (any_isTag_charPieces before),
      assemble_charPieces]
  | case2 opens before t more split head tail h ih =>
    rw [kept_of_fillsLine h, ih]
    obtain ⟨v, run, hr⟩ := List.exists_cons_of_ne_nil (tagRun_ne_nil t more)
    change _ ++ List.map _ (tagRun (t :: more)).1 ++ _ = _
    rw [hr, List.map_cons, List.map_cons, List.cons_append, assemble_charPieces_tag, assemble_tags]
    simp [split]
  | case3 opens before t more split h ih =>
    rw [kept_of_not_fillsLine h, ih]
    obtain ⟨v, run, hr⟩ := List.exists_cons_of_ne_nil (tagRun_ne_nil t more)
    obtain ⟨ps, hp⟩ := runPieces_eq_tag_cons v run
    have hrun := assemble_runPieces v run
    rw [hp] at hrun
    simp only [List.cons_append, assemble] at hrun
    change _ ++ runLexemes (tagRun (t :: more)).1 ++ _ = _
    rw [hr, hp, List.cons_append, assemble_charPieces_tag, hrun, List.append_assoc, ← hr]
    rfl

/-- The lexemes of a source are what lexing keeps of its pieces. -/
theorem lexemes_eq_assemble_kept (source : String) :
    lexemes source = assemble (kept false (cut source.toList).pieces) :=
  layout_eq_assemble_kept true _ _

@[simp] theorem chars_charPieces (s : List Char) : (charPieces s).flatMap Piece.chars = s := by
  induction s with
  | nil => rfl
  | cons c s ih => exact congrArg (c :: ·) ih

theorem chars_pieces (c : Cut) : c.pieces.flatMap Piece.chars = c.chars := by
  rw [Cut.pieces, Cut.chars, List.flatMap_append, chars_charPieces, tagPieces, List.flatMap_assoc]
  simp [Piece.chars]

/-- The lexemes of a source are its tags and the text around them, without the characters that
control lines hold outside of their tags: the rest of the source is there once and in order. -/
theorem lexemes_eq_assemble_kept_lines (source : String) :
    let pieces := (cut source.toList).pieces
    let lines := logicalLines pieces
    pieces.flatMap Piece.chars = source.toList ∧ lines.flatten = pieces ∧
      (∀ line ∈ lines, line ≠ [] ∧ Piece.feed ∉ line.dropLast) ∧
      (∀ line ∈ lines.dropLast, line.getLast? = some .feed) ∧
      lexemes source = assemble (lines.flatMap keptOf) := by
  refine ⟨?_, flatten_logicalLines _, fun line h => ?_, fun line h => ?_, ?_⟩
  · rw [chars_pieces]
    exact chars_cutFrom 1 source.toList
  · exact ⟨ne_nil_of_mem_logicalLines h, feed_notMem_dropLast h⟩
  · exact getLast?_of_mem_dropLast h
  · rw [← kept_false]
    exact layout_eq_assemble_kept true _ _

end Scaffold.Template
