import Scaffold.Proofs.Template.BlockGrammar
import Scaffold.Proofs.Template.Cutting
import Scaffold.Proofs.Text.Runs

/-! Outlines: templates as they are laid out, with the tags of every block on lines of their own.
An outline that is written out is parsed to its chunks. -/
namespace Scaffold.Template
open Expression Scaffold.Text

/-- What an interpolation tag holds: a path, or a text that is written unless a path is true. -/
inductive Inset where
  | path (p : Path)
  | textUnless (s : String) (p : Path)

/-- What opens a block. -/
inductive Heading where
  | onTrue (p : Path)
  | onFalse (p : Path)
  | each (binder : String) (p : Path)

/-- A part of a line. -/
inductive Part where
  | text (s : String)
  | inset (i : Inset)

/-- A line, or a block whose tags stand on lines of their own behind an indentation. -/
inductive Outline where
  | line (parts : List Part)
  | block (indent : Nat) (heading : Heading) (body : List Outline)

/-- A tag with a blank on either side of what it holds. -/
def spacedTag (kind : TagKind) (n : Nat) (source : String) : Tag :=
  ⟨kind, ' ' :: (source.toList ++ [' ']), n⟩

def Inset.source : Inset → String
  | path p => p.shown
  | textUnless s p => "\"" ++ s ++ "\" unless " ++ p.shown

def Inset.reading : Inset → Interpolation
  | path p => ⟨.path p, none⟩
  | textUnless s p => ⟨.text s, some (.negation (.path p))⟩

def Inset.tag (n : Nat) (i : Inset) : Tag := spacedTag .interpolation n i.source

def Heading.source : Heading → String
  | onTrue p => "if " ++ p.shown
  | onFalse p => "unless " ++ p.shown
  | each binder p => "each " ++ binder ++ " in " ++ p.shown

def Heading.opening : Heading → Opening
  | onTrue p => .conditional "if" (.path p)
  | onFalse p => .conditional "unless" (.negation (.path p))
  | each binder p => .iteration binder p

def Heading.tag (n : Nat) (h : Heading) : Tag := spacedTag .control n h.source

def endTag (n : Nat) : Tag := spacedTag .control n "end"

def Part.pieces (n : Nat) : Part → List Piece
  | text s => charPieces s.toList
  | inset i => [.tag (i.tag n)]

/-- A tag on a line of its own. -/
def tagLine (indent : Nat) (t : Tag) : List Piece :=
  charPieces (List.replicate indent ' ') ++ [Piece.tag t, Piece.feed]

mutual
/-- The number of lines. -/
def Outline.height : Outline → Nat
  | .line _ => 1
  | .block _ _ body => bodyHeight body + 2

def bodyHeight : List Outline → Nat
  | [] => 0
  | o :: os => o.height + bodyHeight os
end

mutual
/-- The pieces of an outline that starts on line `n`. -/
def Outline.pieces (n : Nat) : Outline → List Piece
  | .line parts => parts.flatMap (Part.pieces n) ++ [Piece.feed]
  | .block indent heading body => tagLine indent (heading.tag n) ++
    (bodyPieces (n + 1) body ++ tagLine indent (endTag (n + 1 + bodyHeight body)))

def bodyPieces (n : Nat) : List Outline → List Piece
  | [] => []
  | o :: os => o.pieces n ++ bodyPieces (n + o.height) os
end

mutual
/-- What lexing keeps of an outline. -/
def Outline.keptPieces (n : Nat) : Outline → List Piece
  | .line parts => parts.flatMap (Part.pieces n) ++ [Piece.feed]
  | .block _ heading body => .tag (heading.tag n) ::
    (bodyKept (n + 1) body ++ [Piece.tag (endTag (n + 1 + bodyHeight body))])

def bodyKept (n : Nat) : List Outline → List Piece
  | [] => []
  | o :: os => o.keptPieces n ++ bodyKept (n + o.height) os
end

/-- An outline as a template is written. -/
def sourceOf (os : List Outline) : String :=
  String.ofList ((bodyPieces 1 os).flatMap Piece.chars)

/-- Chunks with a text in front; there are never two texts side by side. -/
def addText (s : String) : List Chunk → List Chunk
  | .text t :: cs => .text (s ++ t) :: cs
  | cs => if s = "" then cs else .text s :: cs

def Heading.chunk (n : Nat) (body : List Chunk) : Heading → Chunk
  | onTrue p => .conditional (.path p) body [] n
  | onFalse p => .conditional (.negation (.path p)) body [] n
  | each binder p => .iteration binder p body n

/-- Chunks with a part in front. -/
def Part.onto (n : Nat) (cs : List Chunk) : Part → List Chunk
  | text s => addText s cs
  | inset i => .interpolation i.reading.value i.reading.guard n :: cs

mutual
/-- Chunks with an outline in front. -/
def Outline.onto (n : Nat) (cs : List Chunk) : Outline → List Chunk
  | .line parts => parts.foldr (fun p cs => p.onto n cs) (addText "\n" cs)
  | .block _ heading body => heading.chunk n (bodyOnto (n + 1) [] body) :: cs

def bodyOnto (n : Nat) (cs : List Chunk) : List Outline → List Chunk
  | [] => cs
  | o :: os => o.onto n (bodyOnto (n + o.height) cs os)
end

/-- The chunks of an outline. -/
def outlineChunks (os : List Outline) : List Chunk := bodyOnto 1 [] os

/-! ### What can be written -/

def Inset.isWritable : Inset → Bool
  | path p => p.isWritable
  | textUnless s p => isPlainText s && !s.toList.contains '\n' && p.isWritable

/-- A name that an iteration binds. -/
def isBinder (s : String) : Bool :=
  match s.toList with
  | [] => false
  | c :: more => Naming.isNameStart c && more.all Naming.isNameRest

def Heading.isWritable : Heading → Bool
  | onTrue p => p.isWritable
  | onFalse p => p.isWritable
  | each binder p => isBinder binder && p.isWritable

def Part.isWritable : Part → Bool
  | text s => s.toList.all fun c => c != '<' && c != '\n'
  | inset i => i.isWritable

mutual
/-- An outline whose lines are lines and whose tags are tags. -/
def Outline.isWritable : Outline → Bool
  | .line parts => parts.all Part.isWritable
  | .block _ heading body => heading.isWritable && bodyIsWritable body

def bodyIsWritable : List Outline → Bool
  | [] => true
  | o :: os => o.isWritable && bodyIsWritable os
end

/-! ### Lines -/

theorem feed_notMem_parts {parts : List Part} (h : parts.all Part.isWritable = true) (n : Nat) :
    Piece.feed ∉ parts.flatMap (Part.pieces n) := by
  intro hm
  obtain ⟨p, hp, hf⟩ := List.mem_flatMap.mp hm
  have hw := List.all_eq_true.mp h p hp
  cases p with
  | text s =>
    have hc := List.all_eq_true.mp hw '\n' (feed_mem_charPieces.mp hf)
    simp at hc
  | inset i => simp [Part.pieces, Piece.feed] at hf

/-- A line is kept whole: only interpolations are tags in it. -/
theorem keptOf_parts (parts : List Part) (n : Nat) :
    keptOf (parts.flatMap (Part.pieces n) ++ [Piece.feed]) =
      parts.flatMap (Part.pieces n) ++ [Piece.feed] := by
  by_cases h : ∃ i, Part.inset i ∈ parts
  · obtain ⟨i, hi⟩ := h
    refine keptOf_of_loud ⟨.tag (i.tag n), ?_, rfl⟩
    exact List.mem_append_left _ (List.mem_flatMap.mpr ⟨_, hi, List.mem_singleton_self _⟩)
  · refine keptOf_of_tagless ?_
    rw [List.any_eq_false]
    intro p hp
    rcases List.mem_append.mp hp with hp | hp
    · obtain ⟨q, hq, hp⟩ := List.mem_flatMap.mp hp
      cases q with
      | text s =>
        obtain ⟨c, -, rfl⟩ := List.mem_map.mp hp
        exact Bool.false_ne_true
      | inset i => exact absurd ⟨i, hq⟩ h
    · obtain rfl := List.mem_singleton.mp hp
      exact Bool.false_ne_true

/-- Of the line of a control tag the tag is kept. -/
theorem kept_tagLine (indent : Nat) {t : Tag} (ht : t.kind = .control) (rest : List Piece) :
    kept false (tagLine indent t ++ rest) = .tag t :: kept false rest := by
  have hblank : allBlank (List.replicate indent ' ') = true := by
    refine List.all_eq_true.mpr fun c hc => ?_
    obtain rfl := List.eq_of_mem_replicate hc
    decide
  have hfeed : Piece.feed ∉ charPieces (List.replicate indent ' ') ++ [Piece.tag t] := by
    rw [List.mem_append, feed_mem_charPieces]
    rintro (hm | hm)
    · exact absurd (List.eq_of_mem_replicate hm) (by decide)
    · simp [Piece.feed] at hm
  have hquiet : ∀ p ∈ charPieces (List.replicate indent ' ') ++ [Piece.tag t] ++ [Piece.feed],
      p.isQuiet = true := by
    intro p hp
    rcases List.mem_append.mp hp with hp | hp
    · rcases List.mem_append.mp hp with hp | hp
      · exact isQuiet_of_mem_charPieces hblank hp
      · obtain rfl := List.mem_singleton.mp hp
        simp [Piece.isQuiet, ht]
    · obtain rfl := List.mem_singleton.mp hp
      decide
  have hline := kept_line false hfeed rest
  rw [if_neg Bool.false_ne_true, keptOf_of_quiet (t := t) (by simp) hquiet, List.filter_append,
    List.filter_append, filter_isTag_charPieces, List.append_assoc] at hline
  simp only [tagLine, List.append_assoc, List.cons_append, List.nil_append] at hline ⊢
  exact hline

mutual
theorem kept_outline {o : Outline} (h : o.isWritable = true) (n : Nat) (rest : List Piece) :
    kept false (o.pieces n ++ rest) = o.keptPieces n ++ kept false rest := by
  cases o with
  | line parts =>
    rw [Outline.pieces, Outline.keptPieces, List.append_assoc, List.singleton_append,
      kept_line false (feed_notMem_parts h n), if_neg Bool.false_ne_true, keptOf_parts]
  | block indent heading body =>
    have hb := Bool.and_eq_true_iff.mp h |>.2
    rw [Outline.pieces, Outline.keptPieces, List.append_assoc, kept_tagLine indent rfl,
      List.append_assoc, kept_body hb, kept_tagLine indent rfl]
    simp

theorem kept_body {os : List Outline} (h : bodyIsWritable os = true) (n : Nat)
    (rest : List Piece) :
    kept false (bodyPieces n os ++ rest) = bodyKept n os ++ kept false rest := by
  cases os with
  | nil => rfl
  | cons o os =>
    obtain ⟨ho, hos⟩ := Bool.and_eq_true_iff.mp h
    rw [bodyPieces, bodyKept, List.append_assoc, kept_outline ho, kept_body hos, List.append_assoc]
end

/-! ### Tags -/

/-- A character of a path. -/
def isPathChar (c : Char) : Bool := Naming.isNameRest c || c == '?' || c == '.'

theorem isPathChar_of_mem_shown {p : Path} (h : p.isWritable = true) {c : Char}
    (hc : c ∈ p.shown.toList) : isPathChar c = true := by
  have hword {s : String} (hs : isSegment s = true) {d : Char} (hd : d ∈ s.toList) :
      isPathChar d = true := by
    rcases isNameRest_of_mem_word (isSegment_iff.mp hs).1 hd with hn | rfl
    · simp [isPathChar, hn]
    · decide
  rw [← chars_tokens] at hc
  obtain ⟨t, ht, hc⟩ := List.mem_flatMap.mp hc
  simp only [Path.isWritable, Path.segments, List.all_cons, Bool.and_eq_true] at h
  rcases List.mem_cons.mp ht with rfl | ht
  · exact hword h.1 hc
  obtain ⟨a, ha, ht⟩ := List.mem_flatMap.mp ht
  simp only [List.mem_cons, List.not_mem_nil, or_false] at ht
  rcases ht with rfl | rfl
  · obtain rfl := List.mem_singleton.mp hc
    decide
  · exact hword (List.all_eq_true.mp h.2 a ha) hc

theorem isBlank_of_isPathChar {c : Char} (h : isPathChar c = true) : isBlank c = false := by
  simp only [isPathChar, Bool.or_eq_true, beq_iff_eq] at h
  rcases h with (h | rfl) | rfl
  · exact isBlank_of_isNameRest h
  · decide
  · decide

theorem isInert_of_isPathChar {c : Char} (h : isPathChar c = true) : isInert c = true :=
  isInert_of (by decide) h

theorem ne_feed_of_isBlank {c : Char} (h : isBlank c = false) : c ≠ '\n' := by
  rintro rfl
  exact absurd h (by decide)

theorem shown_ne_nil (p : Path) (h : p.isWritable = true) : p.shown.toList ≠ [] := by
  rw [← chars_tokens]
  simp only [Path.isWritable, Path.segments, List.all_cons, Bool.and_eq_true] at h
  intro hn
  have := (isSegment_iff.mp h.1).1
  simp_all [Path.tokens, Token.chars, isWord]

/-- What a tag may hold between its blanks. -/
structure IsTagSource (s : List Char) : Prop where
  isSealed : Sealed s
  feed : '\n' ∉ s
  trimmed : trim (' ' :: (s ++ [' '])) = s

theorem trim_append {s : List Char} (hfirst : ∀ c ∈ s.head?, isBlank c = false)
    (hlast : ∀ c ∈ s.getLast?, isBlank c = false) {lead tail : List Char}
    (hlead : allBlank lead = true) (htail : allBlank tail = true) :
    trim (lead ++ (s ++ tail)) = s :=
  strip_append hlead hfirst hlast htail

theorem trim_spaced {s : List Char} (hfirst : ∀ c ∈ s.head?, isBlank c = false)
    (hlast : ∀ c ∈ s.getLast?, isBlank c = false) : trim (' ' :: (s ++ [' '])) = s :=
  have hblank : allBlank [' '] = true := by decide
  trim_append hfirst hlast hblank hblank

/-- A tag may end with a path. -/
theorem isTagSource_append_shown {lead : List Char} (hsealed : Sealed lead) (hfeed : '\n' ∉ lead)
    (hfirst : ∀ c ∈ lead.head?, isBlank c = false) {p : Path} (h : p.isWritable = true) :
    IsTagSource (lead ++ p.shown.toList) := by
  have hchar : ∀ c ∈ p.shown.toList, isPathChar c = true := fun c => isPathChar_of_mem_shown h
  have hblank : ∀ c ∈ p.shown.toList, isBlank c = false :=
    fun c hc => isBlank_of_isPathChar (hchar c hc)
  have hne := shown_ne_nil p h
  refine ⟨hsealed.append (sealed_of_isInert fun c hc => isInert_of_isPathChar (hchar c hc)), ?_, ?_⟩
  · rw [List.mem_append]
    rintro (hm | hm)
    · exact hfeed hm
    · exact ne_feed_of_isBlank (hblank _ hm) rfl
  · refine trim_spaced (fun c hc => ?_) fun c hc => ?_
    · cases lead with
      | nil => exact hblank c (List.mem_of_head? hc)
      | cons d lead => exact hfirst c hc
    · rw [List.getLast?_append, List.getLast?_eq_some_getLast hne] at hc
      exact hblank c (Option.mem_some.mp hc ▸ List.getLast_mem hne)

theorem Inset.isTagSource {i : Inset} (h : i.isWritable = true) : IsTagSource i.source.toList := by
  cases i with
  | path p => exact isTagSource_append_shown .nil (by simp) (by simp) h
  | textUnless s p =>
    simp only [Inset.isWritable, Bool.and_eq_true, Bool.not_eq_true'] at h
    obtain ⟨⟨hplain, hfeed⟩, hp⟩ := h
    have hplain : ∀ c ∈ s.toList, c ≠ '"' ∧ c ≠ '\\' := by
      simpa [isPlainText] using hplain
    have hfeed : '\n' ∉ s.toList := by
      simpa using hfeed
    have hliteral : Sealed ('"' :: (s.toList ++ ['"'])) := sealed_literal fun c hc =>
      ⟨(hplain c hc).1, (hplain c hc).2, fun he => hfeed (he ▸ hc)⟩
    have hword : Sealed " unless ".toList := sealed_of_all (by decide)
    have hsource : (Inset.textUnless s p).source.toList =
        ('"' :: (s.toList ++ ['"']) ++ " unless ".toList) ++ p.shown.toList := by
      simp [Inset.source]
    rw [hsource]
    refine isTagSource_append_shown (hliteral.append hword) ?_ ?_ hp
    · simpa using hfeed
    · rintro c ⟨⟩
      decide

theorem isNameRest_of_isBinder {s : String} (h : isBinder s = true) {c : Char} (hc : c ∈ s.toList) :
    Naming.isNameRest c = true := by
  unfold isBinder at h
  split at h
  next heq => simp [heq] at hc
  next d more heq =>
    rw [Bool.and_eq_true] at h
    rcases List.mem_cons.mp (heq ▸ hc) with rfl | hc
    · exact isNameRest_of_isNameStart h.1
    · exact List.all_eq_true.mp h.2 c hc

theorem isTagSource_of_isBinder {s : String} (h : isBinder s = true) : IsTagSource s.toList := by
  have hblank : ∀ c ∈ s.toList, isBlank c = false :=
    fun c hc => isBlank_of_isNameRest (isNameRest_of_isBinder h hc)
  have hfeed : '\n' ∉ s.toList := fun hm => ne_feed_of_isBlank (hblank _ hm) rfl
  refine ⟨sealed_of_isInert fun c hc => isInert_of_isNameRest (isNameRest_of_isBinder h hc), hfeed,
    trim_spaced ?_ ?_⟩
  · exact fun c hc => hblank c (List.mem_of_head? hc)
  · exact fun c hc => hblank c (List.mem_of_getLast? hc)

theorem Heading.isTagSource {h : Heading} (hw : h.isWritable = true) :
    IsTagSource h.source.toList := by
  cases h with
  | onTrue p | onFalse p =>
    rw [Heading.source, String.toList_append]
    refine isTagSource_append_shown (sealed_of_all (by decide)) (by decide) ?_ hw
    rintro c ⟨⟩
    decide
  | each binder p =>
    obtain ⟨hb, hp⟩ := Bool.and_eq_true_iff.mp hw
    have hbinder := isTagSource_of_isBinder hb
    have heach : Sealed "each ".toList := sealed_of_all (by decide)
    have hin : Sealed " in ".toList := sealed_of_all (by decide)
    rw [Heading.source, String.toList_append, String.toList_append, String.toList_append]
    refine isTagSource_append_shown ((heach.append hbinder.isSealed).append hin) ?_ ?_ hp
    · simpa using hbinder.feed
    · rintro c ⟨⟩
      decide

theorem isTagSource_end : IsTagSource "end".toList := by
  refine ⟨sealed_of_all (by decide), by decide, trim_spaced ?_ ?_⟩
  · rintro c ⟨⟩
    decide
  · rintro c ⟨⟩
    decide

theorem lineFeeds_spacedTag {kind : TagKind} {n : Nat} {source : String}
    (h : IsTagSource source.toList) : lineFeeds (spacedTag kind n source).body = 0 := by
  rw [lineFeeds, List.count_eq_zero]
  simpa [spacedTag] using h.feed

theorem isSealed_spacedTag {kind : TagKind} (hk : kind ≠ .comment) (n : Nat) {source : String}
    (h : IsTagSource source.toList) : (spacedTag kind n source).IsSealed := by
  have hblank : Sealed [' '] := sealed_of_all (by decide)
  refine ⟨hk, ?_, fun _ => by simp [spacedTag]⟩
  have := hblank.append (h.isSealed.append hblank)
  exact this

theorem writes_of_trimmed {source : String} (h : IsTagSource source.toList) (n : Nat)
    {i : Interpolation} (hi : parseInterpolation source = .ok i) :
    (spacedTag .interpolation n source).Writes i := by
  refine ⟨rfl, ?_⟩
  change parseInterpolation (String.ofList (trim (' ' :: (source.toList ++ [' '])))) = _
  rw [h.trimmed, String.ofList_toList, hi]

theorem Inset.writes {i : Inset} (h : i.isWritable = true) (n : Nat) :
    (i.tag n).Writes i.reading := by
  refine writes_of_trimmed (Inset.isTagSource h) n ?_
  cases i with
  | path p => exact parseInterpolation_shown h
  | textUnless s p =>
    simp only [Inset.isWritable, Bool.and_eq_true] at h
    exact parseInterpolation_unless h.1.1 h.2

theorem says_of_trimmed {source : String} (h : IsTagSource source.toList) (n : Nat) {word : String}
    (rest : List Char) (hw : firstWord source.toList = (word.toList, rest)) :
    (spacedTag .control n source).Says word rest := by
  refine ⟨rfl, ?_⟩
  change firstWord (trim (' ' :: (source.toList ++ [' ']))) = _
  rw [h.trimmed, hw]

theorem says_endTag (n : Nat) : (endTag n).Says "end" [] :=
  says_of_trimmed isTagSource_end n [] (by decide)

theorem isBlank_of_any {s : List Char} (h : s.any isBlank = false) :
    ∀ c ∈ s, isBlank c = false := by
  simpa using h

theorem trimLeft_of_head? {s : List Char} (h : ∀ c ∈ s.head?, isBlank c = false) :
    trimLeft s = s := by
  cases s with
  | nil => rfl
  | cons c s => simp [trimLeft, h c rfl]

/-- The first word of a text ends before blanks. -/
theorem firstWord_append {word rest : List Char} (hne : word ≠ [])
    (hw : ∀ c ∈ word, isBlank c = false) (gap : List Char) (hgap : gap ≠ [])
    (hb : allBlank gap = true) (hr : ∀ c ∈ rest.head?, isBlank c = false) :
    firstWord (word ++ (gap ++ rest)) = (word, rest) := by
  have hstart : trimLeft (word ++ (gap ++ rest)) = word ++ (gap ++ rest) := by
    refine trimLeft_of_head? fun c hc => ?_
    cases word with
    | nil => exact absurd rfl hne
    | cons d word => exact hw c (Option.mem_some.mp hc ▸ List.mem_cons_self)
  have hrest : trimLeft (gap ++ rest) = rest := by
    rw [trimLeft, List.dropWhile_append_of_pos (List.all_eq_true.mp hb)]
    exact trimLeft_of_head? hr
  have hword : ∀ c ∈ word, (!isBlank c) = true := fun c hc => by simp [hw c hc]
  obtain ⟨b, more, rfl⟩ := List.exists_cons_of_ne_nil hgap
  have hfirst : isBlank b = true := (Bool.and_eq_true_iff.mp hb).1
  rw [firstWord, hstart]
  simp only [List.takeWhile_append_of_pos hword, List.dropWhile_append_of_pos hword]
  rw [List.cons_append, List.takeWhile_cons_of_neg (by simp [hfirst]),
    List.dropWhile_cons_of_neg (by simp [hfirst]), ← List.cons_append, hrest, List.append_nil]

theorem firstWord_shown (word : List Char) (hne : word ≠ []) (hw : ∀ c ∈ word, isBlank c = false)
    {p : Path} (h : p.isWritable = true) :
    firstWord (word ++ ' ' :: p.shown.toList) = (word, p.shown.toList) :=
  firstWord_append hne hw [' '] (by simp) (by decide) fun _ hc =>
    isBlank_of_isPathChar (isPathChar_of_mem_shown h (List.mem_of_head? hc))

/-- What is written behind `each`. -/
theorem isIteration_binder {binder : String} (hb : isBinder binder = true) {p : Path}
    (hp : p.isWritable = true) :
    IsIteration (binder.toList ++ " in ".toList ++ p.shown.toList) binder.toList
      p.shown.toList := by
  unfold isBinder at hb
  split at hb
  next => exact absurd hb Bool.false_ne_true
  next c more heq =>
    obtain ⟨hc, hm⟩ := Bool.and_eq_true_iff.mp hb
    have hblank : ∀ d ∈ p.shown.toList, isBlank d = false :=
      fun d hd => isBlank_of_isPathChar (isPathChar_of_mem_shown hp hd)
    refine ⟨c, more, [' '], ' ', p.shown.toList, heq, hc, hm, by simp, by decide, by decide,
      by simp, ?_, shown_ne_nil p hp⟩
    rw [trim, trimLeft_of_head? fun d hd => hblank d (List.mem_of_head? hd), trimRight]
    have := trimLeft_of_head? (s := p.shown.toList.reverse) fun d hd =>
      hblank d (List.mem_reverse.mp (List.mem_of_head? hd))
    rw [← trimLeft, this, List.reverse_reverse]

theorem Heading.opens {h : Heading} (hw : h.isWritable = true) (n : Nat) :
    (h.tag n).Opens h.opening := by
  have hsource := Heading.isTagSource hw
  cases h with
  | onTrue p =>
    have hword := firstWord_shown "if".toList (by decide) (isBlank_of_any (by decide)) hw
    refine .onIf (says_of_trimmed hsource n p.shown.toList ?_) ?_
    · rw [← hword]
      simp [Heading.source]
    · rw [String.ofList_toList]
      exact parseGuard_shown hw
  | onFalse p =>
    have hword := firstWord_shown "unless".toList (by decide) (isBlank_of_any (by decide)) hw
    refine .onUnless (says_of_trimmed hsource n p.shown.toList ?_) ?_
    · rw [← hword]
      simp [Heading.source]
    · rw [String.ofList_toList]
      exact parseGuard_shown hw
  | each binder p =>
    obtain ⟨hb, hp⟩ := Bool.and_eq_true_iff.mp hw
    have hiteration := isIteration_binder hb hp
    have hword : firstWord ("each".toList ++ ' ' ::
        (binder.toList ++ " in ".toList ++ p.shown.toList)) =
        ("each".toList, binder.toList ++ " in ".toList ++ p.shown.toList) := by
      refine firstWord_append (by decide) (isBlank_of_any (by decide)) [' '] (by simp) (by decide)
        fun c hc => ?_
      obtain ⟨d, more, -, -, -, heq, hd, -⟩ := hiteration
      rw [heq] at hc
      obtain rfl := Option.mem_some.mp hc
      exact isBlank_of_isNameRest (isNameRest_of_isNameStart hd)
    have hopens := Tag.Opens.onEach (says_of_trimmed hsource n _ (by
      rw [← hword]
      simp [Heading.source])) hiteration (by
      rw [String.ofList_toList]
      exact parsePath_shown hp)
    rwa [String.ofList_toList] at hopens

/-! ### Places -/

theorem lineFeeds_of_notMem {s : List Char} (h : '\n' ∉ s) : lineFeeds s = 0 :=
  List.count_eq_zero.mpr h

theorem numbered_tag {t : Tag} (ht : t.IsSealed) : Numbered t.line [.tag t] := ⟨rfl, ht, trivial⟩

theorem numbered_feed (n : Nat) : Numbered n [Piece.feed] := ⟨by decide, trivial⟩

/-- The pieces `ps` stand on their lines from `n` on, and `k` lines end among them. -/
def Spans (n k : Nat) (ps : List Piece) : Prop :=
  Numbered n ps ∧ lineFeeds (ps.flatMap Piece.chars) = k

theorem Spans.nil (n : Nat) : Spans n 0 [] := ⟨trivial, rfl⟩

theorem Spans.append {n k l : Nat} {ps qs : List Piece} (hp : Spans n k ps)
    (hq : Spans (n + k) l qs) : Spans n (k + l) (ps ++ qs) := by
  refine ⟨numbered_append.mpr ⟨hp.1, hp.2 ▸ hq.1⟩, ?_⟩
  rw [List.flatMap_append, lineFeeds_append, hp.2, hq.2]

theorem spans_feed (n : Nat) : Spans n 1 [Piece.feed] := ⟨numbered_feed n, rfl⟩

theorem spans_text {s : List Char} (h : '<' ∉ s) (hfeed : '\n' ∉ s) (n : Nat) :
    Spans n 0 (charPieces s) := by
  refine ⟨numbered_charPieces h n, ?_⟩
  rw [chars_charPieces]
  exact lineFeeds_of_notMem hfeed

theorem spans_spacedTag {kind : TagKind} (hk : kind ≠ .comment) (n : Nat) {source : String}
    (h : IsTagSource source.toList) : Spans n 0 [.tag (spacedTag kind n source)] := by
  refine ⟨numbered_tag (isSealed_spacedTag hk n h), ?_⟩
  rw [List.flatMap_singleton, Piece.chars, lineFeeds_tag, lineFeeds_spacedTag h]

theorem spans_part {p : Part} (h : p.isWritable = true) (n : Nat) : Spans n 0 (p.pieces n) := by
  cases p with
  | text s =>
    have hs : ∀ c ∈ s.toList, c ≠ '<' ∧ c ≠ '\n' := by
      simpa [Part.isWritable] using h
    exact spans_text (fun hm => (hs _ hm).1 rfl) (fun hm => (hs _ hm).2 rfl) n
  | inset i => exact spans_spacedTag (by decide) n (Inset.isTagSource h)

theorem spans_parts {parts : List Part} (h : parts.all Part.isWritable = true) (n : Nat) :
    Spans n 0 (parts.flatMap (Part.pieces n)) := by
  induction parts with
  | nil => exact .nil n
  | cons p parts ih =>
    obtain ⟨hp, hparts⟩ := Bool.and_eq_true_iff.mp h
    exact (spans_part hp n).append (ih hparts)

theorem spans_tagLine (indent n : Nat) {source : String} (h : IsTagSource source.toList) :
    Spans n 1 (tagLine indent (spacedTag .control n source)) := by
  have hindent : Spans n 0 (charPieces (List.replicate indent ' ')) :=
    spans_text (fun hm => absurd (List.eq_of_mem_replicate hm) (by decide))
      (fun hm => absurd (List.eq_of_mem_replicate hm) (by decide)) n
  exact hindent.append ((spans_spacedTag (by decide) n h).append (spans_feed n))

mutual
theorem spans_outline {o : Outline} (h : o.isWritable = true) (n : Nat) :
    Spans n o.height (o.pieces n) := by
  cases o with
  | line parts => exact (spans_parts h n).append (spans_feed n)
  | block indent heading body =>
    obtain ⟨hh, hb⟩ := Bool.and_eq_true_iff.mp h
    rw [Outline.height, show bodyHeight body + 2 = 1 + (bodyHeight body + 1) by omega]
    exact (spans_tagLine indent n (Heading.isTagSource hh)).append ((spans_body hb (n + 1)).append
      (spans_tagLine indent (n + 1 + bodyHeight body) isTagSource_end))

theorem spans_body {os : List Outline} (h : bodyIsWritable os = true) (n : Nat) :
    Spans n (bodyHeight os) (bodyPieces n os) := by
  cases os with
  | nil => exact .nil n
  | cons o os =>
    obtain ⟨ho, hos⟩ := Bool.and_eq_true_iff.mp h
    exact (spans_outline ho n).append (spans_body hos _)
end

/-- An outline that is written out is cut into its pieces. -/
theorem pieces_cut_sourceOf {os : List Outline} (h : bodyIsWritable os = true) :
    (cut (sourceOf os).toList).pieces = bodyPieces 1 os := by
  rw [sourceOf, String.toList_ofList, cut]
  exact pieces_cutFrom (spans_body h 1).1

/-- The lexemes of an outline that is written out. -/
theorem lexemes_sourceOf {os : List Outline} (h : bodyIsWritable os = true) :
    lexemes (sourceOf os) = assemble (bodyKept 1 os) := by
  have hkept := kept_body h 1 []
  rw [List.append_nil, kept_nil, List.append_nil] at hkept
  rw [lexemes_eq_assemble_kept, pieces_cut_sourceOf h, hkept]

/-! ### Chunks -/

/-- The lexemes of the pieces derive the chunks. -/
def Makes (ps : List Piece) (cs : List Chunk) : Prop :=
  ∃ body, BodyIsDerivation body ∧ bodyLexemes body = assemble ps ∧ bodyChunks body = cs

theorem Makes.nil : Makes [] [] := ⟨[], trivial, rfl, rfl⟩

theorem addText_empty (cs : List Chunk) : addText "" cs = cs := by
  unfold addText
  split <;> simp

theorem addText_cons (c : Char) (s : List Char) (cs : List Chunk) :
    addText (String.ofList (c :: s)) cs =
      addText (String.ofList [c]) (addText (String.ofList s) cs) := by
  have hcons : String.ofList (c :: s) = String.ofList [c] ++ String.ofList s := by
    rw [← String.ofList_append]
    rfl
  cases s with
  | nil => rw [show String.ofList [] = "" from rfl, addText_empty]
  | cons d s =>
    cases cs with
    | nil => simp [addText, hcons]
    | cons x cs => cases x <;> simp [addText, hcons, String.append_assoc]

theorem Makes.char {ps : List Piece} {cs : List Chunk} (h : Makes ps cs) (c : Char) :
    Makes (.char c :: ps) (addText (String.ofList [c]) cs) := by
  obtain ⟨body, hd, hl, rfl⟩ := h
  -- A text takes up the character in front of it; before a tag the character is a text of its own.
  cases body with
  | nil =>
    refine ⟨[.text [c]], ⟨trivial, trivial⟩, ?_, ?_⟩
    · rw [assemble, ← hl]
      rfl
    · simp [addText, bodyChunks, Phrase.chunk]
  | cons p body =>
    cases p with
    | text s =>
      refine ⟨.text (c :: s) :: body, ⟨trivial, hd.2⟩, ?_, ?_⟩
      · rw [assemble, ← hl]
        rfl
      · simp [addText, bodyChunks, Phrase.chunk]
    | _ =>
      refine ⟨.text [c] :: _ :: body, ⟨trivial, hd⟩, ?_, ?_⟩
      · rw [assemble, ← hl]
        rfl
      · simp [addText, bodyChunks, Phrase.chunk]

theorem Makes.text {ps : List Piece} {cs : List Chunk} (h : Makes ps cs) (s : List Char) :
    Makes (charPieces s ++ ps) (addText (String.ofList s) cs) := by
  induction s with
  | nil =>
    rw [show String.ofList [] = "" from rfl, addText_empty]
    exact h
  | cons c s ih =>
    rw [addText_cons]
    exact ih.char c

theorem Makes.writes {ps : List Piece} {cs : List Chunk} (h : Makes ps cs) {t : Tag}
    {i : Interpolation} (ht : t.Writes i) :
    Makes (.tag t :: ps) (.interpolation i.value i.guard t.line :: cs) := by
  obtain ⟨body, hd, hl, hc⟩ := h
  refine ⟨.interpolation t i :: body, ⟨ht, hd⟩, ?_, ?_⟩
  · rw [bodyLexemes, hl]
    rfl
  · rw [bodyChunks, hc]
    rfl

theorem Makes.conditional {ps qs : List Piece} {cs ds : List Chunk} (hbody : Makes ps cs)
    (h : Makes qs ds) {t u : Tag} {word : String} {g : Node} (ht : t.Opens (.conditional word g))
    (hu : u.Says "end" []) :
    Makes (.tag t :: (ps ++ .tag u :: qs)) (.conditional g cs [] t.line :: ds) := by
  obtain ⟨inner, hd, hl, rfl⟩ := hbody
  obtain ⟨outer, hd', hl', rfl⟩ := h
  refine ⟨.conditional t g inner u :: outer, ⟨⟨⟨word, ht⟩, hd, hu⟩, hd'⟩, ?_, rfl⟩
  rw [assemble, assemble_append_tag, ← hl, ← hl']
  simp [bodyLexemes, Phrase.lexemes]

theorem Makes.loop {ps qs : List Piece} {cs ds : List Chunk} (hbody : Makes ps cs)
    (h : Makes qs ds) {t u : Tag} {binder : String} {p : Path} (ht : t.Opens (.iteration binder p))
    (hu : u.Says "end" []) :
    Makes (.tag t :: (ps ++ .tag u :: qs)) (.iteration binder p cs t.line :: ds) := by
  obtain ⟨inner, hd, hl, rfl⟩ := hbody
  obtain ⟨outer, hd', hl', rfl⟩ := h
  refine ⟨.loop t binder p inner u :: outer, ⟨⟨ht, hd, hu⟩, hd'⟩, ?_, rfl⟩
  rw [assemble, assemble_append_tag, ← hl, ← hl']
  simp [bodyLexemes, Phrase.lexemes]

theorem Makes.block {ps qs : List Piece} {cs ds : List Chunk} (hbody : Makes ps cs)
    (h : Makes qs ds) {t u : Tag} {heading : Heading} (ht : t.Opens heading.opening)
    (hu : u.Says "end" []) :
    Makes (.tag t :: (ps ++ .tag u :: qs)) (heading.chunk t.line cs :: ds) := by
  cases heading with
  | onTrue p => exact hbody.conditional h ht hu
  | onFalse p => exact hbody.conditional h ht hu
  | each binder p => exact hbody.loop h ht hu

theorem makes_parts {parts : List Part} (h : parts.all Part.isWritable = true) (n : Nat)
    {ps : List Piece} {cs : List Chunk} (hp : Makes ps cs) :
    Makes (parts.flatMap (Part.pieces n) ++ ps) (parts.foldr (fun p cs => p.onto n cs) cs) := by
  induction parts with
  | nil => exact hp
  | cons p parts ih =>
    obtain ⟨hw, hparts⟩ := Bool.and_eq_true_iff.mp h
    rw [List.flatMap_cons, List.append_assoc]
    cases p with
    | text s =>
      have := (ih hparts).text s.toList
      rwa [String.ofList_toList] at this
    | inset i => exact (ih hparts).writes (Inset.writes hw n)

mutual
theorem makes_outline {o : Outline} (h : o.isWritable = true) (n : Nat) {ps : List Piece}
    {cs : List Chunk} (hp : Makes ps cs) : Makes (o.keptPieces n ++ ps) (o.onto n cs) := by
  cases o with
  | line parts =>
    rw [Outline.keptPieces, List.append_assoc]
    exact makes_parts h n (hp.char '\n')
  | block indent heading body =>
    obtain ⟨hh, hb⟩ := Bool.and_eq_true_iff.mp h
    have hbody := makes_body hb (n + 1) .nil
    rw [List.append_nil] at hbody
    rw [Outline.keptPieces, List.cons_append, List.append_assoc]
    exact hbody.block hp (Heading.opens hh n) (says_endTag (n + 1 + bodyHeight body))

theorem makes_body {os : List Outline} (h : bodyIsWritable os = true) (n : Nat) {ps : List Piece}
    {cs : List Chunk} (hp : Makes ps cs) : Makes (bodyKept n os ++ ps) (bodyOnto n cs os) := by
  cases os with
  | nil => exact hp
  | cons o os =>
    obtain ⟨ho, hos⟩ := Bool.and_eq_true_iff.mp h
    rw [bodyKept, bodyOnto, List.append_assoc]
    exact makes_outline ho n (makes_body hos _ hp)
end

theorem Makes.parse_eq {ps : List Piece} {cs : List Chunk} (h : Makes ps cs) {source : String}
    (hl : lexemes source = assemble ps) (name : String) : parse source name = .ok ⟨name, cs⟩ := by
  obtain ⟨body, hd, hbody, rfl⟩ := h
  rw [parse, parseChunks, hl, ← hbody, chunksOf_bodyLexemes hd]

/-- An outline that is written out is parsed to its chunks. -/
theorem parse_sourceOf {os : List Outline} (h : bodyIsWritable os = true) (name : String) :
    parse (sourceOf os) name = .ok ⟨name, outlineChunks os⟩ := by
  have hmakes := makes_body h 1 .nil
  rw [List.append_nil] at hmakes
  exact hmakes.parse_eq (lexemes_sourceOf h) name

end Scaffold.Template
