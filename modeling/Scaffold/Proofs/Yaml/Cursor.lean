import Mathlib.Data.List.Infix
import Scaffold.Yaml.Block
import Scaffold.Yaml.Plain
import Scaffold.Yaml.Property
import Scaffold.Yaml.Quoted

/-! What the readers of scalars and of properties leave of a document is an end of it.  A quoted
scalar that is refused for more than its form holds an escape of a code that no character has, and a
directive more digits than a number may have. -/
namespace Scaffold.Yaml

open Text

variable {c d : Cursor} {n : Nat}

/-! ### Places -/

namespace Cursor

theorem suffix_advance (c : Cursor) : c.advance.rest <:+ c.rest := by
  unfold advance
  split
  · exact List.suffix_refl _
  · next e rest h =>
    rw [h]
    split
    · exact List.suffix_cons e rest
    · exact List.suffix_cons e rest

theorem suffix_skip (c : Cursor) (n : Nat) : (c.skip n).rest <:+ c.rest := by
  induction n generalizing c with
  | zero => exact List.suffix_refl _
  | succ n ih => exact (ih c.advance).trans c.suffix_advance

theorem suffix_skipBreak (c : Cursor) : c.skipBreak.2.rest <:+ c.rest := by
  unfold skipBreak
  split
  · next rest h =>
    rw [h]
    exact ⟨['\r', '\n'], rfl⟩
  · exact c.suffix_advance
  · exact List.suffix_refl _

theorem suffix_of_skipBreak {b : Char} (h : c.skipBreak = (b, d)) : d.rest <:+ c.rest := by
  have hsuffix := c.suffix_skipBreak
  rwa [h] at hsuffix

theorem suffix_of_takeBreak {run : List Char} (h : c.takeBreak = (run, d)) :
    d.rest <:+ c.rest := by
  unfold takeBreak at h
  split at h
  · cases h
    exact c.suffix_skipBreak
  · cases h
    exact List.suffix_refl _

theorem suffix_takeWhile (c : Cursor) (p : Char → Bool) : (c.takeWhile p).2.rest <:+ c.rest :=
  c.suffix_skip _

theorem suffix_of_takeWhile {p : Char → Bool} {run : List Char} (h : c.takeWhile p = (run, d)) :
    d.rest <:+ c.rest := by
  have hsuffix := c.suffix_takeWhile p
  rwa [h] at hsuffix

theorem suffix_dropWhile (c : Cursor) (p : Char → Bool) : (c.dropWhile p).rest <:+ c.rest :=
  c.suffix_takeWhile p

theorem suffix_dropComment (c : Cursor) : c.dropComment.rest <:+ c.rest := by
  unfold dropComment
  have hblanks : c.dropBlanks.rest <:+ c.rest := c.suffix_dropWhile _
  dsimp only
  split
  · exact (c.dropBlanks.suffix_dropWhile _).trans hblanks
  · exact hblanks

theorem suffix_of_nextLine? (h : c.nextLine? = some d) : d.rest <:+ c.rest := by
  unfold nextLine? at h
  dsimp only at h
  split at h
  · cases h
    exact c.suffix_dropComment
  · split at h
    · cases h
      exact c.dropComment.suffix_skipBreak.trans c.suffix_dropComment
    · cases h

/-- A character that comes next is gone behind the place. -/
theorem rest_of_next? {e : Char} (h : c.next? = some e) : c.rest = e :: c.advance.rest := by
  cases hrest : c.rest with
  | nil =>
    rw [next?, hrest] at h
    cases h
  | cons e' rest =>
    rw [next?, hrest] at h
    cases h
    rw [advance, hrest]
    dsimp only
    split <;> rfl

end Cursor

open Cursor

/-! ### Plain scalars -/

theorem suffix_plainBreaks (n : Nat) (c : Cursor) : (plainBreaks n c).2.rest <:+ c.rest := by
  fun_induction plainBreaks n c with
  | case1 c => exact List.suffix_refl _
  | case2 n c _ ih => exact ih.trans c.suffix_advance
  | case3 n c _ _ b d hbreak _ => exact suffix_of_skipBreak hbreak
  | case4 n c _ _ b d hbreak _ bs d' heq ih =>
    rw [heq] at ih
    exact ih.trans (suffix_of_skipBreak hbreak)
  | case5 n c _ _ b d hbreak _ d' heq ih =>
    rw [heq] at ih
    exact ih.trans (suffix_of_skipBreak hbreak)
  | case6 n c => exact List.suffix_refl _

theorem suffix_plainSpaces (c : Cursor) : (plainSpaces c).2.2.rest <:+ c.rest := by
  unfold plainSpaces
  have hblanks := c.suffix_takeWhile (· == ' ')
  generalize c.takeWhile (· == ' ') = blanks at hblanks
  obtain ⟨blanks, d⟩ := blanks
  have hbreak := d.suffix_skipBreak.trans hblanks
  dsimp only
  split
  · split
    · exact hbreak
    · have hbreaks := suffix_plainBreaks d.skipBreak.2.rest.length d.skipBreak.2
      split
      · next heq =>
        rw [heq] at hbreaks
        exact hbreaks.trans hbreak
      · next heq =>
        rw [heq] at hbreaks
        exact hbreaks.trans hbreak
  · exact hblanks

theorem suffix_plainText (flow : Bool) (least n : Nat) (c : Cursor) :
    (plainText flow least n c).2.2.rest <:+ c.rest := by
  fun_induction plainText flow least n c with
  | case1 => exact List.suffix_refl _
  | case2 => exact List.suffix_refl _
  | case3 n c run _ spaces ended d heq _ =>
    have hspaces := suffix_plainSpaces (c.skip run.length)
    rw [heq] at hspaces
    exact hspaces.trans (c.suffix_skip _)
  | case4 n c run _ spaces ended d heq _ more later d' hmore _ ih =>
    have hspaces := suffix_plainSpaces (c.skip run.length)
    rw [heq] at hspaces
    rw [hmore] at ih
    exact (ih.trans hspaces).trans (c.suffix_skip _)
  | case5 n c run _ spaces ended d heq _ more later d' hmore _ ih =>
    have hspaces := suffix_plainSpaces (c.skip run.length)
    rw [heq] at hspaces
    rw [hmore] at ih
    exact (ih.trans hspaces).trans (c.suffix_skip _)

/-! ### Block scalars -/

theorem suffix_chompingMark (c : Cursor) : (chompingMark c).2.rest <:+ c.rest := by
  unfold chompingMark
  split
  · exact c.suffix_advance
  · exact c.suffix_advance
  · exact List.suffix_refl _

theorem suffix_of_indentMark {digit : Option Nat} (h : indentMark c = some (digit, d)) :
    d.rest <:+ c.rest := by
  unfold indentMark at h
  split at h
  · split at h
    · cases h
    · split at h
      · cases h
        exact c.suffix_advance
      · cases h
        exact List.suffix_refl _
  · cases h
    exact List.suffix_refl _

theorem suffix_of_blockHeader {r : Chomping × Option Nat × Cursor}
    (h : blockHeader c = some r) : r.2.2.rest <:+ c.rest := by
  have hfirst := suffix_chompingMark c
  unfold blockHeader at h
  rcases hmark : chompingMark c with ⟨first, d⟩
  rw [hmark] at h hfirst
  obtain ⟨⟨digit, e⟩, hdigit, h⟩ := Option.bind_eq_some_iff.mp h
  have he : e.rest <:+ c.rest := (suffix_of_indentMark hdigit).trans hfirst
  rcases hsecond : (if first = .clip ∧ digit.isSome then chompingMark e else (first, e)) with
    ⟨chomping, f⟩
  have hf : f.rest <:+ c.rest := by
    have hmark' := suffix_chompingMark e
    split at hsecond
    · rw [hsecond] at hmark'
      exact hmark'.trans he
    · cases hsecond
      exact he
  simp only [hsecond] at h
  split at h
  · obtain ⟨line, hline, h⟩ := Option.bind_eq_some_iff.mp h
    cases h
    exact (suffix_of_nextLine? hline).trans hf
  · cases h

theorem suffix_blockStart (n deepest : Nat) (c : Cursor) :
    (blockStart n deepest c).2.2.rest <:+ c.rest := by
  fun_induction blockStart n deepest c with
  | case1 => exact List.suffix_refl _
  | case2 n deepest c _ b d hbreak bs deepest' e heq ih =>
    rw [heq] at ih
    exact ih.trans (suffix_of_skipBreak hbreak)
  | case3 n deepest c _ _ d ih => exact ih.trans c.suffix_advance
  | case4 => exact List.suffix_refl _

theorem suffix_toColumn (column : Nat) (c : Cursor) : (toColumn column c).rest <:+ c.rest :=
  c.suffix_skip _

theorem suffix_blockBreaks (indent n : Nat) (c : Cursor) :
    (blockBreaks indent n c).2.rest <:+ c.rest := by
  fun_induction blockBreaks indent n c with
  | case1 => exact List.suffix_refl _
  | case2 n c d _ b e hbreak bs f heq ih =>
    rw [heq] at ih
    exact (ih.trans (suffix_of_skipBreak hbreak)).trans (suffix_toColumn indent c)
  | case3 n c d _ => exact suffix_toColumn indent c

theorem suffix_blockBody (folded : Bool) (indent n : Nat) (breaks : List Char) (c : Cursor) :
    (blockBody folded indent n breaks c).rest.rest <:+ c.rest := by
  fun_induction blockBody folded indent n breaks c with
  | case1 => exact List.suffix_refl _
  | case2 n breaks c _ line d hline ending e hending more f hmore _ _ body ih =>
    have hbreaks := suffix_blockBreaks indent (e.rest.length + 1) e
    rw [hmore] at hbreaks
    exact ((ih.trans hbreaks).trans (suffix_of_takeBreak hending)).trans
      (suffix_of_takeWhile hline)
  | case3 n breaks c line d hline ending e hending more f hmore _ =>
    have hbreaks := suffix_blockBreaks indent (e.rest.length + 1) e
    rw [hmore] at hbreaks
    exact (hbreaks.trans (suffix_of_takeBreak hending)).trans (suffix_of_takeWhile hline)

theorem suffix_blockOpening (least : Nat) (digit : Option Nat) (c : Cursor) :
    (blockOpening least digit c).2.2.rest <:+ c.rest := by
  unfold blockOpening
  split
  · exact suffix_blockBreaks _ _ c
  · exact suffix_blockStart _ 0 c

theorem suffix_of_blockText {folded : Bool} {least : Nat} {text : List Char}
    (h : blockText folded least c = some (text, d)) : d.rest <:+ c.rest := by
  unfold blockText at h
  obtain ⟨⟨chomping, digit, e⟩, hheader, h⟩ := Option.bind_eq_some_iff.mp h
  have he : e.rest <:+ c.rest := suffix_of_blockHeader hheader
  have hopening := (suffix_blockOpening (max least 1) digit e).trans he
  dsimp only at h
  generalize blockOpening (max least 1) digit e = opening at h hopening
  cases h
  split
  · exact (suffix_blockBody ..).trans hopening
  · exact hopening

/-! ### Properties -/

theorem suffix_of_anchorName? {name : String} (h : anchorName? c = some (name, d)) :
    d.rest <:+ c.rest := by
  unfold anchorName? at h
  dsimp only at h
  split at h
  · cases h
  · cases h
    exact c.suffix_takeWhile _

theorem suffix_of_tagText? {text : String} (h : tagText? c = some (text, d)) :
    d.rest <:+ c.rest := by
  unfold tagText? at h
  obtain ⟨bytes, -, h⟩ := Option.bind_eq_some_iff.mp h
  split at h
  · cases h
  · obtain ⟨s, -, h⟩ := Option.bind_eq_some_iff.mp h
    cases h
    exact c.suffix_takeWhile _

theorem suffix_of_tagHandle? {handle : String} (h : tagHandle? c = some (handle, d)) :
    d.rest <:+ c.rest := by
  unfold tagHandle? at h
  split at h
  · cases h
  · dsimp only at h
    split at h
    · cases h
      exact c.suffix_advance
    · split at h
      · cases h
        exact (suffix_advance _).trans ((c.advance.suffix_takeWhile _).trans c.suffix_advance)
      · cases h

theorem suffix_of_ownHandle? {handle : String} (h : ownHandle? c = some (handle, d)) :
    d.rest <:+ c.rest := by
  unfold ownHandle? at h
  dsimp only at h
  split at h
  · exact suffix_of_tagHandle? h
  · cases h
    exact c.suffix_advance

theorem suffix_of_tagHere? {mark : TagMark} (h : tagHere? c = some (mark, d)) :
    d.rest <:+ c.rest := by
  unfold tagHere? at h
  dsimp only at h
  split at h
  · obtain ⟨⟨text, e⟩, htext, h⟩ := Option.bind_eq_some_iff.mp h
    have he : e.rest <:+ c.rest := (suffix_of_tagText? htext).trans
      ((suffix_advance _).trans c.suffix_advance)
    split at h
    · cases h
      exact (suffix_advance e).trans he
    · cases h
  · split at h
    · cases h
      exact c.suffix_advance
    · obtain ⟨⟨handle, e⟩, hhandle, h⟩ := Option.bind_eq_some_iff.mp h
      obtain ⟨⟨text, f⟩, htext, h⟩ := Option.bind_eq_some_iff.mp h
      cases h
      exact (suffix_of_tagText? htext).trans (suffix_of_ownHandle? hhandle)

theorem suffix_of_tagMark? {mark : TagMark} (h : tagMark? c = some (mark, d)) :
    d.rest <:+ c.rest :=
  suffix_of_tagHere? (Option.filter_eq_some_iff.mp h).1

theorem suffix_of_handleOf? {value : Directive} (h : handleOf? c = some (value, d)) :
    d.rest <:+ c.rest := by
  unfold handleOf? at h
  have hblanks (c : Cursor) : c.dropBlanks.rest <:+ c.rest := c.suffix_dropWhile _
  obtain ⟨⟨handle, e⟩, hhandle, h⟩ := Option.bind_eq_some_iff.mp h
  have he := (suffix_of_tagHandle? hhandle).trans (hblanks c)
  dsimp only at h
  split at h
  · cases h
  · obtain ⟨⟨meaning, f⟩, hmeaning, h⟩ := Option.bind_eq_some_iff.mp h
    have hf := ((suffix_of_tagText? hmeaning).trans (hblanks e)).trans he
    dsimp only at h
    split at h
    · cases h
      exact hf
    · cases h

/-! ### Faults -/

/-- A text holds an escape for a code that no character has. -/
def HasStrayEscape (cs : List Char) (code : Nat) : Prop :=
  ∃ digits, '\\' :: 'U' :: digits <:+: cs ∧ digits.length = 8 ∧
    hexNumber? digits = some code ∧ 0x110000 ≤ code

/-- Why a text may be broken off: its form, an escape for a code that no character has, or more
digits in a row than a number may have. -/
inductive Breaks (cs : List Char) : Fault → Prop
  | malformed : Breaks cs .malformed
  | noCharacter {code : Nat} : HasStrayEscape cs code → Breaks cs (.noCharacter code)
  | tooManyDigits {digits : List Char} : digits <:+: cs → (∀ c ∈ digits, c.isDigit = true) →
      Number.maxDigits < digits.length → Breaks cs (.noWhole (.tooManyDigits digits.length))

theorem Breaks.of_suffix {cs cs' : List Char} {fault : Fault} (h : Breaks cs fault)
    (hcs : cs <:+ cs') : Breaks cs' fault := by
  cases h with
  | malformed => exact .malformed
  | noCharacter hstray =>
    obtain ⟨digits, hin, hstray⟩ := hstray
    exact .noCharacter ⟨digits, hin.trans hcs.isInfix, hstray⟩
  | tooManyDigits hin hdigits hlong =>
    exact .tooManyDigits (hin.trans hcs.isInfix) hdigits hlong

/-- A reader gives what it should, or its text is broken off for a reason. -/
inductive Reads {β : Type} (cs : List Char) (Good : β → Prop) : Except Fault β → Prop
  | ok {b : β} : Good b → Reads cs Good (.ok b)
  | error {fault : Fault} : Breaks cs fault → Reads cs Good (.error fault)

namespace Reads

variable {β γ : Type} {cs cs' : List Char} {Good : β → Prop} {Good' : γ → Prop}
  {x : Except Fault β}

theorem malformed : Reads cs Good (.error .malformed) := .error .malformed

theorem of_suffix {Good' : β → Prop} (h : Reads cs Good x) (hcs : cs <:+ cs')
    (hgood : ∀ b, Good b → Good' b) : Reads cs' Good' x := by
  cases h with
  | ok hb => exact .ok (hgood _ hb)
  | error hbreaks => exact .error (hbreaks.of_suffix hcs)

theorem bind (h : Reads cs Good x) {f : β → Except Fault γ}
    (hf : ∀ b, Good b → Reads cs Good' (f b)) : Reads cs Good' (x >>= f) := by
  cases h with
  | ok hb => exact hf _ hb
  | error hbreaks => exact .error hbreaks

theorem ite {p : Prop} [Decidable p] {y : Except Fault β} (hx : p → Reads cs Good x)
    (hy : Reads cs Good y) : Reads cs Good (if p then x else y) := by
  split
  · next hp => exact hx hp
  · exact hy

theorem of_wellFormed {o : Option β} (h : ∀ b, o = some b → Good b) :
    Reads cs Good (wellFormed o) := by
  cases o with
  | none => exact .malformed
  | some b => exact .ok (h b rfl)

end Reads

/-- What is read of a text leaves an end of it. -/
abbrev Passes {β : Type} (cs : List Char) (x : Except Fault (β × Cursor)) : Prop :=
  Reads cs (fun r => r.2.rest <:+ cs) x

namespace Passes

variable {β γ : Type} {cs cs' : List Char} {x : Except Fault (β × Cursor)}

theorem of_suffix (h : Passes cs x) (hcs : cs <:+ cs') : Passes cs' x :=
  Reads.of_suffix h hcs fun _ hr => hr.trans hcs

/-- What else is read of the text that is left. -/
theorem bind (h : Passes cs x) {f : β × Cursor → Except Fault (γ × Cursor)}
    (hf : ∀ r, Passes r.2.rest (f r)) : Passes cs (x >>= f) :=
  Reads.bind h fun r hr => (hf r).of_suffix hr

/-- A passage with other text leaves the same. -/
theorem map {x : Passage} (h : Passes cs x) (f : List Nat × Cursor → List Nat) :
    Passes cs (x.map fun r => (f r, r.2)) :=
  Reads.bind h fun _ hr => .ok hr

end Passes

/-! ### Directives -/

theorem passes_versionNumber (c : Cursor) : Passes c.rest (versionNumber c) := by
  have hdigits := c.suffix_takeWhile Char.isDigit
  unfold versionNumber
  dsimp only
  split
  · exact .malformed
  · split
    · next hlong =>
      refine .error (.tooManyDigits ?_ (List.all_eq_true.mp List.all_takeWhile) hlong)
      exact (List.takeWhile_prefix _).isInfix
    · exact .ok hdigits

theorem passes_versionOf (c : Cursor) : Passes c.rest (versionOf c) := by
  have hblanks : c.dropBlanks.rest <:+ c.rest := c.suffix_dropWhile _
  refine ((passes_versionNumber _).bind fun ⟨major, d⟩ => ?_).of_suffix hblanks
  dsimp only
  split
  · exact .malformed
  · refine ((passes_versionNumber _).bind fun ⟨minor, e⟩ => ?_).of_suffix d.suffix_advance
    dsimp only
    split
    · exact .ok (List.suffix_refl _)
    · exact .malformed

theorem passes_directiveValue (name : String) (c : Cursor) :
    Passes c.rest (directiveValue name c) := by
  unfold directiveValue
  split
  · exact passes_versionOf c
  · split
    · exact .of_wellFormed fun _ h => suffix_of_handleOf? h
    · exact .ok (c.suffix_dropWhile _)

theorem passes_directive (c : Cursor) : Passes c.rest (directive c) := by
  have hname := c.suffix_takeWhile isNameChar
  unfold directive
  dsimp only
  split
  · exact .malformed
  · refine ((passes_directiveValue _ _).bind fun value => ?_).of_suffix hname
    exact Reads.bind (.of_wellFormed fun _ h => suffix_of_nextLine? h) fun _ hline => .ok hline

/-! ### Quoted scalars -/

theorem hexValue?_lt {e : Char} {value : Nat} (h : hexValue? e = some value) : value < 16 := by
  unfold hexValue? at h
  split at h
  · next hdigit =>
    cases h
    simp only [Char.isDigit, Bool.and_eq_true, decide_eq_true_eq] at hdigit
    have hle : e.toNat ≤ '9'.toNat := hdigit.2
    simp only [Char.reduceToNat] at hle ⊢
    omega
  · split at h
    · next hletter =>
      cases h
      have hle : e.toNat ≤ 'f'.toNat := hletter.2
      simp only [Char.reduceToNat] at hle ⊢
      omega
    · split at h
      · next hletter =>
        cases h
        have hle : e.toNat ≤ 'F'.toNat := hletter.2
        simp only [Char.reduceToNat] at hle ⊢
        omega
      · cases h

theorem hexNumber?_lt {digits : List Char} (h : hexNumber? digits = some n) :
    n < Nat.pow 16 digits.length := by
  have hfold (start : Nat) (hstart : digits.foldlM (fun n e => (hexValue? e).map (n * 16 + ·))
      start = some n) : n < (start + 1) * Nat.pow 16 digits.length := by
    clear h
    induction digits generalizing start with
    | nil =>
      cases hstart
      simp
    | cons e digits ih =>
      rw [List.foldlM_cons] at hstart
      obtain ⟨next, hnext, hrest⟩ := Option.bind_eq_some_iff.mp hstart
      obtain ⟨value, hvalue, rfl⟩ := Option.map_eq_some_iff.mp hnext
      have hlt := ih _ hrest
      have hvalue := hexValue?_lt hvalue
      calc n < (start * 16 + value + 1) * Nat.pow 16 digits.length := hlt
        _ ≤ ((start + 1) * 16) * Nat.pow 16 digits.length := Nat.mul_le_mul_right _ (by omega)
        _ = (start + 1) * (Nat.pow 16 digits.length * 16) := by
          rw [Nat.mul_assoc, Nat.mul_comm 16]
  simpa using hfold 0 h

theorem passes_quotedBreaks (n : Nat) (c : Cursor) : Passes c.rest (quotedBreaks n c) := by
  induction n generalizing c with
  | zero => exact .ok (List.suffix_refl _)
  | succ n ih =>
    have hblanks := c.suffix_dropWhile fun d => d == ' ' || d == '\t'
    unfold quotedBreaks
    dsimp only
    split
    · exact .malformed
    · split
      · exact ((ih _).map _).of_suffix ((suffix_skipBreak _).trans hblanks)
      · exact .ok hblanks

theorem passes_quotedSpaces (c : Cursor) : Passes c.rest (quotedSpaces c) := by
  have hblanks := c.suffix_takeWhile fun d => d == ' ' || d == '\t'
  unfold quotedSpaces
  dsimp only
  split
  · exact .malformed
  · split
    · exact ((passes_quotedBreaks _ _).map _).of_suffix ((suffix_skipBreak _).trans hblanks)
    · exact .ok hblanks

/-- Only the longest codes go beyond all characters. -/
theorem codeLength_of_stray {e : Char} {digits : List Char} {code : Nat}
    (h : codeLengths.lookup e = some digits.length) (hcode : hexNumber? digits = some code)
    (hstray : 0x110000 ≤ code) : e = 'U' ∧ digits.length = 8 := by
  have hlong : ¬ Nat.pow 16 digits.length ≤ 0x110000 := fun hle =>
    Nat.lt_irrefl code (Nat.lt_of_lt_of_le (hexNumber?_lt hcode) (hle.trans hstray))
  simp only [codeLengths, List.lookup_cons, List.lookup_nil] at h
  split at h
  · rw [← Option.some.inj h] at hlong
    exact absurd (by decide) hlong
  · split at h
    · rw [← Option.some.inj h] at hlong
      exact absurd (by decide) hlong
    · split at h
      · next heq => exact ⟨eq_of_beq heq, (Option.some.inj h).symm⟩
      · cases h

theorem passes_escape (c : Cursor) : Passes ('\\' :: c.rest) (escape c) := by
  unfold escape
  split
  · exact .malformed
  · next e he =>
    split
    · exact .ok (c.suffix_advance.trans (List.suffix_cons _ _))
    · next length _ hlength =>
      extract_lets digits
      have hin : '\\' :: e :: digits <:+: '\\' :: c.rest := by
        have hprefix : digits <+: c.advance.rest := List.take_prefix _ _
        rw [rest_of_next? he]
        exact List.IsPrefix.isInfix (by simpa using hprefix)
      split
      · next code hcode =>
        split at hcode
        · cases hcode
        · next hcomplete =>
          split
          · exact .ok ((c.suffix_skip _).trans (List.suffix_cons _ _))
          · next hstray =>
            have hlength' : digits.length = length := by
              have hle : digits.length ≤ length := List.length_take_le _ _
              omega
            rw [← hlength'] at hlength
            obtain ⟨rfl, height⟩ := codeLength_of_stray hlength hcode (by omega)
            exact .error (.noCharacter ⟨digits, hin, height, hcode, by omega⟩)
      · exact .malformed
    · split
      · exact (passes_quotedBreaks ..).of_suffix
          (c.suffix_skipBreak.trans (List.suffix_cons _ _))
      · exact .malformed

theorem passes_quotedText (quote : Char) (n : Nat) (c : Cursor) :
    Passes c.rest (quotedText quote n c) := by
  induction n generalizing c with
  | zero => exact .malformed
  | succ n ih =>
    have hfollowed {part : Passage} (hpart : Passes c.rest part) :
        Passes c.rest (part >>= fun r => quotedText quote n r.2 >>= fun more =>
          .ok (r.1 ++ more.1, more.2)) :=
      hpart.bind fun r => Reads.bind (ih r.2) fun _ hrest => .ok hrest
    unfold quotedText
    split
    · exact .malformed
    · next d hd =>
      dsimp only
      split
      · split
        · exact hfollowed (.ok (c.suffix_skip 2))
        · exact .ok c.suffix_advance
      · split
        · next hescape =>
          have hpart := passes_escape c.advance
          rw [← hescape.1, ← rest_of_next? hd] at hpart
          exact hfollowed hpart
        · split
          · exact hfollowed (passes_quotedSpaces c)
          · exact hfollowed (.ok c.suffix_advance)

end Scaffold.Yaml
