import Scaffold.Proofs.Yaml.Cursor
import Scaffold.Yaml.Token

/-! What the tokens of a document tell of it.  Each token that can open a collection stands for a
mark of its own, a tag stands for its mark, and tokens are broken off for a stray escape or for too
many digits if not for the form of the document. -/
namespace Scaffold.Yaml

open Cursor

variable {source rest rest' : List Char} {ts ts' : List Token} {t : Token} {l l' : Lexer}
  {c : Char} {bound n : Nat}

/-! ### Openings -/

/-- The marks that a collection can be opened with. -/
def openingMarks : List Char := ['[', '\x7b', '-', '?', ':']

/-- The number of marks in a text that a collection can be opened with. -/
def openings (cs : List Char) : Nat := cs.countP (openingMarks.contains ·)

/-- A token that can open a collection; a collection in a block has one for each of its parts. -/
def Token.opens : Token → Bool
  | .openList | .openMap | .dash | .key => true
  | _ => false

theorem openings_le (h : rest' <:+ rest) : openings rest' ≤ openings rest :=
  h.sublist.countP_le

/-- Behind an opening mark there is one less. -/
theorem openings_lt {cursor : Cursor} (h : cursor.next? = some c) (hc : c ∈ openingMarks) :
    openings cursor.advance.rest < openings cursor.rest := by
  rw [rest_of_next? h, openings, openings, List.countP_cons_of_pos (by simpa using hc)]
  exact Nat.lt_succ_self _

/-! ### Tokens so far -/

/-- What tokens tell of a document of which the rest is still to be read. -/
structure Tells (source : List Char) (ts : List Token) (rest : List Char) : Prop where
  suffix : rest <:+ source
  openings_le : ts.countP Token.opens + openings rest ≤ openings source
  tag : ∀ mark, .tag mark ∈ ts → '!' ∈ source
  unbroken : ∀ fault, .broken fault ∉ ts

/-- A token that tells nothing more of its document. -/
def Token.isNeutral : Token → Bool
  | .openList | .openMap | .dash | .key | .tag _ | .broken _ => false
  | _ => true

namespace Tells

theorem skip (h : Tells source ts rest) (hrest : rest' <:+ rest) : Tells source ts rest' :=
  ⟨hrest.trans h.suffix,
    (Nat.add_le_add_left (Yaml.openings_le hrest) _).trans h.openings_le, h.tag, h.unbroken⟩

theorem cons (h : Tells source ts rest) (hrest : rest' <:+ rest)
    (hle : (t :: ts).countP Token.opens + openings rest' ≤ openings source)
    (htag : ∀ mark, t = .tag mark → '!' ∈ source) (ht : ∀ fault, t ≠ .broken fault) :
    Tells source (t :: ts) rest' := by
  refine ⟨hrest.trans h.suffix, hle, fun mark hmem => ?_, fun fault hmem => ?_⟩
  · rcases List.mem_cons.mp hmem with heq | hmem
    · exact htag mark heq.symm
    · exact h.tag mark hmem
  · rcases List.mem_cons.mp hmem with heq | hmem
    · exact ht fault heq.symm
    · exact h.unbroken fault hmem

theorem neutral (h : Tells source ts rest) (ht : t.isNeutral = true) :
    Tells source (t :: ts) rest := by
  have hclosed : t.opens = false := by
    cases t <;> first | rfl | cases ht
  refine h.cons (List.suffix_refl _) ?_ ?_ ?_
  · rw [List.countP_cons_of_neg (by simp [hclosed])]
    exact h.openings_le
  · rintro mark rfl
    cases ht
  · rintro fault rfl
    cases ht

theorem opening (h : Tells source ts rest) (hrest : rest' <:+ rest)
    (hless : openings rest' < openings rest) (ht : t.opens = true) :
    Tells source (t :: ts) rest' := by
  refine h.cons hrest ?_ ?_ ?_
  · have hle := h.openings_le
    rw [List.countP_cons_of_pos ht]
    omega
  · rintro mark rfl
    cases ht
  · rintro fault rfl
    cases ht

theorem tagged (mark : TagMark) (h : Tells source ts rest) (hmark : '!' ∈ source) :
    Tells source (.tag mark :: ts) rest := by
  refine h.cons (List.suffix_refl _) ?_ (fun _ _ => hmark) nofun
  rw [List.countP_cons_of_neg (by simp [Token.opens])]
  exact h.openings_le

/-- A token for an opening mark that comes next. -/
theorem advance {cursor : Cursor} (h : Tells source ts cursor.rest)
    (hnext : cursor.next? = some c) (hc : c ∈ openingMarks)
    (ht : t.opens = true ∨ t.isNeutral = true) : Tells source (t :: ts) cursor.advance.rest := by
  rcases ht with ht | ht
  · exact h.opening cursor.suffix_advance (openings_lt hnext hc) ht
  · exact (h.skip cursor.suffix_advance).neutral ht

theorem sublist (h : Tells source ts rest) (hsub : ts'.Sublist ts) : Tells source ts' rest :=
  ⟨h.suffix, (Nat.add_le_add_right hsub.countP_le _).trans h.openings_le,
    fun mark hmem => h.tag mark (hsub.subset hmem),
    fun fault hmem => h.unbroken fault (hsub.subset hmem)⟩

/-- The order of tokens does not matter. -/
theorem perm (h : Tells source ts rest) (hperm : ts'.Perm ts) : Tells source ts' rest :=
  ⟨h.suffix, hperm.countP_eq _ ▸ h.openings_le, fun mark hmem => h.tag mark (hperm.subset hmem),
    fun fault hmem => h.unbroken fault (hperm.subset hmem)⟩

end Tells

namespace Lexer

/-- What the tokens of a lexer tell of the document that it reads. -/
abbrev Tells (l : Lexer) (source : List Char) : Prop :=
  Yaml.Tells source l.tokens l.cursor.rest

theorem tells_insert (h : Yaml.Tells source (t :: l.tokens) rest) (place : Nat) :
    Yaml.Tells source (l.insert place t).tokens rest := by
  have hperm : (l.insert place t).tokens.Perm
      (t :: (l.tokens.take (l.count - place) ++ l.tokens.drop (l.count - place))) :=
    List.perm_middle
  rw [List.take_append_drop] at hperm
  exact h.perm hperm

/-! ### What does not concern the tokens -/

/-- Two lexers with the same tokens at the same place. -/
def Agrees (l l' : Lexer) : Prop := l'.tokens = l.tokens ∧ l'.cursor = l.cursor

theorem Agrees.tells (h : l.Agrees l') (htells : l.Tells source) : l'.Tells source := by
  rw [Tells, h.1, h.2]
  exact htells

theorem reads_dropStale (l : Lexer) : Reads source l.Agrees l.dropStale := by
  unfold dropStale
  split
  · exact .malformed
  · exact .ok ⟨rfl, rfl⟩

theorem reads_dropKey (l : Lexer) : Reads source l.Agrees l.dropKey := by
  unfold dropKey
  split
  · exact .malformed
  · exact .ok ⟨rfl, rfl⟩

theorem reads_saveKey (l : Lexer) : Reads source l.Agrees l.saveKey := by
  unfold saveKey
  split
  · exact (reads_dropKey l).bind fun l' hagrees => .ok hagrees
  · exact .ok ⟨rfl, rfl⟩

theorem unwindFrom_spec (h : l.Tells source) (bound indent : Nat) (outer : List Nat) :
    (l.unwindFrom bound indent outer).Tells source ∧
      (l.unwindFrom bound indent outer).cursor = l.cursor := by
  induction outer generalizing l indent with
  | nil => exact ⟨h, rfl⟩
  | cons n outer ih =>
    unfold unwindFrom
    split
    · exact ih (l := l.push .blockEnd) (h.neutral rfl) n
    · exact ⟨h, rfl⟩

theorem unwind_spec (h : l.Tells source) (bound : Nat) :
    (l.unwind bound).Tells source ∧ (l.unwind bound).cursor = l.cursor := by
  unfold unwind
  split
  · exact unwindFrom_spec h bound l.indent l.outer
  · exact ⟨h, rfl⟩

/-! ### Single tokens -/

/-- What is read behind the next character. -/
theorem reads_behind {β : Type} {x : Except Fault (β × Cursor)} (h : l.Tells source)
    (hx : Passes l.cursor.advance.rest x) :
    Reads source (fun r => r.2.rest <:+ l.cursor.rest) x :=
  Reads.of_suffix hx (l.cursor.suffix_advance.trans h.suffix)
    fun _ hr => hr.trans l.cursor.suffix_advance

/-- Tokens are taken up, or the document is broken off. -/
abbrev Takes (source : List Char) (x : Except Fault Lexer) : Prop :=
  Reads source (fun l => l.Tells source) x

section
variable (h : l.Tells source)
include h

theorem takes_keyed {mayStart : Bool} {cursor : Cursor} (hcursor : cursor.rest <:+ l.cursor.rest)
    (ht : t.isNeutral = true) : Takes source (l.keyed t mayStart cursor) := by
  refine (reads_saveKey l).bind fun l' hagrees => .ok ?_
  have htells := (hagrees.tells h).neutral ht
  rw [hagrees.2] at htells
  exact htells.skip hcursor

theorem takes_named {token : String → Token} (ht : ∀ name, (token name).isNeutral = true) :
    Takes source (l.named token) := by
  refine Reads.bind (.of_wellFormed fun _ hname => hname) fun r hname => ?_
  exact takes_keyed h ((suffix_of_anchorName? hname).trans l.cursor.suffix_advance) (ht _)

theorem takes_tagged (hmark : '!' ∈ source) : Takes source l.tagged := by
  refine Reads.bind (.of_wellFormed fun _ hname => hname) fun r htag => ?_
  refine (reads_saveKey l).bind fun l' hagrees => .ok ?_
  have htells := (hagrees.tells h).tagged r.1 hmark
  rw [hagrees.2] at htells
  exact htells.skip (suffix_of_tagMark? htag)

theorem takes_quoted (quote : Char) : Takes source (l.quoted quote) := by
  have hpasses := passes_quotedText quote (l.cursor.advance.rest.length + 1) l.cursor.advance
  exact (reads_behind h hpasses).bind fun r hr => takes_keyed h hr rfl

theorem takes_plain : Takes source l.plain := by
  have htext := suffix_plainText (0 < l.flow) l.indent (l.cursor.rest.length + 1) l.cursor
  unfold plain
  generalize plainText (0 < l.flow) l.indent (l.cursor.rest.length + 1) l.cursor = text at htext ⊢
  exact takes_keyed h htext rfl

theorem takes_block (folded : Bool) : Takes source (l.block folded) := by
  refine (reads_dropKey l).bind fun l' hagrees => ?_
  refine Reads.bind (.of_wellFormed fun _ htext => htext) fun r htext => .ok ?_
  exact ((hagrees.tells h).neutral rfl).skip
    ((suffix_of_blockText htext).trans l'.cursor.suffix_advance)

theorem takes_directive : Takes source l.directive := by
  obtain ⟨htells, hcursor⟩ := unwind_spec h 0
  refine (reads_dropKey _).bind fun l' hagrees => ?_
  have htells := hagrees.tells htells
  exact (reads_behind htells (passes_directive _)).bind fun r hr =>
    .ok ((htells.neutral rfl).skip hr)

theorem takes_separator (ht : t.isNeutral = true) : Takes source (l.separator t) := by
  obtain ⟨htells, hcursor⟩ := unwind_spec h 0
  refine (reads_dropKey _).bind fun l' hagrees => .ok ?_
  exact ((hagrees.tells htells).neutral ht).skip (l'.cursor.suffix_skip 3)

theorem takes_closeFlow (ht : t.isNeutral = true) : Takes source (l.closeFlow t) := by
  unfold closeFlow
  split
  · exact .malformed
  · refine (reads_dropKey l).bind fun l' hagrees => .ok ?_
    exact ((hagrees.tells h).neutral ht).skip l'.cursor.suffix_advance

theorem takes_comma : Takes source (do
    let l ← (l.allow true).dropKey
    return (l.push .comma).goto l.cursor.advance) := by
  refine (reads_dropKey _).bind fun l' hagrees => .ok ?_
  exact ((hagrees.tells h).neutral rfl).skip l'.cursor.suffix_advance

variable (hnext : l.cursor.next? = some c) (hc : c ∈ openingMarks)
include hnext hc

theorem takes_openFlow (ht : t.opens = true) : Takes source (l.openFlow t) := by
  refine (reads_saveKey l).bind fun l' hagrees => .ok ?_
  exact (hagrees.tells h).advance (hagrees.2 ▸ hnext) hc (.inl ht)

theorem takes_mark {collection : Token} (mayStart : Bool)
    (hcollection : collection.isNeutral = true) (ht : t.opens = true ∨ t.isNeutral = true) :
    Takes source (l.mark collection t mayStart) := by
  unfold mark
  split
  · exact .malformed
  · extract_lets column opened
    -- A new collection has a token besides that of the mark, which alone counts as an opening.
    have hopened : opened.Tells source ∧ opened.cursor = l.cursor := by
      unfold opened
      split
      · exact ⟨h.neutral hcollection, rfl⟩
      · exact ⟨h, rfl⟩
    refine (reads_dropKey opened).bind fun l' hagrees => .ok ?_
    rw [← hopened.2, ← hagrees.2] at hnext
    exact (hagrees.tells hopened.1).advance hnext hc ht

/-- The key that a colon makes takes the colon for its mark. -/
theorem takes_colon : Takes source l.colon := by
  unfold colon
  split
  · next k _ =>
    extract_lets kept keyed opened
    -- The key is put in before the part that it starts, so that the marks are counted first and the
    -- tokens put in order afterwards.
    have hkeyed : Yaml.Tells source keyed.tokens l.cursor.advance.rest :=
      tells_insert (l := kept) (h.advance hnext hc (.inl rfl)) k.tokens
    have hopened : Yaml.Tells source opened.tokens l.cursor.advance.rest ∧
        opened.cursor = l.cursor := by
      unfold opened
      split
      · exact ⟨tells_insert (hkeyed.neutral rfl) k.tokens, rfl⟩
      · exact ⟨hkeyed, rfl⟩
    refine .ok ?_
    have htells := hopened.1.neutral (t := .colon) rfl
    rw [← hopened.2] at htells
    exact htells
  · exact takes_mark h hnext hc _ rfl (.inr rfl)

end

/-! ### All tokens -/

theorem takes_token (h : l.Tells source) (hnext : l.cursor.next? = some c) :
    Takes source (l.token c) := by
  have hmem : c ∈ l.cursor.rest := rest_of_next? hnext ▸ List.mem_cons_self
  unfold token
  extract_lets next flow first
  refine .ite (fun _ => takes_directive h) ?_
  refine .ite (fun _ => takes_separator h (by split <;> rfl)) ?_
  refine .ite (fun hc => takes_openFlow h hnext (by simp [hc, openingMarks]) rfl) ?_
  refine .ite (fun hc => takes_openFlow h hnext (by simp [hc, openingMarks]) rfl) ?_
  refine .ite (fun _ => takes_closeFlow h rfl) ?_
  refine .ite (fun _ => takes_closeFlow h rfl) ?_
  refine .ite (fun _ => takes_comma h) ?_
  refine .ite (fun hc => takes_mark h hnext (by simp [hc.1, openingMarks]) _ rfl (.inl rfl)) ?_
  refine .ite (fun hc => takes_mark h hnext (by simp [hc.1, openingMarks]) _ rfl (.inl rfl)) ?_
  refine .ite (fun hc => takes_colon h hnext (by simp [hc.1, openingMarks])) ?_
  refine .ite (fun _ => takes_named h fun _ => rfl) ?_
  refine .ite (fun _ => takes_named h fun _ => rfl) ?_
  refine .ite (fun hc => takes_tagged h (hc ▸ h.suffix.subset hmem)) ?_
  refine .ite (fun _ => takes_block h false) ?_
  refine .ite (fun _ => takes_block h true) ?_
  refine .ite (fun _ => takes_quoted h c) ?_
  refine .ite (fun _ => takes_plain h) .malformed

theorem tells_toToken (h : l.Tells source) (n : Nat) : (toToken n l).Tells source := by
  induction n generalizing l with
  | zero => exact h
  | succ n ih =>
    have hcomment := l.cursor.suffix_dropComment
    unfold toToken
    dsimp only
    split
    · exact ih (h.skip ((suffix_skipBreak _).trans hcomment))
    · exact h.skip hcomment

theorem reads_step (h : l.Tells source) : Reads source (fun r => r.2.Tells source) l.step := by
  refine (reads_dropStale _).bind fun l' hagrees => ?_
  have htells := hagrees.tells (tells_toToken h (l.cursor.rest.length + 1))
  split
  · obtain ⟨hunwound, -⟩ := unwind_spec htells 0
    exact Reads.bind (reads_dropKey _) fun l'' hlast => .ok (hlast.tells hunwound)
  · next c hnext =>
    obtain ⟨hunwound, hcursor⟩ := unwind_spec htells (l'.cursor.column + 1)
    rw [← hcursor] at hnext
    exact Reads.bind (takes_token hunwound hnext) fun l'' htaken => .ok htaken

end Lexer

/-- What the tokens of a document tell of it. -/
structure TellsOf (source : List Char) (ts : List Token) : Prop where
  openings_le : ts.countP Token.opens ≤ openings source
  tag : ∀ mark, .tag mark ∈ ts → '!' ∈ source
  broken : ∀ fault, .broken fault ∈ ts → Breaks source fault

namespace TellsOf

theorem of_tells (h : Tells source ts rest) : TellsOf source ts.reverse where
  openings_le := by
    rw [List.countP_reverse]
    exact (Nat.le_add_right _ _).trans h.openings_le
  tag mark hmem := h.tag mark (List.mem_reverse.mp hmem)
  broken fault hmem := absurd (List.mem_reverse.mp hmem) (h.unbroken fault)

theorem of_broken {fault : Fault} (h : Tells source ts rest) (hfault : Breaks source fault) :
    TellsOf source (.broken fault :: ts).reverse where
  openings_le := by
    rw [List.countP_reverse, List.countP_cons_of_neg (by simp [Token.opens])]
    exact (Nat.le_add_right _ _).trans h.openings_le
  tag mark hmem := by
    rcases List.mem_cons.mp (List.mem_reverse.mp hmem) with heq | hmem
    · cases heq
    · exact h.tag mark hmem
  broken fault' hmem := by
    rcases List.mem_cons.mp (List.mem_reverse.mp hmem) with heq | hmem
    · cases heq
      exact hfault
    · exact absurd hmem (h.unbroken fault')

end TellsOf

theorem Lexer.tellsOf_run (h : l.Tells source) (n : Nat) : TellsOf source (run n l) := by
  induction n generalizing l with
  | zero => exact .of_broken h .malformed
  | succ n ih =>
    have hstep := reads_step h
    unfold run
    split
    · next l' heq =>
      rw [heq] at hstep
      cases hstep with
      | ok htells => exact ih htells
    · next l' heq =>
      rw [heq] at hstep
      cases hstep with
      | ok htells => exact .of_tells htells
    · next fault heq =>
      rw [heq] at hstep
      cases hstep with
      | error hbreaks => exact .of_broken (h.sublist (List.drop_sublist _ _)) hbreaks

/-- The tokens of a document tell of it what they are made of. -/
theorem tellsOf_tokens (source : List Char) : TellsOf source (tokens source) := by
  have hstart {cs : List Char} (hcs : cs <:+ source) : (Lexer.start cs).Tells source :=
    ⟨hcs, by simpa [Lexer.start, Cursor.start] using openings_le hcs, by simp [Lexer.start],
      by simp [Lexer.start]⟩
  unfold tokens
  split
  · refine Lexer.tellsOf_run (hstart ?_) _
    split
    · exact List.drop_suffix 1 source
    · exact List.suffix_refl source
  · have hnone : Tells source [] [] := ⟨List.nil_suffix, Nat.zero_le _, nofun, nofun⟩
    exact .of_broken hnone .malformed

end Scaffold.Yaml
