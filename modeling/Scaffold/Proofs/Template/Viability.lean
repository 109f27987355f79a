import Scaffold.Proofs.Computation
import Scaffold.Proofs.Template.TagPlace

/-! Where a rejected template goes wrong.  Reading stops at the first tag with which no template
can go on, as whatever was read until then can be completed; and if it stops nowhere, a block is
left open. -/
namespace Scaffold.Template
open Expression Scaffold.Text

/-- Lexemes that make a template. -/
def Accepts (ls : List Lexeme) : Prop := ∃ body, Derives body (withoutComments ls)

/-- Lexemes that some template starts with. -/
def IsViable (ls : List Lexeme) : Prop := ∃ more, Accepts (ls ++ more)

/-- The block that the tag opens is not closed in what follows, and all blocks behind it are. -/
def Tag.StaysOpen (t : Tag) (after : List Lexeme) : Prop :=
  ∃ f : Frame, f.IsOpen ∧ f.lexemes = .tag t :: withoutComments after

theorem accepts_iff {ls : List Lexeme} : Accepts ls ↔ ∃ cs, chunksOf ls = .ok cs := by
  constructor
  · rintro ⟨body, hb, hl⟩
    exact ⟨_, chunksOf_eq_ok_iff.mpr ⟨body, hb, hl, rfl⟩⟩
  · rintro ⟨cs, h⟩
    obtain ⟨body, hb, hl, -⟩ := chunksOf_eq_ok_iff.mp h
    exact ⟨body, hb, hl⟩

/-- What a template starts with starts with what a template starts with. -/
theorem IsViable.mono {ls ls' : List Lexeme} (h : IsViable ls') (hp : ls <+: ls') :
    IsViable ls := by
  obtain ⟨rest, rfl⟩ := hp
  obtain ⟨more, h⟩ := h
  rw [List.append_assoc] at h
  exact ⟨rest ++ more, h⟩

/-! ### What was read can be completed -/

/-- A tag that closes a block. -/
def closingTag : Tag := ⟨.control, "end".toList, 1⟩

theorem says_closingTag : closingTag.Says "end" [] := ⟨rfl, by decide⟩

theorem length_blocks_add (b : Builder) (c : Chunk) :
    (b.add c).blocks.length = b.blocks.length := by
  unfold Builder.add
  split
  · next h => rw [h]
  · next h => rw [h, List.length_cons, List.length_cons]

/-- As many closing tags as there are open blocks finish a tree. -/
theorem exists_finish_closing (n : Nat) (b : Builder) (h : b.blocks.length = n) :
    ∃ b', (List.replicate n (.tag closingTag)).foldlM Builder.step b = .ok b' ∧
      b'.blocks = [] := by
  induction n generalizing b with
  | zero => exact ⟨b, rfl, List.length_eq_zero_iff.mp h⟩
  | succ n ih =>
    obtain ⟨blocks, root⟩ := b
    cases blocks with
    | nil => cases h
    | cons block outer =>
      rw [List.replicate_succ, foldlM_cons_ok (step_end says_closingTag block outer root)]
      apply ih
      rw [length_blocks_add]
      exact Nat.succ.inj h

theorem isViable_of_foldlM {ls : List Lexeme} {b : Builder}
    (h : ls.foldlM Builder.step ⟨[], []⟩ = .ok b) : IsViable ls := by
  obtain ⟨b', hclose, hblocks⟩ := exists_finish_closing _ b rfl
  refine ⟨List.replicate b.blocks.length (.tag closingTag), accepts_iff.mpr ⟨b'.root.reverse, ?_⟩⟩
  rw [chunksOf, foldlM_append_ok h, hclose]
  change b'.finish = _
  rw [Builder.finish, hblocks]

/-! ### What is rejected stays rejected -/

/-- Lexemes that cannot all be taken up have a first one that cannot. -/
theorem exists_step_of_foldlM_eq_error {ls : List Lexeme} {b : Builder} {e : LineFault}
    (h : ls.foldlM Builder.step b = .error e) : ∃ pre l post b', ls = pre ++ l :: post ∧
      pre.foldlM Builder.step b = .ok b' ∧ b'.step l = .error e := by
  induction ls generalizing b with
  | nil => cases h
  | cons l ls ih =>
    rw [List.foldlM_cons, bind_eq_error_iff] at h
    rcases h with h | ⟨b₁, hstep, h⟩
    · exact ⟨[], l, ls, b, rfl, rfl, h⟩
    · obtain ⟨pre, l', post, b', rfl, hpre, hl'⟩ := ih h
      exact ⟨l :: pre, l', post, b', rfl, (foldlM_cons_ok hstep).trans hpre, hl'⟩

/-- Only tags are refused, comments never, and each on its own line. -/
theorem exists_tag_of_step_eq_error {b : Builder} {l : Lexeme} {e : LineFault}
    (h : b.step l = .error e) : ∃ t, l = .tag t ∧ t.kind ≠ .comment ∧ e.line = t.line := by
  cases l with
  | text s => cases h
  | tag t =>
    refine ⟨t, rfl, ?_, ?_⟩
    · intro hk
      rw [step_of_comment hk] at h
      cases h
    · rw [Builder.step] at h
      cases ht : b.tag t with
      | ok b' =>
        rw [ht] at h
        cases h
      | error fault =>
        rw [ht] at h
        cases h
        rfl

theorem not_isViable_of_step {pre : List Lexeme} {l : Lexeme} {b : Builder} {e : LineFault}
    (hpre : pre.foldlM Builder.step ⟨[], []⟩ = .ok b) (hl : b.step l = .error e) :
    ¬ IsViable (pre ++ [l]) := by
  rintro ⟨more, hmore⟩
  obtain ⟨cs, h⟩ := accepts_iff.mp hmore
  rw [chunksOf, List.append_assoc, foldlM_append_ok hpre, List.singleton_append,
    List.foldlM_cons, hl] at h
  cases h

/-! ### Blocks that are left open -/

theorem Frame.exists_opening (f : Frame) : ∃ t rest, f.lexemes = .tag t :: rest ∧
    f.block.line = t.line ∧ (f.IsOpen → ∃ o, t.Opens o) := by
  cases f with
  | conditional o word g body => exact ⟨o, _, rfl, rfl, fun h => ⟨_, h.1⟩⟩
  | alternative o word g body m other => exact ⟨o, _, rfl, rfl, fun h => ⟨_, h.1⟩⟩
  | loop o binder p body => exact ⟨o, _, rfl, rfl, fun h => ⟨_, h.1⟩⟩

theorem exists_append_of_withoutComments {ls pre rest : List Lexeme} {t : Tag}
    (h : withoutComments ls = pre ++ .tag t :: rest) : ∃ before after,
      ls = before ++ .tag t :: after ∧ withoutComments after = rest := by
  obtain ⟨front, back, rfl, -, hback⟩ := List.filter_eq_append_iff.mp h
  obtain ⟨gap, after, rfl, -, -, hafter⟩ := List.filter_eq_cons_iff.mp hback
  exact ⟨front ++ gap, after, (List.append_assoc ..).symm, hafter⟩

/-- Where all lexemes are taken up and there is no tree, the innermost open block is at fault. -/
theorem exists_staysOpen {ls : List Lexeme} {b : Builder} {e : LineFault}
    (h : ls.foldlM Builder.step ⟨[], []⟩ = .ok b) (he : b.finish = .error e) :
    ∃ before t after, ls = before ++ .tag t :: after ∧ t.StaysOpen after ∧ e.line = t.line := by
  have hstart : Progress.IsOpen ⟨[], []⟩ := ⟨trivial, by simp⟩
  obtain ⟨⟨frames, root⟩, hq, rfl, hl⟩ := exists_progress_of_foldlM hstart h
  cases frames with
  | nil => cases he
  | cons f outer =>
    cases he
    obtain ⟨t, rest, hf, hline, -⟩ := f.exists_opening
    have hsplit : withoutComments ls =
        (bodyLexemes root ++ outer.reverse.flatMap Frame.lexemes) ++ .tag t :: rest := by
      rw [← hf]
      simpa [Progress.lexemes, bodyLexemes] using hl.symm
    obtain ⟨before, after, rfl, hafter⟩ := exists_append_of_withoutComments hsplit
    refine ⟨before, t, after, rfl, ⟨f, hq.2 f List.mem_cons_self, ?_⟩, hline⟩
    rw [hf, hafter]

theorem Tag.StaysOpen.exists_opens {t : Tag} {after : List Lexeme} (h : t.StaysOpen after) :
    ∃ o, t.Opens o := by
  obtain ⟨f, hf, hl⟩ := h
  obtain ⟨u, rest, hu, -, hopens⟩ := f.exists_opening
  rw [hu] at hl
  cases hl
  exact hopens hf

theorem Tag.StaysOpen.kind_ne {t : Tag} {after : List Lexeme} (h : t.StaysOpen after) :
    t.kind ≠ .comment := by
  obtain ⟨o, ho⟩ := h.exists_opens
  simp [(Tag.Does.opens ho).kind_eq]

/-! ### The line of an error -/

theorem parse_eq_error_iff {source name : String} {e : SyntaxFault} :
    parse source name = .error e ↔
      ∃ fault, chunksOf (lexemes source) = .error fault ∧ e = ⟨name, fault.line, fault.fault⟩ := by
  rw [parse, parseChunks]
  cases chunksOf (lexemes source) <;> simp [eq_comm]

/-- A tag among the lexemes of a source stands in it on its line. -/
theorem exists_line_of_lexemes {source : String} {pre post : List Lexeme} {t : Tag}
    (h : lexemes source = pre ++ .tag t :: post) (ht : t.kind ≠ .comment) :
    ∃ before, t.StandsIn source (pre.filterMap Lexeme.active?) before ∧
      before ++ t.chars <+: source.toList ∧ t.line = 1 + lineFeeds before := by
  have hsplit : withoutComments (lexemes source) =
      withoutComments pre ++ .tag t :: withoutComments post := by
    rw [h, withoutComments, List.filter_append, List.filter_cons_of_pos (by simpa using ht)]
    rfl
  have hplace := exists_standsIn hsplit
  rwa [filterMap_active?_withoutComments] at hplace

/-- The error about a rejected source has the line of a tag in it.  Either the lexemes in front of
the tag can be gone on with to a template, and those up to the tag cannot; or all that the source
starts with can, and the tag opens the innermost block that is open at the end. -/
theorem line_of_parse_eq_error {source name : String} {e : SyntaxFault}
    (h : parse source name = .error e) :
    ∃ pre t post before, lexemes source = pre ++ .tag t :: post ∧ e.line = t.line ∧
      t.StandsIn source (pre.filterMap Lexeme.active?) before ∧
      before ++ t.chars <+: source.toList ∧ t.line = 1 + lineFeeds before ∧
      ((IsViable pre ∧ ¬ IsViable (pre ++ [.tag t])) ∨
        ((∀ ls, ls <+: lexemes source → IsViable ls) ∧ t.StaysOpen post)) := by
  obtain ⟨fault, hfault, rfl⟩ := parse_eq_error_iff.mp h
  rw [chunksOf, bind_eq_error_iff] at hfault
  rcases hfault with hfold | ⟨b, hfold, hfinish⟩
  · obtain ⟨pre, l, post, b, hsplit, hpre, hl⟩ := exists_step_of_foldlM_eq_error hfold
    obtain ⟨t, rfl, hkind, hline⟩ := exists_tag_of_step_eq_error hl
    obtain ⟨before, hplace⟩ := exists_line_of_lexemes hsplit hkind
    refine ⟨pre, t, post, before, hsplit, hline, hplace.1, hplace.2.1, hplace.2.2, .inl ?_⟩
    exact ⟨isViable_of_foldlM hpre, not_isViable_of_step hpre hl⟩
  · obtain ⟨pre, t, post, hsplit, hopen, hline⟩ := exists_staysOpen hfold hfinish
    obtain ⟨before, hplace⟩ := exists_line_of_lexemes hsplit hopen.kind_ne
    refine ⟨pre, t, post, before, hsplit, hline, hplace.1, hplace.2.1, hplace.2.2, .inr ?_⟩
    exact ⟨fun ls hls => (isViable_of_foldlM hfold).mono hls, hopen⟩

/-! ### A conditional with two alternatives -/

def openA : Tag := ⟨.control, " if a\n".toList, 1⟩

def firstElse : Tag := ⟨.control, " else ".toList, 2⟩

def secondElse : Tag := ⟨.control, " else ".toList, 3⟩

def twoElses : String := "<% if a\n%>x<% else %>y\n<% else %>"

theorem lexemes_twoElses : lexemes twoElses =
    [.tag openA, .text ['x'], .tag firstElse, .text ['y', '\n'], .tag secondElse] := by
  have hsealed {body : List Char} {line : Nat} (hbody : body.all isInert = true)
      (hhead : body.head? = some ' ') : Tag.IsSealed ⟨.control, body, line⟩ :=
    ⟨by simp, sealed_of_all hbody, fun _ => by simp [hhead]⟩
  have hnumbered : Numbered 1 [.tag openA, .char 'x', .tag firstElse, .char 'y', .char '\n',
      .tag secondElse] :=
    ⟨rfl, hsealed rfl rfl, by decide, rfl, hsealed rfl rfl, by decide, by decide, rfl,
      hsealed rfl rfl, trivial⟩
  rw [lexemes_eq_assemble_kept]
  exact congrArg (fun ps => assemble (kept false ps)) (pieces_cutFrom hnumbered)

theorem parse_twoElses : parse twoElses "twice" = .error ⟨"twice", 3, .strayElse⟩ := by
  have hopens : openA.Opens (.conditional "if" (.path ⟨"a", []⟩)) := by
    have hguard : parseGuard "a" = .ok (.path ⟨"a", []⟩) :=
      parseGuard_shown (p := ⟨"a", []⟩) (by decide)
    have hsays : openA.Says "if" ['a'] := ⟨rfl, by decide⟩
    exact .onIf hsays hguard
  have hfault : chunksOf (lexemes twoElses) = .error ⟨3, .strayElse⟩ := by
    rw [lexemes_twoElses, chunksOf, foldlM_cons_ok (hopens.step_eq _)]
    rfl
  exact parse_eq_error_iff.mpr ⟨_, hfault, rfl⟩

theorem line_of_parse_eq_error_twoElses :
    parse twoElses "twice" = .error ⟨"twice", 3, .strayElse⟩ ∧
    IsViable [.tag openA, .text ['x'], .tag firstElse, .text ['y', '\n']] ∧
    ¬ IsViable (lexemes twoElses) := by
  obtain ⟨pre, t, post, before, hsplit, hline, -, -, -, hcases⟩ :=
    line_of_parse_eq_error parse_twoElses
  -- The tags are told apart by their lines, so that the third one is at fault.
  rw [lexemes_twoElses] at hsplit
  have hpre : pre = [.tag openA, .text ['x'], .tag firstElse, .text ['y', '\n']] ∧
      t = secondElse := by
    rcases pre with _ | ⟨_, _ | ⟨_, _ | ⟨_, _ | ⟨_, _ | ⟨_, pre⟩⟩⟩⟩⟩
    · cases hsplit
      exact absurd hline (by decide)
    · cases hsplit
    · cases hsplit
      exact absurd hline (by decide)
    · cases hsplit
    · cases hsplit
      exact ⟨rfl, rfl⟩
    · exact absurd (congrArg List.length hsplit) (by simp)
  obtain ⟨rfl, rfl⟩ := hpre
  refine ⟨parse_twoElses, ?_⟩
  rcases hcases with hviable | ⟨-, hopen⟩
  · rwa [lexemes_twoElses]
  · obtain ⟨o, ho⟩ := hopen.exists_opens
    have helse : secondElse.Does .elseBranch := .otherwise ⟨rfl, by decide⟩
    cases (Tag.Does.opens ho).unique helse

end Scaffold.Template
