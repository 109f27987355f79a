import Scaffold.Proofs.Expression.Evaluation
import Scaffold.Proofs.Expression.Spacing

/-! Printing of expressions.  Messages show an expression without its parentheses and its literals
without backslashes; what they show is parsed to the expression again exactly where it needed
neither. -/
namespace Scaffold.Text
variable {quote : Char} {body r rest : List Char}

/-- Only a backslash stands for a backslash. -/
theorem eq_backslash_of_escape {c : Char}
    (h : '\\' = if c = 'n' then '\n' else if c = 't' then '\t' else c) : c = '\\' := by
  split at h
  · exact absurd h (by decide)
  · split at h
    · exact absurd h (by decide)
    · exact h.symm

/-- Behind a run of backslashes a text is never read as what it stands for: each backslash that it
stands for takes up two of them, so that the run only grows, and the closing quote never comes. -/
theorem backslashes_append_ne (hq : quote ≠ '\\') (body r rest : List Char) (k : Nat) :
    List.replicate (k + 1) '\\' ++ (body ++ quote :: r) ≠ unescape body ++ quote :: rest := by
  intro h
  fun_induction unescape body generalizing k with
  | case1 c body ih =>
    simp only [List.replicate_succ, List.cons_append, List.cons.injEq] at h
    obtain ⟨hc, htail⟩ := h
    apply ih (k + 1)
    rw [← htail, eq_backslash_of_escape hc]
    simp [List.replicate_succ', List.append_assoc]
  | case2 c body hne ih =>
    simp only [List.replicate_succ, List.cons_append, List.cons.injEq] at h
    obtain ⟨rfl, htail⟩ := h
    cases body with
    | nil => cases k <;> exact hq (List.cons.inj htail).1.symm
    | cons d body => exact hne d body rfl rfl
  | case3 => exact hq (List.cons.inj h).1.symm

/-- A literal that is written as the text it stands for holds neither quotes nor backslashes. -/
theorem isPlain_of_literalBody? {plain escaped : Char → Bool} (hq : quote ≠ '\\') {cs : List Char}
    (h : literalBody? plain escaped quote cs = some (body, r))
    (hcs : cs = unescape body ++ quote :: rest) : ∀ c ∈ body, c ≠ quote ∧ c ≠ '\\' := by
  have hsame : body ++ quote :: r = unescape body ++ quote :: rest :=
    (eq_append_of_literalBody? h).symm.trans hcs
  have hbody := isLiteralBody_of_literalBody? h
  clear h hcs
  induction hbody with
  | nil => simp
  | plain hne hb _ _ ih =>
    rw [unescape_cons hb, List.cons_append, List.cons_append, List.cons.injEq] at hsame
    exact List.forall_mem_cons.mpr ⟨⟨hne, hb⟩, ih hsame.2⟩
  | escaped _ _ _ _ =>
    rw [unescape, List.cons_append, List.cons_append, List.cons_append, List.cons.injEq] at hsame
    obtain ⟨he, htail⟩ := hsame
    rw [eq_backslash_of_escape he] at htail
    exact absurd htail (backslashes_append_ne hq _ r rest 0)

end Scaffold.Text

namespace Scaffold.Expression
open Scaffold.Text Scaffold.Naming

/-! ### What can be missed -/

/-- An expression that stands on its own: no negation and no comparison. -/
def Node.isSimple : Node → Bool
  | .negation _ => false
  | .comparison _ _ _ => false
  | _ => true

/-- The text of a literal. -/
def Node.text? : Node → Option String
  | .text s => some s
  | _ => none

/-- The texts of the literals of an expression, from left to right. -/
def Node.texts (n : Node) : List String := n.parts.filterMap Node.text?

/-- What messages show of the expression can be read in one way only.  There are no operands that
would need parentheses, and no literals that would need backslashes. -/
structure Node.IsUnambiguous (n : Node) : Prop where
  operands : ∀ l r negated, .comparison l r negated ∈ n.parts →
    l.isSimple = true ∧ r.isSimple = true
  literals : ∀ s, .text s ∈ n.parts → isPlainText s = true

/-- The paths of an expression can be written out. -/
def Node.HasWritablePaths (n : Node) : Prop := ∀ p, .path p ∈ n.parts → p.isWritable = true

/-- The text that a literal stands for. -/
def Token.text? : Token → Option String
  | .literal _ body => some (String.ofList (unescape body))
  | _ => none

/-- The tokens of an expression as messages show it. -/
def Node.tokens : Node → List Token
  | .text s => [.literal '"' s.toList]
  | .truth b => [.name (if b then "true" else "false").toList]
  | .path p => p.tokens
  | .negation n => .name "not".toList :: n.tokens
  | .comparison l r negated => l.tokens ++ .sign (if negated then .unequal else .equal) :: r.tokens

variable {n l r m : Node} {p : Path} {ts us : List Token} {cs ds : List Char}

theorem Node.mem_parts_negation : m ∈ (Node.negation n).parts ↔ m = .negation n ∨ m ∈ n.parts :=
  List.mem_cons

theorem Node.mem_parts_comparison {negated : Bool} : m ∈ (Node.comparison l r negated).parts ↔
    m = .comparison l r negated ∨ m ∈ l.parts ∨ m ∈ r.parts := by
  rw [parts, List.mem_cons, List.mem_append]

theorem Node.parts_of_isSimple (h : n.isSimple = true) : n.parts = [n] := by
  cases n with
  | text | truth | path => rfl
  | negation | comparison => cases h

theorem Node.texts_negation (n : Node) : (Node.negation n).texts = n.texts := rfl

theorem Node.texts_comparison (l r : Node) (negated : Bool) :
    (Node.comparison l r negated).texts = l.texts ++ r.texts := List.filterMap_append

theorem Node.mem_texts {s : String} : s ∈ n.texts ↔ .text s ∈ n.parts := by
  rw [texts, List.mem_filterMap]
  constructor
  · rintro ⟨m, hm, hs⟩
    cases m <;> cases hs
    exact hm
  · exact fun h => ⟨_, h, rfl⟩

theorem Node.hasWritablePaths_negation :
    (Node.negation n).HasWritablePaths ↔ n.HasWritablePaths := by
  simp [HasWritablePaths, mem_parts_negation]

theorem Node.hasWritablePaths_comparison {negated : Bool} :
    (Node.comparison l r negated).HasWritablePaths ↔
      l.HasWritablePaths ∧ r.HasWritablePaths := by
  simp [HasWritablePaths, mem_parts_comparison, or_imp, forall_and]

/-! ### Tokens of an expression -/

theorem texts_of_isPath (h : IsPath ts p) : ts.filterMap Token.text? = [] := by
  obtain ⟨-, ha⟩ := h
  rw [List.filterMap_cons_none rfl]
  induction ha with
  | nil => rfl
  | cons _ _ ih => rw [List.filterMap_cons_none rfl, List.filterMap_cons_none rfl, ih]

/-- Names that were scanned make paths that can be written. -/
theorem isWritable_of_isPath (h : IsPath ts p) (hts : ∀ t ∈ ts, t.IsValid) :
    p.isWritable = true := by
  obtain @⟨word, more, names, hres, ha⟩ := h
  obtain ⟨hword, hmore⟩ := List.forall_mem_cons.mp hts
  have hsegment {w : List Char} (hw : Token.IsValid (.name w)) (hr : isReserved w = false) :
      isSegment (String.ofList w) = true := by
    rw [isSegment_iff, String.toList_ofList]
    exact ⟨hw, hr⟩
  have hnames : names.all isSegment = true := by
    clear hts
    induction ha with
    | nil => rfl
    | cons hr _ ih =>
      simp only [List.forall_mem_cons] at hmore
      obtain ⟨-, hw, hrest⟩ := hmore
      exact Bool.and_eq_true_iff.mpr ⟨hsegment hw hr, ih hrest⟩
  exact Bool.and_eq_true_iff.mpr ⟨hsegment hword hres, hnames⟩

/-- Tokens that spell an expression, in whatever way they are grouped. -/
inductive Spells : List Token → Node → Prop
  | literal (quote : Char) (body : List Char) :
      Spells [.literal quote body] (.text (String.ofList (unescape body)))
  | truth (b : Bool) : Spells [.name (if b then "true" else "false").toList] (.truth b)
  | path {ts : List Token} {p : Path} : IsPath ts p → Spells ts (.path p)
  | group {ts : List Token} {n : Node} : Spells ts n →
      Spells (.sign .openParen :: (ts ++ [.sign .closeParen])) n
  | negation {t : Token} {ts : List Token} {n : Node} : t.negates = true → Spells ts n →
      Spells (t :: ts) (.negation n)
  | comparison {ts us : List Token} {l r : Node} (negated : Bool) : Spells ts l → Spells us r →
      Spells (ts ++ .sign (if negated then .unequal else .equal) :: us) (.comparison l r negated)

theorem spells_of_isGuard (h : IsGuard ts n) : Spells ts n := by
  refine @IsGuard.rec (fun ts n _ => Spells ts n) (fun ts n _ => Spells ts n)
    (fun ts n _ => Spells ts n) ?word ?bang ?compare ?operand ?equal ?unequal ?literal ?yes ?no
    ?path ?group ts n h
  case word => exact fun _ => .negation (by decide)
  case bang => exact fun _ => .negation rfl
  case compare => exact fun _ => id
  case operand => exact fun _ => id
  case equal => exact fun _ _ => .comparison false
  case unequal => exact fun _ _ => .comparison true
  case literal => exact .literal _ _
  case yes => exact .truth true
  case no => exact .truth false
  case path => exact .path
  case group => exact fun _ => .group

namespace Spells

theorem texts_eq (h : Spells ts n) : ts.filterMap Token.text? = n.texts := by
  induction h with
  | literal | truth => rfl
  | path h => exact texts_of_isPath h
  | group _ ih => rw [List.filterMap_cons_none rfl, List.filterMap_append, ih,
      List.filterMap_cons_none rfl, List.filterMap_nil, List.append_nil]
  | negation ht _ ih =>
    rw [Node.texts_negation, ← ih, List.filterMap_cons_none]
    unfold Token.negates at ht
    split at ht
    · rfl
    · rfl
    · cases ht
  | comparison negated _ _ ihl ihr =>
    rw [List.filterMap_append, List.filterMap_cons_none rfl, ihl, ihr, Node.texts_comparison]

theorem hasWritablePaths (h : Spells ts n) (hts : ∀ t ∈ ts, t.IsValid) : n.HasWritablePaths := by
  induction h with
  | literal | truth =>
    intro p hp
    cases List.mem_singleton.mp hp
  | path h =>
    intro p hp
    cases List.mem_singleton.mp hp
    exact isWritable_of_isPath h hts
  | group _ ih => exact ih fun t ht => hts t (by simp [ht])
  | negation _ _ ih =>
    exact Node.hasWritablePaths_negation.mpr (ih fun t ht => hts t (List.mem_cons_of_mem _ ht))
  | comparison negated _ _ ihl ihr =>
    exact Node.hasWritablePaths_comparison.mpr
      ⟨ihl fun t ht => hts t (by simp [ht]), ihr fun t ht => hts t (by simp [ht])⟩

end Spells

theorem hasWritablePaths_of_parseGuard {source : String} (h : parseGuard source = .ok n) :
    n.HasWritablePaths := by
  obtain ⟨ts, hts, hg⟩ := (recognizes_guard.eq_ok_iff _ _).mp h
  exact (spells_of_isGuard hg).hasWritablePaths (isValid_of_scan (tokensOf_eq_ok_iff.mp hts))

/-! ### What is shown -/

/-- The text is scanned to the tokens, whatever follows that goes on with no name. -/
def Scans (cs : List Char) (ts : List Token) : Prop :=
  ∀ rest, EndsName rest → Token.scan (cs ++ rest) = (Token.scan rest).map (ts ++ ·)

theorem scans_token {t : Token} (ht : t.IsValid)
    (hends : ∀ rest, EndsName rest → t.EndsBefore rest) : Scans t.chars [t] :=
  fun rest hrest => scan_append ht (hends rest hrest)

theorem Scans.scan_eq (h : Scans cs ts) : Token.scan cs = .ok ts := by
  have hscan := h [] endsName_nil
  simpa [Except.map] using hscan

theorem Scans.spaced (h : Scans cs ts) (h' : Scans ds us) : Scans (cs ++ ' ' :: ds) (ts ++ us) := by
  intro rest hrest
  have hblank : isBlank ' ' = true := by decide
  rw [List.append_assoc, List.cons_append, h _ (endsName_of_isBlank hblank _), scan_blank hblank,
    h' rest hrest]
  cases Token.scan rest <;> simp [Except.map]

/-- The tokens of the text come first, and what follows it has its own. -/
theorem Scans.exists_rest (h : Scans cs ts) {rest : List Char}
    (hs : Token.scan (cs ++ ' ' :: rest) = .ok us) :
    ∃ vs, Token.scan rest = .ok vs ∧ us = ts ++ vs := by
  have hblank : isBlank ' ' = true := by decide
  rw [h _ (endsName_of_isBlank hblank _), scan_blank hblank] at hs
  cases hr : Token.scan rest with
  | error c =>
    rw [hr] at hs
    cases hs
  | ok vs =>
    rw [hr] at hs
    cases hs
    exact ⟨vs, rfl, rfl⟩

theorem scans_name {word : String} (h : isWord word.toList = true) :
    Scans word.toList [.name word.toList] :=
  scans_token (t := .name _) h fun _ => id

/-- A sign, other than the one that a further character can change. -/
theorem scans_sign (t : Sign) (ht : t ≠ .bang) : Scans t.chars [.sign t] :=
  scans_token (t := .sign t) trivial fun _ _ hbang => absurd hbang ht

theorem scans_comparison (negated : Bool) : Scans (if negated then "!=" else "==").toList
    [.sign (if negated then .unequal else .equal)] := by
  cases negated
  · exact scans_sign .equal Sign.noConfusion
  · exact scans_sign .unequal Sign.noConfusion

theorem isPlainText_iff {s : String} :
    isPlainText s = true ↔ ∀ c ∈ s.toList, c ≠ '"' ∧ c ≠ '\\' := by
  simp [isPlainText]

theorem scans_text {s : String} (h : isPlainText s = true) :
    Scans (Node.text s).shown.toList (Node.text s).tokens := by
  have hvalid : Token.IsValid (.literal '"' s.toList) := by
    refine ⟨.inl rfl, literalBody?_plain (fun c hc => ?_) []⟩
    obtain ⟨hq, hb⟩ := isPlainText_iff.mp h c hc
    exact ⟨hq, hb, rfl⟩
  have hchars : (Node.text s).shown.toList = (Token.literal '"' s.toList).chars := by
    simp [Node.shown, Token.chars]
  rw [hchars]
  exact scans_token hvalid fun _ _ => trivial

theorem toList_shown_negation (n : Node) :
    (Node.negation n).shown.toList = "not".toList ++ ' ' :: n.shown.toList := by
  simp [Node.shown]

theorem toList_shown_comparison (l r : Node) (negated : Bool) :
    (Node.comparison l r negated).shown.toList = l.shown.toList ++
      ' ' :: ((if negated then "!=" else "==").toList ++ ' ' :: r.shown.toList) := by
  cases negated <;> simp [Node.shown]

/-- Where no literal needs a backslash, the tokens of an expression are found in what is shown. -/
theorem scans_shown (hp : n.HasWritablePaths) (ht : ∀ s ∈ n.texts, isPlainText s = true) :
    Scans n.shown.toList n.tokens := by
  induction n with
  | text s => exact scans_text (ht s (List.mem_singleton_self s))
  | truth b => cases b <;> exact scans_name (by decide)
  | path p => exact fun rest hrest => scan_shown (hp p (List.mem_singleton_self _)) hrest
  | negation n ih =>
    rw [toList_shown_negation]
    exact (scans_name (by decide)).spaced (ih (Node.hasWritablePaths_negation.mp hp) ht)
  | comparison l r negated ihl ihr =>
    obtain ⟨hl, hr⟩ := Node.hasWritablePaths_comparison.mp hp
    rw [Node.texts_comparison, List.forall_mem_append] at ht
    rw [toList_shown_comparison]
    exact (ihl hl ht.1).spaced ((scans_comparison negated).spaced (ihr hr ht.2))

/-- Where no literal needs a backslash, the tokens of an expression spell it. -/
theorem spells_tokens (hp : n.HasWritablePaths) (ht : ∀ s ∈ n.texts, isPlainText s = true) :
    Spells n.tokens n := by
  induction n with
  | text s =>
    have hplain := isPlainText_iff.mp (ht s (List.mem_singleton_self s))
    have hliteral := Spells.literal '"' s.toList
    rwa [unescape_plain fun hm => (hplain _ hm).2 rfl, String.ofList_toList] at hliteral
  | truth b => exact .truth b
  | path p => exact .path (isPath_tokens (hp p (List.mem_singleton_self _)))
  | negation n ih => exact .negation (by decide) (ih (Node.hasWritablePaths_negation.mp hp) ht)
  | comparison l r negated ihl ihr =>
    obtain ⟨hl, hr⟩ := Node.hasWritablePaths_comparison.mp hp
    rw [Node.texts_comparison, List.forall_mem_append] at ht
    exact .comparison negated (ihl hl ht.1) (ihr hr ht.2)

theorem exists_literalBody?_of_scan {cs : List Char} (h : Token.scan ('"' :: cs) = .ok ts) :
    ∃ body rest us, literalBody? isPlainInLiteral isEscapable '"' cs = some (body, rest) ∧
      ts = .literal '"' body :: us := by
  rw [Token.scan, if_neg (by decide)] at h
  split at h
  next => cases h
  next t rest hrest ht =>
    split at h
    next us _ =>
      cases h
      obtain ⟨body, rfl, -, hb⟩ | ⟨s, -, hs⟩ | ⟨hn, -⟩ := tokenAt?_cases ht
      · exact ⟨body, rest, us, hb, rfl⟩
      · cases hs
      · exact absurd hn (by decide)
    next => cases h

/-- Where the literals among the tokens of what is shown are those of the expression, none of them
needed a backslash. -/
theorem isPlainText_of_scan_shown (hp : n.HasWritablePaths) {rest : List Char}
    (hrest : EndsName rest) (hs : Token.scan (n.shown.toList ++ rest) = .ok ts) {more : List String}
    (ht : ts.filterMap Token.text? = n.texts ++ more) : ∀ s ∈ n.texts, isPlainText s = true := by
  -- From left to right: a literal that is found unchanged tells where the next part begins.
  induction n generalizing rest ts more with
  | text s =>
    have hchars : (Node.text s).shown.toList ++ rest = '"' :: (s.toList ++ '"' :: rest) := by
      simp [Node.shown]
    rw [hchars] at hs
    obtain ⟨body, r, us, hbody, rfl⟩ := exists_literalBody?_of_scan hs
    have hstands : String.ofList (unescape body) = s := (List.cons.inj ht).1
    have hunescape : unescape body = s.toList := by rw [← hstands, String.toList_ofList]
    have hplain := isPlain_of_literalBody? (by decide) hbody (by rw [hunescape])
    rw [unescape_plain fun hm => (hplain _ hm).2 rfl] at hunescape
    rw [hunescape] at hplain
    exact List.forall_mem_singleton.mpr (isPlainText_iff.mpr hplain)
  | truth | path =>
    intro s hs
    cases hs
  | negation n ih =>
    rw [toList_shown_negation, List.append_assoc, List.cons_append] at hs
    obtain ⟨us, hus, rfl⟩ := (scans_name (by decide)).exists_rest hs
    exact ih (Node.hasWritablePaths_negation.mp hp) hrest hus ht
  | comparison l r negated ihl ihr =>
    obtain ⟨hl, hr⟩ := Node.hasWritablePaths_comparison.mp hp
    rw [toList_shown_comparison, List.append_assoc, List.cons_append, List.append_assoc,
      List.cons_append] at hs
    rw [Node.texts_comparison, List.append_assoc] at ht
    have hleft := ihl hl (endsName_of_isBlank (by decide) _) hs ht
    obtain ⟨us, hus, rfl⟩ := (scans_shown hl hleft).exists_rest hs
    obtain ⟨vs, hvs, rfl⟩ := (scans_comparison negated).exists_rest hus
    rw [List.filterMap_append, (spells_tokens hl hleft).texts_eq] at ht
    have hright := ihr hr hrest hvs (List.append_cancel_left ht)
    rw [Node.texts_comparison]
    exact List.forall_mem_append.mpr ⟨hleft, hright⟩

/-! ### What parses back -/

theorem IsOperand.isSimple (h : IsOperand ts n) (hparen : .sign .openParen ∉ ts) :
    n.isSimple = true := by
  cases h with
  | literal | yes | no | path => rfl
  | group => exact absurd List.mem_cons_self hparen

theorem IsCompare.operands (h : IsCompare ts n) (hparen : .sign .openParen ∉ ts) :
    ∀ l r negated, .comparison l r negated ∈ n.parts → l.isSimple = true ∧ r.isSimple = true := by
  intro l r negated hm
  cases h with
  | operand ho =>
    have hsimple := ho.isSimple hparen
    rw [Node.parts_of_isSimple hsimple, List.mem_singleton] at hm
    subst hm
    cases hsimple
  | @equal ls rs left right hl hr | @unequal ls rs left right hl hr =>
    have hleft : left.isSimple = true := hl.isSimple fun ht => hparen (List.mem_append_left _ ht)
    have hright : right.isSimple = true :=
      hr.isSimple fun ht => hparen (List.mem_append_right _ (List.mem_cons_of_mem _ ht))
    rw [Node.mem_parts_comparison, Node.parts_of_isSimple hleft, Node.parts_of_isSimple hright,
      List.mem_singleton, List.mem_singleton] at hm
    obtain hm | rfl | rfl := hm
    · cases hm
      exact ⟨hleft, hright⟩
    · cases hleft
    · cases hright

/-- Without parentheses nothing but names and literals is compared. -/
theorem IsGuard.operands (h : IsGuard ts n) (hparen : .sign .openParen ∉ ts) :
    ∀ l r negated, .comparison l r negated ∈ n.parts → l.isSimple = true ∧ r.isSimple = true := by
  induction n generalizing ts with
  | negation m ih =>
    cases h with
    | word h | bang h =>
      intro l r negated hm
      obtain hm | hm := Node.mem_parts_negation.mp hm
      · cases hm
      · exact ih h (fun ht => hparen (List.mem_cons_of_mem _ ht)) l r negated hm
    | compare h => exact h.operands hparen
  | _ =>
    cases h with
    | compare h => exact h.operands hparen

theorem openParen_notMem_tokens (n : Node) : .sign .openParen ∉ n.tokens := by
  induction n with
  | text | truth => simp [Node.tokens]
  | path p => simp [Node.tokens, Path.tokens]
  | negation n ih => simp [Node.tokens, ih]
  | comparison l r negated ihl ihr => cases negated <;> simp [Node.tokens, ihl, ihr]

theorem isOperand_tokens (h : n.isSimple = true) (hp : n.HasWritablePaths)
    (ht : ∀ s ∈ n.texts, isPlainText s = true) : IsOperand n.tokens n := by
  cases n with
  | text s =>
    have hplain := isPlainText_iff.mp (ht s (List.mem_singleton_self s))
    exact isOperand_literal (unescape_plain fun hm => (hplain _ hm).2 rfl)
  | truth b =>
    cases b with
    | true => exact .yes
    | false => exact .no
  | path p => exact .path (isPath_tokens (hp p (List.mem_singleton_self _)))
  | negation | comparison => cases h

theorem isGuard_of_isUnambiguous (hp : n.HasWritablePaths) (h : n.IsUnambiguous) :
    IsGuard n.tokens n := by
  have ht : ∀ s ∈ n.texts, isPlainText s = true := fun s hs => h.literals s (Node.mem_texts.mp hs)
  induction n with
  | negation n ih =>
    refine .word (ih (Node.hasWritablePaths_negation.mp hp) ⟨?_, ?_⟩ ht)
    · exact fun l r negated hm => h.operands l r negated (Node.mem_parts_negation.mpr (.inr hm))
    · exact fun s hm => h.literals s (Node.mem_parts_negation.mpr (.inr hm))
  | comparison l r negated =>
    obtain ⟨hl, hr⟩ := h.operands l r negated (Node.mem_parts _)
    obtain ⟨hpl, hpr⟩ := Node.hasWritablePaths_comparison.mp hp
    rw [Node.texts_comparison, List.forall_mem_append] at ht
    have hleft := isOperand_tokens hl hpl ht.1
    have hright := isOperand_tokens hr hpr ht.2
    cases negated with
    | false => exact .compare (.equal hleft hright)
    | true => exact .compare (.unequal hleft hright)
  | _ => exact .compare (.operand (isOperand_tokens rfl hp ht))

/-- What messages show of an expression that was parsed is parsed to this expression again if and
only if no comparison in it compares a negation or another comparison, and no literal in it holds a
double quote or a backslash. -/
theorem parseGuard_shown_iff {source : String} (h : parseGuard source = .ok n) :
    parseGuard n.shown = .ok n ↔ n.IsUnambiguous := by
  have hp := hasWritablePaths_of_parseGuard h
  have hscan (ht : ∀ s ∈ n.texts, isPlainText s = true) :
      Token.scan n.shown.toList = .ok n.tokens := (scans_shown hp ht).scan_eq
  rw [recognizes_guard.eq_ok_iff]
  constructor
  · rintro ⟨ts, hts, hguard⟩
    rw [tokensOf_eq_ok_iff] at hts
    have htexts := (spells_of_isGuard hguard).texts_eq
    have hplain : ∀ s ∈ n.texts, isPlainText s = true :=
      isPlainText_of_scan_shown hp endsName_nil (by rwa [List.append_nil])
        (by rwa [List.append_nil])
    -- So the tokens are those of the expression, among which there are no parentheses.
    obtain rfl := Except.ok.inj (hts.symm.trans (hscan hplain))
    exact ⟨hguard.operands (openParen_notMem_tokens n),
      fun s hs => hplain s (Node.mem_texts.mpr hs)⟩
  · intro hn
    have hplain : ∀ s ∈ n.texts, isPlainText s = true :=
      fun s hs => hn.literals s (Node.mem_texts.mp hs)
    exact ⟨n.tokens, tokensOf_eq_ok_iff.mpr (hscan hplain), isGuard_of_isUnambiguous hp hn⟩

/-- A comparison that stood in parentheses, with a quote of the other kind in its literal. -/
def negatedComparison : Node := .negation (.comparison (.path ⟨"a", []⟩) (.text "it\x27s") false)

/-- A comparison of what stood in parentheses. -/
def comparedNegation : Node := .comparison (.negation (.path ⟨"a", []⟩)) (.text "it\x27s") false

/-- Both are shown alike, and what is shown is parsed to the first of them. -/
theorem parseGuard_shown_iff_grouped :
    parseGuard "not ( a == \"it\x27s\" )" = .ok negatedComparison ∧
    parseGuard "( not a ) == \"it\x27s\"" = .ok comparedNegation ∧
    (parseGuard negatedComparison.shown = .ok negatedComparison ↔
      negatedComparison.IsUnambiguous) ∧
    (parseGuard comparedNegation.shown = .ok comparedNegation ↔ comparedNegation.IsUnambiguous) ∧
    negatedComparison.shown = comparedNegation.shown ∧
    negatedComparison.IsUnambiguous ∧ ¬ comparedNegation.IsUnambiguous := by
  have hnot : Scans "not".toList [.name "not".toList] := scans_name (by decide)
  have ha : Scans "a".toList [.name "a".toList] := scans_name (by decide)
  have hits : Scans (Node.text "it\x27s").shown.toList (Node.text "it\x27s").tokens :=
    scans_text (by decide)
  have hopen := scans_sign .openParen Sign.noConfusion
  have hclose := scans_sign .closeParen Sign.noConfusion
  have hequal := scans_sign .equal Sign.noConfusion
  have hname : IsOperand [.name "a".toList] (.path ⟨"a", []⟩) :=
    .path (isPath_tokens (p := ⟨"a", []⟩) (by decide))
  have hliteral : IsOperand [.literal '"' "it\x27s".toList] (.text "it\x27s") := .literal
  have hfirst : parseGuard "not ( a == \"it\x27s\" )" = .ok negatedComparison := by
    have hscans := hnot.spaced (hopen.spaced (ha.spaced (hequal.spaced (hits.spaced hclose))))
    have hcomparison : IsOperand _ _ := .group (.compare (.equal hname hliteral))
    exact (recognizes_guard.eq_ok_iff _ _).mpr
      ⟨_, tokensOf_eq_ok_iff.mpr hscans.scan_eq, .word (.compare (.operand hcomparison))⟩
  have hsecond : parseGuard "( not a ) == \"it\x27s\"" = .ok comparedNegation := by
    have hscans := hopen.spaced (hnot.spaced (ha.spaced (hclose.spaced (hequal.spaced hits))))
    have hnegation : IsOperand _ _ := .group (.word (.compare (.operand hname)))
    exact (recognizes_guard.eq_ok_iff _ _).mpr
      ⟨_, tokensOf_eq_ok_iff.mpr hscans.scan_eq, .compare (.equal hnegation hliteral)⟩
  refine ⟨hfirst, hsecond, parseGuard_shown_iff hfirst, parseGuard_shown_iff hsecond, rfl,
    ⟨?_, ?_⟩, fun h => ?_⟩
  · simp [negatedComparison, Node.parts, Node.isSimple]
  · intro s hs
    obtain rfl : s = "it\x27s" := by simpa [negatedComparison, Node.parts] using hs
    decide
  · exact absurd (h.operands _ _ _ (Node.mem_parts comparedNegation)).1 Bool.false_ne_true

end Scaffold.Expression
