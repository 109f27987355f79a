import Scaffold.Proofs.Computation
import Scaffold.Proofs.Yaml.Token
import Scaffold.Yaml.Composition

/-! What nodes are made of.  Their scalars stand among the tokens, a tag that is neither usual nor
understood from a plain text is written, and each collection around a part has taken a token of its
own, so that parts are nested at most as deep as there are such tokens. -/
namespace Scaffold.Yaml

variable {α β : Type} {all ts rest : List Token} {Good : α → Prop} {Good' : β → Prop}
  {known : Anchors} {depth n : Nat} {handles : Handles} {ps : Properties} {tag : Tag}
  {points : List Nat} {x : Except Fault (Composed α)} {t : Token}

/-! ### Nodes -/

/-- A tag is written among tokens. -/
def IsTagged (all : List Token) : Prop := ∃ mark, .tag mark ∈ all

/-- A text stands among tokens as a scalar, or nothing is written for it. -/
def IsScalarOf (all : List Token) (points : List Nat) : Prop :=
  points = [] ∨ ∃ plain, .scalar points plain ∈ all

/-- A tag that a text has of itself: it is a text, or what a plain one looks like. -/
def IsOwnTag (all : List Token) (tag : Tag) (points : List Nat) : Prop :=
  tag = .text ∨ tag = plainTag points ∧ (points = [] ∨ .scalar points true ∈ all)

/-- A node made of tokens. -/
inductive Node.IsMadeOf (all : List Token) : Node → Prop
  | scalar {tag : Tag} {points : List Nat} :
      IsOwnTag all tag points ∨ IsTagged all → IsScalarOf all points →
      IsMadeOf all (.scalar tag points)
  | list {tag : Tag} {items : List Node} : tag = .list ∨ IsTagged all →
      (∀ node ∈ items, node.IsMadeOf all) → IsMadeOf all (.list tag items)
  | mapping {tag : Tag} {entries : List (Node × Node)} : tag = .mapping ∨ IsTagged all →
      (∀ e ∈ entries, e.1.IsMadeOf all) → (∀ e ∈ entries, e.2.IsMadeOf all) →
      IsMadeOf all (.mapping tag entries)

theorem Node.isMadeOf_empty : Node.empty.IsMadeOf all :=
  .scalar (.inl (.inr ⟨by decide, .inl rfl⟩)) (.inl rfl)

/-- What anchors name is made of tokens. -/
def Anchors.AreMadeOf (all : List Token) (known : Anchors) : Prop :=
  ∀ e ∈ known, e.2.IsMadeOf all

/-! ### Properties -/

namespace Properties

/-- What is left behind properties, and that the tag of these is written. -/
theorem ofTokens_spec (ts : List Token) : (ofTokens ts).2 <:+ ts ∧
    ∀ mark, (ofTokens ts).1.tag = some mark → .tag mark ∈ ts := by
  unfold ofTokens
  split
  · refine ⟨⟨[_, _], rfl⟩, fun mark h => ?_⟩
    cases h
    simp
  · refine ⟨⟨[_, _], rfl⟩, fun mark h => ?_⟩
    cases h
    simp
  · exact ⟨⟨[_], rfl⟩, nofun⟩
  · refine ⟨⟨[_], rfl⟩, fun mark h => ?_⟩
    cases h
    simp
  · exact ⟨List.suffix_refl _, nofun⟩

/-- Properties stand among tokens if their tag does. -/
def AreOf (all : List Token) (ps : Properties) : Prop := ∀ mark, ps.tag = some mark → IsTagged all

theorem areOf_absent : absent.AreOf all := nofun

theorem tagOr?_cases {plain bare : Tag} (hps : ps.AreOf all)
    (h : ps.tagOr? handles plain bare = some tag) : tag = plain ∨ IsTagged all := by
  unfold tagOr? at h
  split at h
  · cases h
    exact .inl rfl
  · next mark hmark => exact .inr (hps mark hmark)

theorem areMadeOf_anchored? {node : Node} {known' : Anchors} (hknown : known.AreMadeOf all)
    (hnode : node.IsMadeOf all) (h : ps.anchored? node known = some known') :
    known'.AreMadeOf all := by
  unfold anchored? at h
  split at h
  · cases h
    exact hknown
  · split at h
    · cases h
    · cases h
      exact List.forall_mem_cons.mpr ⟨hnode, hknown⟩

theorem areMadeOf_settle {node : Node} (hknown : known.AreMadeOf all)
    (hnode : node.IsMadeOf all) : (ps.settle node known).AreMadeOf all := by
  unfold settle
  split
  · exact hknown
  · exact List.forall_mem_cons.mpr ⟨hnode, hknown⟩

theorem brokenOff_cases (handles : Handles) (ps : Properties) (fault : Fault) :
    ps.brokenOff handles fault = .malformed ∨ ps.brokenOff handles fault = fault := by
  unfold brokenOff
  split
  · exact .inl rfl
  · exact .inr rfl

end Properties

/-! ### Parts -/

/-- Tokens are left of a document in so many collections, each of which has taken a token. -/
structure Fits (all : List Token) (depth : Nat) (ts : List Token) : Prop where
  suffix : ts <:+ all
  depth_le : depth + ts.countP Token.opens ≤ all.countP Token.opens

namespace Fits

theorem of_suffix (h : Fits all depth ts) (hrest : rest <:+ ts) : Fits all depth rest := by
  have hle : rest.countP Token.opens ≤ ts.countP Token.opens := hrest.sublist.countP_le
  exact ⟨hrest.trans h.suffix, by have := h.depth_le; omega⟩

theorem tail (h : Fits all depth (t :: ts)) : Fits all depth ts :=
  h.of_suffix (List.suffix_cons t ts)

theorem inside (h : Fits all depth (t :: ts)) (ht : t.opens = true) : Fits all (depth + 1) ts := by
  have hle := h.depth_le
  rw [List.countP_cons_of_pos ht] at hle
  exact ⟨h.tail.suffix, by omega⟩

end Fits

/-- Tokens that cannot be read on are malformed or broken off. -/
theorem stuck_cases (ts : List Token) : (stuck ts : Except Fault α) = .error .malformed ∨
    ∃ fault, (stuck ts : Except Fault α) = .error fault ∧ .broken fault ∈ ts := by
  unfold stuck
  split
  · exact .inr ⟨_, rfl, List.mem_cons_self⟩
  · exact .inl rfl

/-- Tokens make what they should and leave an end of themselves, or they are broken off, no part of
a document, or nested too deep. -/
inductive Composes (all ts : List Token) (Good : α → Prop) : Except Fault (Composed α) → Prop
  | ok {a : α} {known : Anchors} {rest : List Token} : Good a → known.AreMadeOf all →
      rest <:+ ts → Composes all ts Good (.ok (a, known, rest))
  | malformed : Composes all ts Good (.error .malformed)
  | broken {fault : Fault} : .broken fault ∈ all → Composes all ts Good (.error fault)
  | tooDeep : maxDepth ≤ all.countP Token.opens → Composes all ts Good (.error .tooDeep)

namespace Composes

theorem of_suffix (h : Composes all rest Good x) (hrest : rest <:+ ts) :
    Composes all ts Good x := by
  cases h with
  | ok ha hknown hleft => exact .ok ha hknown (hleft.trans hrest)
  | malformed => exact .malformed
  | broken hbroken => exact .broken hbroken
  | tooDeep hdepth => exact .tooDeep hdepth

theorem bind (h : Composes all ts Good x) {f : Composed α → Except Fault (Composed β)}
    (hf : ∀ a known rest, Good a → known.AreMadeOf all → rest <:+ ts →
      Composes all rest Good' (f (a, known, rest))) : Composes all ts Good' (x >>= f) := by
  cases h with
  | ok ha hknown hrest => exact (hf _ _ _ ha hknown hrest).of_suffix hrest
  | malformed => exact .malformed
  | broken hbroken => exact .broken hbroken
  | tooDeep hdepth => exact .tooDeep hdepth

/-- What is made of the same tokens in turn. -/
theorem map (h : Composes all ts Good x) {f : Composed α → Except Fault (Composed β)} {g : α → β}
    (hf : ∀ a known rest, f (a, known, rest) = .ok (g a, known, rest))
    (hg : ∀ a, Good a → Good' (g a)) : Composes all ts Good' (x >>= f) :=
  h.bind fun a known rest ha hknown _ =>
    hf a known rest ▸ .ok (hg a ha) hknown (List.suffix_refl rest)

theorem of_wellFormed {o : Option β} {f : β → Except Fault (Composed α)}
    (h : ∀ b, o = some b → Composes all ts Good (f b)) :
    Composes all ts Good (wellFormed o >>= f) := by
  cases o with
  | none => exact .malformed
  | some b => exact h b rfl

theorem stuck (h : ts <:+ all) : Composes all ts Good (stuck ts) := by
  rcases stuck_cases (α := Composed α) ts with heq | ⟨fault, heq, hbroken⟩
  · exact heq ▸ .malformed
  · exact heq ▸ .broken (h.subset hbroken)

end Composes

theorem composes_aliased (hknown : known.AreMadeOf all) (name : String) :
    Composes all ts (Node.IsMadeOf all) (aliased known name ts) := by
  unfold aliased
  cases hfound : known.lookup name with
  | none => exact .malformed
  | some node =>
    obtain ⟨before, after, rfl, -⟩ := List.lookup_eq_some_iff.mp hfound
    exact .ok (hknown (name, node) (by simp)) hknown (List.suffix_refl ts)

theorem composes_scalar {plain : Bool} (hps : ps.AreOf all) (hknown : known.AreMadeOf all)
    (hpoints : points = [] ∨ .scalar points plain ∈ all) :
    Composes all ts (Node.IsMadeOf all) (ps.scalar handles known points plain ts) := by
  refine .of_wellFormed fun tag htag => .of_wellFormed fun known' hknown' => ?_
  have hnode : (Node.scalar tag points).IsMadeOf all := by
    refine .scalar ?_ (hpoints.imp_right fun hmem => ⟨plain, hmem⟩)
    rcases Properties.tagOr?_cases hps htag with rfl | htagged
    · split
      · next hplain => exact .inl (.inr ⟨rfl, hplain ▸ hpoints⟩)
      · exact .inl (.inl rfl)
    · exact .inr htagged
  exact .ok hnode (Properties.areMadeOf_anchored? hknown hnode hknown') (List.suffix_refl ts)

/-- A collection in so many others is made of tokens if its parts are. -/
theorem composes_collection {kind : Tag} {make : Tag → List α → Node}
    {parts : Anchors → Except Fault (Composed (List α))} (hps : ps.AreOf all)
    (hknown : known.AreMadeOf all) (hfits : Fits all depth ts)
    (hmake : ∀ tag items, tag = kind ∨ IsTagged all → (∀ a ∈ items, Good a) →
      (make tag items).IsMadeOf all)
    (hparts : ∀ known, known.AreMadeOf all →
      Composes all ts (fun items => ∀ a ∈ items, Good a) (parts known)) :
    Composes all ts (Node.IsMadeOf all)
      (ps.collection handles known depth kind make parts) := by
  refine .of_wellFormed fun tag htag => .of_wellFormed fun known' hknown' => ?_
  have htag := Properties.tagOr?_cases hps htag
  have hnode {items : List α} (hitems : ∀ a ∈ items, Good a) : (make tag items).IsMadeOf all :=
    hmake tag items htag hitems
  split
  · next hdepth => exact .tooDeep (by have := hfits.depth_le; omega)
  · refine (hparts known' ?_).bind fun items known'' rest hitems hknown'' hrest => ?_
    · exact Properties.areMadeOf_anchored? hknown (hnode (List.forall_mem_nil _)) hknown'
    · exact .ok (hnode hitems) (Properties.areMadeOf_settle hknown'' (hnode hitems))
        (List.suffix_refl rest)

/-! ### Tokens to nodes -/

/-- A node for both parts of an entry. -/
def IsEntryOf (all : List Token) (e : Node × Node) : Prop :=
  e.1.IsMadeOf all ∧ e.2.IsMadeOf all

theorem isMadeOf_mapping {entries : List (Node × Node)} (htag : tag = .mapping ∨ IsTagged all)
    (h : ∀ e ∈ entries, IsEntryOf all e) : (Node.mapping tag entries).IsMadeOf all :=
  .mapping htag (fun e he => (h e he).1) fun e he => (h e he).2

/-- What the readers of parts make of tokens, so many steps deep.  The parts of a block are read
before the token of its first one is, so that the block itself is not counted yet. -/
structure ComposesAll (all : List Token) (handles : Handles) (n : Nat) : Prop where
  node {depth : Nat} {known : Anchors} {ts : List Token} (block flush : Bool) :
    Fits all depth ts → known.AreMadeOf all →
      Composes all ts (Node.IsMadeOf all) (node handles depth block flush n known ts)
  blockItems {depth : Nat} {known : Anchors} {ts : List Token} :
    Fits all depth ts → known.AreMadeOf all →
      Composes all ts (fun items => ∀ a ∈ items, a.IsMadeOf all)
        (blockItems handles (depth + 1) n known ts)
  blockEntries {depth : Nat} {known : Anchors} {ts : List Token} :
    Fits all depth ts → known.AreMadeOf all →
      Composes all ts (fun es => ∀ e ∈ es, IsEntryOf all e)
        (blockEntries handles (depth + 1) n known ts)
  entryValue {depth : Nat} {known : Anchors} {ts : List Token} :
    Fits all depth ts → known.AreMadeOf all →
      Composes all ts (Node.IsMadeOf all) (entryValue handles depth n known ts)
  flowItems {depth : Nat} {known : Anchors} {ts : List Token} (first : Bool) :
    Fits all depth ts → known.AreMadeOf all →
      Composes all ts (fun items => ∀ a ∈ items, a.IsMadeOf all)
        (flowItems handles depth first n known ts)
  flowEntries {depth : Nat} {known : Anchors} {ts : List Token} (first : Bool) :
    Fits all depth ts → known.AreMadeOf all →
      Composes all ts (fun es => ∀ e ∈ es, IsEntryOf all e)
        (flowEntries handles depth first n known ts)
  flowEntry {depth : Nat} {known : Anchors} {ts : List Token} (closing : Token) :
    Fits all depth ts → known.AreMadeOf all →
      Composes all ts (IsEntryOf all) (flowEntry handles depth closing n known ts)

theorem composes_partUnless {leftOut : Bool} {part : Except Fault (Composed Node)}
    (hknown : known.AreMadeOf all) (hpart : Composes all ts (Node.IsMadeOf all) part) :
    Composes all ts (Node.IsMadeOf all) (partUnless leftOut known ts part) := by
  unfold partUnless
  split
  · exact .ok Node.isMadeOf_empty hknown (List.suffix_refl ts)
  · exact hpart

theorem composes_behindComma {first : Bool} {f : List Token → Except Fault (Composed α)}
    (hts : ts <:+ all) (hf : ∀ rest, rest <:+ ts → Composes all rest Good (f rest)) :
    Composes all ts Good (behindComma first ts >>= f) := by
  unfold behindComma
  split
  · exact hf ts (List.suffix_refl ts)
  · split
    · next rest =>
      have hrest := List.suffix_cons .comma rest
      exact (hf rest hrest).of_suffix hrest
    · rcases stuck_cases (α := List Token) ts with heq | ⟨fault, heq, hbroken⟩
      · exact heq ▸ .malformed
      · exact heq ▸ .broken (hts.subset hbroken)

section
variable (h : ComposesAll all handles n) (hfits : Fits all depth ts)
  (hknown : known.AreMadeOf all)
include h hfits hknown

theorem composes_blockItems :
    Composes all ts (fun items => ∀ a ∈ items, a.IsMadeOf all)
      (blockItems handles (depth + 1) (n + 1) known ts) := by
  unfold blockItems
  split
  · next heq => cases heq
  · next n' known' ts heq =>
    cases heq
    refine Composes.of_suffix ?_ (List.suffix_cons _ ts)
    refine Composes.bind (composes_partUnless hknown (h.node true false (hfits.inside rfl) hknown))
      fun item known rest hitem hknown hrest => ?_
    exact (h.blockItems (hfits.tail.of_suffix hrest) hknown).map (fun _ _ _ => rfl)
      fun items hitems => List.forall_mem_cons.mpr ⟨hitem, hitems⟩
  · exact .ok (List.forall_mem_nil _) hknown (List.suffix_refl _)

theorem composes_blockEntries :
    Composes all ts (fun es => ∀ e ∈ es, IsEntryOf all e)
      (blockEntries handles (depth + 1) (n + 1) known ts) := by
  unfold blockEntries
  split
  · next heq => cases heq
  · exact .ok (List.forall_mem_nil _) hknown (List.suffix_cons _ _)
  · next n' known' ts heq =>
    cases heq
    have hinside := hfits.inside rfl
    refine Composes.of_suffix ?_ (List.suffix_cons _ ts)
    refine Composes.bind (composes_partUnless hknown (h.node true true hinside hknown))
      fun k known rest hk hknown hrest => ?_
    have hinside := hinside.of_suffix hrest
    refine Composes.bind (h.entryValue hinside hknown)
      fun v known rest' hv hknown hrest' => ?_
    exact (h.blockEntries (hfits.tail.of_suffix (hrest'.trans hrest)) hknown).map
      (fun _ _ _ => rfl) fun es hes => List.forall_mem_cons.mpr ⟨⟨hk, hv⟩, hes⟩
  · exact .stuck hfits.suffix

theorem composes_entryValue :
    Composes all ts (Node.IsMadeOf all) (entryValue handles depth (n + 1) known ts) := by
  unfold entryValue
  split
  · next heq => cases heq
  · next n' known' ts heq =>
    cases heq
    exact (composes_partUnless hknown (h.node true true hfits.tail hknown)).of_suffix
      (List.suffix_cons _ ts)
  · exact .ok Node.isMadeOf_empty hknown (List.suffix_refl _)

theorem composes_flowEntry (closing : Token) :
    Composes all ts (IsEntryOf all) (flowEntry handles depth closing (n + 1) known ts) := by
  unfold flowEntry
  refine Composes.bind (composes_partUnless hknown (h.node false false hfits hknown))
    fun k known rest hk hknown hrest => ?_
  have hfits := hfits.of_suffix hrest
  dsimp only
  split
  · next rest =>
    refine Composes.of_suffix ?_ (List.suffix_cons _ rest)
    exact (composes_partUnless hknown (h.node false false hfits.tail hknown)).map
      (fun _ _ _ => rfl) fun v hv => ⟨hk, hv⟩
  · exact .ok ⟨hk, Node.isMadeOf_empty⟩ hknown (List.suffix_refl _)

theorem composes_flowItems (first : Bool) :
    Composes all ts (fun items => ∀ a ∈ items, a.IsMadeOf all)
      (flowItems handles depth first (n + 1) known ts) := by
  unfold flowItems
  split
  · next heq => cases heq
  · exact .ok (List.forall_mem_nil _) hknown (List.suffix_cons _ _)
  · next n' heq _ =>
    cases heq
    refine composes_behindComma hfits.suffix fun rest hrest => ?_
    have hfits := hfits.of_suffix hrest
    dsimp only
    split
    · exact .ok (List.forall_mem_nil _) hknown (List.suffix_cons _ _)
    · next rest =>
      refine Composes.bind (composes_collection Properties.areOf_absent hknown hfits
        (fun _ _ => isMadeOf_mapping) fun known hknown => ?_)
        fun item known rest' hitem hknown hrest' => ?_
      · refine Composes.of_suffix ?_ (List.suffix_cons .key rest)
        exact (h.flowEntry .closeList (hfits.inside rfl) hknown).map (fun _ _ _ => rfl)
          fun e he => List.forall_mem_singleton.mpr he
      · exact (h.flowItems false (hfits.of_suffix hrest') hknown).map (fun _ _ _ => rfl)
          fun items hitems => List.forall_mem_cons.mpr ⟨hitem, hitems⟩
    · refine Composes.bind (h.node false false hfits hknown)
        fun item known rest' hitem hknown hrest' => ?_
      exact (h.flowItems false (hfits.of_suffix hrest') hknown).map (fun _ _ _ => rfl)
        fun items hitems => List.forall_mem_cons.mpr ⟨hitem, hitems⟩

theorem composes_flowEntries (first : Bool) :
    Composes all ts (fun es => ∀ e ∈ es, IsEntryOf all e)
      (flowEntries handles depth first (n + 1) known ts) := by
  unfold flowEntries
  split
  · next heq => cases heq
  · exact .ok (List.forall_mem_nil _) hknown (List.suffix_cons _ _)
  · next n' heq _ =>
    cases heq
    refine composes_behindComma hfits.suffix fun rest hrest => ?_
    have hfits := hfits.of_suffix hrest
    dsimp only
    split
    · exact .ok (List.forall_mem_nil _) hknown (List.suffix_cons _ _)
    · next rest =>
      refine Composes.of_suffix ?_ (List.suffix_cons .key rest)
      have hfits := hfits.tail
      refine Composes.bind (h.flowEntry .closeMap hfits hknown)
        fun e known rest' he hknown hrest' => ?_
      exact (h.flowEntries false (hfits.of_suffix hrest') hknown).map (fun _ _ _ => rfl)
        fun es hes => List.forall_mem_cons.mpr ⟨he, hes⟩
    · refine Composes.bind (h.node false false hfits hknown)
        fun k known rest' hk hknown hrest' => ?_
      exact (h.flowEntries false (hfits.of_suffix hrest') hknown).map (fun _ _ _ => rfl)
        fun es hes => List.forall_mem_cons.mpr ⟨⟨hk, Node.isMadeOf_empty⟩, hes⟩

theorem composes_node (block flush : Bool) :
    Composes all ts (Node.IsMadeOf all) (node handles depth block flush (n + 1) known ts) := by
  unfold node
  split
  · next heq => cases heq
  · exact (composes_aliased hknown _).of_suffix (List.suffix_cons _ _)
  · next ts _ _ _ n' heq _ =>
    cases heq
    obtain ⟨hrest, htag⟩ := Properties.ofTokens_spec ts
    split
    rename_i ps rest hproperties
    rw [hproperties] at hrest htag
    have hps : ps.AreOf all := fun mark hmark => ⟨mark, hfits.suffix.subset (htag mark hmark)⟩
    have hfits := hfits.of_suffix hrest
    refine Composes.of_suffix ?_ hrest
    extract_lets bare
    have hbare : Composes all rest (Node.IsMadeOf all) bare := by
      unfold bare
      split
      · exact .stuck hfits.suffix
      · exact composes_scalar hps hknown (.inl rfl)
    split
    · next fault _ =>
      rcases ps.brokenOff_cases handles fault with heq | heq
      · rw [heq]
        exact .malformed
      · rw [heq]
        exact .broken (hfits.suffix.subset List.mem_cons_self)
    · next points plain rest =>
      have hpoints := hfits.suffix.subset List.mem_cons_self
      exact (composes_scalar hps hknown (.inr hpoints)).of_suffix (List.suffix_cons _ rest)
    · next rest =>
      refine composes_collection hps hknown hfits (fun _ _ => .list) fun known hknown => ?_
      exact (h.flowItems true (hfits.inside rfl) hknown).of_suffix (List.suffix_cons _ rest)
    · next rest =>
      refine composes_collection hps hknown hfits (fun _ _ => isMadeOf_mapping)
        fun known hknown => ?_
      exact (h.flowEntries true (hfits.inside rfl) hknown).of_suffix (List.suffix_cons _ rest)
    · split
      · exact composes_collection hps hknown hfits (fun _ _ => .list)
          fun known hknown => h.blockItems hfits hknown
      · exact hbare
    · next rest =>
      split
      · refine composes_collection hps hknown hfits (fun _ _ => .list) fun known hknown => ?_
        refine Composes.of_suffix ?_ (List.suffix_cons _ rest)
        refine Composes.bind (h.blockItems hfits.tail hknown)
          fun items known rest' hitems hknown hrest' => ?_
        dsimp only
        split
        · exact .ok hitems hknown (List.suffix_cons _ _)
        · exact .stuck (hrest'.trans hfits.tail.suffix)
      · exact hbare
    · next rest =>
      split
      · refine composes_collection hps hknown hfits (fun _ _ => isMadeOf_mapping)
          fun known hknown => ?_
        exact (h.blockEntries hfits.tail hknown).of_suffix (List.suffix_cons _ rest)
      · exact hbare
    · exact hbare

end

theorem composesAll (all : List Token) (handles : Handles) (n : Nat) :
    ComposesAll all handles n := by
  induction n with
  -- Without a step left every reader is stuck.
  | zero =>
    constructor
    case node => exact fun _ _ hfits _ => .stuck hfits.suffix
    case blockItems => exact fun hfits _ => .stuck hfits.suffix
    case blockEntries => exact fun hfits _ => .stuck hfits.suffix
    case entryValue => exact fun hfits _ => .stuck hfits.suffix
    case flowItems => exact fun _ hfits _ => .stuck hfits.suffix
    case flowEntries => exact fun _ hfits _ => .stuck hfits.suffix
    case flowEntry => exact fun _ hfits _ => .stuck hfits.suffix
  | succ n ih =>
    constructor
    case node => exact fun block flush hfits hknown => composes_node ih hfits hknown block flush
    case blockItems => exact composes_blockItems ih
    case blockEntries => exact composes_blockEntries ih
    case entryValue => exact composes_entryValue ih
    case flowItems => exact fun first hfits hknown => composes_flowItems ih hfits hknown first
    case flowEntries => exact fun first hfits hknown => composes_flowEntries ih hfits hknown first
    case flowEntry => exact fun closing hfits hknown => composes_flowEntry ih hfits hknown closing

/-! ### Documents -/

theorem suffix_directivesOf (ts : List Token) : (directivesOf ts).2 <:+ ts := by
  fun_induction directivesOf ts with
  | case1 d ts ds rest heq ih =>
    rw [heq] at ih
    exact ih.trans (List.suffix_cons _ ts)
  | case2 ts _ => exact List.suffix_refl ts

theorem suffix_dropEnds (ts : List Token) : dropEnds ts <:+ ts := by
  fun_induction dropEnds ts with
  | case1 ts ih => exact ih.trans (List.suffix_cons _ ts)
  | case2 ts _ => exact List.suffix_refl ts

theorem fits_of_suffix (h : ts <:+ all) : Fits all 0 ts :=
  ⟨h, by simpa using h.sublist.countP_le⟩

theorem areMadeOf_nil : Anchors.AreMadeOf all [] := List.forall_mem_nil _

theorem composes_contentOf (h : ts <:+ all) :
    Composes all ts (Node.IsMadeOf all) (contentOf handles n ts) := by
  have hempty {rest : List Token} (hrest : rest <:+ ts) :
      Composes all ts (Node.IsMadeOf all) (.ok (.empty, [], rest)) :=
    .ok Node.isMadeOf_empty areMadeOf_nil hrest
  unfold contentOf
  split
  · exact hempty (List.suffix_refl _)
  · split
    · exact hempty (List.suffix_refl _)
    · exact hempty (List.suffix_refl _)
    · exact hempty (List.suffix_refl _)
    · exact (composesAll all handles n).node true false (fits_of_suffix h) areMadeOf_nil

theorem composes_documentOf (ts : List Token) :
    Composes ts ts (fun root => ∀ node ∈ root, node.IsMadeOf ts) (documentOf ts) := by
  have hrest := suffix_directivesOf ts
  have hsome (root : Node) (hroot : root.IsMadeOf ts) : ∀ node ∈ some root, node.IsMadeOf ts :=
    fun node hnode => Option.some.inj hnode ▸ hroot
  unfold documentOf
  extract_lets n
  split
  rename_i ds rest heq
  rw [heq] at hrest
  refine .of_wellFormed fun handles _ => ?_
  split
  · exact .ok nofun areMadeOf_nil List.nil_suffix
  · have hrest := (List.suffix_cons _ _).trans hrest
    refine Composes.of_suffix ?_ hrest
    exact (composes_contentOf hrest).map (fun _ _ _ => rfl) hsome
  · have hnode := (composesAll ts handles n).node true false (fits_of_suffix hrest) areMadeOf_nil
    refine Composes.of_suffix ?_ hrest
    exact hnode.map (fun _ _ _ => rfl) hsome
  · exact (Composes.stuck hrest).of_suffix hrest

/-- The node of a document is made of its tokens. -/
theorem isMadeOf_of_ofTokens? {root : Node} (h : Node.ofTokens? ts = .ok (some root)) :
    root.IsMadeOf ts := by
  have hdocument := composes_documentOf ts
  unfold Node.ofTokens? at h
  obtain ⟨⟨found, known, rest⟩, hfound, h⟩ := bind_eq_ok_iff.mp h
  rw [hfound] at hdocument
  dsimp only at h
  split at h
  · cases h
    cases hdocument with
    | ok hgood _ _ => exact hgood root rfl
  · rcases stuck_cases (α := Option Node) (dropEnds rest) with heq | ⟨fault, heq, -⟩
    · cases heq.symm.trans h
    · cases heq.symm.trans h

/-- Tokens that make no document are no part of one, broken off, or nested too deep. -/
theorem fault_of_ofTokens? {fault : Fault} (h : Node.ofTokens? ts = .error fault) :
    fault = .malformed ∨ .broken fault ∈ ts ∨
      fault = .tooDeep ∧ maxDepth ≤ ts.countP Token.opens := by
  have hdocument := composes_documentOf ts
  unfold Node.ofTokens? at h
  rcases bind_eq_error_iff.mp h with hfault | ⟨⟨found, known, rest⟩, hfound, h⟩
  · rw [hfault] at hdocument
    cases hdocument with
    | malformed => exact .inl rfl
    | broken hbroken => exact .inr (.inl hbroken)
    | tooDeep hdepth => exact .inr (.inr ⟨rfl, hdepth⟩)
  · rw [hfound] at hdocument
    cases hdocument with
    | ok _ _ hrest =>
      dsimp only at h
      split at h
      · cases h
      · rcases stuck_cases (α := Option Node) (dropEnds rest) with heq | ⟨fault', heq, hbroken⟩
        · cases heq.symm.trans h
          exact .inl rfl
        · cases heq.symm.trans h
          exact .inr (.inl (hrest.subset ((suffix_dropEnds rest).subset hbroken)))

end Scaffold.Yaml
