import Mathlib.Data.List.Infix
import Scaffold.Json.Reader

/-! Limits of a dialect.  A text that is refused for more than its form goes beyond one of them: it
holds a number of more digits than fit, or more opening brackets than collections may be nested. -/
namespace Scaffold.Json

variable {β : Type} {d : Dialect} {depth depth' : Nat} {cs cs' r rest : List Char} {c : Char}
  {fault : Fault} {left : β → List Char} {x : Except Fault β}

/-- The number of brackets that open a collection. -/
def openings (cs : List Char) : Nat := cs.countP fun c => c = '\x7b' ∨ c = '['

theorem openings_le (h : cs' <:+ cs) : openings cs' ≤ openings cs := h.sublist.countP_le

/-- What a dialect may refuse a text for that stands in `depth` collections. -/
inductive Dialect.Forbids (d : Dialect) (depth : Nat) (cs : List Char) : Fault → Prop
  | malformed : d.Forbids depth cs .malformed
  | tooManyDigits {digits : List Char} {negative whole : Bool} : digits <:+: cs →
      (∀ c ∈ digits, c.isDigit = true) → d.fits negative digits.length whole = false →
      d.Forbids depth cs (.tooManyDigits digits.length)
  | tooDeep {inObject : Bool} : d.depth < depth + openings cs →
      d.Forbids depth cs (.tooDeep inObject)

theorem Dialect.Forbids.mono (h : d.Forbids depth' cs' fault) (hcs : cs' <:+ cs)
    (hdepth : depth' + openings cs' ≤ depth + openings cs) : d.Forbids depth cs fault := by
  cases h with
  | malformed => exact .malformed
  | tooManyDigits hin hdigits hfits => exact .tooManyDigits (hin.trans hcs.isInfix) hdigits hfits
  | tooDeep h => exact .tooDeep (by omega)

theorem Dialect.Forbids.of_suffix (h : d.Forbids depth cs' fault) (hcs : cs' <:+ cs) :
    d.Forbids depth cs fault :=
  h.mono hcs (Nat.add_le_add_left (openings_le hcs) depth)

/-- A reader leaves an end of its text, or refuses the text for what it holds. -/
inductive Ends (d : Dialect) (depth : Nat) (cs : List Char) (left : β → List Char) :
    Except Fault β → Prop
  | ok {b : β} : left b <:+ cs → Ends d depth cs left (.ok b)
  | error {fault : Fault} : d.Forbids depth cs fault → Ends d depth cs left (.error fault)

theorem Ends.suffix {b : β} (h : Ends d depth cs left x) (hx : x = .ok b) : left b <:+ cs := by
  subst hx
  cases h
  assumption

theorem Ends.forbids (h : Ends d depth cs left x) (hx : x = .error fault) :
    d.Forbids depth cs fault := by
  subst hx
  cases h
  assumption

theorem Ends.malformed : Ends d depth cs left (.error .malformed) := .error .malformed

/-- The same, of a reader whose result says that less of the text is left. -/
abbrev Leaves {α : Type} (d : Dialect) (depth : Nat) {cs : List Char} (x : Reading α cs) : Prop :=
  Ends d depth cs (fun b => b.2.1) x

/-! ### What comes next -/

theorem suffix_skip (cs : List Char) : skip cs <:+ cs := List.dropWhile_suffix _

/-- What stands behind a character that comes next is an end of the text. -/
theorem suffix_of_skip (h : skip cs = c :: rest) : rest <:+ cs :=
  (List.suffix_cons c rest).trans (h ▸ suffix_skip cs)

theorem length_lt_of_skip (h : skip cs = c :: rest) : rest.length < cs.length := by
  have hle := length_skip_le cs
  rw [h, List.length_cons] at hle
  exact hle

/-- A bracket that comes next makes up for the collection that it opens. -/
theorem openings_lt (h : skip cs = c :: rest) (hc : c = '\x7b' ∨ c = '[') :
    openings rest < openings cs := by
  have hle : openings (c :: rest) ≤ openings cs := openings_le (h ▸ suffix_skip cs)
  rw [openings, List.countP_cons_of_pos (by simpa using hc)] at hle
  exact hle

/-! ### Texts -/

theorem suffix_of_lowHalf? {n : Nat} (h : lowHalf? cs = some (n, r)) : r <:+ cs := by
  unfold lowHalf? at h
  split at h
  · split at h
    · split at h
      · cases h
        exact ⟨['\\', 'u', _, _, _, _], rfl⟩
      · cases h
    · cases h
  · cases h

theorem ends_escaped (cs : List Char) : Leaves d depth (escaped d cs) := by
  unfold escaped
  split
  · next a b c e rest =>
    have hrest : rest <:+ 'u' :: a :: b :: c :: e :: rest := ⟨['u', a, b, c, e], rfl⟩
    split
    · exact .malformed
    · dsimp only
      split
      · split
        · next h => exact .ok ((suffix_of_lowHalf? h).trans hrest)
        · split
          · exact .ok hrest
          · exact .malformed
      · split
        · exact .malformed
        · exact .ok hrest
  · next c rest _ =>
    split
    · exact .ok (List.suffix_cons c rest)
    · exact .malformed
  · exact .malformed

theorem ends_stringBody (cs : List Char) : Leaves d depth (stringBody d cs) := by
  fun_induction stringBody d cs with
  | case1 => exact .malformed
  | case2 rest => exact .ok (List.suffix_cons _ rest)
  | case3 rest e hescaped =>
    have hends : Leaves d depth (escaped d rest) := ends_escaped rest
    exact .error ((hends.forbids hescaped).of_suffix (List.suffix_cons _ rest))
  | case4 rest n r hr hescaped points r' hr' hbody _ ih =>
    have hends : Leaves d depth (escaped d rest) := ends_escaped rest
    have hrest : r <:+ '\\' :: rest := (hends.suffix hescaped).trans (List.suffix_cons _ rest)
    exact .ok ((ih.suffix hbody).trans hrest)
  | case5 rest n r hr hescaped e hbody _ ih =>
    have hends : Leaves d depth (escaped d rest) := ends_escaped rest
    have hrest : r <:+ '\\' :: rest := (hends.suffix hescaped).trans (List.suffix_cons _ rest)
    exact .error ((ih.forbids hbody).of_suffix hrest)
  | case6 => exact .malformed
  | case7 c rest _ _ _ points r hr hbody ih =>
    exact .ok ((ih.suffix hbody).trans (List.suffix_cons c rest))
  | case8 c rest _ _ _ e hbody ih =>
    exact .error ((ih.forbids hbody).of_suffix (List.suffix_cons c rest))

/-! ### Words and numbers -/

theorem suffix_fractionPart (cs : List Char) : (fractionPart cs).2 <:+ cs := by
  unfold fractionPart
  split
  · next rest =>
    split
    · exact List.suffix_refl _
    · exact (List.dropWhile_suffix _).trans (List.suffix_cons _ rest)
  · exact List.suffix_refl cs

theorem suffix_exponentPart (cs : List Char) : (exponentPart cs).2 <:+ cs := by
  unfold exponentPart
  split
  · next e rest =>
    split
    · extract_lets signed
      have hsigned : signed.2 <:+ e :: rest := by
        unfold signed
        split
        · exact (List.suffix_cons _ _).trans (List.suffix_cons e _)
        · exact (List.suffix_cons _ _).trans (List.suffix_cons e _)
        · exact List.suffix_cons e _
      split
      · exact List.suffix_refl _
      · exact (List.dropWhile_suffix _).trans hsigned
    · exact List.suffix_refl _
  · exact List.suffix_refl _

/-- A number leaves an end of the text that holds its whole digits, or has too many of them. -/
theorem ends_numberOf {negative : Bool} {digits : List Char} (hin : digits <:+: cs)
    (hdigits : ∀ c ∈ digits, c.isDigit = true) (hrest : rest <:+ cs) :
    Ends d depth cs Prod.snd (numberOf d negative digits rest) := by
  have hsuffix : (exponentPart (fractionPart rest).2).2 <:+ cs :=
    ((suffix_exponentPart _).trans (suffix_fractionPart rest)).trans hrest
  unfold numberOf
  dsimp only
  split
  · next hfits => exact .error (.tooManyDigits hin hdigits (by simpa using hfits))
  · split
    · exact .ok hsuffix
    · exact .ok hsuffix

theorem ends_number (cs : List Char) : Ends d depth cs Prod.snd (number d cs) := by
  unfold number
  extract_lets signed
  have hsigned : signed.2 <:+ cs := by
    unfold signed
    split
    · exact List.suffix_cons _ _
    · exact List.suffix_refl _
  split
  · next rest heq =>
    rw [heq] at hsigned
    have hrest : rest <:+ cs := (List.suffix_cons _ rest).trans hsigned
    refine ends_numberOf ?_ (List.forall_mem_singleton.mpr rfl) hrest
    exact List.IsInfix.trans ⟨[], rest, rfl⟩ hsigned.isInfix
  · split
    · refine ends_numberOf ?_ ?_ ((List.dropWhile_suffix _).trans hsigned)
      · exact (List.takeWhile_prefix _).isInfix.trans hsigned.isInfix
      · exact List.all_eq_true.mp List.all_takeWhile
    · exact .malformed
  · exact .malformed

theorem suffix_of_after? {word : List Char} (h : after? word cs = some r) : r <:+ cs := by
  fun_induction after? word cs with
  | case1 cs =>
    cases h
    exact List.suffix_refl r
  | case2 word c cs ih => exact (ih h).trans (List.suffix_cons c cs)
  | case3 => cases h
  | case4 => cases h

theorem ends_atom (cs : List Char) : Ends d depth cs Prod.snd (atom d cs) := by
  unfold atom
  split
  · next b h =>
    obtain ⟨w, -, hw⟩ := List.exists_of_findSome?_eq_some h
    obtain ⟨r, hr, rfl⟩ := Option.map_eq_some_iff.mp hw
    exact .ok (suffix_of_after? hr)
  · exact ends_number cs

/-! ### Collections -/

/-- A bracket that comes next opens a collection with an end of the text in it. -/
theorem Dialect.Forbids.opened (h : d.Forbids (depth + 1) rest fault) (hskip : skip cs = c :: rest)
    (hc : c = '\x7b' ∨ c = '[') : d.Forbids depth cs fault := by
  have hlt := openings_lt hskip hc
  exact h.mono (suffix_of_skip hskip) (by omega)

theorem forbids_tooDeep {inObject : Bool} (hdepth : d.depth ≤ depth) (hskip : skip cs = c :: rest)
    (hc : c = '\x7b' ∨ c = '[') : d.Forbids depth cs (.tooDeep inObject) := by
  have hlt := openings_lt hskip hc
  exact .tooDeep (by omega)

/-- A value comes to an end if what stands in a collection does. -/
theorem ends_value (h : ∀ rest, rest.length < cs.length →
    Leaves d (depth + 1) (elements d (depth + 1) rest) ∧
      Leaves d (depth + 1) (members d (depth + 1) rest)) : Leaves d depth (value d depth cs) := by
  unfold value
  split
  · exact .malformed
  · next rest hskip =>
    have hmembers := (h rest (length_lt_of_skip hskip)).2
    split
    · next hdepth => exact .error (forbids_tooDeep hdepth hskip (.inl rfl))
    · split
      · next r hr => exact .ok ((suffix_of_skip hr).trans (suffix_of_skip hskip))
      · split
        · next heq => exact .ok ((hmembers.suffix heq).trans (suffix_of_skip hskip))
        · next heq => exact .error ((hmembers.forbids heq).opened hskip (.inl rfl))
  · next rest hskip =>
    have helements := (h rest (length_lt_of_skip hskip)).1
    split
    · next hdepth => exact .error (forbids_tooDeep hdepth hskip (.inr rfl))
    · split
      · next r hr => exact .ok ((suffix_of_skip hr).trans (suffix_of_skip hskip))
      · split
        · next heq => exact .ok ((helements.suffix heq).trans (suffix_of_skip hskip))
        · next heq => exact .error ((helements.forbids heq).opened hskip (.inr rfl))
  · next rest hskip =>
    have hbody : Leaves d depth (stringBody d rest) := ends_stringBody rest
    split
    · next heq => exact .ok ((hbody.suffix heq).trans (suffix_of_skip hskip))
    · next heq => exact .error ((hbody.forbids heq).of_suffix (suffix_of_skip hskip))
  · next c rest _ _ _ hskip =>
    have hrest : c :: rest <:+ cs := hskip ▸ suffix_skip cs
    have hatom : Ends d depth (c :: rest) Prod.snd (atom d (c :: rest)) := ends_atom _
    split
    · next heq =>
      split
      · exact .ok ((hatom.suffix heq).trans hrest)
      · exact .malformed
    · next heq => exact .error ((hatom.forbids heq).of_suffix hrest)

theorem ends_elements (hv : Leaves d depth (value d depth cs))
    (h : ∀ rest, rest.length < cs.length → Leaves d depth (elements d depth rest)) :
    Leaves d depth (elements d depth cs) := by
  unfold elements
  split
  · next heq => exact .error (hv.forbids heq)
  · next v r hr heq =>
    split
    · next rest hskip => exact .ok ((suffix_of_skip hskip).trans (hv.suffix heq))
    · next rest hskip =>
      have hrest : rest <:+ cs := (suffix_of_skip hskip).trans (hv.suffix heq)
      have helements := h rest ((suffix_of_skip hskip).length_le.trans_lt hr)
      split
      · next heq => exact .ok ((helements.suffix heq).trans hrest)
      · next heq => exact .error ((helements.forbids heq).of_suffix hrest)
    · exact .malformed

theorem ends_members (hv : ∀ rest, rest.length < cs.length → Leaves d depth (value d depth rest))
    (h : ∀ rest, rest.length < cs.length → Leaves d depth (members d depth rest)) :
    Leaves d depth (members d depth cs) := by
  unfold members
  split
  · next rest hskip =>
    have hbody : Leaves d depth (stringBody d rest) := ends_stringBody rest
    split
    · next heq => exact .error ((hbody.forbids heq).of_suffix (suffix_of_skip hskip))
    · next key r hr heq =>
      split
      · next r' hskip' =>
        have hr' : r' <:+ cs :=
          ((suffix_of_skip hskip').trans (hbody.suffix heq)).trans (suffix_of_skip hskip)
        have hlength : r'.length < cs.length :=
          ((length_lt_of_skip hskip').trans hr).trans (length_lt_of_skip hskip)
        have hvalue := hv r' hlength
        split
        · next heq => exact .error ((hvalue.forbids heq).of_suffix hr')
        · next v s hs heq =>
          split
          · next t ht => exact .ok (((suffix_of_skip ht).trans (hvalue.suffix heq)).trans hr')
          · next t ht =>
            have ht' : t <:+ cs := ((suffix_of_skip ht).trans (hvalue.suffix heq)).trans hr'
            have hmembers := h t (((length_lt_of_skip ht).trans hs).trans hlength)
            split
            · next heq => exact .ok ((hmembers.suffix heq).trans ht')
            · next heq => exact .error ((hmembers.forbids heq).of_suffix ht')
          · exact .malformed
      · exact .malformed
  · exact .malformed

/-- By induction on the length: what stands in a collection is shorter, and so is what follows a
comma. -/
theorem ends_all (cs : List Char) (depth : Nat) : Leaves d depth (value d depth cs) ∧
    Leaves d depth (elements d depth cs) ∧ Leaves d depth (members d depth cs) := by
  induction hn : cs.length using Nat.strong_induction_on generalizing cs depth with
  | _ n ih =>
    subst hn
    have hvalue : Leaves d depth (value d depth cs) :=
      ends_value fun rest hrest => (ih _ hrest rest (depth + 1) rfl).2
    refine ⟨hvalue, ?_, ?_⟩
    · exact ends_elements hvalue fun rest hrest => (ih _ hrest rest depth rfl).2.1
    · exact ends_members (fun rest hrest => (ih _ hrest rest depth rfl).1)
        fun rest hrest => (ih _ hrest rest depth rfl).2.2

/-- A document that is refused for a limit goes beyond it. -/
theorem forbids_of_read {source : String} (h : read d source = .error fault) :
    d.Forbids 0 source.toList fault := by
  have hvalue : Leaves d 0 (value d 0 source.toList) := (ends_all source.toList 0).1
  unfold read at h
  split at h
  · split at h
    · cases h
    · cases h
      exact .malformed
  · next heq =>
    cases h
    exact hvalue.forbids heq

end Scaffold.Json
