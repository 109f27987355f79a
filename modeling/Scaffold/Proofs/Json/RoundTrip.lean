import Mathlib.Data.List.Basic
import Scaffold.Json.Reader
import Scaffold.Json.Writer

/-! Documents of texts, truth values and nothing: what is written of them is read again, in every
dialect that allows for their depth, whatever stands behind them. -/
namespace Scaffold.Json

open Text

variable {d : Dialect} {style : Style} {depth : Nat} {cs body rest r : List Char} {v : Value}
  {vs : List Value} {k : Scalar} {es : List (Scalar × Value)} {points : List Nat}

/-- A reader gives a result and leaves a text. -/
def Reads {α : Type} {cs : List Char} (x : Reading α cs) (a : α) (r : List Char) : Prop :=
  ∃ h, x = .ok (a, ⟨r, h⟩)

/-! ### Texts -/

theorem hexNumber?_hexDigits {n : Nat} (h : n < 32) : ∃ a b c e,
    hexDigits 4 n = [a, b, c, e] ∧ hexNumber? [a, b, c, e] = some n := by
  have hall : ∀ n < 32, (hexDigits 4 n).length = 4 ∧ hexNumber? (hexDigits 4 n) = some n := by
    decide
  obtain ⟨hlength, hnumber⟩ := hall n h
  match hdigits : hexDigits 4 n, hlength with
  | [a, b, c, e], _ => exact ⟨a, b, c, e, rfl, hdigits ▸ hnumber⟩

theorem reads_stringBody_quote : Reads (stringBody d ('"' :: rest)) [] rest := by
  rw [stringBody]
  exact ⟨by simp, rfl⟩

theorem reads_stringBody_plain {c : Char} (hquote : c ≠ '"') (hslash : c ≠ '\\')
    (hcontrol : ¬ c.toNat < 32) (h : Reads (stringBody d cs) points r) :
    Reads (stringBody d (c :: cs)) (c.toNat :: points) r := by
  obtain ⟨hr, h⟩ := h
  rw [stringBody, if_neg hquote, if_neg hslash, if_neg hcontrol, h]
  exact ⟨_, rfl⟩

theorem reads_stringBody_escaped {n : Nat} (he : Reads (escaped d cs) n body)
    (h : Reads (stringBody d body) points r) :
    Reads (stringBody d ('\\' :: cs)) (n :: points) r := by
  obtain ⟨hb, he⟩ := he
  obtain ⟨hr, h⟩ := h
  rw [stringBody, if_neg (by decide), if_pos rfl, he]
  dsimp only
  rw [h]
  exact ⟨_, rfl⟩

theorem reads_escaped_control {n : Nat} (h : n < 32) :
    Reads (escaped d ('u' :: (hexDigits 4 n ++ rest))) n rest := by
  obtain ⟨a, b, c, e, hdigits, hnumber⟩ := hexNumber?_hexDigits h
  have hhigh : isHighHalf n = false := by simp [isHighHalf]; omega
  have hlow : isLowHalf n = false := by simp [isLowHalf]; omega
  rw [hdigits]
  simp only [List.cons_append, List.nil_append, escaped, hnumber, hhigh, hlow]
  exact ⟨_, rfl⟩

/-- How a character is written: by a letter behind a backslash, by its number, or as it is. -/
theorem writtenChar_cases (c : Char) :
    (∃ e, writtenChar c = ['\\', e] ∧
      ∀ (d : Dialect) (rest : List Char), Reads (escaped d (e :: rest)) c.toNat rest) ∨
    (c.toNat < 32 ∧ writtenChar c = '\\' :: 'u' :: hexDigits 4 c.toNat) ∨
    (c ≠ '"' ∧ c ≠ '\\' ∧ ¬ c.toNat < 32 ∧ writtenChar c = [c]) := by
  unfold writtenChar
  -- The seven characters that a letter stands for.
  iterate 7
    split
    · next h =>
      subst h
      exact .inl ⟨_, rfl, fun _ _ => ⟨by simp, rfl⟩⟩
  split
  · next h => exact .inr (.inl ⟨h, rfl⟩)
  · next hquote hslash _ _ _ _ _ hcontrol => exact .inr (.inr ⟨hquote, hslash, hcontrol, rfl⟩)

theorem reads_writtenChar (c : Char) (h : Reads (stringBody d body) points r) :
    Reads (stringBody d (writtenChar c ++ body)) (c.toNat :: points) r := by
  rcases writtenChar_cases c with ⟨e, hw, he⟩ | ⟨hcontrol, hw⟩ | ⟨hquote, hslash, hcontrol, hw⟩
  · rw [hw]
    exact reads_stringBody_escaped (he d body) h
  · rw [hw]
    exact reads_stringBody_escaped (reads_escaped_control hcontrol) h
  · rw [hw]
    exact reads_stringBody_plain hquote hslash hcontrol h

theorem reads_written (cs rest : List Char) :
    Reads (stringBody d (cs.flatMap writtenChar ++ '"' :: rest)) (cs.map Char.toNat) rest := by
  induction cs with
  | nil => exact reads_stringBody_quote
  | cons c cs ih =>
    rw [List.flatMap_cons, List.append_assoc, List.map_cons]
    exact reads_writtenChar c ih

theorem ofPoints_toNat (s : String) : Scalar.ofPoints (s.toList.map Char.toNat) = .text s := by
  have hvalid : (s.toList.map Char.toNat).all (fun n => decide n.isValidChar) = true := by
    simp only [List.all_map, List.all_eq_true, Function.comp_apply, decide_eq_true_eq]
    exact fun c _ => c.valid
  have hchars : charsOf (s.toList.map Char.toNat) = s.toList := by
    rw [charsOf, List.map_map]
    refine (List.map_congr_left fun c _ => ?_).trans (List.map_id' s.toList)
    have hc : c.toNat.isValidChar := c.valid
    rw [Function.comp_apply, if_pos hc, Char.ofNat_toNat]
  rw [Scalar.ofPoints, if_pos hvalid, hchars, String.ofList_toList]

/-! ### One step of a reader -/

theorem skip_append {sp : List Char} (h : ∀ c ∈ sp, isSpace c = true) (cs : List Char) :
    skip (sp ++ cs) = skip cs :=
  List.dropWhile_append_of_pos h

theorem skip_of_not_space {c : Char} (h : isSpace c = false) : skip (c :: cs) = c :: cs := by
  rw [skip, List.dropWhile_cons_of_neg (by simp [h])]

theorem reads_text (h : skip cs = '"' :: body) (hs : Reads (stringBody d body) points r) :
    Reads (value d depth cs) (.scalar (.ofPoints points)) r := by
  obtain ⟨hr, hs⟩ := hs
  unfold value
  split <;> rename_i heq <;> rw [h] at heq <;> cases heq
  · rw [hs]
    exact ⟨_, rfl⟩
  · next _ _ hnot => exact absurd rfl hnot

/-- An atom is read where no collection and no text begins. -/
theorem reads_atom {c : Char} (h : skip cs = c :: body) (hc : c ∉ ['\x7b', '[', '"'])
    (ha : atom d (c :: body) = .ok (v, r)) (hr : r.length < cs.length) :
    Reads (value d depth cs) v r := by
  unfold value
  split <;> rename_i heq <;> rw [h] at heq <;> cases heq
  · simp at hc
  · simp at hc
  · simp at hc
  · rw [ha]
    simp only [hr, dite_true]
    exact ⟨_, rfl⟩

theorem reads_dict_nil (hd : depth < d.depth) (h : skip cs = '\x7b' :: body)
    (hr : skip body = '\x7d' :: r) : Reads (value d depth cs) (.dict []) r := by
  unfold value
  split <;> rename_i heq <;> rw [h] at heq <;> cases heq
  · rw [if_neg (Nat.not_le.mpr hd)]
    split
    · next r' hclose =>
      cases hr.symm.trans hclose
      exact ⟨_, rfl⟩
    · next hopen => exact absurd hr (hopen r)
  · next hnot _ _ => exact absurd rfl hnot

theorem reads_dict_cons (hd : depth < d.depth) (h : skip cs = '\x7b' :: body)
    (hm : Reads (members d (depth + 1) body) es r) : Reads (value d depth cs) (.dict es) r := by
  obtain ⟨hr, hm⟩ := hm
  unfold value
  split <;> rename_i heq <;> rw [h] at heq <;> cases heq
  · rw [if_neg (Nat.not_le.mpr hd)]
    split
    · next r' hclose =>
      unfold members at hm
      split at hm <;> rename_i heq
      · rw [hclose] at heq
        cases heq
      · cases hm
    · rw [hm]
      exact ⟨_, rfl⟩
  · next hnot _ _ => exact absurd rfl hnot

theorem reads_list_nil (hd : depth < d.depth) (h : skip cs = '[' :: body)
    (hr : skip body = ']' :: r) : Reads (value d depth cs) (.list []) r := by
  unfold value
  split <;> rename_i heq <;> rw [h] at heq <;> cases heq
  · rw [if_neg (Nat.not_le.mpr hd)]
    split
    · next r' hclose =>
      cases hr.symm.trans hclose
      exact ⟨_, rfl⟩
    · next hopen => exact absurd hr (hopen r)
  · next _ hnot _ => exact absurd rfl hnot

theorem value_of_closeBracket (h : skip cs = ']' :: r) :
    value d depth cs = .error .malformed := by
  unfold value
  split <;> rename_i heq <;> rw [h] at heq <;> cases heq
  rfl

theorem reads_list_cons (hd : depth < d.depth) (h : skip cs = '[' :: body)
    (he : Reads (elements d (depth + 1) body) vs r) : Reads (value d depth cs) (.list vs) r := by
  obtain ⟨hr, he⟩ := he
  unfold value
  split <;> rename_i heq <;> rw [h] at heq <;> cases heq
  · rw [if_neg (Nat.not_le.mpr hd)]
    split
    · next r' hclose =>
      rw [elements, value_of_closeBracket hclose] at he
      cases he
    · rw [he]
      exact ⟨_, rfl⟩
  · next _ hnot _ => exact absurd rfl hnot

theorem reads_elements_last (hv : Reads (value d depth cs) v r) (h : skip r = ']' :: rest) :
    Reads (elements d depth cs) [v] rest := by
  obtain ⟨hr, hv⟩ := hv
  rw [elements, hv]
  dsimp only
  split
  · next heq =>
    cases h.symm.trans heq
    exact ⟨_, rfl⟩
  · next heq => cases h.symm.trans heq
  · next hclose _ => exact absurd h (hclose rest)

theorem reads_elements_cons (hv : Reads (value d depth cs) v r) (h : skip r = ',' :: body)
    (hvs : Reads (elements d depth body) vs rest) : Reads (elements d depth cs) (v :: vs) rest := by
  obtain ⟨hr, hv⟩ := hv
  obtain ⟨hrest, hvs⟩ := hvs
  rw [elements, hv]
  dsimp only
  split
  · next heq => cases h.symm.trans heq
  · next heq =>
    cases h.symm.trans heq
    rw [hvs]
    exact ⟨_, rfl⟩
  · next hcomma => exact absurd h (hcomma body)

/-- A key and its value are read, up to what stands behind them. -/
def ReadsMember (d : Dialect) (depth : Nat) (cs : List Char) (k : Scalar) (v : Value)
    (r : List Char) : Prop :=
  ∃ body points behind given, skip cs = '"' :: body ∧
    Reads (stringBody d body) points behind ∧ k = .ofPoints points ∧
    skip behind = ':' :: given ∧ Reads (value d depth given) v r

theorem reads_members_last (hm : ReadsMember d depth cs k v r) (h : skip r = '\x7d' :: rest) :
    Reads (members d depth cs) [(k, v)] rest := by
  obtain ⟨body, points, behind, given, hkey, ⟨hb, hpoints⟩, rfl, hcolon, hr, hv⟩ := hm
  unfold members
  split
  · next heq =>
    cases hkey.symm.trans heq
    rw [hpoints]
    dsimp only
    split
    · next heq' =>
      cases hcolon.symm.trans heq'
      rw [hv]
      dsimp only
      split
      · next heq'' =>
        cases h.symm.trans heq''
        exact ⟨_, rfl⟩
      · next heq'' => cases h.symm.trans heq''
      · next hclose _ => exact absurd h (hclose rest)
    · next hnot => exact absurd hcolon (hnot given)
  · next hnot => exact absurd hkey (hnot body)

theorem reads_members_cons (hm : ReadsMember d depth cs k v r) (h : skip r = ',' :: body)
    (hes : Reads (members d depth body) es rest) :
    Reads (members d depth cs) ((k, v) :: es) rest := by
  obtain ⟨key, points, behind, given, hkey, ⟨hb, hpoints⟩, rfl, hcolon, hr, hv⟩ := hm
  obtain ⟨hrest, hes⟩ := hes
  unfold members
  split
  · next heq =>
    cases hkey.symm.trans heq
    rw [hpoints]
    dsimp only
    split
    · next heq' =>
      cases hcolon.symm.trans heq'
      rw [hv]
      dsimp only
      split
      · next heq'' => cases h.symm.trans heq''
      · next heq'' =>
        cases h.symm.trans heq''
        rw [hes]
        exact ⟨_, rfl⟩
      · next hcomma => exact absurd h (hcomma body)
    · next hnot => exact absurd hcolon (hnot given)
  · next hnot => exact absurd hkey (hnot key)

/-! ### Documents -/

/-- Nothing but white space stands between the parts of a document, a comma or a colon apart. -/
structure Style.IsSpaced (style : Style) : Prop where
  lead : ∀ n, ∀ c ∈ (style.lead n).toList, isSpace c = true
  colon : ∃ sp, style.colon.toList = ':' :: sp ∧ ∀ c ∈ sp, isSpace c = true

theorem isSpaced_indented : indented.IsSpaced := by
  refine ⟨fun n c hc => ?_, [' '], rfl, by simp [isSpace]⟩
  simp only [indented, String.toList_ofList, List.mem_cons, List.mem_replicate] at hc
  rcases hc with rfl | ⟨-, rfl⟩ <;> decide

mutual
/-- A value of texts, truth values and nothing, whose collections nest at most `room` deep. -/
def fits (room : Nat) : Value → Bool
  | .null | .bool _ | .text _ => true
  | .list vs => 0 < room && allFit (room - 1) vs
  | .dict es => 0 < room && entriesFit (room - 1) es
  | _ => false

/-- Elements that nest at most `room` deep. -/
def allFit (room : Nat) : List Value → Bool
  | [] => true
  | v :: vs => fits room v && allFit room vs

/-- Entries with texts as keys and values that nest at most `room` deep. -/
def entriesFit (room : Nat) : List (Scalar × Value) → Bool
  | [] => true
  | (.text _, v) :: es => fits room v && entriesFit room es
  | _ => false
end

theorem toList_bracketed (style : Style) (k : Nat) {opening closing : String} {o c : Char}
    (hopening : opening.toList = [o]) (hclosing : closing.toList = [c]) (item : String)
    (items : List String) : (bracketed style k opening closing (item :: items)).toList =
      o :: ((",".intercalate ((item :: items).map (style.lead (k + 1) ++ ·))).toList ++
        ((style.lead k).toList ++ [c])) := by
  simp only [bracketed, List.isEmpty_cons, Bool.false_eq_true, if_false, String.toList_append,
    List.append_assoc, hopening, hclosing, List.cons_append, List.nil_append]

theorem toList_intercalate_cons (lead item next : String) (items : List String) :
    (",".intercalate ((item :: next :: items).map (lead ++ ·))).toList =
      lead.toList ++ (item.toList ++ (',' ::
        (",".intercalate ((next :: items).map (lead ++ ·))).toList)) := by
  simp only [List.map_cons, String.intercalate_cons_cons, String.toList_append, List.append_assoc]
  rfl

theorem toList_intercalate_single (lead item : String) :
    (",".intercalate ([item].map (lead ++ ·))).toList = lead.toList ++ item.toList := by
  simp only [List.map_cons, List.map_nil, String.intercalate_singleton, String.toList_append]

theorem toList_writeText (s : String) :
    (writeText s).toList = '"' :: (s.toList.flatMap writtenChar ++ ['"']) := by
  rw [writeText, String.toList_ofList, List.cons_append]

theorem skip_writeText {sp : List Char} (hsp : ∀ c ∈ sp, isSpace c = true) (s : String)
    (rest : List Char) : skip (sp ++ ((writeText s).toList ++ rest)) =
      '"' :: (s.toList.flatMap writtenChar ++ '"' :: rest) := by
  rw [skip_append hsp, toList_writeText, List.cons_append, skip_of_not_space (by decide),
    List.append_assoc]
  rfl

theorem reads_word {sp : List Char} (word : String) (c : Char) (tail : List Char)
    (hsp : ∀ c ∈ sp, isSpace c = true) (hword : word.toList = c :: tail)
    (hspace : isSpace c = false) (hc : c ∉ ['\x7b', '[', '"'])
    (ha : atom d (c :: (tail ++ rest)) = .ok (v, rest)) :
    Reads (value d depth (sp ++ (word.toList ++ rest))) v rest := by
  have hskip : skip (sp ++ (word.toList ++ rest)) = c :: (tail ++ rest) := by
    rw [skip_append hsp, hword, List.cons_append, skip_of_not_space hspace]
  refine reads_atom hskip hc ha ?_
  rw [hword]
  simp only [List.length_append, List.length_cons]
  omega

/-- A value is read from its written form, wherever collections may nest `room` deep. -/
def ReadsWritten (d : Dialect) (style : Style) (room : Nat) (v : Value) : Prop :=
  ∀ (depth k : Nat) (sp rest : List Char), depth + room ≤ d.depth →
    (∀ c ∈ sp, isSpace c = true) →
      Reads (value d depth (sp ++ ((writeAt style k v).toList ++ rest))) v rest

variable {room k : Nat}

theorem readsMember_written (hstyle : style.IsSpaced) (hd : depth + room ≤ d.depth)
    {sp : List Char} (hsp : ∀ c ∈ sp, isSpace c = true) (s : String)
    (hv : ReadsWritten d style room v) :
    ReadsMember d depth (sp ++ ((writeKey (.text s) ++ style.colon ++
      writeAt style (k + 1) v).toList ++ rest)) (.text s) v rest := by
  obtain ⟨gap, hcolon, hgap⟩ := hstyle.colon
  refine ⟨_, _, ':' :: (gap ++ ((writeAt style (k + 1) v).toList ++ rest)), _, ?_,
    reads_written s.toList _, (ofPoints_toNat s).symm, skip_of_not_space (by decide),
    hv _ _ gap _ hd hgap⟩
  rw [← skip_writeText hsp]
  simp only [writeKey, Scalar.isText, if_true, writeScalar, String.toList_append, hcolon,
    List.append_assoc, List.cons_append]

/-- Elements are read if each of them is. -/
theorem reads_writeAll (hstyle : style.IsSpaced) (hd : depth + room ≤ d.depth)
    (hv : ReadsWritten d style room v) (hvs : ∀ w ∈ vs, ReadsWritten d style room w) :
    Reads (elements d depth ((",".intercalate ((writeAll style k (v :: vs)).map
      (style.lead (k + 1) ++ ·))).toList ++ ((style.lead k).toList ++ ']' :: rest)))
      (v :: vs) rest := by
  induction vs generalizing v with
  | nil =>
    rw [writeAll, writeAll, toList_intercalate_single, List.append_assoc]
    refine reads_elements_last (hv _ _ _ _ hd (hstyle.lead _)) ?_
    rw [skip_append (hstyle.lead k), skip_of_not_space (by decide)]
  | cons next vs ih =>
    obtain ⟨hnext, hvs⟩ := List.forall_mem_cons.mp hvs
    rw [writeAll, writeAll, toList_intercalate_cons, List.append_assoc, List.append_assoc]
    exact reads_elements_cons (hv _ _ _ _ hd (hstyle.lead _)) (skip_of_not_space (by decide))
      (ih hnext hvs)

/-- Members are read if the value of each of them is. -/
theorem reads_writeEntries (hstyle : style.IsSpaced) (hd : depth + room ≤ d.depth) {s : String}
    (hv : ReadsWritten d style room v)
    (hes : ∀ e ∈ es, (∃ t, e.1 = .text t) ∧ ReadsWritten d style room e.2) :
    Reads (members d depth ((",".intercalate ((writeEntries style k ((.text s, v) :: es)).map
      (style.lead (k + 1) ++ ·))).toList ++ ((style.lead k).toList ++ '\x7d' :: rest)))
      ((.text s, v) :: es) rest := by
  induction es generalizing s v with
  | nil =>
    rw [writeEntries, writeEntries, toList_intercalate_single, List.append_assoc]
    refine reads_members_last (readsMember_written hstyle hd (hstyle.lead _) s hv) ?_
    rw [skip_append (hstyle.lead k), skip_of_not_space (by decide)]
  | cons next es ih =>
    obtain ⟨⟨⟨t, ht⟩, hnext⟩, hrest⟩ := List.forall_mem_cons.mp hes
    obtain ⟨key, w⟩ := next
    obtain rfl : key = .text t := ht
    rw [writeEntries, writeEntries, toList_intercalate_cons, List.append_assoc,
      List.append_assoc]
    exact reads_members_cons (readsMember_written hstyle hd (hstyle.lead _) s hv)
      (skip_of_not_space (by decide)) (ih hnext hrest)

theorem readsWritten_list (hstyle : style.IsSpaced) (hvs : ∀ v ∈ vs, ReadsWritten d style room v) :
    ReadsWritten d style (room + 1) (.list vs) := by
  intro depth k sp rest hd hsp
  cases vs with
  | nil =>
    have hwritten : writeAt style k (.list []) = "[]" := rfl
    have hclose : skip (']' :: rest) = ']' :: rest := skip_of_not_space (by decide)
    refine reads_list_nil (by omega) ?_ hclose
    rw [skip_append hsp, hwritten]
    exact skip_of_not_space (c := '[') (by decide)
  | cons v vs =>
    obtain ⟨hv, hvs⟩ := List.forall_mem_cons.mp hvs
    refine reads_list_cons (by omega) ?_ (reads_writeAll (k := k) hstyle (by omega) hv hvs)
    rw [skip_append hsp, writeAt, writeAll, toList_bracketed style k (o := '[') (c := ']')
      (by decide) (by decide), List.cons_append, skip_of_not_space (by decide)]
    simp only [List.append_assoc, List.cons_append, List.nil_append]

theorem readsWritten_dict (hstyle : style.IsSpaced)
    (hes : ∀ e ∈ es, (∃ t, e.1 = .text t) ∧ ReadsWritten d style room e.2) :
    ReadsWritten d style (room + 1) (.dict es) := by
  intro depth k sp rest hd hsp
  cases es with
  | nil =>
    have hwritten : writeAt style k (.dict []) = "\x7b\x7d" := rfl
    have hclose : skip ('\x7d' :: rest) = '\x7d' :: rest := skip_of_not_space (by decide)
    refine reads_dict_nil (by omega) ?_ hclose
    rw [skip_append hsp, hwritten]
    exact skip_of_not_space (c := '\x7b') (by decide)
  | cons first es =>
    obtain ⟨⟨⟨t, ht⟩, hv⟩, hrest⟩ := List.forall_mem_cons.mp hes
    obtain ⟨key, v⟩ := first
    obtain rfl : key = .text t := ht
    refine reads_dict_cons (by omega) ?_ (reads_writeEntries (k := k) hstyle (by omega) hv hrest)
    rw [skip_append hsp, writeAt, writeEntries, toList_bracketed style k (o := '\x7b')
      (c := '\x7d') (by decide) (by decide), List.cons_append, skip_of_not_space (by decide)]
    simp only [List.append_assoc, List.cons_append, List.nil_append]

theorem readsWritten_text (s : String) : ReadsWritten d style room (.text s) := by
  intro depth k sp rest _ hsp
  have hread : Reads (value d depth _) _ rest :=
    reads_text (skip_writeText hsp s rest) (reads_written s.toList rest)
  rw [ofPoints_toNat] at hread
  exact hread

mutual
theorem readsWritten_of_fits (hstyle : style.IsSpaced) {room : Nat} :
    ∀ v : Value, fits room v = true → ReadsWritten d style room v
  | .null, _ => fun _ _ _ _ _ hsp =>
    reads_word "null" 'n' "ull".toList hsp (by decide) (by decide)
      (by decide) rfl
  | .bool true, _ => fun _ _ _ _ _ hsp =>
    reads_word "true" 't' "rue".toList hsp (by decide) (by decide)
      (by decide) rfl
  | .bool false, _ => fun _ _ _ _ _ hsp =>
    reads_word "false" 'f' "alse".toList hsp (by decide) (by decide)
      (by decide) rfl
  | .text s, _ => readsWritten_text s
  | .list vs, h => by
    match room with
    | 0 => cases h
    | room + 1 =>
      rw [fits, Bool.and_eq_true] at h
      exact readsWritten_list hstyle (readsWritten_of_allFit hstyle vs h.2)
  | .dict es, h => by
    match room with
    | 0 => cases h
    | room + 1 =>
      rw [fits, Bool.and_eq_true] at h
      exact readsWritten_dict hstyle (readsWritten_of_entriesFit hstyle es h.2)

theorem readsWritten_of_allFit (hstyle : style.IsSpaced) {room : Nat} :
    ∀ vs : List Value, allFit room vs = true → ∀ v ∈ vs, ReadsWritten d style room v
  | [], _ => List.forall_mem_nil _
  | v :: vs, h => by
    rw [allFit, Bool.and_eq_true] at h
    exact List.forall_mem_cons.mpr
      ⟨readsWritten_of_fits hstyle v h.1, readsWritten_of_allFit hstyle vs h.2⟩

theorem readsWritten_of_entriesFit (hstyle : style.IsSpaced) {room : Nat} :
    ∀ es : List (Scalar × Value), entriesFit room es = true →
      ∀ e ∈ es, (∃ t, e.1 = .text t) ∧ ReadsWritten d style room e.2
  | [], _ => List.forall_mem_nil _
  | (.text t, v) :: es, h => by
    rw [entriesFit, Bool.and_eq_true] at h
    exact List.forall_mem_cons.mpr
      ⟨⟨⟨t, rfl⟩, readsWritten_of_fits hstyle v h.1⟩, readsWritten_of_entriesFit hstyle es h.2⟩
end

/-- A document is read from its written form. -/
theorem read_write (hstyle : style.IsSpaced) (h : fits d.depth v = true) :
    read d (write style v) = .ok v := by
  have hread := readsWritten_of_fits (d := d) hstyle v h 0 0 [] [] (by omega)
    (List.forall_mem_nil _)
  rw [List.nil_append, List.append_nil] at hread
  obtain ⟨hr, hv⟩ := hread
  rw [read, write, hv]
  rfl

/-! ### Carriage returns

None is written, so that the text of a document survives in a file. -/

theorem return_notMem_writtenChar (c : Char) : '\r' ∉ writtenChar c := by
  have hdigits : ∀ n < 32, '\r' ∉ hexDigits 4 n := by decide
  unfold writtenChar
  iterate 7
    split
    · decide
  split
  · next h => simpa using hdigits c.toNat h
  · next h =>
    rw [List.mem_singleton]
    rintro rfl
    exact h (by decide)

theorem return_notMem_writeText (s : String) : '\r' ∉ (writeText s).toList := by
  simp only [toList_writeText, List.mem_cons, List.mem_append, List.mem_flatMap, not_or,
    not_exists, not_and]
  exact ⟨by decide, fun c _ => return_notMem_writtenChar c, by decide⟩

theorem return_notMem_lead (n : Nat) : '\r' ∉ (indented.lead n).toList := by
  simp only [indented, String.toList_ofList, List.mem_cons, List.mem_replicate, not_or, not_and]
  exact ⟨by decide, fun _ => by decide⟩

theorem return_notMem_bracketed {k : Nat} {opening closing : String} {items : List String}
    (hopening : '\r' ∉ opening.toList) (hclosing : '\r' ∉ closing.toList)
    (hitems : ∀ item ∈ items, '\r' ∉ item.toList) :
    '\r' ∉ (bracketed indented k opening closing items).toList := by
  have hjoined : '\r' ∉ (",".intercalate (items.map (indented.lead (k + 1) ++ ·))).toList := by
    induction items with
    | nil => exact (by decide : '\r' ∉ "".toList)
    | cons item items ih =>
      obtain ⟨hitem, hitems⟩ := List.forall_mem_cons.mp hitems
      cases items with
      | nil =>
        rw [toList_intercalate_single, List.mem_append, not_or]
        exact ⟨return_notMem_lead _, hitem⟩
      | cons next items =>
        rw [toList_intercalate_cons]
        simp only [List.mem_append, List.mem_cons, not_or]
        exact ⟨return_notMem_lead _, hitem, by decide, ih hitems⟩
  unfold bracketed
  split
  · rw [String.toList_append, List.mem_append, not_or]
    exact ⟨hopening, hclosing⟩
  · simp only [String.toList_append, List.mem_append, not_or]
    exact ⟨⟨⟨hopening, hjoined⟩, return_notMem_lead k⟩, hclosing⟩

mutual
theorem return_notMem_writeAt {room : Nat} :
    ∀ (v : Value) (k : Nat), fits room v = true → '\r' ∉ (writeAt indented k v).toList
  | .null, _, _ => (by decide : '\r' ∉ "null".toList)
  | .bool true, _, _ => (by decide : '\r' ∉ "true".toList)
  | .bool false, _, _ => (by decide : '\r' ∉ "false".toList)
  | .text s, _, _ => return_notMem_writeText s
  | .list vs, k, h => by
    rw [fits, Bool.and_eq_true] at h
    exact return_notMem_bracketed (by decide) (by decide) (return_notMem_writeAll vs k h.2)
  | .dict es, k, h => by
    rw [fits, Bool.and_eq_true] at h
    exact return_notMem_bracketed (by decide) (by decide) (return_notMem_writeEntries es k h.2)

theorem return_notMem_writeAll {room : Nat} : ∀ (vs : List Value) (k : Nat),
    allFit room vs = true → ∀ item ∈ writeAll indented k vs, '\r' ∉ item.toList
  | [], _, _ => List.forall_mem_nil _
  | v :: vs, k, h => by
    rw [allFit, Bool.and_eq_true] at h
    exact List.forall_mem_cons.mpr
      ⟨return_notMem_writeAt v (k + 1) h.1, return_notMem_writeAll vs k h.2⟩

theorem return_notMem_writeEntries {room : Nat} : ∀ (es : List (Scalar × Value)) (k : Nat),
    entriesFit room es = true → ∀ item ∈ writeEntries indented k es, '\r' ∉ item.toList
  | [], _, _ => List.forall_mem_nil _
  | (.text t, v) :: es, k, h => by
    rw [entriesFit, Bool.and_eq_true] at h
    refine List.forall_mem_cons.mpr ⟨?_, return_notMem_writeEntries es k h.2⟩
    simp only [String.toList_append, List.mem_append, not_or]
    exact ⟨⟨return_notMem_writeText t, by decide⟩, return_notMem_writeAt v (k + 1) h.1⟩
end

end Scaffold.Json
