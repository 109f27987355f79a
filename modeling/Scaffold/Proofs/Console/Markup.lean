import Mathlib.Data.List.TakeWhile
import Scaffold.Console.Notice
import Scaffold.Proofs.Computation

/-! What a terminal always shows: text without brackets, on its own, in a style or in a table. -/
namespace Scaffold.Console

open Text

variable {cs style later : List Char} {text title : String} {rows rows' : List (String × String)}

/-! ### Tags of styles -/

/-- The words of a style can be opened by a tag, and closed by the same words behind a slash. -/
structure IsStyle (style : List Char) : Prop where
  start : style.head?.any (fun c => isTagStart c && c != '/') = true
  brackets : ∀ c ∈ style, c ≠ '[' ∧ c ≠ ']' ∧ c ≠ '='
  words : allBlank style = false ∧ trim style = style
  name : nameOf style = .ok style

instance (style : List Char) : Decidable (IsStyle style) :=
  have : Decidable (∀ c ∈ style, c ≠ '[' ∧ c ≠ ']' ∧ c ≠ '=') := List.decidableBAll _ _
  decidable_of_iff (style.head?.any (fun c => isTagStart c && c != '/') = true ∧
    (∀ c ∈ style, c ≠ '[' ∧ c ≠ ']' ∧ c ≠ '=') ∧ (allBlank style = false ∧ trim style = style) ∧
      nameOf style = .ok style)
    ⟨fun ⟨h₁, h₂, h₃, h₄⟩ => ⟨h₁, h₂, h₃, h₄⟩, fun ⟨h₁, h₂, h₃, h₄⟩ => ⟨h₁, h₂, h₃, h₄⟩⟩

theorem toBracket?_append (h : ∀ c ∈ cs, c ≠ '[' ∧ c ≠ ']') :
    toBracket? (cs ++ ']' :: later) = some (cs, later) := by
  induction cs with
  | nil => rfl
  | cons c cs ih =>
    obtain ⟨⟨hopen, hclose⟩, hcs⟩ := List.forall_mem_cons.mp h
    rw [List.cons_append, toBracket?, if_neg hclose, if_neg hopen, ih hcs]
    rfl

theorem ofBody_of_plain (h : ∀ c ∈ cs, c ≠ '=') : OpenTag.ofBody cs = ⟨cs, none⟩ := by
  have hplain : ∀ c ∈ cs, (c != '=') = true := fun c hc => bne_iff_ne.mpr (h c hc)
  rw [OpenTag.ofBody, List.takeWhile_eq_self_iff.mpr hplain, List.dropWhile_eq_nil_iff.mpr hplain]

namespace IsStyle

variable (h : IsStyle style)
include h

theorem tag?_opening : tag? (style ++ ']' :: later) = some (style, later) := by
  obtain ⟨c, cs, rfl⟩ : ∃ c cs, style = c :: cs := by
    cases style with
    | nil => cases h.start
    | cons c cs => exact ⟨c, cs, rfl⟩
  have hstart := h.start
  simp only [List.head?_cons, Option.any_some, Bool.and_eq_true] at hstart
  obtain ⟨-, hcs⟩ := List.forall_mem_cons.mp h.brackets
  rw [List.cons_append, tag?, if_pos hstart.1,
    toBracket?_append fun c hc => ⟨(hcs c hc).1, (hcs c hc).2.1⟩]
  rfl

theorem tag?_closing : tag? ('/' :: (style ++ ']' :: later)) = some ('/' :: style, later) := by
  rw [tag?, if_pos (by decide),
    toBracket?_append fun c hc => ⟨(h.brackets c hc).1, (h.brackets c hc).2.1⟩]
  rfl

theorem afterTag_opening (position : Nat) :
    afterTag [] style position = .ok [⟨style, none⟩] := by
  have hbody := ofBody_of_plain fun c hc => (h.brackets c hc).2.2
  have hslash : ∀ rest, style ≠ '/' :: rest := by
    rintro rest rfl
    have hstart := h.start
    simp at hstart
  unfold afterTag
  rw [hbody]
  dsimp only
  split
  · exact absurd rfl (hslash _)
  · rw [h.name]
    rfl

theorem afterTag_closing (position : Nat) :
    afterTag [⟨style, none⟩] ('/' :: style) position = .ok [] := by
  have hbody : OpenTag.ofBody ('/' :: style) = ⟨'/' :: style, none⟩ :=
    ofBody_of_plain (List.forall_mem_cons.mpr ⟨by decide, fun c hc => (h.brackets c hc).2.2⟩)
  have hclose : (⟨style, none⟩ : OpenTag).close = .ok () := by
    unfold OpenTag.close
    split
    · next hnone => cases hnone
    · rfl
  simp [afterTag, hbody, h.words, h.name, hclose, bind, Except.bind, Except.map]

end IsStyle

/-! ### Texts without brackets -/

/-- Text without brackets becomes a part of what stands behind it. -/
theorem exists_markPieces_append (h : '[' ∉ cs) (later : List Char) (position slashes : Nat)
    (run : List Char) : ∃ position' slashes' run', markPieces position slashes run (cs ++ later) =
      markPieces position' slashes' run' later := by
  induction cs generalizing position slashes run with
  | nil => exact ⟨_, _, _, rfl⟩
  | cons c cs ih =>
    simp only [List.mem_cons, not_or] at h
    rw [List.cons_append, markPieces]
    split
    · exact ih h.2 _ _ _
    · rw [if_neg (Ne.symm h.1)]
      exact ih h.2 _ _ _

theorem exists_plainText (h : '[' ∉ text.toList) : ∃ seen, plainText text = .ok seen := by
  obtain ⟨position, slashes, run, hpieces⟩ := exists_markPieces_append h [] 0 0 []
  rw [List.append_nil] at hpieces
  rw [plainText, hpieces, markPieces]
  exact ⟨_, rfl⟩

theorem markPieces_of_tag? {body : List Char} (h : tag? cs = some (body, later))
    (position slashes : Nat) (run : List Char) :
    markPieces position slashes run ('[' :: cs) =
      .text run.reverse :: .text (backslashes (slashes / 2)) ::
        (if slashes % 2 = 1 then .text ('[' :: body ++ [']']) else .tag body position) ::
          markPieces (position + body.length + 2) 0 [] later := by
  rw [markPieces, if_neg (by decide), if_pos rfl]
  split
  · next hfound =>
    rw [h] at hfound
    cases hfound
    dsimp only
    split <;> rfl
  · next hnone =>
    rw [h] at hnone
    cases hnone

/-- The closing tag closes the style; behind a backslash it is text. -/
theorem IsStyle.exists_unmarked_closing (h : IsStyle style) (position slashes : Nat)
    (run : List Char) : ∃ seen, unmarked [⟨style, none⟩]
      (markPieces position slashes run ('[' :: '/' :: (style ++ [']']))) = .ok seen := by
  rw [markPieces_of_tag? h.tag?_closing, markPieces]
  split
  · exact ⟨_, rfl⟩
  · rw [unmarked, unmarked, unmarked, h.afterTag_closing]
    exact ⟨_, rfl⟩

/-- Text without brackets is shown in every style. -/
theorem exists_plainText_styled {style : String} (h : IsStyle style.toList)
    (htext : '[' ∉ text.toList) : ∃ seen, plainText (styled style text) = .ok seen := by
  have hchars : (styled style text).toList = '[' :: (style.toList ++
      ']' :: (text.toList ++ '[' :: '/' :: (style.toList ++ [']']))) := by
    simp [styled]
  obtain ⟨position, slashes, run, hpieces⟩ := exists_markPieces_append htext
    ('[' :: '/' :: (style.toList ++ [']'])) (0 + style.toList.length + 2) 0 []
  obtain ⟨seen, hclosing⟩ := h.exists_unmarked_closing position slashes run
  rw [plainText, hchars, markPieces_of_tag? h.tag?_opening, hpieces, if_neg (by decide), unmarked,
    unmarked, unmarked, h.afterTag_opening]
  change ∃ seen, Except.map _ (Except.map _ (unmarked [⟨style.toList, none⟩] _)) = .ok seen
  rw [hclosing]
  exact ⟨_, rfl⟩

/-! ### Screens -/

theorem terminal_eq_ok_iff {notice : Notice} :
    Screen.terminal notice = .ok () ↔ ∃ shown, notice.printed = .ok shown := by
  unfold Screen.terminal
  cases notice.printed with
  | error fault => simp [Except.map]
  | ok shown => simp [Except.map]

theorem exists_printed_table_iff : (∃ shown, (Notice.table title rows).printed = .ok shown) ↔
    (∀ row ∈ rows, ∃ seen, plainText row.1 = .ok seen) ∧
      (∀ row ∈ rows, ∃ seen, plainText row.2 = .ok seen) ∧ ∃ seen, plainText title = .ok seen := by
  rw [← exists_mapM_eq_ok_iff, ← exists_mapM_eq_ok_iff, Notice.printed, printTable]
  cases rows.mapM fun row => plainText row.1 with
  | error fault => simp [bind, Except.bind, Except.map]
  | ok files =>
    cases rows.mapM fun row => plainText row.2 with
    | error fault => simp [bind, Except.bind, Except.map]
    | ok statuses =>
      cases plainText title with
      | error fault => simp [bind, Except.bind, Except.map]
      | ok titled => simp [bind, Except.bind, Except.map, pure, Except.pure]

/-- The texts that a notice is made of. -/
def Notice.texts : Notice → List String
  | .header title => [" " ++ title ++ " "]
  | .success text => [text]
  | .warning text => [text]
  | .error text => [text]
  | .line text => [text]
  | .table title rows => title :: rows.flatMap fun row => [row.1, row.2]

/-- A terminal shows every notice without brackets. -/
theorem terminal_of_plain {notice : Notice} (h : ∀ text ∈ notice.texts, '[' ∉ text.toList) :
    Screen.terminal notice = .ok () := by
  have hstyled {style text : String} (hstyle : IsStyle style.toList) (htext : '[' ∉ text.toList) :
      ∃ shown, (printText (styled style text)).map String.ofList = .ok shown := by
    obtain ⟨seen, hseen⟩ := exists_plainText_styled hstyle htext
    rw [printText, hseen]
    exact ⟨_, rfl⟩
  rw [terminal_eq_ok_iff]
  cases notice with
  | header title =>
    have hstyle : IsStyle "bold bright_cyan".toList := by decide +kernel
    obtain ⟨seen, hseen⟩ := exists_plainText_styled hstyle (h _ List.mem_cons_self)
    rw [Notice.printed, printHeader, hseen]
    exact ⟨_, rfl⟩
  | success text =>
    have hstyle : IsStyle "bold green".toList := by decide +kernel
    exact hstyled hstyle (h _ List.mem_cons_self)
  | warning text =>
    have hstyle : IsStyle "bold yellow".toList := by decide +kernel
    exact hstyled hstyle (h _ List.mem_cons_self)
  | error text =>
    have hstyle : IsStyle "bold red".toList := by decide +kernel
    exact hstyled hstyle (h _ List.mem_cons_self)
  | line text =>
    obtain ⟨seen, hseen⟩ := exists_plainText (h _ List.mem_cons_self)
    rw [Notice.printed, printText, hseen]
    exact ⟨_, rfl⟩
  | table title rows =>
    obtain ⟨htitle, hrows⟩ := List.forall_mem_cons.mp h
    rw [List.forall_mem_flatMap] at hrows
    rw [exists_printed_table_iff]
    refine ⟨fun row hrow => exists_plainText (hrows row hrow _ ?_),
      fun row hrow => exists_plainText (hrows row hrow _ ?_), exists_plainText htitle⟩ <;> simp

/-- A screen that shows a table with other words beside its files, and a success told in words. -/
structure Screen.ShowsWords (screen : Screen) : Prop where
  table {title : String} {rows rows' : List (String × String)} :
    screen (.table title rows) = .ok () → rows'.map (·.1) = rows.map (·.1) →
      (∀ row ∈ rows', '[' ∉ row.2.toList) → screen (.table title rows') = .ok ()
  success {text : String} : '[' ∉ text.toList → screen (.success text) = .ok ()

theorem Screen.showsWords_terminal : Screen.terminal.ShowsWords where
  table {title rows rows'} h hfiles hwords := by
    rw [terminal_eq_ok_iff, exists_printed_table_iff] at h ⊢
    refine ⟨fun row hrow => ?_, fun row hrow => exists_plainText (hwords row hrow), h.2.2⟩
    have hmem : row.1 ∈ rows.map (·.1) := hfiles ▸ List.mem_map_of_mem hrow
    obtain ⟨row', hrow', heq⟩ := List.mem_map.mp hmem
    rw [← heq]
    exact h.1 row' hrow'
  success h := terminal_of_plain (List.forall_mem_singleton.mpr h)

end Scaffold.Console
