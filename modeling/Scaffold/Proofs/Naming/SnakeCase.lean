import Scaffold.Proofs.Naming.Identifier
import Scaffold.Proofs.Text.Runs

/-! Snake case.  Capitals are marked in two passes, and a word that the first one marks is passed
over whole; what it misses in this way the second one marks, so that both come to one pass which
looks at each place for itself.  An identifier is given underscores and lower case, and nothing
else happens to it. -/
namespace Scaffold.Naming

open Text

variable {c u : Char} {cs rest : List Char} {s : String}

/-! ### The two passes as one -/

/-- Whether a word begins behind a character: with a capital that small letters follow on the same
line, or with any capital behind a small letter or a digit. -/
def opensWord (c : Char) : List Char → Bool
  | [] => false
  | u :: rest =>
    u.isUpper && (isSlugChar c || (c != '\n' && rest.head?.any Char.isLower))

/-- Puts an underscore before each word but the first one. -/
def markWords : List Char → List Char
  | [] => []
  | c :: rest => if opensWord c rest then c :: '_' :: markWords rest else c :: markWords rest

theorem head?_markHumps (cs : List Char) : (markHumps cs).head? = cs.head? := by
  fun_cases markHumps cs <;> rfl

theorem markEdges_cons (c : Char) (cs : List Char) : markEdges (c :: cs) =
    if isSlugChar c && cs.head?.any Char.isUpper then c :: '_' :: markEdges cs
    else c :: markEdges cs := by
  cases cs with
  | nil => simp [markEdges]
  | cons u rest => simp [markEdges, isSlugChar]

/-- Behind small letters the second pass marks just the places where a word begins. -/
theorem markEdges_append {run : List Char} (hrun : ∀ c ∈ run, c.isLower = true)
    (h : markEdges (markHumps rest) = markWords rest) :
    markEdges (run ++ markHumps rest) = markWords (run ++ rest) := by
  induction run with
  | nil => exact h
  | cons c run ih =>
    obtain ⟨hc, hrun⟩ := List.forall_mem_cons.mp hrun
    have hhead : (run ++ markHumps rest).head? = (run ++ rest).head? := by
      rw [List.head?_append, List.head?_append, head?_markHumps]
    have hsmall : isSlugChar c = true := isSlugChar_of_isLower hc
    have hopens : opensWord c (run ++ rest) = (run ++ rest).head?.any Char.isUpper := by
      cases run ++ rest <;> simp [opensWord, hsmall]
    rw [List.cons_append, List.cons_append, markEdges_cons, markWords, ih hrun, hhead, hopens,
      hsmall, Bool.true_and]

/-- The two passes mark the places where words begin, each for itself. -/
theorem markEdges_markHumps (cs : List Char) : markEdges (markHumps cs) = markWords cs := by
  fun_induction markHumps cs with
  | case1 => rfl
  | case2 c => rfl
  | case3 c u rest h ih =>
    obtain ⟨hc, hu, hrest⟩ := h
    have hopens : opensWord c (u :: rest) = true := by simp [opensWord, hc, hu, hrest]
    -- The capital is followed by a small letter, so that no word begins right behind it.
    have hcloses : opensWord u rest = false := by
      cases rest with
      | nil => rfl
      | cons d rest =>
        have hd : d.isLower = true := by simpa using hrest
        simp [opensWord, isUpper_of_isSlugChar (isSlugChar_of_isLower hd)]
    have hsmall : ∀ d ∈ rest.takeWhile Char.isLower, d.isLower = true :=
      fun d hd => List.mem_takeWhile_imp hd
    have htail := markEdges_append hsmall ih
    rw [List.takeWhile_append_dropWhile] at htail
    rw [markWords, if_pos hopens, markWords, hcloses, ← htail, markEdges_cons, markEdges_cons,
      markEdges_cons, isSlugChar_of_isUpper hu]
    simp [show isSlugChar '_' = false by decide]
  | case4 c u rest h ih =>
    have hopens : opensWord c (u :: rest) = (isSlugChar c && u.isUpper) := by
      cases hu : u.isUpper <;> cases hl : rest.head?.any Char.isLower <;>
        by_cases hc : c = '\n' <;> simp_all [opensWord]
    rw [markEdges_cons, markWords, ih, head?_markHumps, hopens]
    rfl

/-! ### What marking adds -/

theorem head?_markWords (cs : List Char) : (markWords cs).head? = cs.head? := by
  cases cs with
  | nil => rfl
  | cons c rest =>
    rw [markWords]
    split <;> rfl

theorem sublist_markWords (cs : List Char) : cs.Sublist (markWords cs) := by
  induction cs with
  | nil => exact .slnil
  | cons c rest ih =>
    rw [markWords]
    split
    · exact (ih.cons '_').cons_cons c
    · exact ih.cons_cons c

theorem filter_markWords (cs : List Char) :
    (markWords cs).filter (· ≠ '_') = cs.filter (· ≠ '_') := by
  induction cs with
  | nil => rfl
  | cons c rest ih =>
    rw [markWords]
    split
    · simp only [List.filter_cons, ih]
      rfl
    · rw [List.filter_cons, List.filter_cons, ih]

theorem eq_or_mem_of_mem_markWords (h : c ∈ markWords cs) : c = '_' ∨ c ∈ cs := by
  by_cases hc : c = '_'
  · exact .inl hc
  · have hmem : c ∈ (markWords cs).filter (· ≠ '_') := List.mem_filter.mpr ⟨h, by simpa using hc⟩
    rw [filter_markWords] at hmem
    exact .inr (List.mem_filter.mp hmem).1

/-- Without capitals but the first character there is nothing to mark. -/
theorem markWords_of_not_isUpper (h : ∀ d ∈ cs, d.isUpper = false) :
    markWords (c :: cs) = c :: cs := by
  induction cs generalizing c with
  | nil => rfl
  | cons d cs ih =>
    obtain ⟨hd, hcs⟩ := List.forall_mem_cons.mp h
    have hcloses : opensWord c (d :: cs) = false := by simp [opensWord, hd]
    rw [markWords, hcloses, ih hcs]
    rfl

theorem markWords_eq_self (h : ∀ d ∈ cs, d.isUpper = false) : markWords cs = cs := by
  cases cs with
  | nil => rfl
  | cons c cs => exact markWords_of_not_isUpper fun d hd => h d (List.mem_cons_of_mem c hd)

/-- Behind a run of small letters and digits a capital begins a word. -/
theorem markWords_append {run : List Char} (hne : run ≠ [])
    (hrun : ∀ d ∈ run, isSlugChar d = true) (hu : u.isUpper = true) :
    markWords (run ++ u :: rest) = run ++ '_' :: markWords (u :: rest) := by
  induction run with
  | nil => exact absurd rfl hne
  | cons c run ih =>
    obtain ⟨hc, hrun⟩ := List.forall_mem_cons.mp hrun
    cases run with
    | nil =>
      have hopens : opensWord c (u :: rest) = true := by simp [opensWord, hu, hc]
      rw [List.cons_append, List.nil_append, markWords, if_pos hopens]
      rfl
    | cons d run =>
      have hd : d.isUpper = false := isUpper_of_isSlugChar (hrun d List.mem_cons_self)
      have hcloses : opensWord c (d :: run ++ u :: rest) = false := by simp [opensWord, hd]
      rw [List.cons_append, markWords, hcloses, ih (List.cons_ne_nil d run) hrun]
      rfl

/-! ### Identifiers in snake case -/

theorem isSpacer_of_isNameRest (h : isNameRest c = true) : isSpacer c = false := by
  have hhyphen : c ≠ '-' := by
    rintro rfl
    revert h
    decide
  rw [isSpacer, Expression.isBlank_of_isNameRest h, Bool.or_false, beq_eq_false_iff_ne]
  exact hhyphen

theorem isNameRest_of_mem_markWords (h : ∀ c ∈ cs, isNameRest c = true) :
    ∀ c ∈ markWords cs, isNameRest c = true := by
  intro c hc
  rcases eq_or_mem_of_mem_markWords hc with rfl | hmem
  · decide
  · exact h c hmem

theorem snakeCase_eq_map (h : ∀ c ∈ cs, isNameRest c = true) :
    snakeCase cs = (markWords cs).map Char.toLower := by
  have hmarked := isNameRest_of_mem_markWords h
  rw [snakeCase, markEdges_markHumps,
    squeeze_of_kept fun c hc => isSpacer_of_isNameRest (hmarked c hc),
    lower_of_ascii fun c hc => toNat_lt_of_isNameRest (hmarked c hc)]

theorem snakeCase_of_not_isUpper (h : ∀ c ∈ cs, isNameRest c = true)
    (hcs : ∀ c ∈ cs, c.isUpper = false) : snakeCase cs = cs := by
  rw [snakeCase_eq_map h, markWords_eq_self hcs,
    List.map_congr_left fun c hc => toLower_of_not_isUpper (hcs c hc), List.map_id']

/-- Lower case leaves underscores, and makes no others. -/
theorem toLower_eq_underscore_iff (c : Char) : c.toLower = '_' ↔ c = '_' := by
  cases hc : c.isUpper with
  | false => rw [toLower_of_not_isUpper hc]
  | true =>
    have hall : ∀ n < 128, (Char.ofNat n).toLower = '_' ↔ Char.ofNat n = '_' := by decide
    exact forall_ascii (p := fun c => c.toLower = '_' ↔ c = '_') hall (toNat_lt_of_isUpper hc)

theorem filter_map_toLower (cs : List Char) :
    (cs.map Char.toLower).filter (· ≠ '_') = (cs.filter (· ≠ '_')).map Char.toLower := by
  rw [List.filter_map]
  congr 1
  refine List.filter_congr fun c _ => ?_
  simp [toLower_eq_underscore_iff]

/-- An identifier in snake case is an identifier without capitals, which is left as it is by a
second time.  It is the identifier in lower case with some underscores put in. -/
theorem snakeCase_of_isCIdentifier (h : IsCIdentifier s) :
    IsCIdentifier (String.ofList (snakeCase s.toList)) ∧
      (∀ c ∈ snakeCase s.toList, c.isUpper = false) ∧
      (lower s.toList).Sublist (snakeCase s.toList) ∧
      (snakeCase s.toList).filter (· ≠ '_') = (lower s.toList).filter (· ≠ '_') ∧
      snakeCase (snakeCase s.toList) = snakeCase s.toList := by
  obtain ⟨c, cs, hs, hc, hcs⟩ := isCIdentifier_iff.mp h
  have hname : ∀ d ∈ s.toList, isNameRest d = true := by
    rw [hs]
    exact List.forall_mem_cons.mpr ⟨Expression.isNameRest_of_isNameStart hc, hcs⟩
  have hsnake := snakeCase_eq_map hname
  have hlower := lower_of_ascii fun d hd => toNat_lt_of_isNameRest (hname d hd)
  have hrest : ∀ d ∈ snakeCase s.toList, isNameRest d = true := by
    rw [hsnake, List.forall_mem_map]
    exact fun d hd => isNameRest_toLower (isNameRest_of_mem_markWords hname d hd)
  have hsmall : ∀ d ∈ snakeCase s.toList, d.isUpper = false := by
    rw [hsnake, List.forall_mem_map]
    exact fun d _ => isUpper_toLower d
  refine ⟨?_, hsmall, ?_, ?_, snakeCase_of_not_isUpper hrest hsmall⟩
  · have hhead : (snakeCase s.toList).head? = some c.toLower := by
      rw [hsnake, List.head?_map, head?_markWords, hs]
      rfl
    obtain ⟨tail, htail⟩ := List.head?_eq_some_iff.mp hhead
    refine isCIdentifier_iff.mpr ⟨c.toLower, tail, ?_, isNameStart_toLower hc, ?_⟩
    · rw [String.toList_ofList, htail]
    · exact fun d hd => hrest d (htail ▸ List.mem_cons_of_mem _ hd)
  · rw [hsnake, hlower]
    exact (sublist_markWords s.toList).map Char.toLower
  · rw [hsnake, hlower, filter_map_toLower, filter_markWords, filter_map_toLower]

/-- Runs of capitals and digits on both sides of small letters. -/
theorem snakeCase_of_isCIdentifier_mixed :
    IsCIdentifier "_HTTPServer2Go__X" ∧
      snakeCase "_HTTPServer2Go__X".toList = "_http_server2_go__x".toList ∧
      IsCIdentifier "_http_server2_go__x" ∧
      snakeCase "_http_server2_go__x".toList = "_http_server2_go__x".toList := by
  have hname : IsCIdentifier "_HTTPServer2Go__X" :=
    isCIdentifier_iff.mpr ⟨_, _, rfl, by decide, List.all_eq_true.mp (by decide)⟩
  obtain ⟨hidentifier, -, -, -, hagain⟩ := snakeCase_of_isCIdentifier hname
  have hsnake : snakeCase "_HTTPServer2Go__X".toList = "_http_server2_go__x".toList := by
    rw [snakeCase_eq_map (List.all_eq_true.mp (by decide))]
    decide
  rw [hsnake] at hidentifier hagain
  exact ⟨hname, hsnake, hidentifier, hagain⟩

end Scaffold.Naming
