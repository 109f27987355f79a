import Scaffold.Proofs.Naming.Slug
import Scaffold.Proofs.Naming.SnakeCase

/-! Names made of words.  The words of a name can be told apart in each of its spellings: between
underscores, between hyphens, and by their capitals. -/
namespace Scaffold.Naming

open Text

variable {c : Char} {w run : List Char} {words : List (List Char)}

/-- A word of a name: a small letter, and at least one more small letter or digit. -/
def IsWord (w : List Char) : Prop :=
  ∃ c run, w = c :: run ∧ c.isLower = true ∧ run ≠ [] ∧
    ∀ d ∈ run, d.isLower = true ∨ d.isDigit = true

theorem isWord_iff : IsWord w ↔ ∃ c run, w = c :: run ∧ c.isLower = true ∧ run ≠ [] ∧
    ∀ d ∈ run, isSlugChar d = true := by
  simp only [IsWord, isSlugChar, Bool.or_eq_true]

theorem areRuns_of_isWord (h : ∀ w ∈ words, IsWord w) : AreRuns isSlugChar words := by
  intro w hw
  obtain ⟨c, run, rfl, hc, -, hrun⟩ := isWord_iff.mp (h w hw)
  exact ⟨List.cons_ne_nil c run, List.forall_mem_cons.mpr ⟨isSlugChar_of_isLower hc, hrun⟩⟩

theorem isWordBreak_of_isSlugChar (h : isSlugChar c = true) : isWordBreak c = false := by
  have hne (d : Char) (hd : isSlugChar d = false) : c ≠ d := by
    rintro rfl
    simp [h] at hd
  have hblank := Expression.isBlank_of_isNameRest (isNameRest_of_isSlugChar h)
  simp [isWordBreak, hblank, hne '-' (by decide), hne '_' (by decide)]

/-! ### Capitals -/

theorem isUpper_toUpper (h : c.isLower = true) : c.toUpper.isUpper = true := by
  have hall : ∀ n < 128, (Char.ofNat n).isLower = true →
      (Char.ofNat n).toUpper.isUpper = true := by
    decide
  exact forall_ascii (p := fun c => c.isLower = true → c.toUpper.isUpper = true) hall
    (toNat_lt_of_isSlugChar (isSlugChar_of_isLower h)) h

theorem toLower_toUpper (h : c.isLower = true) : c.toUpper.toLower = c := by
  have hall : ∀ n < 128, (Char.ofNat n).isLower = true →
      (Char.ofNat n).toUpper.toLower = Char.ofNat n := by
    decide
  exact forall_ascii (p := fun c => c.isLower = true → c.toUpper.toLower = c) hall
    (toNat_lt_of_isSlugChar (isSlugChar_of_isLower h)) h

theorem isNameRest_of_isUpper (h : c.isUpper = true) : isNameRest c = true :=
  isNameRest_of_isAlpha (Bool.or_eq_true_iff.mpr (.inl h))

theorem capitalize_cons (h : c.isLower = true) (run : List Char) :
    capitalize (c :: run) = c.toUpper :: run := by
  rw [capitalize, upperChar_of_ascii (toNat_lt_of_isSlugChar (isSlugChar_of_isLower h))]
  rfl

/-- A name with capitals has its words between the characters that break them. -/
theorem pascalCase_intercalate (h : ∀ w ∈ words, IsWord w) {mark : Char}
    (hmark : isWordBreak mark = true) :
    pascalCase ([mark].intercalate words) = words.flatMap capitalize := by
  have hruns : AreRuns (!isWordBreak ·) words :=
    (areRuns_of_isWord h).mono fun c hc => by simp [isWordBreak_of_isSlugChar hc]
  rw [pascalCase, runsOf_intercalate (by simp [hmark]) hruns]

theorem camelCase_intercalate (hw : IsWord w) (h : ∀ w ∈ words, IsWord w) {mark : Char}
    (hmark : isWordBreak mark = true) :
    camelCase ([mark].intercalate (w :: words)) = w ++ words.flatMap capitalize := by
  have hpascal := pascalCase_intercalate (List.forall_mem_cons.mpr ⟨hw, h⟩) hmark
  obtain ⟨c, run, rfl, hc, -, -⟩ := isWord_iff.mp hw
  have hascii : ∀ d ∈ [c.toUpper], d.toNat < 128 := by
    simpa using toNat_lt_of_isUpper (isUpper_toUpper hc)
  have hfirst : lowerAlone c.toUpper = [c] := by
    rw [lowerAlone, lower_of_ascii hascii, List.map_singleton, toLower_toUpper hc]
  rw [camelCase, hpascal, List.flatMap_cons, capitalize_cons hc]
  dsimp only [List.cons_append]
  rw [hfirst]
  rfl

/-! ### Words from capitals -/

theorem isNameRest_of_mem_flatMap (h : ∀ w ∈ words, IsWord w) :
    ∀ c ∈ words.flatMap capitalize, isNameRest c = true := by
  intro d hd
  obtain ⟨w, hw, hmem⟩ := List.mem_flatMap.mp hd
  obtain ⟨c, run, rfl, hc, -, hrun⟩ := isWord_iff.mp (h w hw)
  rw [capitalize_cons hc, List.mem_cons] at hmem
  rcases hmem with rfl | hmem
  · exact isNameRest_of_isUpper (isUpper_toUpper hc)
  · exact isNameRest_of_isSlugChar (hrun d hmem)

theorem map_toLower_of_isSlugChar (h : ∀ c ∈ run, isSlugChar c = true) :
    run.map Char.toLower = run := by
  rw [List.map_congr_left fun c hc => toLower_of_not_isUpper (isUpper_of_isSlugChar (h c hc)),
    List.map_id']

/-- Words with capitals are marked where they begin, but for the first one. -/
theorem map_markWords_flatMap (c : Char) (hne : run ≠ []) (hrun : ∀ d ∈ run, isSlugChar d = true)
    (h : ∀ w ∈ words, IsWord w) :
    (markWords (c :: (run ++ words.flatMap capitalize))).map Char.toLower =
      ['_'].intercalate ((c.toLower :: run) :: words) := by
  induction words generalizing c run with
  | nil =>
    rw [List.flatMap_nil, List.append_nil,
      markWords_of_not_isUpper fun d hd => isUpper_of_isSlugChar (hrun d hd), List.map_cons,
      map_toLower_of_isSlugChar hrun, List.intercalate_singleton]
  | cons w words ih =>
    obtain ⟨hw, hwords⟩ := List.forall_mem_cons.mp h
    obtain ⟨d, next, rfl, hd, hnext, hslug⟩ := isWord_iff.mp hw
    have hcloses : opensWord c (run ++ (d.toUpper :: next ++ words.flatMap capitalize)) = false := by
      cases run with
      | nil => exact absurd rfl hne
      | cons e run => simp [opensWord, isUpper_of_isSlugChar (hrun e List.mem_cons_self)]
    have hmark : markWords (run ++ d.toUpper :: (next ++ words.flatMap capitalize)) =
        run ++ '_' :: markWords (d.toUpper :: (next ++ words.flatMap capitalize)) :=
      markWords_append hne hrun (isUpper_toUpper hd)
    rw [List.flatMap_cons, capitalize_cons hd, markWords, hcloses, if_neg Bool.false_ne_true,
      List.cons_append, hmark, List.map_cons, List.map_append, map_toLower_of_isSlugChar hrun,
      List.map_cons, ih d.toUpper hnext hslug hwords, toLower_toUpper hd,
      List.intercalate_cons_cons, List.append_assoc]
    rfl

/-- The words are found again behind a capital and behind a small letter. -/
theorem snakeCase_flatMap (hw : IsWord w) (h : ∀ w ∈ words, IsWord w) :
    snakeCase ((w :: words).flatMap capitalize) = ['_'].intercalate (w :: words) ∧
      snakeCase (w ++ words.flatMap capitalize) = ['_'].intercalate (w :: words) := by
  have hname := isNameRest_of_mem_flatMap h
  obtain ⟨c, run, rfl, hc, hne, hrun⟩ := isWord_iff.mp hw
  have hword : ∀ d ∈ run ++ words.flatMap capitalize, isNameRest d = true := by
    intro d hd
    rcases List.mem_append.mp hd with hd | hd
    · exact isNameRest_of_isSlugChar (hrun d hd)
    · exact hname d hd
  constructor
  · have hupper := isNameRest_of_isUpper (isUpper_toUpper hc)
    rw [List.flatMap_cons, capitalize_cons hc, List.cons_append,
      snakeCase_eq_map (List.forall_mem_cons.mpr ⟨hupper, hword⟩),
      map_markWords_flatMap _ hne hrun h, toLower_toUpper hc]
  · have hlower := isNameRest_of_isSlugChar (isSlugChar_of_isLower hc)
    rw [List.cons_append, snakeCase_eq_map (List.forall_mem_cons.mpr ⟨hlower, hword⟩),
      map_markWords_flatMap _ hne hrun h,
      toLower_of_not_isUpper (isUpper_of_isSlugChar (isSlugChar_of_isLower hc))]

/-! ### Words between underscores and hyphens -/

theorem snakeCase_intercalate (h : ∀ w ∈ words, IsWord w) {mark : Char}
    (hmark : mark = '_' ∨ mark = '-') :
    snakeCase ([mark].intercalate words) = ['_'].intercalate words := by
  have hruns := areRuns_of_isWord h
  have hspacer : ∀ c, isSlugChar c = true → isSpacer c = false :=
    fun c hc => isSpacer_of_isNameRest (isNameRest_of_isSlugChar hc)
  have hunmarked : markWords ([mark].intercalate words) = [mark].intercalate words := by
    refine markWords_eq_self fun c hc => ?_
    rcases eq_or_keep_of_mem_intercalate hruns hc with rfl | hslug
    · rcases hmark with rfl | rfl <;> decide
    · exact isUpper_of_isSlugChar hslug
  have hsqueezed : squeeze isSpacer '_' false ([mark].intercalate words) =
      ['_'].intercalate words := by
    rcases hmark with rfl | rfl
    · refine squeeze_of_kept (fun c hc => ?_) '_' false
      rcases eq_or_keep_of_mem_intercalate hruns hc with rfl | hslug
      · decide
      · exact hspacer c hslug
    · exact squeeze_intercalate (by decide) (hruns.mono fun c hc => by simp [hspacer c hc]) '_' false
  rw [snakeCase, markEdges_markHumps, hunmarked, hsqueezed,
    lower_intercalate (by decide) (by decide) hruns]

/-- A name is the same with capitals whether its words stand between underscores or hyphens.  In
snake case, whichever of these it is made from, it has its words between underscores again, so that
a name with capitals comes back from its snake case. -/
theorem conversions_of_words (hne : words ≠ []) (h : ∀ w ∈ words, IsWord w) :
    pascalCase (['_'].intercalate words) = pascalCase (['-'].intercalate words) ∧
      camelCase (['_'].intercalate words) = camelCase (['-'].intercalate words) ∧
      snakeCase (pascalCase (['_'].intercalate words)) = ['_'].intercalate words ∧
      snakeCase (camelCase (['_'].intercalate words)) = ['_'].intercalate words ∧
      snakeCase (['-'].intercalate words) = ['_'].intercalate words ∧
      snakeCase (['_'].intercalate words) = ['_'].intercalate words ∧
      ∀ name, name = pascalCase (['_'].intercalate words) ∨
          name = pascalCase (['-'].intercalate words) →
        pascalCase (snakeCase name) = name := by
  have hunderscore : isWordBreak '_' = true := by decide
  have hhyphen : isWordBreak '-' = true := by decide
  have hpascal : pascalCase (['_'].intercalate words) = pascalCase (['-'].intercalate words) := by
    rw [pascalCase_intercalate h hunderscore, pascalCase_intercalate h hhyphen]
  obtain ⟨w, rest, rfl⟩ := List.exists_cons_of_ne_nil hne
  obtain ⟨hw, hrest⟩ := List.forall_mem_cons.mp h
  obtain ⟨hsnakePascal, hsnakeCamel⟩ := snakeCase_flatMap hw hrest
  rw [← pascalCase_intercalate h hunderscore] at hsnakePascal
  rw [← camelCase_intercalate hw hrest hunderscore] at hsnakeCamel
  refine ⟨hpascal, ?_, hsnakePascal, hsnakeCamel, snakeCase_intercalate h (.inr rfl),
    snakeCase_intercalate h (.inl rfl), ?_⟩
  · rw [camelCase_intercalate hw hrest hunderscore, camelCase_intercalate hw hrest hhyphen]
  · rintro name (rfl | rfl)
    · rw [hsnakePascal]
    · rw [← hpascal, hsnakePascal]

/-- Words that end in a small letter or in a digit, one of them of two characters. -/
theorem conversions_of_words_digits :
    (∀ w ∈ ["mk2b".toList, "c3".toList, "nav".toList], IsWord w) ∧
      pascalCase "mk2b-c3-nav".toList = "Mk2bC3Nav".toList ∧
      camelCase "mk2b-c3-nav".toList = "mk2bC3Nav".toList ∧
      snakeCase "Mk2bC3Nav".toList = "mk2b_c3_nav".toList ∧
      snakeCase "mk2bC3Nav".toList = "mk2b_c3_nav".toList ∧
      snakeCase "mk2b-c3-nav".toList = "mk2b_c3_nav".toList := by
  have hfirst : IsWord "mk2b".toList :=
    isWord_iff.mpr ⟨_, _, rfl, by decide, by decide, List.all_eq_true.mp (by decide)⟩
  have hsecond : IsWord "c3".toList :=
    isWord_iff.mpr ⟨_, _, rfl, by decide, by decide, List.all_eq_true.mp (by decide)⟩
  have hthird : IsWord "nav".toList :=
    isWord_iff.mpr ⟨_, _, rfl, by decide, by decide, List.all_eq_true.mp (by decide)⟩
  have hrest : ∀ w ∈ ["c3".toList, "nav".toList], IsWord w := by
    simpa only [List.forall_mem_cons] using ⟨hsecond, hthird, nofun⟩
  have hwords := List.forall_mem_cons.mpr ⟨hfirst, hrest⟩
  have hscores : ['_'].intercalate ["mk2b".toList, "c3".toList, "nav".toList] =
      "mk2b_c3_nav".toList := by
    decide
  have hhyphens : ['-'].intercalate ["mk2b".toList, "c3".toList, "nav".toList] =
      "mk2b-c3-nav".toList := by
    decide
  have hpascal : pascalCase "mk2b-c3-nav".toList = "Mk2bC3Nav".toList := by
    rw [← hhyphens, pascalCase_intercalate hwords (by decide)]
    decide
  have hcamel : camelCase "mk2b-c3-nav".toList = "mk2bC3Nav".toList := by
    rw [← hhyphens, camelCase_intercalate hfirst hrest (by decide)]
    decide
  obtain ⟨hsamePascal, hsameCamel, hsnakePascal, hsnakeCamel, hsnake, -, -⟩ :=
    conversions_of_words (List.cons_ne_nil _ _) hwords
  rw [hsamePascal, hhyphens, hpascal, hscores] at hsnakePascal
  rw [hsameCamel, hhyphens, hcamel, hscores] at hsnakeCamel
  rw [hhyphens, hscores] at hsnake
  exact ⟨hwords, hpascal, hcamel, hsnakePascal, hsnakeCamel, hsnake⟩

end Scaffold.Naming
