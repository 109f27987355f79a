import Mathlib.Data.List.TakeWhile
import Scaffold.Text.Blank
import Scaffold.Text.Split

/-! Texts as runs.  What `runsOf` finds are all the characters that are kept, in order, and no
others.  Squeezing puts one mark between the runs, and stripping takes the marks from the ends. -/
namespace Scaffold.Text

variable {keep drop : Char → Bool} {mark c : Char} {cs run rest lead tail : List Char}
  {runs : List (List Char)}

/-! ### Stripping -/

/-- A text is what is left of it by stripping and what was stripped at the two ends. -/
theorem exists_eq_append_strip (drop : Char → Bool) (cs : List Char) :
    ∃ lead tail, cs = lead ++ strip drop cs ++ tail ∧ lead.all drop = true ∧
      tail.all drop = true := by
  refine ⟨cs.takeWhile drop, ((cs.dropWhile drop).reverse.takeWhile drop).reverse, ?_,
    List.all_takeWhile, ?_⟩
  · rw [strip, List.append_assoc, ← List.reverse_append, List.takeWhile_append_dropWhile,
      List.reverse_reverse, List.takeWhile_append_dropWhile]
  · rw [List.all_reverse]
    exact List.all_takeWhile

/-- A text that neither starts nor ends with what is dropped is found again inside of it. -/
theorem strip_append (hlead : lead.all drop = true) (hfirst : ∀ c ∈ cs.head?, drop c = false)
    (hlast : ∀ c ∈ cs.getLast?, drop c = false) (htail : tail.all drop = true) :
    strip drop (lead ++ (cs ++ tail)) = cs := by
  have hrev : ∀ c ∈ tail.reverse, drop c = true :=
    fun c hc => List.all_eq_true.mp htail c (List.mem_reverse.mp hc)
  rw [strip, List.dropWhile_append_of_pos (List.all_eq_true.mp hlead)]
  rcases List.eq_nil_or_concat cs with rfl | ⟨start, d, rfl⟩
  · rw [List.nil_append, List.dropWhile_eq_nil_iff.mpr (List.all_eq_true.mp htail)]
    rfl
  · rw [List.concat_eq_append] at hfirst hlast ⊢
    have hleft : (start ++ [d] ++ tail).dropWhile drop = start ++ [d] ++ tail := by
      cases start with
      | nil => simp [hfirst d rfl]
      | cons c start => simp [hfirst c rfl]
    rw [hleft, List.reverse_append, List.dropWhile_append_of_pos hrev]
    simp [hlast d (by simp)]

theorem trim_eq_strip (cs : List Char) : trim cs = strip isBlank cs :=
  rfl

/-! ### Runs -/

theorem runsOf_of_dropWhile (h : cs.dropWhile (!keep ·) = c :: rest) :
    runsOf keep cs = (c :: rest.takeWhile keep) :: runsOf keep (rest.dropWhile keep) := by
  rw [runsOf]
  split
  · next hnil => simp [h] at hnil
  · next hcons =>
    rw [h] at hcons
    cases hcons
    rfl

theorem runsOf_eq_nil (h : cs.dropWhile (!keep ·) = []) : runsOf keep cs = [] := by
  rw [runsOf]
  split
  · rfl
  · next hcons => simp [h] at hcons

theorem runsOf_nil (keep : Char → Bool) : runsOf keep [] = [] :=
  runsOf_eq_nil rfl

theorem runsOf_cons_of_not (h : keep c = false) : runsOf keep (c :: cs) = runsOf keep cs := by
  have hskip : (c :: cs).dropWhile (!keep ·) = cs.dropWhile (!keep ·) := by simp [h]
  cases hrest : cs.dropWhile (!keep ·) with
  | nil => rw [runsOf_eq_nil hrest, runsOf_eq_nil (hskip.trans hrest)]
  | cons d rest => rw [runsOf_of_dropWhile hrest, runsOf_of_dropWhile (hskip.trans hrest)]

theorem runsOf_append (hne : run ≠ []) (hrun : ∀ c ∈ run, keep c = true)
    (hrest : ∀ c ∈ rest.head?, keep c = false) :
    runsOf keep (run ++ rest) = run :: runsOf keep rest := by
  cases run with
  | nil => exact absurd rfl hne
  | cons c run =>
    obtain ⟨hc, hrun⟩ := List.forall_mem_cons.mp hrun
    have hstart : (c :: (run ++ rest)).dropWhile (!keep ·) = c :: (run ++ rest) := by simp [hc]
    have hstop : rest.takeWhile keep = [] ∧ rest.dropWhile keep = rest := by
      cases rest with
      | nil => exact ⟨rfl, rfl⟩
      | cons d rest => simp [hrest d rfl]
    rw [List.cons_append, runsOf_of_dropWhile hstart, List.takeWhile_append_of_pos hrun,
      List.dropWhile_append_of_pos hrun, hstop.1, hstop.2, List.append_nil]

/-- A text is made from its end: of characters that are not kept, and of whole runs. -/
theorem runs_induction {motive : List Char → Prop} (keep : Char → Bool) (nil : motive [])
    (skip : ∀ c cs, keep c = false → motive cs → motive (c :: cs))
    (run : ∀ run rest, run ≠ [] → (∀ c ∈ run, keep c = true) →
      (∀ c ∈ rest.head?, keep c = false) → motive rest → motive (run ++ rest))
    (cs : List Char) : motive cs := by
  induction hn : cs.length using Nat.strong_induction_on generalizing cs with
  | _ n ih =>
    cases cs with
    | nil => exact nil
    | cons c cs =>
      cases hc : keep c with
      | false => exact skip c cs hc (ih cs.length (by simp [← hn]) cs rfl)
      | true =>
        have hsplit : (c :: cs.takeWhile keep) ++ cs.dropWhile keep = c :: cs := by
          rw [List.cons_append, List.takeWhile_append_dropWhile]
        have hlength := (List.dropWhile_sublist keep (l := cs)).length_le
        rw [← hsplit]
        refine run _ _ (List.cons_ne_nil _ _) ?_ ?_ (ih _ ?_ _ rfl)
        · exact List.forall_mem_cons.mpr ⟨hc, fun d hd => List.mem_takeWhile_imp hd⟩
        · intro d hd
          have hstop := List.head?_dropWhile_not keep cs
          rw [hd] at hstop
          exact hstop
        · rw [← hn, List.length_cons]
          omega

theorem isRun_of_mem_runsOf (h : run ∈ runsOf keep cs) : run ≠ [] ∧ ∀ c ∈ run, keep c = true := by
  induction cs using runs_induction keep with
  | nil => simp [runsOf_nil] at h
  | skip c cs hc ih =>
    rw [runsOf_cons_of_not hc] at h
    exact ih h
  | run first rest hne hfirst hrest ih =>
    rw [runsOf_append hne hfirst hrest, List.mem_cons] at h
    rcases h with rfl | h
    · exact ⟨hne, hfirst⟩
    · exact ih h

/-- The runs hold what is kept, and in order. -/
theorem flatten_runsOf (keep : Char → Bool) (cs : List Char) :
    (runsOf keep cs).flatten = cs.filter keep := by
  induction cs using runs_induction keep with
  | nil => rw [runsOf_nil]; rfl
  | skip c cs hc ih => simp [runsOf_cons_of_not hc, ih, hc]
  | run first rest hne hfirst hrest ih =>
    rw [runsOf_append hne hfirst hrest, List.flatten_cons, ih, List.filter_append,
      List.filter_eq_self.mpr hfirst]

theorem runsOf_append_left (h : ∀ c ∈ lead, keep c = false) :
    runsOf keep (lead ++ cs) = runsOf keep cs := by
  induction lead with
  | nil => rfl
  | cons c lead ih =>
    obtain ⟨hc, hlead⟩ := List.forall_mem_cons.mp h
    rw [List.cons_append, runsOf_cons_of_not hc, ih hlead]

theorem runsOf_append_right (h : ∀ c ∈ tail, keep c = false) :
    runsOf keep (cs ++ tail) = runsOf keep cs := by
  induction cs using runs_induction keep with
  | nil =>
    have htail : runsOf keep (tail ++ []) = runsOf keep [] := runsOf_append_left h
    rwa [List.append_nil] at htail
  | skip c cs hc ih => rw [List.cons_append, runsOf_cons_of_not hc, runsOf_cons_of_not hc, ih]
  | run first rest hne hfirst hrest ih =>
    have hseam : ∀ c ∈ (rest ++ tail).head?, keep c = false := by
      cases rest with
      | nil => exact fun c hc => h c (List.mem_of_mem_head? hc)
      | cons d rest => exact hrest
    rw [List.append_assoc, runsOf_append hne hfirst hseam, runsOf_append hne hfirst hrest, ih]

/-- What is stripped from the ends of a text takes no runs with it. -/
theorem runsOf_strip (h : ∀ c, drop c = true → keep c = false) (cs : List Char) :
    runsOf keep (strip drop cs) = runsOf keep cs := by
  obtain ⟨lead, tail, heq, hlead, htail⟩ := exists_eq_append_strip drop cs
  rw [List.all_eq_true] at hlead htail
  conv => rhs; rw [heq]
  rw [runsOf_append_right fun c hc => h c (htail c hc),
    runsOf_append_left fun c hc => h c (hlead c hc)]

/-! ### Runs with marks between them -/

/-- Texts that are kept whole, none of them empty. -/
def AreRuns (keep : Char → Bool) (runs : List (List Char)) : Prop :=
  ∀ run ∈ runs, run ≠ [] ∧ ∀ c ∈ run, keep c = true

theorem AreRuns.mono {keep' : Char → Bool} (h : AreRuns keep runs)
    (hkeep : ∀ c, keep c = true → keep' c = true) : AreRuns keep' runs :=
  fun run hrun => ⟨(h run hrun).1, fun c hc => hkeep c ((h run hrun).2 c hc)⟩

theorem areRuns_runsOf (keep : Char → Bool) (cs : List Char) : AreRuns keep (runsOf keep cs) :=
  fun _ hrun => isRun_of_mem_runsOf hrun

/-- Runs are found again between marks that are not kept. -/
theorem runsOf_intercalate (hmark : keep mark = false) (h : AreRuns keep runs) :
    runsOf keep ([mark].intercalate runs) = runs := by
  induction runs with
  | nil => exact runsOf_nil keep
  | cons run runs ih =>
    obtain ⟨⟨hne, hrun⟩, hruns⟩ := List.forall_mem_cons.mp h
    cases runs with
    | nil =>
      have hsingle : runsOf keep (run ++ []) = run :: runsOf keep [] :=
        runsOf_append hne hrun (by simp)
      rw [List.append_nil, runsOf_nil] at hsingle
      rw [List.intercalate_singleton, hsingle]
    | cons next runs =>
      rw [List.intercalate_cons_cons, List.append_assoc, List.singleton_append,
        runsOf_append hne hrun (by simpa using hmark), runsOf_cons_of_not hmark, ih hruns]

theorem eq_or_keep_of_mem_intercalate (h : AreRuns keep runs) (hc : c ∈ [mark].intercalate runs) :
    c = mark ∨ keep c = true := by
  induction runs with
  | nil => simp at hc
  | cons run runs ih =>
    obtain ⟨⟨-, hrun⟩, hruns⟩ := List.forall_mem_cons.mp h
    cases runs with
    | nil =>
      rw [List.intercalate_singleton] at hc
      exact .inr (hrun c hc)
    | cons next runs =>
      rw [List.intercalate_cons_cons, List.mem_append, List.mem_append, List.mem_singleton] at hc
      rcases hc with (hc | hc) | hc
      · exact .inr (hrun c hc)
      · exact .inl hc
      · exact ih hruns hc

theorem head?_intercalate (h : AreRuns keep runs) :
    ∀ c ∈ ([mark].intercalate runs).head?, keep c = true := by
  cases runs with
  | nil => simp
  | cons run runs =>
    obtain ⟨⟨hne, hrun⟩, -⟩ := List.forall_mem_cons.mp h
    have hhead : ([mark].intercalate (run :: runs)).head? = run.head? := by
      cases run with
      | nil => exact absurd rfl hne
      | cons c run => cases runs <;> simp [List.intercalate_cons_cons]
    rw [hhead]
    exact fun c hc => hrun c (List.mem_of_mem_head? hc)

theorem getLast?_intercalate (h : AreRuns keep runs) :
    ∀ c ∈ ([mark].intercalate runs).getLast?, keep c = true := by
  induction runs with
  | nil => simp
  | cons run runs ih =>
    obtain ⟨⟨hne, hrun⟩, hruns⟩ := List.forall_mem_cons.mp h
    cases runs with
    | nil =>
      rw [List.intercalate_singleton]
      exact fun c hc => hrun c (List.mem_of_getLast? hc)
    | cons next runs =>
      obtain ⟨⟨hnext, -⟩, -⟩ := List.forall_mem_cons.mp hruns
      have hrest : [mark].intercalate (next :: runs) ≠ [] := by
        cases runs <;> simp [List.intercalate_cons_cons, hnext]
      obtain ⟨d, hd⟩ := Option.ne_none_iff_exists'.mp (mt List.getLast?_eq_none_iff.mp hrest)
      intro c hc
      rw [List.intercalate_cons_cons, List.getLast?_append, hd, Option.some_or] at hc
      exact ih hruns c (hd ▸ hc)

/-- Without the marks there is nothing but the runs. -/
theorem filter_intercalate (hmark : keep mark = false) (h : AreRuns keep runs) :
    ([mark].intercalate runs).filter (· ≠ mark) = runs.flatten := by
  have hne {c : Char} (hc : keep c = true) : c ≠ mark := by
    rintro rfl
    simp [hc] at hmark
  induction runs with
  | nil => rfl
  | cons run runs ih =>
    obtain ⟨⟨-, hrun⟩, hruns⟩ := List.forall_mem_cons.mp h
    have hall : run.filter (· ≠ mark) = run :=
      List.filter_eq_self.mpr fun c hc => decide_eq_true (hne (hrun c hc))
    cases runs with
    | nil => rw [List.intercalate_singleton, hall, List.flatten_singleton]
    | cons next runs =>
      rw [List.intercalate_cons_cons, List.filter_append, List.filter_append, hall, ih hruns]
      simp

/-! ### Squeezing -/

theorem squeeze_of_kept (h : ∀ c ∈ cs, drop c = false) (mark : Char) (inside : Bool) :
    squeeze drop mark inside cs = cs := by
  induction cs generalizing inside with
  | nil => rfl
  | cons c cs ih =>
    obtain ⟨hc, hcs⟩ := List.forall_mem_cons.mp h
    simp [squeeze, hc, ih hcs]

theorem squeeze_append (hne : run ≠ []) (hrun : ∀ c ∈ run, drop c = false) (mark : Char)
    (inside : Bool) :
    squeeze drop mark inside (run ++ rest) = run ++ squeeze drop mark false rest := by
  induction run generalizing inside with
  | nil => exact absurd rfl hne
  | cons c run ih =>
    obtain ⟨hc, hrun⟩ := List.forall_mem_cons.mp hrun
    cases run with
    | nil => simp [squeeze, hc]
    | cons d run =>
      have hrest := ih (List.cons_ne_nil d run) hrun false
      rw [List.cons_append, squeeze, hc, if_neg Bool.false_ne_true, hrest]
      rfl

/-- Where no run of dropped characters is open, one that begins here is marked. -/
theorem squeeze_false (drop : Char → Bool) (mark : Char) (cs : List Char) :
    squeeze drop mark false cs =
      (if cs.head?.any drop then [mark] else []) ++ squeeze drop mark true cs := by
  cases cs with
  | nil => rfl
  | cons c cs => cases hc : drop c <;> simp [squeeze, hc]

/-- Squeezing a text puts single marks between its runs, and one behind them at most. -/
theorem exists_squeeze_true (keep : Char → Bool) (mark : Char) (cs : List Char) :
    ∃ tail, (∀ c ∈ tail, c = mark) ∧
      squeeze (!keep ·) mark true cs = [mark].intercalate (runsOf keep cs) ++ tail := by
  induction cs using runs_induction keep with
  | nil => exact ⟨[], by simp, by rw [runsOf_nil]; rfl⟩
  | skip c cs hc ih =>
    obtain ⟨tail, htail, heq⟩ := ih
    exact ⟨tail, htail, by simp [squeeze, hc, runsOf_cons_of_not hc, heq]⟩
  | run run rest hne hrun hrest ih =>
    obtain ⟨tail, htail, heq⟩ := ih
    have hkept : ∀ c ∈ run, (!keep c) = false := fun c hc => by simp [hrun c hc]
    rw [squeeze_append hne hkept, squeeze_false, heq, runsOf_append hne hrun hrest]
    cases rest with
    | nil => exact ⟨tail, htail, by simp [runsOf_nil]⟩
    | cons d rest =>
      have hmark : (if (d :: rest).head?.any (!keep ·) then [mark] else []) = [mark] := by
        simp [hrest d rfl]
      rw [hmark]
      -- Without a run in the rest the mark between is one behind all runs.
      cases hruns : runsOf keep (d :: rest) with
      | nil => exact ⟨mark :: tail, by simpa using htail, by simp⟩
      | cons next runs => exact ⟨tail, htail, by simp [List.intercalate_cons_cons]⟩

/-- Squeezed and stripped of the marks, a text is its runs with single marks between them. -/
theorem strip_squeeze (hmark : keep mark = false) (cs : List Char) :
    strip (· == mark) (squeeze (!keep ·) mark false cs) =
      [mark].intercalate (runsOf keep cs) := by
  obtain ⟨tail, htail, heq⟩ := exists_squeeze_true keep mark cs
  have hruns := areRuns_runsOf keep cs
  have hne {c : Char} (hc : keep c = true) : (c == mark) = false := by
    rw [beq_eq_false_iff_ne]
    rintro rfl
    simp [hc] at hmark
  rw [squeeze_false, heq]
  refine strip_append ?_ (fun c hc => hne (head?_intercalate hruns c hc))
    (fun c hc => hne (getLast?_intercalate hruns c hc)) ?_
  · split <;> simp
  · exact List.all_eq_true.mpr fun c hc => beq_iff_eq.mpr (htail c hc)

/-- Squeezing replaces marks between runs. -/
theorem squeeze_intercalate {m : Char} (hm : drop m = true)
    (h : AreRuns (!drop ·) runs) (mark : Char) (inside : Bool) :
    squeeze drop mark inside ([m].intercalate runs) = [mark].intercalate runs := by
  induction runs generalizing inside with
  | nil => rfl
  | cons run runs ih =>
    obtain ⟨⟨hne, hrun⟩, hruns⟩ := List.forall_mem_cons.mp h
    have hkept : ∀ c ∈ run, drop c = false := fun c hc => by simpa using hrun c hc
    cases runs with
    | nil => rw [List.intercalate_singleton, List.intercalate_singleton, squeeze_of_kept hkept]
    | cons next runs =>
      rw [List.intercalate_cons_cons, List.append_assoc, squeeze_append hne hkept,
        List.singleton_append, squeeze, if_pos hm, if_neg Bool.false_ne_true, ih hruns,
        List.intercalate_cons_cons, List.append_assoc, List.singleton_append]

end Scaffold.Text
