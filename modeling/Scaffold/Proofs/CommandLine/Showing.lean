import Mathlib.Data.Nat.Digits.Defs
import Scaffold.CommandLine.Run

/-! What a screen does to a run.  Showing something changes no file, a run that exits has shown all
that it told, and everything that a run told its screen has shown. -/
namespace Scaffold

/-! ### Durations -/

theorem not_mem_digits (n : Nat) : '[' ∉ Nat.toDigits 10 n := by
  intro hmem
  exact absurd (Nat.isDigit_of_mem_toDigits (by decide) (by decide) hmem) (by decide)

theorem not_mem_minutesText (minutes secs den : Nat) :
    '[' ∉ (minutesText minutes secs den).toList := by
  unfold minutesText
  split
  · simp [not_mem_digits]
  · simp [Number.onePlace, Number.digitsOf, not_mem_digits]

theorem Seconds.not_mem_text {took : Seconds} {text : String} (h : took.text = .ok text) :
    '[' ∉ text.toList := by
  unfold Seconds.text at h
  split at h
  · split at h <;> cases h
    · decide
    · exact not_mem_minutesText _ _ _
  · split at h
    · cases h
      decide
    · split at h <;> cases h
      exact not_mem_minutesText _ _ _

/-- No duration is told with a bracket. -/
theorem Seconds.not_mem_shown (took : Seconds) : '[' ∉ took.shown.toList := by
  unfold Seconds.shown
  split
  · next text htext => exact Seconds.not_mem_text htext
  · next e _ =>
    cases e
    decide

namespace CommandLine

open Console

variable {screen : Screen} {disk disk' : FileTree} {next : Outcome × FileTree}
  {notices : List Notice} {o : Outcome} {n : Nat}

/-! ### Runs on a screen -/

/-- Showing notices changes no entry. -/
theorem tree_showing (h : next.2 = disk) (notices : List Notice) :
    (showing screen disk next notices).2 = disk := by
  induction notices with
  | nil => exact h
  | cons notice rest ih =>
    rw [showing]
    split
    · rfl
    · exact ih

theorem tree_exiting (screen : Screen) (status : Nat) (notices : List Notice) (disk : FileTree) :
    (exiting screen status notices disk).2 = disk := by
  let next : Outcome × FileTree := (⟨[], .exit status⟩, disk)
  have hnext : next.2 = disk := rfl
  exact tree_showing hnext notices

/-- What is shown is told before what comes after it. -/
theorem showing_of_shown (h : ∀ notice ∈ notices, screen notice = .ok ()) :
    showing screen disk next notices = (next.1.after notices, next.2) := by
  induction notices with
  | nil => rfl
  | cons notice rest ih =>
    obtain ⟨hnotice, hrest⟩ := List.forall_mem_cons.mp h
    rw [showing, hnotice]
    simp only [ih hrest]
    rfl

theorem showing_recording (disk : FileTree) (next : Outcome × FileTree) (notices : List Notice) :
    showing .recording disk next notices = (next.1.after notices, next.2) :=
  showing_of_shown fun _ _ => rfl

/-- A run that exits has shown what was to be shown before. -/
theorem of_showing_exit (h : showing screen disk next notices = (o, disk'))
    (hexit : o.ending = .exit n) :
    ∃ later, next = (later, disk') ∧ later.ending = .exit n ∧ o = later.after notices := by
  induction notices generalizing o with
  | nil => exact ⟨o, h, hexit, rfl⟩
  | cons notice rest ih =>
    rw [showing] at h
    split at h
    · cases h
      cases hexit
    · cases h
      obtain ⟨later, hnext, hlater, hrest⟩ := ih rfl hexit
      exact ⟨later, hnext, hlater, by rw [hrest]; rfl⟩

theorem of_exiting_exit {status : Nat} (h : exiting screen status notices disk = (o, disk'))
    (hexit : o.ending = .exit n) : o = ⟨notices, .exit status⟩ ∧ n = status ∧ disk' = disk := by
  obtain ⟨later, hnext, hlater, rfl⟩ := of_showing_exit h hexit
  cases hnext
  cases hlater
  exact ⟨by simp [Outcome.after], rfl, rfl⟩

theorem tree_stop (screen : Screen) (disk : FileTree) (stop : Stop) :
    (stop.outcome screen disk).2 = disk := by
  cases stop with
  | failure message => exact tree_exiting screen 1 _ disk
  | interruption cause => rfl

/-- A run that stops and still exits told an error. -/
theorem of_stop_exit {stop : Stop} (h : stop.outcome screen disk = (o, disk'))
    (hexit : o.ending = .exit n) : n = 1 ∧ disk' = disk := by
  cases stop with
  | failure message => exact (of_exiting_exit h hexit).2
  | interruption cause =>
    cases h
    cases hexit

/-- A run that ends because of an error: it tells the error and exits with status 1, or its screen
cannot show the error and interrupts it.  The files are as they are either way. -/
inductive FailsWith (screen : Screen) (disk : FileTree) (text : String) :
    Outcome × FileTree → Prop
  | told : screen (.error text) = .ok () →
      FailsWith screen disk text (⟨[.error text], .exit 1⟩, disk)
  | unshown {fault : MarkupFault} : screen (.error text) = .error fault →
      FailsWith screen disk text (interrupted (.markup fault), disk)

theorem failsWith_failed (screen : Screen) (text : String) (disk : FileTree) :
    FailsWith screen disk text (failed screen text disk) := by
  rw [failed, exiting, showing]
  split
  · next hfault => exact .unshown hfault
  · next hshown => exact .told hshown

/-! ### What a run told -/

/-- Everything that a run told its screen has shown. -/
def Outcome.IsShown (screen : Screen) (o : Outcome) : Prop :=
  ∀ notice ∈ o.notices, screen notice = .ok ()

theorem isShown_of_silent (ending : Ending) : (⟨[], ending⟩ : Outcome).IsShown screen :=
  List.forall_mem_nil _

theorem isShown_showing (h : next.1.IsShown screen) (notices : List Notice) :
    (showing screen disk next notices).1.IsShown screen := by
  induction notices with
  | nil => exact h
  | cons notice rest ih =>
    rw [showing]
    split
    · exact isShown_of_silent _
    · next hnotice => exact List.forall_mem_cons.mpr ⟨hnotice, ih⟩

theorem isShown_exiting (screen : Screen) (status : Nat) (notices : List Notice)
    (disk : FileTree) : (exiting screen status notices disk).1.IsShown screen :=
  isShown_showing (isShown_of_silent _) notices

theorem isShown_stop (screen : Screen) (disk : FileTree) (stop : Stop) :
    (stop.outcome screen disk).1.IsShown screen := by
  cases stop with
  | failure message => exact isShown_exiting screen 1 _ disk
  | interruption cause => exact isShown_of_silent _

theorem isShown_generate (screen : Screen) (c : Model.Component) (own : Model.Ownership)
    (s : Settings) (took : Seconds) (disk : FileTree) :
    (generate screen c own s took disk).1.IsShown screen := by
  unfold generate
  rcases (Generator.fresh c s).generate own disk with ⟨e | report, g, left⟩
  · exact isShown_showing (isShown_stop screen left _) _
  · refine isShown_showing (isShown_showing ?_ _) _
    unfold conclude
    split
    · exact isShown_exiting screen 1 _ left
    · split
      · exact isShown_exiting screen 0 _ left
      · split
        · exact isShown_exiting screen 0 _ _
        · exact isShown_of_silent _

end CommandLine

end Scaffold
