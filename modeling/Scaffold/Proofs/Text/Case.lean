import Scaffold.Text.Case

/-! The case of ASCII texts: each character is mapped by itself, and a text without capitals is in
lower case already. -/
namespace Scaffold.Text

variable {c : Char} {cs : List Char}

/-- What holds of 128 code points holds of all ASCII characters. -/
theorem forall_ascii {p : Char → Prop} (h : ∀ n < 128, p (Char.ofNat n)) (hc : c.toNat < 128) :
    p c := by
  have hp := h c.toNat hc
  rwa [Char.ofNat_toNat] at hp

theorem upperChar_of_ascii (h : c.toNat < 128) : upperChar c = [c.toUpper] :=
  if_pos h

theorem lowerFrom_of_ascii (before : List Char) (h : ∀ c ∈ cs, c.toNat < 128) :
    lowerFrom before cs = cs.map Char.toLower := by
  induction cs generalizing before with
  | nil => rfl
  | cons c cs ih =>
    obtain ⟨hc, hcs⟩ := List.forall_mem_cons.mp h
    have hsigma : c ≠ capitalSigma := by
      rintro rfl
      revert hc
      decide
    rw [lowerFrom, if_neg hsigma, lowerChar, if_pos hc, ih _ hcs]
    rfl

theorem lower_of_ascii (h : ∀ c ∈ cs, c.toNat < 128) : lower cs = cs.map Char.toLower :=
  lowerFrom_of_ascii [] h

theorem toLower_of_not_isUpper (h : c.isUpper = false) : c.toLower = c := by
  delta Char.isUpper at h
  exact dif_neg (of_decide_eq_false h)

theorem toNat_lt_of_isUpper (h : c.isUpper = true) : c.toNat < 128 := by
  delta Char.isUpper at h
  exact Nat.lt_of_le_of_lt (of_decide_eq_true h).2 (by decide)

theorem isUpper_toLower (c : Char) : c.toLower.isUpper = false := by
  cases hc : c.isUpper with
  | false => rw [toLower_of_not_isUpper hc, hc]
  | true =>
    have hall : ∀ n < 128, (Char.ofNat n).toLower.isUpper = false := by decide
    exact forall_ascii (p := fun c => c.toLower.isUpper = false) hall (toNat_lt_of_isUpper hc)

theorem lower_eq_self (h : ∀ c ∈ cs, c.toNat < 128) (hcs : ∀ c ∈ cs, c.isUpper = false) :
    lower cs = cs := by
  rw [lower_of_ascii h,
    List.map_congr_left fun c hc => toLower_of_not_isUpper (hcs c hc), List.map_id']

end Scaffold.Text
