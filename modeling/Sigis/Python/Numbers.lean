import Mathlib.Algebra.Order.Field.Rat
import Mathlib.Data.Rat.Floor

namespace sigis

/-- The nearest integer, the even one of two that are as near. -/
def round_half_even (x : ℚ) : Int :=
  let below := ⌊x⌋
  if x - below < 1 / 2 then below
  else if 1 / 2 < x - below then below + 1
  else if below % 2 = 0 then below
  else below + 1

/-- `round(x, ndigits)`. -/
def round_to (x : ℚ) (ndigits : Nat) : ℚ := round_half_even (x * 10 ^ ndigits) / 10 ^ ndigits

/-- Rounding goes to one of the two integers around. -/
theorem round_half_even_eq_or (x : ℚ) : round_half_even x = ⌊x⌋ ∨ round_half_even x = ⌊x⌋ + 1 := by
  unfold round_half_even
  dsimp only
  split_ifs <;> simp

/-- An integer stays. -/
theorem round_half_even_intCast (n : Int) : round_half_even n = n := by
  unfold round_half_even
  dsimp only
  rw [Int.floor_intCast, sub_self]
  exact if_pos (by norm_num)

/-- Rounding stays above any integer that is below. -/
theorem le_round_half_even {x : ℚ} {n : Int} (h : (n : ℚ) ≤ x) : n ≤ round_half_even x := by
  have hfloor : n ≤ ⌊x⌋ := Int.le_floor.mpr h
  rcases round_half_even_eq_or x with heq | heq <;> omega

/-- And below any that is above. -/
theorem round_half_even_le {x : ℚ} {n : Int} (h : x ≤ n) : round_half_even x ≤ n := by
  rcases h.lt_or_eq with hlt | rfl
  · have hfloor : ⌊x⌋ < n := Int.floor_lt.mpr hlt
    rcases round_half_even_eq_or x with heq | heq <;> omega
  · exact (round_half_even_intCast n).le

/-- Rounding to decimals keeps a number between two integers. -/
theorem round_to_mem_Icc {x : ℚ} {m n : Int} (ndigits : Nat) (hm : (m : ℚ) ≤ x) (hn : x ≤ n) :
    (m : ℚ) ≤ round_to x ndigits ∧ round_to x ndigits ≤ n := by
  have hpos : (0 : ℚ) < 10 ^ ndigits := by positivity
  rw [round_to, le_div_iff₀ hpos, div_le_iff₀ hpos]
  constructor
  · have hscaled : ((m * 10 ^ ndigits : Int) : ℚ) ≤ x * 10 ^ ndigits := by
      push_cast
      exact mul_le_mul_of_nonneg_right hm hpos.le
    exact_mod_cast le_round_half_even hscaled
  · have hscaled : x * 10 ^ ndigits ≤ ((n * 10 ^ ndigits : Int) : ℚ) := by
      push_cast
      exact mul_le_mul_of_nonneg_right hn hpos.le
    exact_mod_cast round_half_even_le hscaled

end sigis
