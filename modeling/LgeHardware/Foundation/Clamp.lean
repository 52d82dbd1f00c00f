import Mathlib.Order.Defs.LinearOrder
import Mathlib.Order.MinMax
import Mathlib.Tactic.Common

/-! # Clamping a wrapped value

A value that is wrapped to a signed range and then clamped to bounds in that range ends where
the value itself does if it is in the range. Otherwise the wrapped value has to be beyond the
same bound.
-/

namespace LgeHardware.Foundation

universe u

variable {α : Type u} [LinearOrder α] {lo hi x y : α}

/-- The value in the bounds that is nearest to a given one. -/
def clamp (lo hi x : α) : α := max lo (min x hi)

theorem clamp_le_clamp (h : x ≤ y) : clamp lo hi x ≤ clamp lo hi y :=
  max_le_max_left lo (min_le_min_right hi h)

theorem clamp_of_upper_le (hle : lo ≤ hi) (h : hi ≤ x) : clamp lo hi x = hi := by
  rw [clamp, min_eq_right h, max_eq_right hle]

theorem clamp_of_le_lower (h : x ≤ lo) : clamp lo hi x = lo :=
  max_eq_left (min_le_of_left_le h)

/-- The upper bound is what every value from it on is clamped to. -/
theorem clamp_eq_upper_iff (hle : lo ≤ hi) : clamp lo hi x = hi ↔ lo = hi ∨ hi ≤ x := by
  constructor
  · intro h
    rcases max_choice lo (min x hi) with hmax | hmax
    · exact .inl (hmax.symm.trans h)
    · exact .inr (min_eq_right_iff.mp (hmax.symm.trans h))
  · rintro (rfl | h)
    · exact max_eq_left (min_le_right x lo)
    · exact clamp_of_upper_le hle h

/-- And the lower bound every value up to it. -/
theorem clamp_eq_lower_iff : clamp lo hi x = lo ↔ hi ≤ lo ∨ x ≤ lo := by
  rw [clamp, max_eq_left_iff, min_le_iff, or_comm]

/-- The value of an integer in the signed range of a modulus. -/
theorem bmod_double (x : Int) (n : Nat) :
    x.bmod (2 * n) = if x % (2 * n) < n then x % (2 * n) else x % (2 * n) - 2 * n := by
  rw [Int.bmod_def]
  push_cast
  have hhalf : (2 * (n : Int) + 1) / 2 = n := by omega
  rw [hhalf]

/-- Clamping the wrapped value is clamping the value if the bounds are one, if nothing is
wrapped, or if the wrapped value is beyond the bound that the value is beyond. -/
theorem clamp_bmod_eq_iff {lo hi : Int} {n : Nat} (hlo : 0 ≤ lo) (hle : lo ≤ hi) (hhi : hi < n)
    (x : Int) : clamp lo hi (x.bmod (2 * n)) = clamp lo hi x ↔
      lo = hi ∨ (-n ≤ x ∧ x < n) ∨
        (n ≤ x ∧ hi ≤ x % (2 * n) ∧ x % (2 * n) < n) ∨
          (x < -n ∧ (x % (2 * n) ≤ lo ∨ n ≤ x % (2 * n))) := by
  have hwrapped := bmod_double x n
  have hnonneg := Int.emod_nonneg x (by omega : 2 * (n : Int) ≠ 0)
  have hlt := Int.emod_lt_of_pos x (by omega : 0 < 2 * (n : Int))
  rcases lt_or_ge x (-n) with hbelow | habove
  · rw [clamp_of_le_lower (by omega : x ≤ lo), clamp_eq_lower_iff, hwrapped]
    split <;> omega
  · rcases lt_or_ge x n with hbelow | habove
    · rw [Int.bmod_eq_of_le (by omega) (by omega)]
      simp [*]
    · rw [clamp_of_upper_le hle (by omega : hi ≤ x), clamp_eq_upper_iff hle, hwrapped]
      split <;> omega

end LgeHardware.Foundation
