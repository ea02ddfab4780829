import Mathlib.Algebra.Order.Ring.Int
import Mathlib.Tactic.Common

/-!
# Integers in floating point

An integer rounded to `p` significant bits, to the nearest and on ties to the even one: what a conversion to a
binary floating-point format keeps of it, and the result of an addition or subtraction of integers there.
Integers of at most `p` bits are kept.
-/

namespace Legacy.Lib

/-- The bits of an integer beyond the first `p`. -/
def extraBits (p : Nat) (z : Int) : Nat := z.natAbs.log2 + 1 - p

/-- The nearest integer with `p` significant bits; of two, the even one. -/
def roundBits (p : Nat) (z : Int) : Int :=
  let unit : Int := 2 ^ extraBits p z
  let low := z / unit
  if 2 * (z % unit) < unit ∨ 2 * (z % unit) = unit ∧ low % 2 = 0 then low * unit else (low + 1) * unit

/-- A multiple of the last place that is kept is not rounded. -/
lemma roundBits_of_dvd {p : Nat} {z : Int} (dvd : (2 : Int) ^ extraBits p z ∣ z) : roundBits p z = z := by
  have pos : (0 : Int) < 2 ^ extraBits p z := Int.pow_pos (by decide)
  have none : z % 2 ^ extraBits p z = 0 := Int.emod_eq_zero_of_dvd dvd
  rw [roundBits]
  simp only [none, Int.mul_zero, pos, true_or, if_true]
  exact Int.ediv_mul_cancel dvd

/-- Integers up to the first one that needs another bit are exact. -/
lemma roundBits_of_le {p : Nat} {z : Int} (pos : 0 < p) (le : z.natAbs ≤ 2 ^ p) : roundBits p z = z := by
  refine roundBits_of_dvd ?_
  by_cases zero : z = 0
  · rw [zero]
    exact Int.dvd_zero _
  · rcases Nat.lt_or_eq_of_le le with lt | eq
    · have bits := (Nat.log2_lt (Int.natAbs_ne_zero.mpr zero)).mpr lt
      have none : extraBits p z = 0 := by
        rw [extraBits]
        omega
      rw [none, Int.pow_zero]
      exact Int.one_dvd z
    · have one : extraBits p z = 1 := by
        rw [extraBits, eq, Nat.log2_two_pow]
        omega
      rw [one, Int.pow_one, ← Int.natAbs_dvd_natAbs, eq]
      exact dvd_pow_self 2 (Nat.ne_of_gt pos)

end Legacy.Lib
