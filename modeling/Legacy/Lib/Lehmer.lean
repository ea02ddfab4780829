import Mathlib.Algebra.Order.Ring.Int
import Mathlib.Data.Nat.GCD.Basic
import Mathlib.Logic.Function.Iterate
import Mathlib.Tactic.Common
import Mathlib.Tactic.Ring

/-!
# Multiplicative generators

A multiplicative generator goes from the state `s` to `a * s % m`. Schrage's method computes the next state without
the product, from the quotient and the remainder of `s` by `m / a`: all that it computes on the way lies between `-m`
and `m`, and one addition of `m` corrects the result (`Lehmer.schrage_eq`).
-/

namespace Legacy.Lib

/-- A multiplier and a modulus that have Schrage's method. -/
structure Lehmer where
  a : Nat
  m : Nat
  coprime : Nat.Coprime m a
  small : m % a < m / a

namespace Lehmer

variable (g : Lehmer)

/-- The next state. -/
def next (s : Nat) : Nat := g.a * s % g.m

/-- The states that the generator stays in. -/
def Valid (s : Nat) : Prop := 0 < s ∧ s < g.m

/-- The difference that the method computes. -/
def test (s : Nat) : Int :=
  (g.a * (s % (g.m / g.a)) : Nat) - (g.m % g.a * (s / (g.m / g.a)) : Nat)

/-- Schrage's method. -/
def schrage (s : Nat) : Int := if 0 < g.test s then g.test s else g.test s + g.m

variable {g} {s : Nat}

/-- The modulus does not divide a product with a valid state, so the generator cannot fall to zero. -/
lemma Valid.next (valid : g.Valid s) : g.Valid (g.next s) := by
  obtain ⟨pos, lt⟩ := valid
  refine ⟨Nat.pos_of_ne_zero fun zero => ?_, Nat.mod_lt _ (Nat.zero_lt_of_lt lt)⟩
  have dvd : g.m ∣ s := g.coprime.dvd_of_dvd_mul_left (Nat.dvd_of_mod_eq_zero zero)
  exact absurd (Nat.le_of_dvd pos dvd) (Nat.not_le_of_lt lt)

/-- All states of a generator are valid. -/
lemma valid_iterate (valid : g.Valid s) (n : Nat) : g.Valid (g.next^[n] s) := by
  induction n with
  | zero => exact valid
  | succ n ih =>
    rw [Function.iterate_succ_apply']
    exact ih.next

/-- A run multiplies by a power of the multiplier. -/
lemma iterate_next (valid : g.Valid s) (n : Nat) : g.next^[n] s = g.a ^ n * s % g.m := by
  induction n with
  | zero =>
    rw [Function.iterate_zero_apply, Nat.pow_zero, Nat.one_mul]
    exact (Nat.mod_eq_of_lt valid.2).symm
  | succ n ih =>
    calc g.next^[n + 1] s = g.a * (g.a ^ n * s % g.m) % g.m := by rw [Function.iterate_succ_apply', ih, Lehmer.next]
      _ = g.a * (g.a ^ n * s) % g.m := Nat.mul_mod_mod ..
      _ = g.a ^ (n + 1) * s % g.m := by rw [← Nat.mul_assoc, ← Nat.pow_succ']

/-- The first product of the method is below the modulus. -/
lemma left_lt (g : Lehmer) (s : Nat) : g.a * (s % (g.m / g.a)) < g.m := by
  have apos : 0 < g.a := by
    refine Nat.pos_of_ne_zero fun zero => ?_
    have small := g.small
    rw [zero, Nat.div_zero] at small
    exact Nat.not_lt_zero _ small
  have below : s % (g.m / g.a) < g.m / g.a := Nat.mod_lt _ (Nat.zero_lt_of_lt g.small)
  calc g.a * (s % (g.m / g.a)) < g.a * (g.m / g.a) := Nat.mul_lt_mul_of_pos_left below apos
    _ ≤ g.m := Nat.mul_div_le g.m g.a

/-- The second product of the method is not above the state. -/
lemma right_le (g : Lehmer) (s : Nat) : g.m % g.a * (s / (g.m / g.a)) ≤ s :=
  calc g.m % g.a * (s / (g.m / g.a)) ≤ g.m / g.a * (s / (g.m / g.a)) := Nat.mul_le_mul_right _ (Nat.le_of_lt g.small)
    _ ≤ s := Nat.mul_div_le s _

/-- The difference is the product, less a multiple of the modulus. -/
lemma test_eq (g : Lehmer) (s : Nat) : g.test s = (g.a * s : Nat) - g.m * (s / (g.m / g.a) : Nat) := by
  have state := Nat.div_add_mod s (g.m / g.a)
  have modulus := Nat.div_add_mod g.m g.a
  rw [test]
  generalize s / (g.m / g.a) = hi at *
  generalize s % (g.m / g.a) = lo at *
  generalize g.m % g.a = r at *
  generalize g.m / g.a = q at *
  rw [← state, ← modulus]
  push_cast
  ring

/-- The difference is within one modulus of zero. -/
lemma test_range (valid : g.Valid s) : -(g.m : Int) < g.test s ∧ g.test s < g.m := by
  have left := g.left_lt s
  have right := g.right_le s
  have lt := valid.2
  rw [test]
  omega

/-- The method computes the next state. -/
lemma schrage_eq (valid : g.Valid s) : g.schrage s = g.next s := by
  have range := test_range valid
  have residue : g.test s % g.m = g.next s := by
    rw [g.test_eq s, Int.sub_mul_emod_self_left, Lehmer.next, Int.natCast_mod]
  rw [schrage]
  split
  · next pos => rw [← residue, Int.emod_eq_of_lt (Int.le_of_lt pos) range.2]
  · next neg =>
    -- a difference of zero would make the next state zero
    have ne : g.test s ≠ 0 := by
      intro zero
      rw [zero, Int.zero_emod] at residue
      exact Nat.ne_of_lt valid.next.1 (Int.ofNat.inj residue)
    have shifted : (g.test s + g.m) % g.m = g.test s + g.m := Int.emod_eq_of_lt (by omega) (by omega)
    rw [← residue, ← shifted, Int.add_emod_right]

end Lehmer

end Legacy.Lib
