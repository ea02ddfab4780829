import Legacy.Lib.Lehmer

/-!
# The 32-bit random numbers

`rand32` (`src/src/shared/Util.cpp`), with its state as an argument and a result. Every operation on an `int32` that
leaves the 32 bits ends the call without a result (`int32`). From a valid state the call never does, and the states
are those of the multiplicative generator of its two constants (`rand32_exact`).
-/

namespace Legacy.Util
open Legacy.Lib

/-- The result of an operation, if an `int32` holds it. -/
def int32 (z : Int) : Option Int := if -2 ^ 31 ≤ z ∧ z < 2 ^ 31 then some z else none

/-- The largest number of the generator (source `RAND32_MAX`). -/
def RAND32_MAX : Int := 2147483645

namespace Rand32

/-- source `m` -/
def m : Int := 2147483647

/-- source `a` -/
def a : Int := 48271

/-- source `q` -/
def q : Int := m.tdiv a

/-- source `r` -/
def r : Int := m.tmod a

end Rand32

open Rand32 in
/-- The number and the next state (source `rand32()`). -/
def rand32 (rand32_state : Int) : Option (Int × Int) := do
  let hi ← int32 (rand32_state.tdiv q)
  let lo ← int32 (rand32_state.tmod q)
  let left ← int32 (a * lo)
  let right ← int32 (r * hi)
  let test ← int32 (left - right)
  let rand32_state ← (if test > 0 then some test else int32 (test + m))
  let number ← int32 (rand32_state - 1)
  return (number, rand32_state)

/-- The numbers of some calls, one after the other, and the last state. -/
def calls : Nat → Int → Option (List Int × Int)
  | 0, rand32_state => some ([], rand32_state)
  | n + 1, rand32_state => do
    let first ← rand32 rand32_state
    let others ← calls n first.2
    return (first.1 :: others.1, others.2)

/-- The multiplicative generator of the two constants. -/
def generator : Lehmer where
  a := 48271
  m := 2147483647
  coprime := by decide +kernel
  small := by decide

open Rand32

/-- An integer in range is itself. -/
lemma int32_of_range {z : Int} (lo : -2 ^ 31 ≤ z) (hi : z < 2 ^ 31) : int32 z = some z := if_pos ⟨lo, hi⟩

/-- A call in a valid state computes the next one, and nothing on the way leaves the 32 bits. -/
lemma rand32_eq {s : Nat} (valid : generator.Valid s) :
    rand32 s = some ((generator.next s : Int) - 1, (generator.next s : Int)) := by
  have hi : (s : Int).tdiv q = (s / 44488 : Nat) := (Int.ofNat_tdiv s 44488).symm
  have lo : (s : Int).tmod q = (s % 44488 : Nat) := (Int.ofNat_tmod s 44488).symm
  have left : 48271 * (s % 44488) < 2147483647 := generator.left_lt s
  have right : 3399 * (s / 44488) ≤ s := generator.right_le s
  have below : s < 2147483647 := valid.2
  have test : generator.test s = a * (s % 44488 : Nat) - r * (s / 44488 : Nat) := by
    rw [Lehmer.test]
    push_cast
    rfl
  have state : (if 0 < generator.test s then generator.test s else generator.test s + m) = generator.next s :=
    generator.schrage_eq valid
  have next : 0 < generator.next s ∧ generator.next s < 2147483647 := valid.next
  -- the two products and their difference
  have left_eq : int32 (a * (s % 44488 : Nat)) = some (a * (s % 44488 : Nat)) := by
    rw [a]
    exact int32_of_range (by omega) (by omega)
  have right_eq : int32 (r * (s / 44488 : Nat)) = some (r * (s / 44488 : Nat)) := by
    have three : r = 3399 := rfl
    rw [three]
    exact int32_of_range (by omega) (by omega)
  have range : -(2147483647 : Int) < generator.test s ∧ generator.test s < 2147483647 := generator.test_range valid
  have test_eq : int32 (generator.test s) = some (generator.test s) := int32_of_range (by omega) (by omega)
  -- the correction
  have state_eq : (if generator.test s > 0 then some (generator.test s) else int32 (generator.test s + m)) =
      some (generator.next s : Int) := by
    rw [← state]
    split
    · rfl
    · rw [m]
      exact int32_of_range (by omega) (by omega)
  rw [rand32, hi, lo]
  simp only [Option.bind_eq_bind]
  rw [int32_of_range (by omega) (by omega), Option.bind_some, int32_of_range (by omega) (by omega), Option.bind_some,
    left_eq, Option.bind_some, right_eq, Option.bind_some, ← test, test_eq, Option.bind_some, state_eq,
    Option.bind_some, int32_of_range (by omega) (by omega), Option.bind_some]
  rfl

/-- A run of calls goes through the states of the generator. -/
lemma calls_eq {s : Nat} (valid : generator.Valid s) (n : Nat) :
    calls n s = some ((List.range n).map fun i => (generator.next^[i + 1] s : Int) - 1,
      (generator.next^[n] s : Int)) := by
  induction n generalizing s with
  | zero => rfl
  | succ n ih =>
    rw [calls, rand32_eq valid]
    simp only [Option.bind_eq_bind, Option.bind_some]
    rw [ih valid.next, Option.bind_some, List.range_succ_eq_map, List.map_cons, List.map_map]
    rfl

/-- A valid state is positive and below the modulus. -/
lemma state_range {s : Nat} (valid : generator.Valid s) : 1 ≤ (s : Int) ∧ (s : Int) ≤ 2 ^ 31 - 2 := by
  have below : s < 2147483647 := valid.2
  have pos := valid.1
  omega

/-- From every valid state, a call computes `48271 * s` modulo `2 ^ 31 - 1` exactly, and so does every call after it:
no state is zero, nothing leaves the 32 bits, and all numbers are between zero and `RAND32_MAX`. -/
theorem rand32_exact {s : Int} (lo : 1 ≤ s) (hi : s ≤ 2 ^ 31 - 2) :
    (∃ s', rand32 s = some (s' - 1, s') ∧ s' = 48271 * s % (2 ^ 31 - 1) ∧ 1 ≤ s' ∧ s' ≤ 2 ^ 31 - 2) ∧
      ∀ n, ∃ numbers s', calls n s = some (numbers, s') ∧ s' = 48271 ^ n * s % (2 ^ 31 - 1) ∧ 1 ≤ s' ∧ s' ≤ 2 ^ 31 - 2 ∧
        ∀ x ∈ numbers, 0 ≤ x ∧ x ≤ RAND32_MAX := by
  obtain ⟨k, rfl⟩ := Int.eq_ofNat_of_zero_le (Int.le_of_lt lo)
  have valid : generator.Valid k := ⟨by omega, show k < 2147483647 by omega⟩
  refine ⟨⟨generator.next k, rand32_eq valid, ?_, state_range valid.next⟩, fun n => ⟨_, _, calls_eq valid n, ?_, ?_⟩⟩
  · rw [Lehmer.next]
    push_cast
    rfl
  · rw [Lehmer.iterate_next valid]
    push_cast
    rfl
  · obtain ⟨pos, le⟩ := state_range (Lehmer.valid_iterate valid n)
    refine ⟨pos, le, ?_⟩
    intro x mem
    obtain ⟨i, -, rfl⟩ := List.mem_map.mp mem
    obtain ⟨pos', le'⟩ := state_range (Lehmer.valid_iterate valid (i + 1))
    rw [RAND32_MAX]
    omega

/-- The state that the program starts with. -/
theorem rand32_exact_one :
    (∃ s', rand32 1 = some (s' - 1, s') ∧ s' = 48271 * 1 % (2 ^ 31 - 1) ∧ 1 ≤ s' ∧ s' ≤ 2 ^ 31 - 2) ∧
      ∀ n, ∃ numbers s', calls n 1 = some (numbers, s') ∧ s' = 48271 ^ n * 1 % (2 ^ 31 - 1) ∧ 1 ≤ s' ∧
        s' ≤ 2 ^ 31 - 2 ∧ ∀ x ∈ numbers, 0 ≤ x ∧ x ≤ RAND32_MAX :=
  rand32_exact (by decide) (by decide)

end Legacy.Util
