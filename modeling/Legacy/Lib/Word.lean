import Mathlib.Tactic.Common
import Mathlib.Tactic.NormNum

/-!
# Fixed-width arithmetic on `Nat` and `Int`

Unsigned words are natural numbers and signed words integers, cut to their width where the modelled
program stores them. The lemmas say when a cut changes nothing, and that the signed cut only depends
on the residue.
-/

namespace Legacy.Lib

/-- The value kept in 8 unsigned bits. -/
def u8 (n : Nat) : Nat := n % 2 ^ 8

/-- The value kept in 16 unsigned bits. -/
def u16 (n : Nat) : Nat := n % 2 ^ 16

/-- The value kept in 32 unsigned bits. -/
def u32 (n : Nat) : Nat := n % 2 ^ 32

/-- The value kept in 16 unsigned bits of a signed number. -/
def wrap16 (z : Int) : Nat := (z % 2 ^ 16).toNat

/-- The value kept in 16 signed bits. -/
def i16 (z : Int) : Int := (z + 2 ^ 15) % 2 ^ 16 - 2 ^ 15

/-- The value kept in 32 signed bits. -/
def i32 (z : Int) : Int := (z + 2 ^ 31) % 2 ^ 32 - 2 ^ 31

/-- A `uint32` is below its bound. -/
lemma u32_lt (n : Nat) : u32 n < 2 ^ 32 := Nat.mod_lt _ (by decide)

/-- A value that fits in a `uint8` stays. -/
lemma u8_of_lt {n : Nat} (h : n < 2 ^ 8) : u8 n = n := Nat.mod_eq_of_lt h

/-- A value that fits in a `uint32` stays. -/
lemma u32_of_lt {n : Nat} (h : n < 2 ^ 32) : u32 n = n := Nat.mod_eq_of_lt h

/-- A value that fits in an `int32` stays. -/
lemma i32_of_range {z : Int} (lo : -2 ^ 31 ≤ z) (hi : z < 2 ^ 31) : i32 z = z := by
  simp only [i32]
  omega

/-- A value that fits in an `int16` stays. -/
lemma i16_of_range {z : Int} (lo : -2 ^ 15 ≤ z) (hi : z < 2 ^ 15) : i16 z = z := by
  simp only [i16]
  omega

/-- A sum may be cut before or after adding. -/
lemma u32_u32_add (m n : Nat) : u32 (u32 m + n) = u32 (m + n) := Nat.mod_add_mod m (2 ^ 32) n

/-- Sums can be cut once, in the end. -/
lemma u32_add_u32 (m n : Nat) : u32 (m + u32 n) = u32 (m + n) := Nat.add_mod_mod m n (2 ^ 32)

/-- So can sums of signed values. -/
lemma i32_i32_add (x y : Int) : i32 (i32 x + y) = i32 (x + y) := by
  simp only [i32]
  omega

/-- The same on the other side. -/
lemma i32_add_i32 (x y : Int) : i32 (x + i32 y) = i32 (x + y) := by
  rw [add_comm, i32_i32_add, add_comm]

/-- The same for differences. -/
lemma i32_i32_sub (x y : Int) : i32 (i32 x - y) = i32 (x - y) := by
  simp only [i32]
  omega

/-- A value that fits in a `uint16` stays. -/
lemma wrap16_of_range {z : Int} (lo : 0 ≤ z) (hi : z < 2 ^ 16) : (wrap16 z : Int) = z := by
  simp only [wrap16]
  omega

/-- A word may be cut before or after adding. -/
lemma u16_wrap16_add (z : Int) (n : Nat) : u16 (wrap16 z + n) = wrap16 (z + n) := by
  simp only [u16, wrap16]
  omega

/-- Cutting keeps the order of two close numbers exactly if it takes the same from both. -/
lemma wrap16_le_iff {x y : Int} (le : x ≤ y) (near : y - x < 2 ^ 16) :
    wrap16 x ≤ wrap16 y ↔ x / 2 ^ 16 = y / 2 ^ 16 := by
  simp only [wrap16]
  omega

/-- Cutting twice is cutting once. -/
@[simp]
lemma i32_i32 (x : Int) : i32 (i32 x) = i32 x := by
  simp only [i32]
  omega

end Legacy.Lib
