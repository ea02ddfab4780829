import Mathlib.Data.List.Basic
import Mathlib.Tactic.Common
import Mathlib.Tactic.Ring

/-!
# Little-endian words

A word of `w` bytes as a list of bytes, least significant byte first, and back. The round trip
`ofBytes_toBytes` is exact for values below `256 ^ w`.
-/

namespace Legacy.Lib

/-- The `w` low bytes of a number, least significant first. -/
def toBytes : Nat → Nat → List UInt8
  | 0, _ => []
  | w + 1, n => UInt8.ofNat n :: toBytes w (n / 256)

/-- The number a little-endian list of bytes stands for. -/
def ofBytes : List UInt8 → Nat
  | [] => 0
  | b :: bs => b.toNat + 256 * ofBytes bs

/-- A word of `w` bytes has `w` bytes. -/
@[simp]
lemma length_toBytes (w n : Nat) : (toBytes w n).length = w := by
  induction w generalizing n with
  | zero => rfl
  | succ w ih => simp only [toBytes, List.length_cons, ih]

/-- Reading back a word of `w` bytes gives the number modulo `256 ^ w`. -/
lemma ofBytes_toBytes_mod (w n : Nat) : ofBytes (toBytes w n) = n % 256 ^ w := by
  induction w generalizing n with
  | zero => simp only [toBytes, ofBytes, Nat.pow_zero, Nat.mod_one]
  | succ w ih =>
    have low : (UInt8.ofNat n).toNat = n % 256 := UInt8.toNat_ofNat'
    rw [toBytes, ofBytes, ih, low, Nat.pow_succ', Nat.mod_mul]

/-- Reading back a word of `w` bytes gives the number, when it fits. -/
lemma ofBytes_toBytes {w n : Nat} (fits : n < 256 ^ w) : ofBytes (toBytes w n) = n := by
  rw [ofBytes_toBytes_mod, Nat.mod_eq_of_lt fits]

end Legacy.Lib
