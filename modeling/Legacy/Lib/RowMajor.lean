import Mathlib.Logic.Function.Basic
import Mathlib.Tactic.Common

/-!
# Arrays of arrays

An array of arrays of `n` elements each lies in memory as one run of elements, one inner array behind the other.
An inner index that is too large is not caught: it leads into the next inner array. Inside the inner arrays every
element has a place of its own.
-/

namespace Legacy.Lib

universe u

variable {α : Type u} {n : Nat} {c d : Nat × Nat}

/-- The place of the element `a[c.1][c.2]` of an array of arrays of `n` elements. -/
def rowMajor (n : Nat) (c : Nat × Nat) : Nat := c.1 * n + c.2

/-- Behind the end of an inner array lies the next one. -/
lemma rowMajor_add (n i j : Nat) : rowMajor n (i, n + j) = rowMajor n (i + 1, j) := by
  rw [rowMajor, rowMajor, Nat.add_mul, Nat.one_mul, Nat.add_assoc]

/-- The outer index is the quotient of the place, and the inner one the remainder. -/
lemma rowMajor_div_mod (inside : c.2 < n) : rowMajor n c / n = c.1 ∧ rowMajor n c % n = c.2 := by
  have pos : 0 < n := Nat.zero_lt_of_lt inside
  rw [rowMajor, Nat.add_comm]
  constructor
  · rw [Nat.add_mul_div_right _ _ pos, Nat.div_eq_of_lt inside, Nat.zero_add]
  · rw [Nat.add_mul_mod_self_right, Nat.mod_eq_of_lt inside]

/-- Elements of the inner arrays have places of their own. -/
lemma rowMajor_inj (inside : c.2 < n) (inside' : d.2 < n) (same : rowMajor n c = rowMajor n d) : c = d := by
  obtain ⟨outer, inner⟩ := rowMajor_div_mod inside
  obtain ⟨outer', inner'⟩ := rowMajor_div_mod inside'
  rw [same] at outer inner
  exact Prod.ext (outer.symm.trans outer') (inner.symm.trans inner')

/-- The memory of an array of arrays with these elements. -/
def laidOut (n : Nat) (element : Nat → Nat → α) (place : Nat) : α := element (place / n) (place % n)

/-- What is laid out is found at its indices. -/
lemma laidOut_rowMajor (element : Nat → Nat → α) (inside : c.2 < n) :
    laidOut n element (rowMajor n c) = element c.1 c.2 := by
  obtain ⟨outer, inner⟩ := rowMajor_div_mod inside
  rw [laidOut, outer, inner]

end Legacy.Lib
