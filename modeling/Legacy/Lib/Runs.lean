import Mathlib.Data.List.Basic
import Mathlib.Tactic.Common

/-!
# Maximal runs

The separators of a list cut it into runs of other elements. A run is given by the places where it starts and stops,
and is maximal: a separator or an end of the list is on either side of it. `Listed` says that a list has all the runs
from one place on, in order; it has a rule for each way in which a scan from the back goes on.
-/

namespace Legacy.Lib

universe u

/-- A maximal run of elements that are no separators. -/
@[ext]
structure MaximalRun {α : Type u} (sep : α → Prop) (l : List α) where
  start : Nat
  stop : Nat
  lt : start < stop
  le : stop ≤ l.length
  inside : ∀ i a, start ≤ i → i < stop → l[i]? = some a → ¬sep a
  left : ∀ a, 0 < start → l[start - 1]? = some a → sep a
  right : ∀ a, l[stop]? = some a → sep a

namespace MaximalRun

variable {α : Type u} {sep : α → Prop} {l before w after : List α} {r r' : MaximalRun sep l}

/-- The elements of a run. -/
def word (r : MaximalRun sep l) : List α := (l.drop r.start).take (r.stop - r.start)

/-- A run has an element. -/
lemma word_ne_nil (r : MaximalRun sep l) : r.word ≠ [] := by
  have lt := r.lt
  have le := r.le
  refine List.ne_nil_of_length_pos ?_
  rw [word, List.length_take, List.length_drop]
  omega

/-- A run has no separator in it. -/
lemma not_sep_of_mem {a : α} (mem : a ∈ r.word) : ¬sep a := by
  obtain ⟨i, at_⟩ := List.mem_iff_getElem?.mp mem
  rw [word, List.getElem?_take] at at_
  split at at_
  · next lt =>
    rw [List.getElem?_drop] at at_
    exact r.inside (r.start + i) a (Nat.le_add_right _ _) (by omega) at_
  · cases at_

/-- A run goes at least as far as one that starts at the same place. -/
lemma stop_le (same : r.start = r'.start) : r'.stop ≤ r.stop := by
  by_contra longer
  have inside : r.stop < l.length := Nat.lt_of_lt_of_le (Nat.not_le.mp longer) r'.le
  have at_ := List.getElem?_eq_getElem inside
  have lt := r.lt
  exact r'.inside r.stop _ (by omega) (Nat.not_le.mp longer) at_ (r.right _ at_)

/-- There is one run at a place. -/
lemma eq_of_start (same : r.start = r'.start) : r = r' :=
  MaximalRun.ext same (Nat.le_antisymm (stop_le same.symm) (stop_le same))

/-- Between two runs there is a separator. -/
lemma stop_lt_start (lt : r.start < r'.start) : r.stop < r'.start := by
  by_contra meets
  have pos : 0 < r'.start := Nat.zero_lt_of_lt lt
  have inside : r'.start - 1 < l.length := by
    have lt' := r'.lt
    have le' := r'.le
    omega
  have at_ := List.getElem?_eq_getElem inside
  exact r.inside (r'.start - 1) _ (by omega) (by omega) at_ (r'.left _ pos at_)

/-- The run between two parts of a list. -/
def ofParts (whole : before ++ w ++ after = l) (some : w ≠ []) (inside : ∀ a ∈ w, ¬sep a)
    (left : ∀ a ∈ before.getLast?, sep a) (right : ∀ a ∈ after.head?, sep a) : MaximalRun sep l where
  start := before.length
  stop := before.length + w.length
  lt := Nat.lt_add_of_pos_right (List.length_pos_of_ne_nil some)
  le := by
    rw [← whole, List.length_append, List.length_append]
    exact Nat.le_add_right _ _
  inside i a lo hi at_ := by
    rw [← whole, List.append_assoc, List.getElem?_append_right lo, List.getElem?_append_left (by omega)] at at_
    exact inside a (List.mem_of_getElem? at_)
  left a pos at_ := by
    rw [← whole, List.append_assoc, List.getElem?_append_left (by omega), ← List.getLast?_eq_getElem?] at at_
    exact left a at_
  right a at_ := by
    rw [← whole, ← List.length_append, List.getElem?_append_right (Nat.le_refl _), Nat.sub_self,
      ← List.head?_eq_getElem?] at at_
    exact right a at_

/-- The run between two parts of a list. -/
lemma word_ofParts (whole : before ++ w ++ after = l) (some : w ≠ []) (inside : ∀ a ∈ w, ¬sep a)
    (left : ∀ a ∈ before.getLast?, sep a) (right : ∀ a ∈ after.head?, sep a) :
    (ofParts whole some inside left right).word = w := by
  have length : before.length + w.length - before.length = w.length := Nat.add_sub_cancel_left ..
  rw [word, ofParts]
  dsimp only
  rw [← whole, List.append_assoc, List.drop_left, length, List.take_left]

/-- All runs that start at a place or behind it, in order. -/
structure Listed (lo : Nat) (runs : List (MaximalRun sep l)) : Prop where
  sorted : runs.Pairwise fun r r' => r.stop < r'.start
  complete : ∀ r, r ∈ runs ↔ lo ≤ r.start

/-- No run starts behind the end. -/
lemma listed_nil {lo : Nat} (end_ : l.length ≤ lo) : Listed lo ([] : List (MaximalRun sep l)) := by
  refine ⟨List.Pairwise.nil, fun r => iff_of_false List.not_mem_nil fun le => ?_⟩
  have lt := r.lt
  have le' := r.le
  omega

/-- No run starts at a separator. -/
lemma Listed.passed {lo : Nat} {runs : List (MaximalRun sep l)} {a : α} (listed : Listed (lo + 1) runs)
    (at_ : l[lo]? = some a) (here : sep a) : Listed lo runs := by
  refine ⟨listed.sorted, fun r => (listed.complete r).trans ⟨fun lt => Nat.le_of_lt lt, fun le => ?_⟩⟩
  rcases Nat.lt_or_eq_of_le le with lt | rfl
  · exact lt
  · exact absurd here (r.inside r.start a (Nat.le_refl _) r.lt at_)

/-- A run comes before those that start where it stops or behind. -/
lemma Listed.cons {runs : List (MaximalRun sep l)} (r : MaximalRun sep l) (listed : Listed r.stop runs) :
    Listed r.start (r :: runs) := by
  constructor
  · refine List.pairwise_cons.mpr ⟨fun r' mem => stop_lt_start ?_, listed.sorted⟩
    exact Nat.lt_of_lt_of_le r.lt ((listed.complete r').mp mem)
  · intro r'
    rw [List.mem_cons, listed.complete r']
    constructor
    · rintro (rfl | le)
      · exact Nat.le_refl _
      · exact Nat.le_trans (Nat.le_of_lt r.lt) le
    · intro le
      rcases Nat.lt_or_eq_of_le le with lt | same
      · exact Or.inr (Nat.le_of_lt (stop_lt_start lt))
      · exact Or.inl (eq_of_start same.symm)

end MaximalRun

end Legacy.Lib
