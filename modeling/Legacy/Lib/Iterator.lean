import Mathlib.Tactic.Common

/-!
# Iterators of a set

A set is kept as the list of its elements in their order, and an iterator as the element that it points to. An
iterator whose element is erased can no longer be read or advanced, so that a loop which erases the element it stands
at and then advances ends in `ErasedIterator`.
-/

namespace Legacy.Lib

universe u

variable {α : Type u} [DecidableEq α] {l : List α} {p : α}

/-- What is done with an iterator whose element was erased. -/
inductive ErasedIterator where
  | read | advanced
  deriving DecidableEq, Repr

/-- The place after an element (source `operator++` of `std::set::const_iterator`); `none` is the end. -/
def nextIn (l : List α) (p : α) : Except ErasedIterator (Option α) :=
  if p ∈ l then .ok ((l.dropWhile fun q => q ≠ p).tail.head?) else .error .advanced

/-- There is no place after an element that was erased. -/
lemma nextIn_filter (l : List α) (p : α) : nextIn (l.filter fun q => q ≠ p) p = .error .advanced := by
  apply if_neg
  intro mem
  exact of_decide_eq_true (List.mem_filter.mp mem).2 rfl

end Legacy.Lib
