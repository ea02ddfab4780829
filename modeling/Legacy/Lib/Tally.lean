import Legacy.Lib.Word
import Mathlib.Algebra.BigOperators.Group.List.Basic
import Mathlib.Data.List.Nodup
import Mathlib.Logic.Function.Basic

/-!
# Totals over a list of places

A total adds up a value for each place of a list without repetition. When the values agree everywhere but
at one place, the totals differ by the difference there. A loop that adds up words yields the total, cut to
the width of a word.
-/

namespace Legacy.Lib

universe u v w

variable {ι : Type u} {M : Type v} {α : Type w} [AddCommMonoid M]

/-- The total of a value over some places. -/
def total (places : List ι) (f : ι → M) : M := (places.map f).sum

/-- Totals of the same values. -/
lemma total_congr {places : List ι} {f g : ι → M} (same : ∀ i ∈ places, f i = g i) :
    total places f = total places g := by
  rw [total, total, List.map_congr_left same]

/-- A total of zeros. -/
lemma total_eq_zero {places : List ι} {f : ι → M} (zero : ∀ i ∈ places, f i = 0) : total places f = 0 := by
  apply List.sum_eq_zero
  intro x mem
  obtain ⟨i, here, rfl⟩ := List.mem_map.mp mem
  exact zero i here

/-- The total of two groups of places. -/
lemma total_append (places places' : List ι) (f : ι → M) :
    total (places ++ places') f = total places f + total places' f := by
  simp only [total, List.map_append, List.sum_append]

/-- Places that hold nothing count nothing. -/
lemma total_filterMap {κ : Type*} (places : List ι) (f : ι → Option κ) (g : κ → M) :
    total (places.filterMap f) g = total places fun i => (f i).elim 0 g := by
  induction places with
  | nil => rfl
  | cons i places ih =>
    have split : total (i :: places) (fun i => (f i).elim 0 g) =
        (f i).elim 0 g + total places fun i => (f i).elim 0 g := List.sum_cons
    rw [split, ← ih, List.filterMap_cons]
    cases f i with
    | none => exact (zero_add _).symm
    | some k => exact List.sum_cons

/-- The total of one place. -/
lemma total_singleton (i : ι) (f : ι → M) : total [i] f = f i := by
  simp only [total, List.map_cons, List.map_nil, List.sum_cons, List.sum_nil, add_zero]

/-- A loop that adds a value for each place to an unsigned word. -/
lemma foldl_u32 {step : Nat → ι → Nat} {f : ι → Nat} (adds : ∀ sum < 2 ^ 32, ∀ i, step sum i = u32 (sum + f i))
    (places : List ι) {sum : Nat} (lt : sum < 2 ^ 32) : places.foldl step sum = u32 (sum + total places f) := by
  induction places generalizing sum with
  | nil => exact (u32_of_lt lt).symm
  | cons i places ih =>
    have split : total (i :: places) f = f i + total places f := List.sum_cons
    rw [List.foldl_cons, adds sum lt i, ih (u32_lt _), u32_u32_add, split, Nat.add_assoc]

variable [DecidableEq ι]

/-- A change at one place changes the total by the difference there. -/
lemma total_change {places : List ι} (nodup : places.Nodup) {i : ι} (mem : i ∈ places) {f g : ι → M}
    (off : ∀ j ∈ places, j ≠ i → f j = g j) : total places f + g i = total places g + f i := by
  have rest : (places.erase i).map f = (places.erase i).map g := by
    apply List.map_congr_left
    intro j mem'
    obtain ⟨ne, mem'⟩ := nodup.mem_erase_iff.mp mem'
    exact off j mem' ne
  rw [total, total, ← List.sum_map_erase f mem, ← List.sum_map_erase g mem, rest]
  ac_rfl

/-- A new value at one place of the list. -/
lemma total_update {places : List ι} (nodup : places.Nodup) {i : ι} (mem : i ∈ places) (w : ι → α) (a : α)
    (f : α → M) :
    total places (fun j => f (Function.update w i a j)) + f (w i) =
      total places (fun j => f (w j)) + f a := by
  have change := total_change nodup mem (f := fun j => f (Function.update w i a j))
    (g := fun j => f (w j)) fun j _ ne => by rw [Function.update_of_ne ne]
  rwa [Function.update_self] at change

/-- A new value at another place. -/
lemma total_update_of_notMem {places : List ι} {i : ι} (mem : i ∉ places) (w : ι → α) (a : α)
    (f : α → M) :
    total places (fun j => f (Function.update w i a j)) = total places fun j => f (w j) :=
  total_congr fun j mem' => by
    have ne : j ≠ i := fun eq => mem (eq ▸ mem')
    rw [Function.update_of_ne ne]

end Legacy.Lib
