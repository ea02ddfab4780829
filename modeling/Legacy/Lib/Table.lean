import Mathlib.Logic.Function.Basic
import Mathlib.Tactic.Common

/-!
# Tables

A table is a partial function of its keys. A write changes the entry of one key: what is in the table then was
written or was there before, and what was there before is still there unless its key was written. The entries of
an array are listed in the order of their places.
-/

namespace Legacy.Lib

universe u v

variable {κ : Type u} {α β : Type v} [DecidableEq κ] {table : κ → Option α} {key k : κ} {new : Option α} {value : α}

/-- An entry of an updated table is the new one or an old one. -/
lemma update_eq_some : Function.update table key new k = some value ↔
    k = key ∧ new = some value ∨ k ≠ key ∧ table k = some value := by
  rcases eq_or_ne k key with rfl | ne
  · rw [Function.update_self]
    exact ⟨fun eq => Or.inl ⟨rfl, eq⟩, fun alt => alt.elim And.right fun other => absurd rfl other.1⟩
  · rw [Function.update_of_ne ne]
    exact ⟨fun eq => Or.inr ⟨ne, eq⟩, fun alt => alt.elim (fun same => absurd same.1 ne) And.right⟩

/-- What is left after an entry was erased. -/
lemma erase_eq_some : Function.update table key none k = some value ↔ k ≠ key ∧ table k = some value := by
  rw [update_eq_some]
  exact or_iff_right fun erased => by cases erased.2

/-- An entry stays when a key without an entry is written. -/
lemma update_of_absent (absent : table key = none) (there : table k = some value) :
    Function.update table key new k = some value := by
  refine update_eq_some.mpr (Or.inr ⟨?_, there⟩)
  rintro rfl
  cases absent.symm.trans there

omit [DecidableEq κ] in
/-- Tables with the same view of their entries have them at the same keys. -/
lemma some_of_map_eq {γ : Type*} {table table' : κ → Option α} {view : α → γ}
    (same : (table' k).map view = (table k).map view) (here : table' k = some value) :
    ∃ old, table k = some old ∧ view old = view value := by
  rw [here, Option.map_some] at same
  exact Option.map_eq_some_iff.mp same.symm

/-- A value put into the first free place of an array comes behind those of the places before it. -/
lemma filterMap_range_update {f : Nat → Option α} {k n : Nat} (lt : k < n) (free : f k = none)
    (full : ∀ i < k, (f i).isSome) (x : α) :
    (List.range n).filterMap (Function.update f k (some x)) = ((List.range n).filterMap f).insertIdx k x := by
  induction k generalizing f n with
  | zero =>
    obtain ⟨m, rfl⟩ := Nat.exists_eq_succ_of_ne_zero (Nat.ne_of_gt lt)
    have rest : Function.update f 0 (some x) ∘ Nat.succ = f ∘ Nat.succ :=
      funext fun i => Function.update_of_ne (Nat.succ_ne_zero i) ..
    rw [List.range_succ_eq_map, List.filterMap_cons_some (Function.update_self ..), List.filterMap_cons_none free,
      List.filterMap_map, List.filterMap_map, rest]
    rfl
  | succ k ih =>
    obtain ⟨m, rfl⟩ := Nat.exists_eq_succ_of_ne_zero (Nat.ne_of_gt (Nat.zero_lt_of_lt lt))
    obtain ⟨first, here⟩ := Option.isSome_iff_exists.mp (full 0 (Nat.succ_pos k))
    have kept : Function.update f (k + 1) (some x) 0 = some first :=
      (Function.update_of_ne (Nat.succ_ne_zero k).symm ..).trans here
    have rest : Function.update f (k + 1) (some x) ∘ Nat.succ = Function.update (f ∘ Nat.succ) k (some x) :=
      Function.update_comp_eq_of_injective f (fun _ _ => Nat.succ.inj) k (some x)
    rw [List.range_succ_eq_map, List.filterMap_cons_some kept, List.filterMap_cons_some here, List.filterMap_map,
      List.filterMap_map, rest, List.insertIdx_succ_cons]
    exact congrArg (first :: ·) (ih (Nat.lt_of_succ_lt_succ lt) free fun i le => full (i + 1) (Nat.succ_lt_succ le))

end Legacy.Lib
