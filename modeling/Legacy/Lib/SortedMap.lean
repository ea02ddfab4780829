import Mathlib.Data.List.Lex
import Mathlib.Data.Prod.Lex
import Mathlib.Tactic.Common

/-!
# Sorted maps

A map as the list of its entries in the order of their keys, which is how it is iterated over. An insertion has no
effect on a key that is there. Maps are ordered by their entries, one after the other.
-/

namespace Legacy.Lib

universe u v

/-- A map with its entries in the order of their keys. -/
@[ext]
structure SortedMap (κ : Type u) (ν : Type v) [LinearOrder κ] where
  entries : List (κ × ν)
  sorted : (entries.map Prod.fst).Pairwise (· < ·)

namespace SortedMap

variable {κ : Type u} {ν : Type v} [LinearOrder κ] {k : κ} {value : ν} {entries : List (κ × ν)}

/-- The entries after an insertion. -/
def insertEntry (k : κ) (value : ν) : List (κ × ν) → List (κ × ν)
  | [] => [(k, value)]
  | e :: entries =>
    if k < e.1 then (k, value) :: e :: entries
    else if e.1 < k then e :: insertEntry k value entries
    else e :: entries

/-- An entry brings its own key only. -/
lemma mem_insertEntry {k' : κ} (mem : k' ∈ (insertEntry k value entries).map Prod.fst) :
    k' = k ∨ k' ∈ entries.map Prod.fst := by
  induction entries with
  | nil => exact Or.inl (List.mem_singleton.mp mem)
  | cons e entries ih =>
    rw [insertEntry] at mem
    split at mem
    · exact List.mem_cons.mp mem
    split at mem
    · rcases List.mem_cons.mp mem with rfl | mem
      · exact Or.inr List.mem_cons_self
      · exact (ih mem).imp_right (List.mem_cons_of_mem _)
    · exact Or.inr mem

/-- The keys stay in order. -/
lemma insertEntry_sorted (sorted : (entries.map Prod.fst).Pairwise (· < ·)) :
    ((insertEntry k value entries).map Prod.fst).Pairwise (· < ·) := by
  induction entries with
  | nil => exact List.pairwise_singleton _ _
  | cons e entries ih =>
    obtain ⟨first, others⟩ := List.pairwise_cons.mp sorted
    rw [insertEntry]
    split
    · next before =>
      refine List.pairwise_cons.mpr ⟨fun k' mem => ?_, sorted⟩
      rcases List.mem_cons.mp mem with rfl | mem
      · exact before
      · exact before.trans (first k' mem)
    split
    · next after =>
      refine List.pairwise_cons.mpr ⟨fun k' mem => ?_, ih others⟩
      rcases mem_insertEntry mem with rfl | mem
      · exact after
      · exact first k' mem
    · exact sorted

/-- A key behind all others comes at the end. -/
lemma insertEntry_append (last : ∀ k' ∈ entries.map Prod.fst, k' < k) :
    insertEntry k value entries = entries ++ [(k, value)] := by
  induction entries with
  | nil => rfl
  | cons e entries ih =>
    obtain ⟨first, others⟩ := List.forall_mem_cons.mp last
    rw [insertEntry, if_neg (not_lt_of_gt first), if_pos first, ih others, List.cons_append]

/-- The map without entries. -/
def empty : SortedMap κ ν := ⟨[], List.Pairwise.nil⟩

/-- The map after an insertion. -/
def insert (m : SortedMap κ ν) (k : κ) (value : ν) : SortedMap κ ν :=
  ⟨insertEntry k value m.entries, insertEntry_sorted m.sorted⟩

/-- The map after insertions, one after the other. -/
def insertAll (m : SortedMap κ ν) (entries : List (κ × ν)) : SortedMap κ ν :=
  entries.foldl (fun m e => m.insert e.1 e.2) m

/-- The insertions of the entries of a map, in their order, give the map. -/
lemma insertAll_entries (m : SortedMap κ ν) : empty.insertAll m.entries = m := by
  have all (before : SortedMap κ ν) (after : List (κ × ν))
      (sorted : ((before.entries ++ after).map Prod.fst).Pairwise (· < ·)) :
      (before.insertAll after).entries = before.entries ++ after := by
    induction after generalizing before with
    | nil => rw [insertAll, List.foldl_nil, List.append_nil]
    | cons e after ih =>
      have next : (before.insert e.1 e.2).entries = before.entries ++ [e] := by
        refine insertEntry_append fun k' mem => ?_
        rw [List.map_append] at sorted
        exact (List.pairwise_append.mp sorted).2.2 k' mem e.1 List.mem_cons_self
      have rest := ih (before.insert e.1 e.2)
      rw [next, List.append_assoc, List.singleton_append] at rest
      exact rest sorted
  exact SortedMap.ext (all empty m.entries m.sorted)

/-- The order of maps: that of the lists of their entries. -/
instance [LinearOrder ν] : LinearOrder (SortedMap κ ν) :=
  LinearOrder.lift' (fun m => m.entries.map toLex) fun _ _ eq =>
    SortedMap.ext (List.map_injective_iff.mpr toLex.injective eq)

end SortedMap

end Legacy.Lib
