import Legacy.Inventory.Prototype
import Mathlib.Data.List.Basic

/-!
# The cache of the lookup by model

`ObjectMgr::GetItemEntryByModelId` (`src/src/game/ObjectMgr.cpp`) remembers the entry that it finds for a model in a
map that has the entry for its key, and searches that map with the model. `transparent_iff` says for which sequences
of lookups nobody notices: those without a lookup of a number that is the entry of an earlier one, unless that number
stands for itself.
-/

namespace Legacy.Inventory
open Legacy.Lib

/-- The entry of the first row of a model. -/
def entryOfModel (table : List ItemPrototype) (modelid : Nat) : Option Nat :=
  (table.find? fun proto => proto.modelid = modelid).map ItemPrototype.itemId

namespace ObjectMgr

/-- The answers to a sequence of lookups; each one leaves its cache to the next. -/
def answers (objmgr : ObjectMgr) : List Nat → List Nat
  | [] => []
  | modelid :: calls =>
    (objmgr.getItemEntryByModelId modelid).1 :: answers (objmgr.getItemEntryByModelId modelid).2 calls

/-- The answer to a lookup that is the first one. -/
def firstAnswer (table : List ItemPrototype) (modelid : Nat) : Nat :=
  (getItemEntryByModelId ⟨table, []⟩ modelid).1

/-- The later lookup is not one of the entry that the earlier one has found, or finds that entry too. -/
def Undisturbed (table : List ItemPrototype) (earlier later : Nat) : Prop :=
  entryOfModel table earlier = some later → (entryOfModel table later).getD 0 = later

/-- The keys of the cache (source `m_itemPrototypeList`). -/
def keys (objmgr : ObjectMgr) : List Nat := objmgr.itemPrototypeList.map Prod.fst

variable {objmgr : ObjectMgr} {table : List ItemPrototype} {modelid : Nat}

/-- A number among the keys is its own answer. -/
lemma lookup_of_mem (mem : modelid ∈ objmgr.keys) : objmgr.getItemEntryByModelId modelid = (modelid, objmgr) := by
  obtain ⟨e, found, key⟩ := List.mem_map.mp mem
  rw [getItemEntryByModelId]
  cases hit : objmgr.itemPrototypeList.find? fun e => e.1 = modelid with
  | none => exact absurd key (by simpa using List.find?_eq_none.mp hit e found)
  | some e' =>
    have key' := List.find?_some hit
    simp only [of_decide_eq_true key']

/-- Any other number is looked up in the table, and what is found becomes a key. -/
lemma lookup_of_not_mem (fresh : modelid ∉ objmgr.keys) :
    (objmgr.getItemEntryByModelId modelid).1 = (entryOfModel objmgr.itemStorage modelid).getD 0 ∧
      ∀ k, k ∈ (objmgr.getItemEntryByModelId modelid).2.keys ↔
        k ∈ objmgr.keys ∨ entryOfModel objmgr.itemStorage modelid = some k := by
  have miss : objmgr.itemPrototypeList.find? (fun e => e.1 = modelid) = none := by
    refine List.find?_eq_none.mpr fun e mem here => fresh ?_
    rw [← of_decide_eq_true here]
    exact List.mem_map_of_mem mem
  rw [getItemEntryByModelId, miss, entryOfModel]
  cases objmgr.itemStorage.find? fun proto => proto.modelid = modelid with
  | none => exact ⟨rfl, fun k => (or_iff_left (Option.some_ne_none k).symm).symm⟩
  | some proto =>
    simp only [Option.map_some, Option.getD_some, Option.some.injEq]
    split
    · next old =>
      -- the entry is a key already, so the insertion has no effect
      refine ⟨rfl, fun k => (or_iff_left_of_imp ?_).symm⟩
      rintro rfl
      obtain ⟨e, mem, key⟩ := List.any_eq_true.mp old
      exact of_decide_eq_true key ▸ List.mem_map_of_mem mem
    · refine ⟨rfl, fun k => ?_⟩
      rw [keys, List.map_append, List.mem_append, List.map_singleton, List.mem_singleton, eq_comm (a := k), keys]

/-- A first lookup answers with the table. -/
lemma firstAnswer_eq : firstAnswer table modelid = (entryOfModel table modelid).getD 0 := by
  have fresh : modelid ∉ (⟨table, []⟩ : ObjectMgr).keys := List.not_mem_nil
  exact (lookup_of_not_mem fresh).1

/-- The answers are those of first lookups, from any cache on, if no lookup is disturbed by a key or by an earlier
lookup. -/
lemma answers_eq_iff (objmgr : ObjectMgr) (calls : List Nat) :
    objmgr.answers calls = calls.map (firstAnswer objmgr.itemStorage) ↔
      (∀ k ∈ objmgr.keys, k ∈ calls → firstAnswer objmgr.itemStorage k = k) ∧
        calls.Pairwise (Undisturbed objmgr.itemStorage) := by
  induction calls generalizing objmgr with
  | nil => exact iff_of_true rfl ⟨fun _ _ mem => absurd mem List.not_mem_nil, List.Pairwise.nil⟩
  | cons modelid calls ih =>
    have later := ih (objmgr.getItemEntryByModelId modelid).2
    rw [getItemEntryByModelId_storage] at later
    rw [answers, List.map_cons, List.cons_eq_cons, later, List.pairwise_cons]
    by_cases mem : modelid ∈ objmgr.keys
    · rw [lookup_of_mem mem]
      constructor
      · rintro ⟨here, kept, pairwise⟩
        refine ⟨fun k key call => ?_, fun c call found => ?_, pairwise⟩
        · rcases List.mem_cons.mp call with rfl | call
          · exact here.symm
          · exact kept k key call
        · -- what a key finds is itself
          have same : modelid = c := here.trans (by rw [firstAnswer_eq, found, Option.getD_some])
          rw [← firstAnswer_eq, ← same]
          exact here.symm
      · rintro ⟨kept, -, pairwise⟩
        exact ⟨(kept modelid mem List.mem_cons_self).symm,
          fun k key call => kept k key (List.mem_cons_of_mem _ call), pairwise⟩
    · obtain ⟨answer, keys⟩ := lookup_of_not_mem mem
      rw [answer, ← firstAnswer_eq, and_iff_right rfl, ← and_assoc]
      refine and_congr_left fun _ => ?_
      constructor
      · intro kept
        refine ⟨fun k key call => ?_, fun c call found => ?_⟩
        · rcases List.mem_cons.mp call with rfl | call
          · exact absurd key mem
          · exact kept k ((keys k).mpr (Or.inl key)) call
        · rw [← firstAnswer_eq]
          exact kept c ((keys c).mpr (Or.inr found)) call
      · rintro ⟨kept, undisturbed⟩ k key call
        rcases (keys k).mp key with key | found
        · exact kept k key (List.mem_cons_of_mem _ call)
        · rw [firstAnswer_eq]
          exact undisturbed k call found

/-- Every lookup of a sequence is answered like a first lookup exactly if none is for the entry that an earlier one
has found in the table, unless the table has that entry for that number too. -/
theorem transparent_iff (table : List ItemPrototype) (calls : List Nat) :
    answers ⟨table, []⟩ calls = calls.map (firstAnswer table) ↔ calls.Pairwise (Undisturbed table) :=
  (answers_eq_iff ⟨table, []⟩ calls).trans (and_iff_right fun _ key => absurd key List.not_mem_nil)

/-- Entry 5 has the model 9, and the model 5 is the one of entry 7. -/
def crossed : List ItemPrototype :=
  [⟨5, 9, "Sword", 0, 0, 0, 3, 1, 0, 1, []⟩, ⟨7, 5, "Shield", 0, 0, 0, 3, 1, 0, 1, []⟩]

/-- After a lookup of the model 9 the model 5 has another entry. -/
theorem not_transparent :
    ¬∀ (table : List ItemPrototype) (calls : List Nat), answers ⟨table, []⟩ calls = calls.map (firstAnswer table) := by
  intro transparent
  have same := transparent crossed [9, 5]
  exact absurd same (by decide)

end ObjectMgr

end Legacy.Inventory
