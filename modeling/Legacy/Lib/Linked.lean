import Mathlib.Data.List.Nodup
import Mathlib.Logic.Function.Basic
import Mathlib.Tactic.Common

/-!
# Elements that know their list

Lists of elements, one for each key, in which every element is linked at most once and names the list that it is
linked in. `Linked` says that the lists and the names agree, and the two moves of an element keep it.
-/

namespace Legacy.Lib

universe u v

variable {κ : Type u} {α : Type v} [DecidableEq κ] [DecidableEq α]

/-- The lists after the element was taken out of its own. -/
def delink (lists : κ → List α) (home : Option κ) (a : α) : κ → List α :=
  match home with
  | none => lists
  | some k => Function.update lists k ((lists k).erase a)

/-- The lists after the element was put at the head of one of them. -/
def insertFirst (lists : κ → List α) (k : κ) (a : α) : κ → List α := Function.update lists k (a :: lists k)

/-- Every element is once in the list it names, and in no other. -/
def Linked (lists : κ → List α) (home : α → Option κ) : Prop :=
  ∀ k a, (lists k).count a = if home a = some k then 1 else 0

variable {lists : κ → List α} {home : α → Option κ}

/-- Empty lists, and nothing at home. -/
lemma linked_empty : Linked (fun _ : κ => ([] : List α)) fun _ => none := by
  intro k a
  rw [if_neg (Option.some_ne_none k).symm]
  exact List.count_nil

/-- An element taken out of its list names none. -/
lemma Linked.delink (linked : Linked lists home) (a : α) :
    Linked (delink lists (home a) a) (Function.update home a none) := by
  intro k b
  have old := linked k b
  rcases eq_or_ne b a with rfl | other
  · rw [Function.update_self, if_neg (Option.some_ne_none k).symm]
    cases own : home b with
    | none =>
      rw [own, if_neg (Option.some_ne_none k).symm] at old
      exact old
    | some k' =>
      rw [Lib.delink]
      rcases eq_or_ne k k' with rfl | ne
      · rw [Function.update_self, List.count_erase_self, old, if_pos own]
      · rw [Function.update_of_ne ne, old, own, if_neg (fun eq => ne (Option.some_inj.mp eq).symm)]
  · rw [Function.update_of_ne other, ← old]
    cases own : home a with
    | none => rfl
    | some k' =>
      rw [Lib.delink]
      rcases eq_or_ne k k' with rfl | ne
      · rw [Function.update_self, List.count_erase_of_ne other]
      · rw [Function.update_of_ne ne]

/-- An element without a list is put into one. -/
lemma Linked.insertFirst (linked : Linked lists home) {a : α} (free : home a = none) (k : κ) :
    Linked (insertFirst lists k a) (Function.update home a (some k)) := by
  intro k' b
  have old := linked k' b
  rw [Lib.insertFirst]
  rcases eq_or_ne b a with rfl | other
  · rw [free, if_neg (Option.some_ne_none k').symm] at old
    rw [Function.update_self]
    rcases eq_or_ne k' k with rfl | ne
    · rw [Function.update_self, List.count_cons_self, old, if_pos rfl]
    · rw [Function.update_of_ne ne, old, if_neg (fun eq => ne (Option.some_inj.mp eq).symm)]
  · rw [Function.update_of_ne other, ← old]
    rcases eq_or_ne k' k with rfl | ne
    · rw [Function.update_self, List.count_cons_of_ne other.symm]
    · rw [Function.update_of_ne ne]

section Split

variable {β : Type*} [DecidableEq β]

/-- The lists of one family, split by a class of their elements. -/
def split (p : α → β) (lists : κ → List α) : κ × β → List α := fun k => (lists k.1).filter fun a => p a = k.2

omit [DecidableEq κ] [DecidableEq α] in
/-- The class of the elements alone decides. -/
lemma split_congr {p q : α → β} (same : ∀ k, ∀ a ∈ lists k, p a = q a) : split p lists = split q lists := by
  funext k
  apply List.filter_congr
  intro a mem
  rw [same k.1 a mem]

omit [DecidableEq κ] [DecidableEq α] in

/-- A part of a list has its elements with one value. -/
lemma split_apply (p : α → β) (lists : κ → List α) (k : κ) (b : β) :
    split p lists (k, b) = (lists k).filter fun a => p a = b := rfl

omit [DecidableEq α] in

/-- An element goes to the head of its part. -/
lemma insertFirst_split (p : α → β) (k : κ) (a : α) :
    insertFirst (split p lists) (k, p a) a = split p (insertFirst lists k a) := by
  funext ⟨k', b⟩
  rw [split_apply, insertFirst, insertFirst]
  rcases eq_or_ne k' k with rfl | other
  · rw [Function.update_self, List.filter_cons]
    rcases eq_or_ne b (p a) with rfl | apart
    · rw [Function.update_self, if_pos (decide_eq_true rfl), split_apply]
    · rw [Function.update_of_ne fun eq => apart (Prod.mk.inj eq).2, if_neg fun eq => apart (of_decide_eq_true eq).symm,
        split_apply]
  · rw [Function.update_of_ne fun eq => other (Prod.mk.inj eq).1, Function.update_of_ne other, split_apply]

/-- No list has an element twice. -/
lemma Linked.nodup (linked : Linked lists home) (k : κ) : (lists k).Nodup := by
  rw [List.nodup_iff_count_le_one]
  intro a
  rw [linked k a]
  split_ifs
  · exact Nat.le_refl 1
  · exact Nat.zero_le 1

/-- An element leaves its part. -/
lemma Linked.delink_split (linked : Linked lists home) (p : α → β) (a : α) :
    Lib.delink (split p lists) ((home a).map fun k => (k, p a)) a = split p (Lib.delink lists (home a) a) := by
  cases own : home a with
  | none => rfl
  | some k =>
    funext ⟨k', b⟩
    rw [Option.map_some, Lib.delink, Lib.delink, split_apply, split_apply]
    rcases eq_or_ne k' k with rfl | other
    · rw [Function.update_self, (linked.nodup k').erase_eq_filter, List.filter_filter]
      rcases eq_or_ne b (p a) with rfl | apart
      · rw [Function.update_self, ((linked.nodup k').filter _).erase_eq_filter, List.filter_filter]
        apply List.filter_congr
        intro c _
        exact Bool.and_comm _ _
      · rw [Function.update_of_ne fun eq => apart (Prod.mk.inj eq).2, split_apply]
        apply List.filter_congr
        intro c _
        -- an element of another class is not the one that leaves
        by_cases eq : p c = b
        · have ne : c ≠ a := by
            rintro rfl
            exact apart eq.symm
          rw [decide_eq_true eq, Bool.true_and]
          exact (bne_iff_ne.mpr ne).symm
        · rw [decide_eq_false eq, Bool.false_and]
    · rw [Function.update_of_ne fun eq => other (Prod.mk.inj eq).1, Function.update_of_ne other, split_apply]

end Split

end Legacy.Lib
