import Legacy.Lib.Linked
import Mathlib.Data.List.Chain
import Mathlib.Data.List.Nodup

/-!
# Doubly linked cells

A heap of cells with a pointer to the next and one to the previous cell. A `Path` is a run of live cells that point
at each other; a cell can be taken out of a path and put into one by four writes. A family of lists with a sentinel
at either end `Represents` the lists of `Linked`.
-/

namespace Legacy.Lib

universe u v

/-- Cells with two pointers, of which some are live. -/
@[ext]
structure Cells (β : Type u) where
  live : β → Bool
  iNext : β → Option β
  iPrev : β → Option β

namespace Cells

variable {β : Type u} (h : Cells β)

/-- A read through a pointer, which has to point at a live cell. -/
def getNext (n : β) : Option (Option β) := if h.live n then some (h.iNext n) else none

/-- The element before a live one. -/
def getPrev (n : β) : Option (Option β) := if h.live n then some (h.iPrev n) else none

section Writes

variable [DecidableEq β]

/-- A write through a pointer, which has to point at a live cell. -/
def setNext (n : β) (p : Option β) : Option (Cells β) :=
  if h.live n then some { h with iNext := Function.update h.iNext n p } else none

/-- The pointer to the element before a live one is written. -/
def setPrev (n : β) (p : Option β) : Option (Cells β) :=
  if h.live n then some { h with iPrev := Function.update h.iPrev n p } else none

/-- A cell comes to life with no neighbours. -/
def construct (n : β) : Cells β :=
  ⟨Function.update h.live n true, Function.update h.iNext n none, Function.update h.iPrev n none⟩

/-- The end of a cell. -/
def destroy (n : β) : Cells β := { h with live := Function.update h.live n false }

/-- The heap after a cell was taken out from between two others. -/
def removed (p n s : β) : Cells β :=
  { h with
    iNext := Function.update (Function.update h.iNext p (some s)) n none
    iPrev := Function.update (Function.update h.iPrev s (some p)) n none }

/-- The heap after a cell was put between two others. -/
def inserted (p n s : β) : Cells β :=
  { h with
    iNext := Function.update (Function.update h.iNext n (some s)) p (some n)
    iPrev := Function.update (Function.update h.iPrev n (some p)) s (some n) }

end Writes

variable {h} {h' : Cells β} {n a b : β}

/-- The pointer of a live element is read. -/
lemma getNext_eq (live : h.live n = true) : h.getNext n = some (h.iNext n) := if_pos live

/-- So is its pointer back. -/
lemma getPrev_eq (live : h.live n = true) : h.getPrev n = some (h.iPrev n) := if_pos live

/-- Two cells that point at each other. -/
def Joined (h : Cells β) (a b : β) : Prop := h.iNext a = some b ∧ h.iPrev b = some a

/-- Live cells, each once, that point at each other in their order. -/
structure Path (h : Cells β) (cells : List β) : Prop where
  joined : cells.IsChain h.Joined
  nodup : cells.Nodup
  live : ∀ n ∈ cells, h.live n = true

/-- A path is not changed by what is written elsewhere. -/
lemma Path.frame {cells : List β} (path : h.Path cells) (next : ∀ n ∈ cells, h'.iNext n = h.iNext n)
    (prev : ∀ n ∈ cells, h'.iPrev n = h.iPrev n) (live : ∀ n ∈ cells, h'.live n = h.live n) : h'.Path cells := by
  refine ⟨?_, path.nodup, fun n mem => (live n mem).trans (path.live n mem)⟩
  refine path.joined.imp_of_mem_imp ?_
  intro a b memA memB joined
  exact ⟨(next a memA).trans joined.1, (prev b memB).trans joined.2⟩

section Neighbours

variable {L R : List β} {p s : β}

/-- Neighbours on a path are joined. -/
lemma Path.joined_of_append (path : h.Path (L ++ a :: b :: R)) : h.Joined a b :=
  (List.isChain_append_cons_cons.mp path.joined).2.1

/-- So are the next two. -/
lemma Path.joined_after (path : h.Path (L ++ p :: a :: b :: R)) : h.Joined a b := by
  rw [List.append_cons L p (a :: b :: R)] at path
  exact path.joined_of_append

/-- The cells before and after a gap, and a cell that is on neither side. -/
lemma sides (nodup : (L ++ p :: s :: R).Nodup) (fresh : n ∉ L ++ p :: s :: R) :
    (∀ {x}, x ∈ L ++ [p] → x ≠ n ∧ x ≠ s) ∧ ∀ {x}, x ∈ s :: R → x ≠ n ∧ x ≠ p := by
  rw [List.append_cons L p (s :: R)] at nodup fresh
  have apart := List.disjoint_of_nodup_append nodup
  refine ⟨fun {x} mem => ⟨?_, ?_⟩, fun {x} mem => ⟨?_, ?_⟩⟩
  · rintro rfl
    exact fresh (List.mem_append_left _ mem)
  · rintro rfl
    exact apart mem List.mem_cons_self
  · rintro rfl
    exact fresh (List.mem_append_right _ mem)
  · rintro rfl
    exact apart (List.mem_append_right L List.mem_cons_self) mem

/-- An element is put between two others. -/
lemma perm_gap : (L ++ p :: n :: s :: R).Perm (n :: (L ++ p :: s :: R)) := by
  rw [List.append_cons L p (n :: s :: R), List.append_cons L p (s :: R)]
  exact List.perm_middle

variable [DecidableEq β]

/-- The pointer of a live element is written. -/
lemma setNext_eq (live : h.live n = true) (p : Option β) :
    h.setNext n p = some { h with iNext := Function.update h.iNext n p } := if_pos live

/-- So is its pointer back. -/
lemma setPrev_eq (live : h.live n = true) (p : Option β) :
    h.setPrev n p = some { h with iPrev := Function.update h.iPrev n p } := if_pos live

/-- What taking out a cell leaves as it was. -/
lemma removed_of_ne {x : β} (other : x ≠ n) :
    (x ≠ p → (h.removed p n s).iNext x = h.iNext x) ∧ (x ≠ s → (h.removed p n s).iPrev x = h.iPrev x) := by
  refine ⟨fun before => ?_, fun after => ?_⟩
  · show Function.update (Function.update h.iNext p (some s)) n none x = h.iNext x
    rw [Function.update_of_ne other, Function.update_of_ne before]
  · show Function.update (Function.update h.iPrev s (some p)) n none x = h.iPrev x
    rw [Function.update_of_ne other, Function.update_of_ne after]

/-- What putting in a cell leaves as it was. -/
lemma inserted_of_ne {x : β} (other : x ≠ n) :
    (x ≠ p → (h.inserted p n s).iNext x = h.iNext x) ∧ (x ≠ s → (h.inserted p n s).iPrev x = h.iPrev x) := by
  refine ⟨fun before => ?_, fun after => ?_⟩
  · show Function.update (Function.update h.iNext n (some s)) p (some n) x = h.iNext x
    rw [Function.update_of_ne before, Function.update_of_ne other]
  · show Function.update (Function.update h.iPrev n (some p)) s (some n) x = h.iPrev x
    rw [Function.update_of_ne after, Function.update_of_ne other]

/-- A new element leaves the others alone. -/
lemma construct_of_ne {x : β} (other : x ≠ n) : (h.construct n).live x = h.live x ∧
    (h.construct n).iNext x = h.iNext x ∧ (h.construct n).iPrev x = h.iPrev x :=
  ⟨Function.update_of_ne other .., Function.update_of_ne other .., Function.update_of_ne other ..⟩

/-- A new element is live and points nowhere. -/
lemma construct_self : (h.construct n).live n = true ∧ (h.construct n).iNext n = none ∧
    (h.construct n).iPrev n = none :=
  ⟨Function.update_self .., Function.update_self .., Function.update_self ..⟩

/-- The other elements stay live. -/
lemma live_destroy {x : β} : (h.destroy n).live x = true ↔ x ≠ n ∧ h.live x = true := by
  show Function.update h.live n false x = true ↔ _
  rcases eq_or_ne x n with rfl | other
  · rw [Function.update_self]
    exact iff_of_false Bool.false_ne_true fun both => both.1 rfl
  · rw [Function.update_of_ne other]
    exact (and_iff_right other).symm

/-- The neighbours of an element that was taken out are joined. -/
lemma removed_joined (before : p ≠ n) (after : s ≠ n) : (h.removed p n s).Joined p s := by
  refine ⟨?_, ?_⟩
  · show Function.update (Function.update h.iNext p (some s)) n none p = some s
    rw [Function.update_of_ne before, Function.update_self]
  · show Function.update (Function.update h.iPrev s (some p)) n none s = some p
    rw [Function.update_of_ne after, Function.update_self]

/-- An element that was taken out points nowhere. -/
lemma removed_self : (h.removed p n s).iNext n = none ∧ (h.removed p n s).iPrev n = none :=
  ⟨Function.update_self .., Function.update_self ..⟩

/-- An element that was put in is joined to its neighbours. -/
lemma inserted_joined (before : p ≠ n) (after : s ≠ n) :
    (h.inserted p n s).Joined p n ∧ (h.inserted p n s).Joined n s := by
  refine ⟨⟨Function.update_self .., ?_⟩, ?_, Function.update_self ..⟩
  · show Function.update (Function.update h.iPrev n (some p)) s (some n) n = some p
    rw [Function.update_of_ne after.symm, Function.update_self]
  · show Function.update (Function.update h.iNext n (some s)) p (some n) n = some s
    rw [Function.update_of_ne before.symm, Function.update_self]

/-- A cell that is taken out of a path leaves a path. -/
lemma Path.remove (path : h.Path (L ++ p :: n :: s :: R)) : (h.removed p n s).Path (L ++ p :: s :: R) := by
  obtain ⟨left, pn, rest⟩ := List.isChain_append_cons_cons.mp path.joined
  obtain ⟨ns, right⟩ := List.isChain_cons_cons.mp rest
  obtain ⟨fresh, nodup⟩ := List.nodup_cons.mp (perm_gap.nodup_iff.mp path.nodup)
  obtain ⟨inLeft, inRight⟩ := sides nodup fresh
  have before := (inLeft (List.mem_append_right L List.mem_cons_self)).1
  have after := (inRight List.mem_cons_self).1
  refine ⟨List.isChain_append_cons_cons.mpr ⟨?_, removed_joined before after, ?_⟩, nodup, ?_⟩
  · -- nothing before the gap points at `n`, so that only the pointer of `p` is written there
    refine left.imp_of_mem_imp ?_
    intro a b memA memB joined
    have other : a ≠ p := by
      rintro rfl
      exact (inLeft memB).1 (Option.some_inj.mp (joined.1.symm.trans pn.1))
    refine ⟨((removed_of_ne (inLeft memA).1).1 other).trans joined.1, ?_⟩
    exact ((removed_of_ne (inLeft memB).1).2 (inLeft memB).2).trans joined.2
  · refine right.imp_of_mem_imp ?_
    intro a b memA memB joined
    have other : b ≠ s := by
      rintro rfl
      exact (inRight memA).1 (Option.some_inj.mp (joined.2.symm.trans ns.2))
    refine ⟨((removed_of_ne (inRight memA).1).1 (inRight memA).2).trans joined.1, ?_⟩
    exact ((removed_of_ne (inRight memB).1).2 other).trans joined.2
  · intro x mem
    exact path.live x (perm_gap.mem_iff.mpr (List.mem_cons_of_mem n mem))

/-- A live cell that is put into a path makes a path. -/
lemma Path.insert (path : h.Path (L ++ p :: s :: R)) (fresh : n ∉ L ++ p :: s :: R) (live : h.live n = true) :
    (h.inserted p n s).Path (L ++ p :: n :: s :: R) := by
  obtain ⟨left, ps, right⟩ := List.isChain_append_cons_cons.mp path.joined
  obtain ⟨inLeft, inRight⟩ := sides path.nodup fresh
  have before := (inLeft (List.mem_append_right L List.mem_cons_self)).1
  have after := (inRight List.mem_cons_self).1
  obtain ⟨pn, ns⟩ := inserted_joined (h := h) before after
  refine ⟨List.isChain_append_cons_cons.mpr ⟨?_, pn, List.isChain_cons_cons.mpr ⟨ns, ?_⟩⟩, ?_, ?_⟩
  · refine left.imp_of_mem_imp ?_
    intro a b memA memB joined
    have other : a ≠ p := by
      rintro rfl
      exact (inLeft memB).2 (Option.some_inj.mp (joined.1.symm.trans ps.1))
    refine ⟨((inserted_of_ne (inLeft memA).1).1 other).trans joined.1, ?_⟩
    exact ((inserted_of_ne (inLeft memB).1).2 (inLeft memB).2).trans joined.2
  · refine right.imp_of_mem_imp ?_
    intro a b memA memB joined
    have other : b ≠ s := by
      rintro rfl
      exact (inRight memA).2 (Option.some_inj.mp (joined.2.symm.trans ps.2))
    refine ⟨((inserted_of_ne (inRight memA).1).1 (inRight memA).2).trans joined.1, ?_⟩
    exact ((inserted_of_ne (inRight memB).1).2 other).trans joined.2
  · exact perm_gap.nodup_iff.mpr (List.nodup_cons.mpr ⟨fresh, path.nodup⟩)
  · intro x mem
    rcases List.mem_cons.mp (perm_gap.mem_iff.mp mem) with rfl | mem
    · exact live
    · exact path.live x mem

end Neighbours

end Cells

/-- A cell of a family of lists: the sentinels at the ends of every list, and the elements. -/
inductive ListCell (κ : Type u) (α : Type v) where
  | first (k : κ)
  | elem (a : α)
  | last (k : κ)
  deriving DecidableEq, Repr

namespace ListCell

variable {κ : Type u} {α : Type v} {k k' : κ} {a : α} {xs : List α} {n : ListCell κ α}

/-- The cells of one list, with its sentinels. -/
def path (k : κ) (xs : List α) : List (ListCell κ α) := first k :: (xs.map elem ++ [last k])

/-- The list that a cell belongs to. -/
def owner (home : α → Option κ) : ListCell κ α → Option κ
  | first k => some k
  | elem a => home a
  | last k => some k

/-- The elements on the path of a list are its own. -/
lemma elem_mem_path : elem a ∈ path k xs ↔ a ∈ xs := by
  simp only [path, List.mem_cons, List.mem_append, List.mem_map, List.not_mem_nil, reduceCtorEq, elem.injEq,
    exists_eq_right, false_or, or_false]

/-- The first sentinel on a path is that of its list. -/
lemma first_mem_path : first k' ∈ path k xs ↔ k' = k := by
  simp only [path, List.mem_cons, List.mem_append, List.mem_map, List.not_mem_nil, reduceCtorEq, first.injEq,
    and_false, exists_false, or_false]

/-- So is the last one. -/
lemma last_mem_path : last k' ∈ path k xs ↔ k' = k := by
  simp only [path, List.mem_cons, List.mem_append, List.mem_map, List.not_mem_nil, reduceCtorEq, last.injEq,
    and_false, exists_false, or_false, false_or]

/-- A path comes by nothing twice. -/
lemma nodup_path (nodup : xs.Nodup) : (path k xs).Nodup := by
  refine List.nodup_cons.mpr ⟨?_, ?_⟩
  · simp only [List.mem_append, List.mem_map, List.mem_singleton, reduceCtorEq, and_false, exists_false, or_false,
      not_false_eq_true]
  · refine List.Nodup.append (nodup.map fun _ _ => elem.inj) (List.nodup_singleton _) ?_
    simp only [List.disjoint_singleton, List.mem_map, reduceCtorEq, and_false, exists_false, not_false_eq_true]

/-- The first sentinel is no element. -/
lemma first_ne_elem : (first k : ListCell κ α) ≠ elem a := fun eq => by cases eq

/-- Nor is the last one. -/
lemma last_ne_elem : (last k : ListCell κ α) ≠ elem a := fun eq => by cases eq

/-- The sentinels differ. -/
lemma first_ne_last : (first k : ListCell κ α) ≠ last k' := fun eq => by cases eq

/-- The cells of another list are other cells than the sentinels of this one. -/
lemma ne_sentinels (mem : n ∈ path k' xs) (other : k' ≠ k) : n ≠ first k ∧ n ≠ last k := by
  refine ⟨?_, ?_⟩
  · rintro rfl
    exact other (first_mem_path.mp mem).symm
  · rintro rfl
    exact other (last_mem_path.mp mem).symm

/-- The cells around an element of a list. -/
lemma exists_neighbours (k : κ) (before after : List α) (a : α) : ∃ L p s R,
    path k (before ++ a :: after) = L ++ p :: elem a :: s :: R ∧ path k (before ++ after) = L ++ p :: s :: R := by
  obtain ⟨L, p, left⟩ : ∃ L p, first k :: before.map elem = L ++ [p] :=
    ⟨_, _, (List.dropLast_append_getLast (List.cons_ne_nil _ _)).symm⟩
  obtain ⟨s, R, right⟩ : ∃ s R, after.map elem ++ [last k] = s :: R :=
    List.exists_cons_of_ne_nil (List.append_ne_nil_of_right_ne_nil _ (List.cons_ne_nil _ _))
  refine ⟨L, p, s, R, ?_, ?_⟩
  · rw [path, List.map_append, List.map_cons, List.append_assoc, List.cons_append, right, ← List.cons_append, left,
      List.append_assoc, List.singleton_append]
  · rw [path, List.map_append, List.append_assoc, right, ← List.cons_append, left, List.append_assoc,
      List.singleton_append]

end ListCell

open ListCell

variable {κ : Type u} {α : Type v} [DecidableEq κ] [DecidableEq α] {lists : κ → List α} {home : α → Option κ}

/-- A list has the elements that are at home in it. -/
lemma Linked.mem_iff (linked : Linked lists home) {a : α} {k : κ} : a ∈ lists k ↔ home a = some k := by
  rw [← List.count_pos_iff, linked k a]
  by_cases own : home a = some k
  · rw [if_pos own]
    exact iff_of_true Nat.one_pos own
  · rw [if_neg own]
    exact iff_of_false (lt_irrefl 0) own

/-- The heap holds the lists: the cells of every live list are a path from its first sentinel to its last, and an
element of no list points nowhere. -/
structure Represents (h : Cells (ListCell κ α)) (lists : κ → List α) (home : α → Option κ) : Prop where
  linked : Linked lists home
  path : ∀ k, h.live (first k) = true → h.Path (path k (lists k))
  ends : ∀ k, h.live (first k) = true → h.iPrev (first k) = none ∧ h.iNext (last k) = none
  headed : ∀ a k, home a = some k → h.live (first k) = true
  free : ∀ a, h.live (elem a) = true → home a = none → h.iNext (elem a) = none ∧ h.iPrev (elem a) = none

namespace Represents

variable {h : Cells (ListCell κ α)} {a : α} {k k' : κ}

/-- The cells of a list belong to it. -/
lemma owner_eq (rep : Represents h lists home) {n : ListCell κ α} (mem : n ∈ ListCell.path k (lists k)) :
    owner home n = some k := by
  cases n with
  | first k' => rw [owner, first_mem_path.mp mem]
  | elem a => exact rep.linked.mem_iff.mp (elem_mem_path.mp mem)
  | last k' => rw [owner, last_mem_path.mp mem]

/-- Different lists have different cells. -/
lemma ne_of_mem (rep : Represents h lists home) {n m : ListCell κ α} (mem : n ∈ ListCell.path k (lists k))
    (mem' : m ∈ ListCell.path k' (lists k')) (other : k' ≠ k) : m ≠ n := by
  rintro rfl
  exact other (Option.some_inj.mp ((rep.owner_eq mem').symm.trans (rep.owner_eq mem)))

/-- An element of no list is on no path. -/
lemma ne_of_unowned (rep : Represents h lists home) (unowned : home a = none) {n : ListCell κ α}
    (mem : n ∈ ListCell.path k (lists k)) : n ≠ elem a := by
  rintro rfl
  have own := rep.owner_eq mem
  rw [owner, unowned] at own
  cases own

/-- An element of a list is live. -/
lemma live_elem (rep : Represents h lists home) (own : home a = some k) : h.live (elem a) = true :=
  (rep.path k (rep.headed a k own)).live _ (elem_mem_path.mpr (rep.linked.mem_iff.mpr own))

/-- A live list has both its sentinels. -/
lemma live_last (rep : Represents h lists home) (live : h.live (first k) = true) : h.live (last k) = true :=
  (rep.path k live).live _ (last_mem_path.mpr rfl)

/-- Cells next to each other on the path of a live list. -/
lemma joined (rep : Represents h lists home) (headed : h.live (first k) = true) {xs : List α} (eq : lists k = xs)
    {L R : List (ListCell κ α)} {x y : ListCell κ α} (split : ListCell.path k xs = L ++ x :: y :: R) :
    h.Joined x y := by
  have path := rep.path k headed
  rw [eq, split] at path
  exact path.joined_of_append

/-- The first sentinel of an empty list is next to the last one. -/
lemma joined_nil (rep : Represents h lists home) (headed : h.live (first k) = true) (eq : lists k = []) :
    h.Joined (first k) (last k) :=
  rep.joined headed eq (L := []) (R := []) rfl

/-- The first sentinel is joined to the first element. -/
lemma joined_first {xs : List α} (rep : Represents h lists home) (headed : h.live (first k) = true)
    (eq : lists k = a :: xs) : h.Joined (first k) (elem a) :=
  rep.joined headed eq (L := []) rfl

/-- Neighbours in a list are joined. -/
lemma joined_elems {xs ys : List α} {b : α} (rep : Represents h lists home) (headed : h.live (first k) = true)
    (eq : lists k = xs ++ a :: b :: ys) : h.Joined (elem a) (elem b) := by
  refine rep.joined headed eq (L := first k :: xs.map elem) (R := ys.map elem ++ [last k]) ?_
  rw [ListCell.path, List.map_append, List.append_assoc]
  rfl

/-- The last element is joined to the last sentinel. -/
lemma joined_last {xs : List α} (rep : Represents h lists home) (headed : h.live (first k) = true)
    (eq : lists k = xs ++ [a]) : h.Joined (elem a) (last k) := by
  refine rep.joined headed eq (L := first k :: xs.map elem) (R := []) ?_
  rw [ListCell.path, List.map_append, List.append_assoc]
  rfl

/-- An element is taken out of its list by joining the cells around it. -/
lemma delink (rep : Represents h lists home) (own : home a = some k) : ∃ p s,
    h.iPrev (elem a) = some p ∧ h.iNext (elem a) = some s ∧ h.live p = true ∧ h.live s = true ∧
      p ≠ elem a ∧ s ≠ elem a ∧
      Represents (h.removed p (elem a) s) (delink lists (home a) a) (Function.update home a none) := by
  have headed := rep.headed a k own
  obtain ⟨before, after, split⟩ := List.append_of_mem (rep.linked.mem_iff.mpr own)
  obtain ⟨L, p, s, R, whole, rest⟩ := exists_neighbours k before after a
  have path := rep.path k headed
  rw [split, whole] at path
  have erased : (lists k).erase a = before ++ after := by
    have nodup := rep.linked.nodup k
    rw [split, List.nodup_middle, List.nodup_cons, List.mem_append, not_or] at nodup
    rw [split, List.erase_append_right _ nodup.1.1, List.erase_cons_head]
  have lists' : Lib.delink lists (home a) a = Function.update lists k (before ++ after) := by
    rw [own, Lib.delink, erased]
  have fresh := (List.nodup_cons.mp (Cells.perm_gap.nodup_iff.mp path.nodup)).1
  have memP : p ∈ ListCell.path k (lists k) := by
    rw [split, whole]
    exact List.mem_append_right L List.mem_cons_self
  have memS : s ∈ ListCell.path k (lists k) := by
    rw [split, whole]
    exact List.mem_append_right L (List.mem_cons_of_mem _ (List.mem_cons_of_mem _ List.mem_cons_self))
  have memA : elem a ∈ ListCell.path k (lists k) := elem_mem_path.mpr (rep.linked.mem_iff.mpr own)
  have pNe : p ≠ elem a := by
    rintro rfl
    exact fresh (List.mem_append_right L List.mem_cons_self)
  have sNe : s ≠ elem a := by
    rintro rfl
    exact fresh (List.mem_append_right L (List.mem_cons_of_mem _ List.mem_cons_self))
  have live := (rep.path k headed).live
  refine ⟨p, s, path.joined_of_append.2, path.joined_after.1, live p memP, live s memS, pNe, sNe, ?_⟩
  refine ⟨rep.linked.delink a, ?_, ?_, ?_, ?_⟩
  · intro k' live
    rw [lists']
    rcases eq_or_ne k' k with rfl | other
    · rw [Function.update_self, rest]
      exact path.remove
    · rw [Function.update_of_ne other]
      refine (rep.path k' live).frame ?_ ?_ fun _ _ => rfl
      · intro n mem
        exact (Cells.removed_of_ne (rep.ne_of_mem memA mem other)).1 (rep.ne_of_mem memP mem other)
      · intro n mem
        exact (Cells.removed_of_ne (rep.ne_of_mem memA mem other)).2 (rep.ne_of_mem memS mem other)
  · intro k' live
    obtain ⟨noPrev, noNext⟩ := rep.ends k' live
    refine ⟨?_, ?_⟩
    · -- `p` comes before the first sentinel of no list, so that it is not `s`
      refine ((Cells.removed_of_ne (fun eq => by cases eq)).2 ?_).trans noPrev
      rintro rfl
      obtain rfl := first_mem_path.mp memS
      exact Option.some_ne_none _ (path.joined_after.2.symm.trans noPrev)
    · refine ((Cells.removed_of_ne (fun eq => by cases eq)).1 ?_).trans noNext
      rintro rfl
      obtain rfl := last_mem_path.mp memP
      exact Option.some_ne_none _ (path.joined_of_append.1.symm.trans noNext)
  · intro b k' own'
    rcases eq_or_ne b a with rfl | other
    · rw [Function.update_self] at own'
      cases own'
    · rw [Function.update_of_ne other] at own'
      exact rep.headed b k' own'
  · intro b live unowned
    rcases eq_or_ne b a with rfl | other
    · exact Cells.removed_self
    · rw [Function.update_of_ne other] at unowned
      obtain ⟨noNext, noPrev⟩ := rep.free b live unowned
      have apart := (rep.ne_of_unowned unowned memA).symm
      exact ⟨((Cells.removed_of_ne apart).1 (rep.ne_of_unowned unowned memP).symm).trans noNext,
        ((Cells.removed_of_ne apart).2 (rep.ne_of_unowned unowned memS).symm).trans noPrev⟩

/-- An element of no list is put at the head of a live one. -/
lemma insertFirst (rep : Represents h lists home) (live : h.live (elem a) = true) (unowned : home a = none)
    (headed : h.live (first k) = true) : ∃ s, h.iNext (first k) = some s ∧ h.live s = true ∧ s ≠ elem a ∧
      Represents (h.inserted (first k) (elem a) s) (insertFirst lists k a) (Function.update home a (some k)) := by
  obtain ⟨s, R, right⟩ : ∃ s R, (lists k).map elem ++ [last k] = s :: R :=
    List.exists_cons_of_ne_nil (List.append_ne_nil_of_right_ne_nil _ (List.cons_ne_nil _ _))
  have whole : ListCell.path k (lists k) = [] ++ first k :: s :: R := by rw [ListCell.path, right, List.nil_append]
  have path := rep.path k headed
  have memF : first k ∈ ListCell.path k (lists k) := first_mem_path.mpr rfl
  have memS : s ∈ ListCell.path k (lists k) := by
    rw [whole]
    exact List.mem_cons_of_mem _ List.mem_cons_self
  have fresh : elem a ∉ ListCell.path k (lists k) := fun mem => rep.ne_of_unowned unowned mem rfl
  rw [whole] at path fresh
  have liveS := (rep.path k headed).live s memS
  refine ⟨s, path.joined_of_append.1, liveS, rep.ne_of_unowned unowned memS, ?_⟩
  refine ⟨rep.linked.insertFirst unowned k, ?_, ?_, ?_, ?_⟩
  · intro k' live'
    rcases eq_or_ne k' k with rfl | other
    · rw [Lib.insertFirst, Function.update_self, ListCell.path, List.map_cons, List.cons_append, right]
      exact path.insert fresh live
    · rw [Lib.insertFirst, Function.update_of_ne other]
      refine (rep.path k' live').frame ?_ ?_ fun _ _ => rfl
      · intro n mem
        exact (Cells.inserted_of_ne (rep.ne_of_unowned unowned mem)).1 (rep.ne_of_mem memF mem other)
      · intro n mem
        exact (Cells.inserted_of_ne (rep.ne_of_unowned unowned mem)).2 (rep.ne_of_mem memS mem other)
  · intro k' live'
    obtain ⟨noPrev, noNext⟩ := rep.ends k' live'
    refine ⟨?_, ?_⟩
    · refine ((Cells.inserted_of_ne (fun eq => by cases eq)).2 ?_).trans noPrev
      rintro rfl
      obtain rfl := first_mem_path.mp memS
      exact Option.some_ne_none _ (path.joined_of_append.2.symm.trans noPrev)
    · exact ((Cells.inserted_of_ne (fun eq => by cases eq)).1 fun eq => by cases eq).trans noNext
  · intro b k' own
    rcases eq_or_ne b a with rfl | other
    · rw [Function.update_self] at own
      cases own
      exact headed
    · rw [Function.update_of_ne other] at own
      exact rep.headed b k' own
  · intro b live' unowned'
    rcases eq_or_ne b a with rfl | other
    · rw [Function.update_self] at unowned'
      cases unowned'
    · rw [Function.update_of_ne other] at unowned'
      have new : (elem b : ListCell κ α) ≠ elem a := fun eq => other (elem.inj eq)
      obtain ⟨noNext, noPrev⟩ := rep.free b live' unowned'
      exact ⟨((Cells.inserted_of_ne new).1 (rep.ne_of_unowned unowned' memF).symm).trans noNext,
        ((Cells.inserted_of_ne new).2 (rep.ne_of_unowned unowned' memS).symm).trans noPrev⟩

/-- A heap that differs outside the paths only, or has new empty lists, holds the same lists. -/
lemma transfer {h' : Cells (ListCell κ α)} (rep : Represents h lists home)
    (path : ∀ k, h'.live (first k) = true →
      (h.live (first k) = true ∧ ∀ n ∈ ListCell.path k (lists k),
        h'.iNext n = h.iNext n ∧ h'.iPrev n = h.iPrev n ∧ h'.live n = h.live n) ∨
      (lists k = [] ∧ h'.Path (ListCell.path k []) ∧ h'.iPrev (first k) = none ∧ h'.iNext (last k) = none))
    (headed : ∀ a k, home a = some k → h'.live (first k) = true)
    (free : ∀ a, h'.live (elem a) = true → home a = none → h'.iNext (elem a) = none ∧ h'.iPrev (elem a) = none) :
    Represents h' lists home := by
  refine ⟨rep.linked, fun k live => ?_, fun k live => ?_, headed, free⟩
  · rcases path k live with ⟨old, same⟩ | ⟨empty, new, -⟩
    · exact (rep.path k old).frame (fun n mem => (same n mem).1) (fun n mem => (same n mem).2.1)
        fun n mem => (same n mem).2.2
    · rw [empty]
      exact new
  · rcases path k live with ⟨old, same⟩ | ⟨-, -, ends⟩
    · obtain ⟨noPrev, noNext⟩ := rep.ends k old
      exact ⟨(same _ (first_mem_path.mpr rfl)).2.1.trans noPrev, (same _ (last_mem_path.mpr rfl)).1.trans noNext⟩
    · exact ends

/-- An element that is made belongs to no list. -/
lemma construct_elem (rep : Represents h lists home) (dead : h.live (elem a) = false) :
    Represents (h.construct (elem a)) lists home := by
  have unowned : home a = none := by
    cases own : home a with
    | none => rfl
    | some k =>
      rw [rep.live_elem own] at dead
      cases dead
  refine rep.transfer (fun k live => Or.inl ⟨?_, fun n mem => ?_⟩) (fun b k own => ?_) fun b live unowned' => ?_
  · exact (Cells.construct_of_ne first_ne_elem).1.symm.trans live
  · obtain ⟨live', next, prev⟩ := Cells.construct_of_ne (h := h) (rep.ne_of_unowned unowned mem)
    exact ⟨next, prev, live'⟩
  · exact (Cells.construct_of_ne first_ne_elem).1.trans (rep.headed b k own)
  · rcases eq_or_ne b a with rfl | other
    · exact Cells.construct_self.2
    · have new : (elem b : ListCell κ α) ≠ elem a := fun eq => other (elem.inj eq)
      obtain ⟨old, next, prev⟩ := Cells.construct_of_ne (h := h) new
      obtain ⟨noNext, noPrev⟩ := rep.free b (old.symm.trans live) unowned'
      exact ⟨next.trans noNext, prev.trans noPrev⟩

/-- An element of no list can be destroyed. -/
lemma destroy_elem (rep : Represents h lists home) (unowned : home a = none) :
    Represents (h.destroy (elem a)) lists home := by
  refine rep.transfer (fun k live => Or.inl ⟨?_, fun n mem => ⟨rfl, rfl, ?_⟩⟩) (fun b k own => ?_)
    fun b live unowned' => ?_
  · exact (Cells.live_destroy.mp live).2
  · exact Function.update_of_ne (rep.ne_of_unowned unowned mem) ..
  · exact Cells.live_destroy.mpr ⟨first_ne_elem, rep.headed b k own⟩
  · exact rep.free b (Cells.live_destroy.mp live).2 unowned'

/-- A list that is not live has no elements. -/
lemma nil_of_dead (rep : Represents h lists home) (dead : h.live (first k) = false) : lists k = [] := by
  rw [List.eq_nil_iff_forall_not_mem]
  intro a mem
  rw [rep.headed a k (rep.linked.mem_iff.mp mem)] at dead
  cases dead

/-- Two new sentinels that point at each other are an empty list. -/
lemma construct_head (rep : Represents h lists home) (dead : h.live (first k) = false)
    {h' : Cells (ListCell κ α)} (new : h'.Joined (first k) (last k))
    (ends : h'.iPrev (first k) = none ∧ h'.iNext (last k) = none)
    (live : h'.live (first k) = true ∧ h'.live (last k) = true)
    (rest : ∀ n, n ≠ first k → n ≠ last k →
      h'.iNext n = h.iNext n ∧ h'.iPrev n = h.iPrev n ∧ h'.live n = h.live n) : Represents h' lists home := by
  refine rep.transfer (fun k' live' => ?_) (fun b k' own => ?_) fun b live' unowned => ?_
  · rcases eq_or_ne k' k with rfl | other
    · refine Or.inr ⟨rep.nil_of_dead dead, ⟨List.isChain_pair.mpr new, nodup_path List.nodup_nil, ?_⟩, ends⟩
      intro n mem
      rcases List.mem_cons.mp mem with rfl | mem
      · exact live.1
      · obtain rfl := List.mem_singleton.mp mem
        exact live.2
    · obtain ⟨notFirst, notLast⟩ := ne_sentinels (first_mem_path.mpr rfl : first k' ∈ ListCell.path k' (lists k')) other
      refine Or.inl ⟨(rest _ notFirst notLast).2.2.symm.trans live', fun n mem => ?_⟩
      obtain ⟨notFirst, notLast⟩ := ne_sentinels mem other
      exact rest n notFirst notLast
  · rcases eq_or_ne k' k with rfl | other
    · exact live.1
    · exact (rest _ (fun eq => other (first.inj eq)) first_ne_last).2.2.trans (rep.headed b k' own)
  · obtain ⟨next, prev, old⟩ := rest _ first_ne_elem.symm last_ne_elem.symm
    obtain ⟨noNext, noPrev⟩ := rep.free b (old.symm.trans live') unowned
    exact ⟨next.trans noNext, prev.trans noPrev⟩

/-- The sentinels of an empty list are deleted. -/
lemma destroy_head (rep : Represents h lists home) (empty : lists k = []) :
    Represents ((h.destroy (last k)).destroy (first k)) lists home := by
  refine rep.transfer (fun k' live => ?_) (fun b k' own => ?_) fun b live unowned => ?_
  · obtain ⟨ne, live⟩ := Cells.live_destroy.mp live
    have other : k' ≠ k := fun eq => ne (congrArg first eq)
    refine Or.inl ⟨(Cells.live_destroy.mp live).2, fun n mem => ⟨rfl, rfl, ?_⟩⟩
    obtain ⟨notFirst, notLast⟩ := ne_sentinels mem other
    exact (Function.update_of_ne notFirst ..).trans (Function.update_of_ne notLast ..)
  · have other : k' ≠ k := by
      rintro rfl
      have mem := rep.linked.mem_iff.mpr own
      rw [empty] at mem
      cases mem
    refine Cells.live_destroy.mpr ⟨fun eq => other (first.inj eq), ?_⟩
    exact Cells.live_destroy.mpr ⟨first_ne_last, rep.headed b k' own⟩
  · exact rep.free b (Cells.live_destroy.mp (Cells.live_destroy.mp live).2).2 unowned

end Represents

end Legacy.Lib
