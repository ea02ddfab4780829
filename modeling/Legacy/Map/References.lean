import Legacy.Lib.Chain
import Legacy.Lib.Reach

/-!
# The references of a grid

The linked lists that keep the objects of a cell, as pointers: `LinkedListElement` and `LinkedListHead` of
`src/src/framework/Utilities/LinkedList.h`, `Reference` and `RefManager` of
`src/src/framework/Utilities/LinkedReference` and `GridReference` of `src/src/framework/GameSystem/GridReference.h`.
A read or a write through a pointer that is NULL or points at a deleted cell has no result. `references_refine` says
that no run of calls on live objects makes one, and that the heap holds the lists of `GridLists` after it.
-/

namespace Legacy.Map
open Legacy.Lib Legacy.Lib.ListCell

namespace LinkedListElement

variable {β : Type} (h : Cells β) (this : β)

/-- Source `LinkedListElement::hasNext`. -/
def hasNext : Option Bool := do
  let iNext ← (← h.getNext this)
  return (← h.getNext iNext).isSome

/-- Source `LinkedListElement::hasPrev`. -/
def hasPrev : Option Bool := do
  let iPrev ← (← h.getPrev this)
  return (← h.getPrev iPrev).isSome

/-- Source `LinkedListElement::isInList`. -/
def isInList : Option Bool := do
  return (← h.getNext this).isSome && (← h.getPrev this).isSome

/-- Source `LinkedListElement::next`. -/
def next : Option (Option β) := do
  if (← hasNext h this) then h.getNext this else return none

/-- Source `LinkedListElement::prev`. -/
def prev : Option (Option β) := do
  if (← hasPrev h this) then h.getPrev this else return none

variable [DecidableEq β]

/-- Source `LinkedListElement::delink`. -/
def delink : Option (Cells β) := do
  if (← isInList h this) then
    let iNext ← (← h.getNext this)
    let h ← h.setPrev iNext (← h.getPrev this)
    let iPrev ← (← h.getPrev this)
    let h ← h.setNext iPrev (← h.getNext this)
    let h ← h.setNext this none
    h.setPrev this none
  else return h

/-- Source `LinkedListElement::insertAfter`. -/
def insertAfter (pElem : β) : Option (Cells β) := do
  let h ← h.setPrev pElem (some this)
  let h ← h.setNext pElem (← h.getNext this)
  let iNext ← (← h.getNext this)
  let h ← h.setPrev iNext (some pElem)
  h.setNext this (some pElem)

end LinkedListElement

namespace LinkedListHead

variable {κ α : Type} (h : Cells (ListCell κ α)) (k : κ)

/-- Source `LinkedListHead::isEmpty`. -/
def isEmpty : Option Bool := do
  let iNext ← (← h.getNext (first k))
  return !(← LinkedListElement.isInList h iNext)

/-- Source `LinkedListHead::getFirst`. -/
def getFirst : Option (Option (ListCell κ α)) := do
  if (← isEmpty h k) then return none else h.getNext (first k)

/-- Source `LinkedListHead::getLast`. -/
def getLast : Option (Option (ListCell κ α)) := do
  if (← isEmpty h k) then return none else h.getPrev (last k)

/-- The cells from a pointer on, by `next` (the loops from `begin()` to `end()`). -/
def iterate (step : ListCell κ α → Option (Option (ListCell κ α))) :
    Nat → Option (ListCell κ α) → Option (List (ListCell κ α))
  | _, none => some []
  | 0, some _ => none
  | fuel + 1, some e => do return e :: (← iterate step fuel (← step e))

/-- The loop of `LinkedListHead::getSize`. -/
def countFrom : Nat → Option (ListCell κ α) → UInt32 → Option UInt32
  | _, none, result => some result
  | 0, some _, _ => none
  | fuel + 1, some e, result => do countFrom fuel (← LinkedListElement.next h e) (result + 1)

/-- Source `LinkedListHead::getSize`. -/
def getSize (iSize : UInt32) (fuel : Nat) : Option UInt32 := do
  if iSize = 0 then countFrom h fuel (← getFirst h k) 0 else return iSize

variable [DecidableEq κ] [DecidableEq α]

/-- Source `LinkedListHead::LinkedListHead`. -/
def construct : Option (Cells (ListCell κ α)) := do
  let h := (h.construct (first k)).construct (last k)
  let h ← h.setNext (first k) (some (last k))
  h.setPrev (last k) (some (first k))

/-- The sentinels are deleted, the last one first. -/
def destroy : Option (Cells (ListCell κ α)) := do
  let h ← LinkedListElement.delink h (last k)
  let h ← LinkedListElement.delink (h.destroy (last k)) (first k)
  return h.destroy (first k)

/-- Source `LinkedListHead::insertFirst`. -/
def insertFirst (pElem : ListCell κ α) : Option (Cells (ListCell κ α)) :=
  LinkedListElement.insertAfter h (first k) pElem

end LinkedListHead

/-- References to the objects of type `ω` and their managers. -/
structure References (κ α ω : Type) where
  cells : Cells (ListCell κ α)
  iSize : κ → UInt32
  iRefTo : α → Option κ
  iRefFrom : α → Option ω

namespace References

/-- Nothing is live. -/
def empty {κ α ω : Type} : References κ α ω :=
  ⟨⟨fun _ => false, fun _ => none, fun _ => none⟩, fun _ => 0, fun _ => none, fun _ => none⟩

variable {κ α ω : Type} [DecidableEq κ] [DecidableEq α] (s : References κ α ω) (a : α) (k : κ)

/-- A write to the size of a manager, which has to be live. -/
def setSize (f : UInt32 → UInt32) : Option (References κ α ω) :=
  if s.cells.live (first k) then some { s with iSize := Function.update s.iSize k (f (s.iSize k)) } else none

/-- Source `LinkedListHead::incSize`. -/
def incSize : Option (References κ α ω) := s.setSize k (· + 1)

/-- Source `LinkedListHead::decSize`. -/
def decSize : Option (References κ α ω) := s.setSize k (· - 1)

/-- Source `LinkedListElement::delink`. -/
def delink : Option (References κ α ω) := do
  return { s with cells := ← LinkedListElement.delink s.cells (elem a) }

/-- Source `Reference::isValid`. -/
def isValid : Bool := (s.iRefTo a).isSome

/-- Source `GridReference::targetObjectBuildLink`. -/
def targetObjectBuildLink : Option (References κ α ω) := do
  let target ← s.iRefTo a
  let s := { s with cells := ← LinkedListHead.insertFirst s.cells target (elem a) }
  s.incSize target

/-- Source `GridReference::targetObjectDestroyLink`. -/
def targetObjectDestroyLink : Option (References κ α ω) := do
  if s.isValid a then s.decSize (← s.iRefTo a) else return s

/-- Source `GridReference::sourceObjectDestroyLink`. -/
def sourceObjectDestroyLink : Option (References κ α ω) := do s.decSize (← s.iRefTo a)

/-- Source `Reference::unlink`. -/
def unlink : Option (References κ α ω) := do
  let s ← s.targetObjectDestroyLink a
  let s ← s.delink a
  return { s with iRefTo := Function.update s.iRefTo a none, iRefFrom := Function.update s.iRefFrom a none }

/-- Source `Reference::link`. -/
def link (toObj : Option κ) (fromObj : ω) : Option (References κ α ω) := do
  let s ← (if s.isValid a then s.unlink a else some s)
  match toObj with
  | some k =>
    let s := { s with
      iRefTo := Function.update s.iRefTo a (some k)
      iRefFrom := Function.update s.iRefFrom a (some fromObj) }
    s.targetObjectBuildLink a
  | none => return s

/-- Source `Reference::invalidate`. -/
def invalidate : Option (References κ α ω) := do
  let s ← s.sourceObjectDestroyLink a
  let s ← s.delink a
  return { s with iRefTo := Function.update s.iRefTo a none }

/-- Source `RefManager::clearReferences`. The first cell of a list is a reference unless the list is broken. -/
def clearReferences (k : κ) : Nat → References κ α ω → Option (References κ α ω)
  | 0, _ => none
  | fuel + 1, s => do
    match ← LinkedListHead.getFirst s.cells k with
    | none => return s
    | some (elem a) =>
      let s ← s.invalidate a
      let s ← s.delink a
      clearReferences k fuel s
    | some _ => none

/-- Source `GridReference::GridReference`. -/
def construct : References κ α ω :=
  { s with
    cells := s.cells.construct (elem a)
    iRefTo := Function.update s.iRefTo a none
    iRefFrom := Function.update s.iRefFrom a none }

/-- Source `GridReference::~GridReference`, and `LinkedListElement::~LinkedListElement` after it. -/
def destroy : Option (References κ α ω) := do
  let s ← s.unlink a
  let s ← s.delink a
  return { s with cells := s.cells.destroy (elem a) }

/-- Source `GridRefManager::GridRefManager`. -/
def constructManager : Option (References κ α ω) := do
  return { s with cells := ← LinkedListHead.construct s.cells k, iSize := Function.update s.iSize k 0 }

/-- Source `RefManager::~RefManager`, and the end of its sentinels after it. -/
def destroyManager (fuel : Nat) : Option (References κ α ω) := do
  let s ← clearReferences k fuel s
  return { s with cells := ← LinkedListHead.destroy s.cells k }

end References

section Pointers

variable {κ α : Type} {h : Cells (ListCell κ α)} {lists : κ → List α} {home : α → Option κ} {a : α} {k : κ}

/-- A cell is in a list when neither of its pointers is NULL. -/
lemma isInList_eq {n : ListCell κ α} (live : h.live n = true) :
    LinkedListElement.isInList h n = some ((h.iNext n).isSome && (h.iPrev n).isSome) := by
  rw [LinkedListElement.isInList, Cells.getNext_eq live, Cells.getPrev_eq live]
  rfl

/-- The next element, when the one behind it is linked. -/
lemma next_eq {n m : ListCell κ α} (live : h.live n = true) (live' : h.live m = true) (next : h.iNext n = some m) :
    LinkedListElement.next h n = some (if (h.iNext m).isSome then some m else none) := by
  have read : LinkedListElement.hasNext h n = some (h.iNext m).isSome := by
    rw [LinkedListElement.hasNext, Cells.getNext_eq live, next]
    show (h.getNext m).bind _ = _
    rw [Cells.getNext_eq live']
    rfl
  rw [LinkedListElement.next, read, Cells.getNext_eq live, next]
  cases h.iNext m <;> rfl

/-- The previous element, when the one before it is linked. -/
lemma prev_eq {n m : ListCell κ α} (live : h.live n = true) (live' : h.live m = true) (prev : h.iPrev n = some m) :
    LinkedListElement.prev h n = some (if (h.iPrev m).isSome then some m else none) := by
  have read : LinkedListElement.hasPrev h n = some (h.iPrev m).isSome := by
    rw [LinkedListElement.hasPrev, Cells.getPrev_eq live, prev]
    show (h.getPrev m).bind _ = _
    rw [Cells.getPrev_eq live']
    rfl
  rw [LinkedListElement.prev, read, Cells.getPrev_eq live, prev]
  cases h.iPrev m <;> rfl

variable [DecidableEq κ] [DecidableEq α]

/-- An element is in a list when it has a home. -/
lemma isInList_elem (rep : Represents h lists home) (live : h.live (elem a) = true) :
    LinkedListElement.isInList h (elem a) = some (home a).isSome := by
  rw [isInList_eq live]
  cases own : home a with
  | none =>
    obtain ⟨next, prev⟩ := rep.free a live own
    rw [next, prev]
    rfl
  | some k =>
    obtain ⟨p, s, prev, next, -⟩ := rep.delink own
    rw [next, prev]
    rfl

/-- An element that is delinked is in no list, and the lists are what `Lib.delink` says. -/
lemma delink_spec (rep : Represents h lists home) (live : h.live (elem a) = true) :
    ∃ h', LinkedListElement.delink h (elem a) = some h' ∧ h'.live = h.live ∧
      Represents h' (Lib.delink lists (home a) a) (Function.update home a none) := by
  have inList := isInList_elem rep live
  cases own : home a with
  | none =>
    refine ⟨h, ?_, rfl, ?_⟩
    · rw [LinkedListElement.delink, inList, own]
      rfl
    · rw [← own, Function.update_eq_self]
      rw [own, Lib.delink]
      exact rep
  | some k =>
    obtain ⟨p, s, prev, next, liveP, liveS, pNe, sNe, rep'⟩ := rep.delink own
    rw [← own]
    refine ⟨h.removed p (elem a) s, ?_, rfl, rep'⟩
    -- the four writes, of which the first two go to the neighbours
    rw [LinkedListElement.delink, inList, own]
    simp only [Option.pure_def, Option.bind_eq_bind, Option.bind_some, Option.isSome_some, if_true, Cells.getNext,
      Cells.getPrev, Cells.setNext, Cells.setPrev, live, liveP, liveS, next, prev, Function.update_of_ne sNe.symm,
      Cells.removed]

/-- An element of no list is put at the head of one. -/
lemma insertFirst_spec (rep : Represents h lists home) (live : h.live (elem a) = true) (unowned : home a = none)
    (headed : h.live (first k) = true) : ∃ h', LinkedListHead.insertFirst h k (elem a) = some h' ∧
      h'.live = h.live ∧ Represents h' (Lib.insertFirst lists k a) (Function.update home a (some k)) := by
  obtain ⟨s, next, liveS, sNe, rep'⟩ := rep.insertFirst live unowned headed
  refine ⟨h.inserted (first k) (elem a) s, ?_, rfl, rep'⟩
  simp only [LinkedListHead.insertFirst, LinkedListElement.insertAfter, Option.bind_eq_bind, Option.bind_some,
    Cells.getNext, Cells.setNext, Cells.setPrev, live, headed, liveS, next, if_true,
    Function.update_of_ne first_ne_elem, Cells.inserted]

/-- A new list is two live sentinels that point at each other. -/
lemma construct_spec (h : Cells (ListCell κ α)) (k : κ) : ∃ h', LinkedListHead.construct h k = some h' ∧
    h'.Joined (first k) (last k) ∧ (h'.iPrev (first k) = none ∧ h'.iNext (last k) = none) ∧
    (h'.live (first k) = true ∧ h'.live (last k) = true) ∧ ∀ n, n ≠ first k → n ≠ last k →
      h'.iNext n = h.iNext n ∧ h'.iPrev n = h.iPrev n ∧ h'.live n = h.live n := by
  let made := (h.construct (first k)).construct (last k)
  have live : made.live (first k) = true :=
    (Cells.construct_of_ne first_ne_last).1.trans Cells.construct_self.1
  have live' : made.live (last k) = true := Cells.construct_self.1
  let linked : Cells (ListCell κ α) := { made with iNext := Function.update made.iNext (first k) (some (last k)) }
  refine ⟨{ linked with iPrev := Function.update made.iPrev (last k) (some (first k)) }, ?_, ⟨?_, ?_⟩, ⟨?_, ?_⟩,
    ⟨live, live'⟩, fun n notFirst notLast => ⟨?_, ?_, ?_⟩⟩
  · show (made.setNext (first k) (some (last k))).bind _ = _
    rw [Cells.setNext_eq live]
    exact Cells.setPrev_eq (h := linked) live' _
  · exact Function.update_self ..
  · exact Function.update_self ..
  · show Function.update made.iPrev (last k) (some (first k)) (first k) = none
    rw [Function.update_of_ne first_ne_last]
    exact (Cells.construct_of_ne first_ne_last).2.2.trans Cells.construct_self.2.2
  · show Function.update made.iNext (first k) (some (last k)) (last k) = none
    rw [Function.update_of_ne first_ne_last.symm]
    exact Cells.construct_self.2.1
  · exact (Function.update_of_ne notFirst ..).trans
      ((Cells.construct_of_ne notLast).2.1.trans (Cells.construct_of_ne notFirst).2.1)
  · exact (Function.update_of_ne notLast ..).trans
      ((Cells.construct_of_ne notLast).2.2.trans (Cells.construct_of_ne notFirst).2.2)
  · exact (Cells.construct_of_ne notLast).1.trans (Cells.construct_of_ne notFirst).1

/-- The check for an empty list answers right. -/
lemma isEmpty_spec (rep : Represents h lists home) (headed : h.live (first k) = true) :
    LinkedListHead.isEmpty h k = some (lists k).isEmpty := by
  rw [LinkedListHead.isEmpty, Cells.getNext_eq headed]
  cases eq : lists k with
  | nil =>
    rw [(rep.joined_nil headed eq).1]
    show (LinkedListElement.isInList h (last k)).bind _ = _
    rw [isInList_eq (rep.live_last headed), (rep.ends k headed).2]
    rfl
  | cons a xs =>
    have own : home a = some k := rep.linked.mem_iff.mp (eq ▸ List.mem_cons_self)
    rw [(rep.joined_first headed eq).1]
    show (LinkedListElement.isInList h (elem a)).bind _ = _
    rw [isInList_elem rep (rep.live_elem own), own]
    rfl

/-- The first element is that of the list. -/
lemma getFirst_spec (rep : Represents h lists home) (headed : h.live (first k) = true) :
    LinkedListHead.getFirst h k = some ((lists k).head?.map elem) := by
  rw [LinkedListHead.getFirst, isEmpty_spec rep headed]
  cases eq : lists k with
  | nil => rfl
  | cons a xs =>
    show h.getNext (first k) = _
    rw [Cells.getNext_eq headed, (rep.joined_first headed eq).1]
    rfl

/-- The last element is that of the list. -/
lemma getLast_spec (rep : Represents h lists home) (headed : h.live (first k) = true) :
    LinkedListHead.getLast h k = some ((lists k).getLast?.map elem) := by
  rw [LinkedListHead.getLast, isEmpty_spec rep headed]
  rcases List.eq_nil_or_concat' (lists k) with eq | ⟨xs, a, eq⟩
  · rw [eq]
    rfl
  · have nonempty : (lists k).isEmpty = false := by
      rw [eq]
      cases xs <;> rfl
    rw [nonempty]
    show h.getPrev (last k) = _
    rw [Cells.getPrev_eq (rep.live_last headed), (rep.joined_last headed eq).2, eq, List.getLast?_concat]
    rfl

/-- The next element of a list, or NULL at its end. -/
lemma next_spec {xs ys : List α} (rep : Represents h lists home) (headed : h.live (first k) = true)
    (eq : lists k = xs ++ a :: ys) : LinkedListElement.next h (elem a) = some (ys.head?.map elem) := by
  have mem : ∀ {b}, b ∈ lists k → h.live (elem b) = true :=
    fun mem => rep.live_elem (rep.linked.mem_iff.mp mem)
  have live := mem (eq ▸ List.mem_append_right xs List.mem_cons_self)
  cases ys with
  | nil =>
    rw [next_eq live (rep.live_last headed) (rep.joined_last headed eq).1, (rep.ends k headed).2]
    rfl
  | cons b ys =>
    have memB : b ∈ lists k := eq ▸ List.mem_append_right xs (List.mem_cons_of_mem a List.mem_cons_self)
    obtain ⟨_, s, -, next, -⟩ := rep.delink (rep.linked.mem_iff.mp memB)
    rw [next_eq live (mem memB) (rep.joined_elems headed eq).1, next]
    rfl

/-- The previous element of a list, or NULL at its head. -/
lemma prev_spec {xs ys : List α} (rep : Represents h lists home) (headed : h.live (first k) = true)
    (eq : lists k = xs ++ a :: ys) : LinkedListElement.prev h (elem a) = some (xs.getLast?.map elem) := by
  have mem : ∀ {b}, b ∈ lists k → h.live (elem b) = true :=
    fun mem => rep.live_elem (rep.linked.mem_iff.mp mem)
  have live := mem (eq ▸ List.mem_append_right xs List.mem_cons_self)
  rcases List.eq_nil_or_concat' xs with rfl | ⟨xs, b, rfl⟩
  · rw [prev_eq live headed (rep.joined_first headed eq).2, (rep.ends k headed).1]
    rfl
  · rw [List.append_assoc] at eq
    have memB : b ∈ lists k := eq ▸ List.mem_append_right xs List.mem_cons_self
    obtain ⟨p, _, prev, -⟩ := rep.delink (rep.linked.mem_iff.mp memB)
    rw [prev_eq live (mem memB) (rep.joined_elems headed eq).2, prev, List.getLast?_concat]
    rfl

/-- The loop from `begin()` to `end()` goes through the rest of the list. -/
lemma iterate_next {ys : List α} (rep : Represents h lists home) (headed : h.live (first k) = true) {fuel : Nat}
    (enough : ys.length ≤ fuel) : ∀ xs, lists k = xs ++ ys →
      LinkedListHead.iterate (LinkedListElement.next h) fuel (ys.head?.map elem) = some (ys.map elem) := by
  induction ys generalizing fuel with
  | nil =>
    intro xs _
    cases fuel <;> rfl
  | cons a ys ih =>
    intro xs eq
    cases fuel with
    | zero => cases enough
    | succ fuel =>
      have rest := ih (Nat.le_of_succ_le_succ enough) (xs ++ [a]) (by rw [eq, ← List.append_cons])
      show (LinkedListElement.next h (elem a)).bind _ = _
      rw [next_spec rep headed eq, Option.bind_some, rest]
      rfl

/-- The loop from `rbegin()` to `rend()` goes back through the beginning of the list. -/
lemma iterate_prev {xs : List α} (rep : Represents h lists home) (headed : h.live (first k) = true) {fuel : Nat}
    (enough : xs.length ≤ fuel) : ∀ ys, lists k = xs ++ ys →
      LinkedListHead.iterate (LinkedListElement.prev h) fuel (xs.getLast?.map elem) =
        some (xs.reverse.map elem) := by
  induction xs using List.reverseRecOn generalizing fuel with
  | nil =>
    intro ys _
    cases fuel <;> rfl
  | append_singleton xs a ih =>
    intro ys eq
    rw [List.length_append] at enough
    cases fuel with
    | zero => cases enough
    | succ fuel =>
      have rest := ih (Nat.le_of_succ_le_succ enough) (a :: ys) (by rw [eq, ← List.append_cons])
      rw [List.getLast?_concat]
      show (LinkedListElement.prev h (elem a)).bind _ = _
      rw [prev_spec rep headed (eq.trans (List.append_cons ..).symm), Option.bind_some, rest,
        List.reverse_append]
      rfl

/-- Counting from an element counts the rest of the list. -/
lemma countFrom_spec {ys : List α} (rep : Represents h lists home) (headed : h.live (first k) = true) {fuel : Nat}
    (enough : ys.length ≤ fuel) : ∀ xs (result : UInt32), lists k = xs ++ ys →
      LinkedListHead.countFrom h fuel (ys.head?.map elem) result =
        some (result + UInt32.ofNat ys.length) := by
  induction ys generalizing fuel with
  | nil =>
    intro xs result _
    have zero : result + UInt32.ofNat ([] : List α).length = result := UInt32.add_zero result
    rw [zero]
    cases fuel <;> rfl
  | cons a ys ih =>
    intro xs result eq
    cases fuel with
    | zero => cases enough
    | succ fuel =>
      have rest := ih (Nat.le_of_succ_le_succ enough) (xs ++ [a]) (result + 1)
        (by rw [eq, ← List.append_cons])
      show (LinkedListElement.next h (elem a)).bind _ = _
      rw [next_spec rep headed eq, Option.bind_some, rest, List.length_cons, Nat.add_comm ys.length 1,
        UInt32.ofNat_add, ← UInt32.add_assoc]
      rfl

end Pointers

/-- What the references are for: lists of references, of which each names the list that it is in. -/
@[ext]
structure GridLists (κ α : Type) where
  heads : κ → Bool
  refs : α → Bool
  lists : κ → List α
  home : α → Option κ

namespace GridLists

variable {κ α : Type} [DecidableEq κ] [DecidableEq α] (t : GridLists κ α) (a : α) (k : κ)

/-- No references and no managers. -/
def empty : GridLists κ α := ⟨fun _ => false, fun _ => false, fun _ => [], fun _ => none⟩

/-- A reference leaves its list. -/
def unlink : GridLists κ α :=
  { t with lists := Lib.delink t.lists (t.home a) a, home := Function.update t.home a none }

/-- A reference moves to the head of another list, or of none. -/
def link (toObj : Option κ) : GridLists κ α :=
  match toObj with
  | some k =>
    { t with
      lists := Lib.insertFirst (Lib.delink t.lists (t.home a) a) k a
      home := Function.update t.home a (some k) }
  | none => t.unlink a

/-- All references of a list leave it. -/
def clear : GridLists κ α :=
  { t with
    lists := Function.update t.lists k []
    home := fun a => if t.home a = some k then none else t.home a }

end GridLists

/-- What happens to references and managers. -/
inductive RefEvent (κ α ω : Type) where
  | construct (a : α)
  | destroy (a : α)
  | constructManager (k : κ)
  /-- The loop of `clearReferences` runs out of references before `fuel`. -/
  | destroyManager (k : κ) (fuel : Nat)
  | link (a : α) (toObj : Option κ) (fromObj : ω)
  | unlink (a : α)
  /-- The call of a target that goes, for a reference that links to it. -/
  | invalidate (a : α)
  | clearReferences (k : κ) (fuel : Nat)

variable {κ α ω : Type} [DecidableEq κ] [DecidableEq α]

/-- One call. -/
def References.step (s : References κ α ω) : RefEvent κ α ω → Option (References κ α ω)
  | .construct a => some (s.construct a)
  | .destroy a => s.destroy a
  | .constructManager k => s.constructManager k
  | .destroyManager k fuel => s.destroyManager k fuel
  | .link a toObj fromObj => s.link a toObj fromObj
  | .unlink a => s.unlink a
  | .invalidate a => s.invalidate a
  | .clearReferences k fuel => References.clearReferences k fuel s

/-- What a call does to the lists. -/
def GridLists.step (t : GridLists κ α) : RefEvent κ α ω → Option (GridLists κ α)
  | .construct a => some { t with refs := Function.update t.refs a true }
  | .destroy a => some { t.unlink a with refs := Function.update t.refs a false }
  | .constructManager k => some { t with heads := Function.update t.heads k true }
  | .destroyManager k _ => some { t.clear k with heads := Function.update t.heads k false }
  | .link a toObj _ => some (t.link a toObj)
  | .unlink a => some (t.unlink a)
  | .invalidate a => some (t.unlink a)
  | .clearReferences k _ => some (t.clear k)

/-- A call is made on live objects, `invalidate` on a reference that links, and a loop has the rounds that it needs. -/
def Allowed (t : GridLists κ α) : RefEvent κ α ω → Prop
  | .construct a => t.refs a = false
  | .destroy a => t.refs a = true
  | .constructManager k => t.heads k = false
  | .destroyManager k fuel => t.heads k = true ∧ (t.lists k).length < fuel
  | .link a toObj _ => t.refs a = true ∧ ∀ k ∈ toObj, t.heads k = true
  | .unlink a => t.refs a = true
  | .invalidate a => t.refs a = true ∧ (t.home a).isSome
  | .clearReferences k fuel => t.heads k = true ∧ (t.lists k).length < fuel

instance (t : GridLists κ α) : DecidablePred (Allowed (ω := ω) t)
  | .construct a => inferInstanceAs (Decidable (t.refs a = false))
  | .destroy a => inferInstanceAs (Decidable (t.refs a = true))
  | .constructManager k => inferInstanceAs (Decidable (t.heads k = false))
  | .destroyManager k fuel => inferInstanceAs (Decidable (t.heads k = true ∧ (t.lists k).length < fuel))
  | .link a toObj _ => inferInstanceAs (Decidable (t.refs a = true ∧ ∀ k ∈ toObj, t.heads k = true))
  | .unlink a => inferInstanceAs (Decidable (t.refs a = true))
  | .invalidate a => inferInstanceAs (Decidable (t.refs a = true ∧ (t.home a).isSome))
  | .clearReferences k fuel => inferInstanceAs (Decidable (t.heads k = true ∧ (t.lists k).length < fuel))

/-- The heap, the targets of the references and the sizes say the same as the lists. -/
structure Refines (s : References κ α ω) (t : GridLists κ α) : Prop where
  rep : Represents s.cells t.lists t.home
  first_live : ∀ k, s.cells.live (first k) = t.heads k
  refs : ∀ a, s.cells.live (elem a) = t.refs a
  target : ∀ a, t.refs a = true → s.iRefTo a = t.home a
  size : ∀ k, t.heads k = true → s.iSize k = UInt32.ofNat (t.lists k).length

section Simulation

variable {s : References κ α ω} {t : GridLists κ α} {a : α} {k : κ}

/-- The sizes after a reference has left its manager. -/
def sizeWithout (s : References κ α ω) (a : α) : κ → UInt32 :=
  match s.iRefTo a with
  | some k => Function.update s.iSize k (s.iSize k - 1)
  | none => s.iSize

/-- The size without an element. -/
lemma size_delink (ref : Refines s t) (live : t.refs a = true) (headed : t.heads k = true) :
    sizeWithout s a k = UInt32.ofNat (Lib.delink t.lists (t.home a) a k).length := by
  have old := ref.size k headed
  rw [sizeWithout, ref.target a live]
  cases own : t.home a with
  | none => exact old
  | some k' =>
    rw [Lib.delink]
    rcases eq_or_ne k k' with rfl | other
    · have mem := ref.rep.linked.mem_iff.mpr own
      show Function.update s.iSize k (s.iSize k - 1) k = _
      rw [Function.update_self, Function.update_self, old, List.length_erase_of_mem mem]
      obtain ⟨n, eq⟩ := Nat.exists_eq_succ_of_ne_zero (List.length_pos_of_mem mem).ne'
      rw [eq, Nat.succ_sub_one, Nat.succ_eq_add_one, UInt32.ofNat_add]
      exact UInt32.add_sub_cancel _ _
    · show Function.update s.iSize k' (s.iSize k' - 1) k = _
      rw [Function.update_of_ne other, Function.update_of_ne other]
      exact old

/-- The end of the link of a reference, as far as `unlink` and `invalidate` share it. -/
lemma Refines.delinked (ref : Refines s t) (live : t.refs a = true) :
    ∃ h, LinkedListElement.delink s.cells (elem a) = some h ∧
      ∀ iRefFrom : α → Option ω,
        Refines ⟨h, sizeWithout s a, Function.update s.iRefTo a none, iRefFrom⟩ (t.unlink a) := by
  obtain ⟨h, eq, lives, rep⟩ := delink_spec ref.rep ((ref.refs a).trans live)
  refine ⟨h, eq, fun _ => ⟨rep, fun k => ?_, fun b => ?_, fun b live' => ?_, fun k headed => ?_⟩⟩
  · exact (congrFun lives _).trans (ref.first_live k)
  · exact (congrFun lives _).trans (ref.refs b)
  · show Function.update s.iRefTo a none b = Function.update t.home a none b
    rcases eq_or_ne b a with rfl | other
    · rw [Function.update_self, Function.update_self]
    · rw [Function.update_of_ne other, Function.update_of_ne other]
      exact ref.target b live'
  · exact size_delink ref live headed

/-- The manager of a reference is live. -/
lemma Refines.live_target (ref : Refines s t) (live : t.refs a = true) (own : s.iRefTo a = some k) :
    s.cells.live (first k) = true :=
  ref.rep.headed a k ((ref.target a live).symm.trans own)

/-- Unlinking takes the reference out of its list. -/
lemma Refines.unlink (ref : Refines s t) (live : t.refs a = true) :
    ∃ s', s.unlink a = some s' ∧ Refines s' (t.unlink a) := by
  obtain ⟨h, eq, ref'⟩ := ref.delinked live
  refine ⟨_, ?_, ref' (Function.update s.iRefFrom a none)⟩
  rw [References.unlink, References.targetObjectDestroyLink, References.isValid, sizeWithout]
  cases own : s.iRefTo a with
  | none =>
    show (s.delink a).bind _ = _
    rw [References.delink, eq]
    rfl
  | some k =>
    show (s.setSize k (· - 1)).bind _ = _
    rw [References.setSize, if_pos (ref.live_target live own), Option.bind_some, References.delink, eq]
    rfl

/-- Invalidating a linked reference takes it out of its list. -/
lemma Refines.invalidate (ref : Refines s t) (live : t.refs a = true) (own : t.home a = some k) :
    ∃ s', s.invalidate a = some s' ∧ Refines s' (t.unlink a) := by
  obtain ⟨h, eq, ref'⟩ := ref.delinked live
  have target := (ref.target a live).trans own
  refine ⟨_, ?_, ref' s.iRefFrom⟩
  rw [References.invalidate, References.sourceObjectDestroyLink, target, sizeWithout, target]
  show ((s.setSize k (· - 1)).bind _ : Option (References κ α ω)) = _
  rw [References.setSize, if_pos (ref.live_target live target), Option.bind_some, References.delink, eq]
  rfl

/-- A reference that is in no list can be delinked again. -/
lemma Refines.delink_again (ref : Refines s t) (live : t.refs a = true) (unowned : t.home a = none) :
    s.delink a = some s := by
  have inList := isInList_elem ref.rep ((ref.refs a).trans live)
  rw [References.delink, LinkedListElement.delink, inList, unowned]
  rfl

/-- An unlinked reference has no home. -/
lemma unlink_home : (t.unlink a).home a = none := Function.update_self ..

/-- A reference that is in no list is put into one. -/
lemma Refines.insert (ref : Refines s t) (live : t.refs a = true) (unowned : t.home a = none)
    (headed : t.heads k = true) (fromObj : ω) :
    ∃ s', References.targetObjectBuildLink { s with
        iRefTo := Function.update s.iRefTo a (some k)
        iRefFrom := Function.update s.iRefFrom a (some fromObj) } a = some s' ∧
      Refines s' { t with lists := Lib.insertFirst t.lists k a, home := Function.update t.home a (some k) } := by
  have liveA := (ref.refs a).trans live
  have liveK := (ref.first_live k).trans headed
  obtain ⟨h, eq, lives, rep⟩ := insertFirst_spec ref.rep liveA unowned liveK
  refine ⟨⟨h, Function.update s.iSize k (s.iSize k + 1), Function.update s.iRefTo a (some k),
    Function.update s.iRefFrom a (some fromObj)⟩, ?_, rep, fun k' => ?_, fun b => ?_, fun b live' => ?_,
    fun k' headed' => ?_⟩
  · rw [References.targetObjectBuildLink]
    show (Option.bind (Function.update s.iRefTo a (some k) a) _ : Option (References κ α ω)) = _
    rw [Function.update_self]
    show (LinkedListHead.insertFirst s.cells k (elem a)).bind _ = _
    rw [eq, Option.bind_some]
    exact if_pos ((congrFun lives _).trans liveK)
  · exact (congrFun lives _).trans (ref.first_live k')
  · exact (congrFun lives _).trans (ref.refs b)
  · show Function.update s.iRefTo a (some k) b = Function.update t.home a (some k) b
    rcases eq_or_ne b a with rfl | other
    · rw [Function.update_self, Function.update_self]
    · rw [Function.update_of_ne other, Function.update_of_ne other]
      exact ref.target b live'
  · show Function.update s.iSize k (s.iSize k + 1) k' = UInt32.ofNat (Lib.insertFirst t.lists k a k').length
    rw [Lib.insertFirst]
    rcases eq_or_ne k' k with rfl | other
    · rw [Function.update_self, Function.update_self, List.length_cons, UInt32.ofNat_add, ref.size k' headed']
      rfl
    · rw [Function.update_of_ne other, Function.update_of_ne other]
      exact ref.size k' headed'

/-- Linking moves the reference to the front of its list. -/
lemma Refines.link (ref : Refines s t) (live : t.refs a = true) (toObj : Option κ)
    (headed : ∀ k ∈ toObj, t.heads k = true) (fromObj : ω) :
    ∃ s', s.link a toObj fromObj = some s' ∧ Refines s' (t.link a toObj) := by
  obtain ⟨s₁, eq, ref₁⟩ : ∃ s₁, (if s.isValid a then s.unlink a else some s) = some s₁ ∧
      Refines s₁ (t.unlink a) := by
    rw [References.isValid, ref.target a live]
    cases own : t.home a with
    | some k => exact ref.unlink live
    | none =>
      have same : t.unlink a = t := by
        rw [GridLists.unlink, own, Lib.delink, ← own, Function.update_eq_self]
      rw [same]
      exact ⟨s, rfl, ref⟩
  rw [References.link]
  show ∃ s', (Option.bind (if s.isValid a then s.unlink a else some s) _) = some s' ∧ _
  rw [eq, Option.bind_some]
  cases toObj with
  | none => exact ⟨s₁, rfl, ref₁⟩
  | some k =>
    obtain ⟨s', eq', ref'⟩ := ref₁.insert live unlink_home (headed k rfl) fromObj
    refine ⟨s', eq', ?_⟩
    rwa [GridLists.unlink, Function.update_idem] at ref'

/-- When the first reference of a list has left it, clearing the rest clears the list. -/
lemma clear_unlink {xs : List α} (linked : Linked t.lists t.home) (eq : t.lists k = a :: xs) :
    (t.unlink a).lists k = xs ∧ (t.unlink a).clear k = t.clear k := by
  have own : t.home a = some k := linked.mem_iff.mp (eq ▸ List.mem_cons_self)
  have lists : (t.unlink a).lists = Function.update t.lists k xs := by
    show Lib.delink t.lists (t.home a) a = _
    rw [own, Lib.delink, eq, List.erase_cons_head]
  refine ⟨by rw [lists, Function.update_self], ?_⟩
  refine GridLists.ext rfl rfl ?_ ?_
  · show Function.update (t.unlink a).lists k [] = Function.update t.lists k []
    rw [lists, Function.update_idem]
  · funext b
    show (if Function.update t.home a none b = some k then none else Function.update t.home a none b) =
      if t.home b = some k then none else t.home b
    rcases eq_or_ne b a with rfl | other
    · rw [Function.update_self, if_pos own, ite_self]
    · rw [Function.update_of_ne other]

/-- The references of a list are live. -/
lemma Refines.live_of_home (ref : Refines s t) (own : t.home a = some k) : t.refs a = true :=
  (ref.refs a).symm.trans (ref.rep.live_elem own)

/-- Clearing leaves the list of the manager empty. -/
lemma Refines.clearReferences (headed : t.heads k = true) {fuel : Nat} (enough : (t.lists k).length < fuel)
    (ref : Refines s t) : ∃ s', References.clearReferences k fuel s = some s' ∧ Refines s' (t.clear k) := by
  induction fuel generalizing s t with
  | zero => cases enough
  | succ fuel ih =>
    have liveK := (ref.first_live k).trans headed
    rw [References.clearReferences, getFirst_spec ref.rep liveK]
    cases eq : t.lists k with
    | nil =>
      have same : t.clear k = t := by
        refine GridLists.ext rfl rfl ?_ ?_
        · show Function.update t.lists k [] = t.lists
          rw [← eq, Function.update_eq_self]
        · funext a
          refine if_neg fun own => ?_
          have mem := ref.rep.linked.mem_iff.mpr own
          rw [eq] at mem
          cases mem
      rw [same]
      exact ⟨s, rfl, ref⟩
    | cons a xs =>
      have own : t.home a = some k := ref.rep.linked.mem_iff.mp (eq ▸ List.mem_cons_self)
      have live := ref.live_of_home own
      obtain ⟨s₁, eq₁, ref₁⟩ := ref.invalidate live own
      obtain ⟨rest, same⟩ := clear_unlink ref.rep.linked eq
      have shorter : ((t.unlink a).lists k).length < fuel := by
        rw [eq] at enough
        rw [rest]
        exact Nat.lt_of_succ_lt_succ enough
      obtain ⟨s', eq', ref'⟩ := ih (t := t.unlink a) headed shorter ref₁
      refine ⟨s', ?_, same ▸ ref'⟩
      show (s.invalidate a).bind _ = _
      rw [eq₁, Option.bind_some, ref₁.delink_again live unlink_home]
      exact eq'

/-- A new reference has no home. -/
lemma Refines.construct (ref : Refines s t) (dead : t.refs a = false) :
    Refines (s.construct a) { t with refs := Function.update t.refs a true } := by
  have deadA := (ref.refs a).trans dead
  have unowned : t.home a = none := by
    cases own : t.home a with
    | none => rfl
    | some k =>
      rw [ref.live_of_home own] at dead
      cases dead
  refine ⟨ref.rep.construct_elem deadA, fun k => ?_, fun b => ?_, fun b live => ?_, ref.size⟩
  · exact (Cells.construct_of_ne first_ne_elem).1.trans (ref.first_live k)
  · show (s.cells.construct (elem a)).live (elem b) = Function.update t.refs a true b
    rcases eq_or_ne b a with rfl | other
    · rw [Cells.construct_self.1, Function.update_self]
    · rw [(Cells.construct_of_ne fun eq => other (elem.inj eq)).1, Function.update_of_ne other]
      exact ref.refs b
  · show Function.update s.iRefTo a none b = t.home b
    rcases eq_or_ne b a with rfl | other
    · rw [Function.update_self, unowned]
    · have live : Function.update t.refs a true b = true := live
      rw [Function.update_of_ne other] at live
      rw [Function.update_of_ne other]
      exact ref.target b live

/-- A destroyed reference leaves its list. -/
lemma Refines.destroy (ref : Refines s t) (live : t.refs a = true) :
    ∃ s', s.destroy a = some s' ∧ Refines s' { t.unlink a with refs := Function.update t.refs a false } := by
  obtain ⟨s₁, eq, ref₁⟩ := ref.unlink live
  refine ⟨{ s₁ with cells := s₁.cells.destroy (elem a) }, ?_, ref₁.rep.destroy_elem unlink_home, fun k => ?_,
    fun b => ?_, fun b live' => ?_, ref₁.size⟩
  · show (s.unlink a).bind _ = _
    rw [eq, Option.bind_some, ref₁.delink_again live unlink_home]
    rfl
  · show Function.update s₁.cells.live (elem a) false (first k) = _
    rw [Function.update_of_ne first_ne_elem]
    exact ref₁.first_live k
  · show Function.update s₁.cells.live (elem a) false (elem b) = Function.update t.refs a false b
    rcases eq_or_ne b a with rfl | other
    · rw [Function.update_self, Function.update_self]
    · rw [Function.update_of_ne fun eq => other (elem.inj eq), Function.update_of_ne other]
      exact ref₁.refs b
  · have live' : Function.update t.refs a false b = true := live'
    refine ref₁.target b ?_
    rcases eq_or_ne b a with rfl | other
    · exact live
    · rwa [Function.update_of_ne other] at live'

/-- A new manager has an empty list. -/
lemma Refines.constructManager (ref : Refines s t) (dead : t.heads k = false) :
    ∃ s', s.constructManager k = some s' ∧ Refines s' { t with heads := Function.update t.heads k true } := by
  obtain ⟨h, eq, joined, ends, ⟨live, live'⟩, rest⟩ := construct_spec s.cells k
  have deadK := (ref.first_live k).trans dead
  refine ⟨⟨h, Function.update s.iSize k 0, s.iRefTo, s.iRefFrom⟩, ?_,
    ref.rep.construct_head deadK joined ends ⟨live, live'⟩ rest, fun k' => ?_, fun b => ?_, ref.target,
    fun k' headed => ?_⟩
  · rw [References.constructManager, eq]
    rfl
  · show h.live (first k') = Function.update t.heads k true k'
    rcases eq_or_ne k' k with rfl | other
    · rw [live, Function.update_self]
    · rw [(rest _ (fun eq => other (first.inj eq)) first_ne_last).2.2, Function.update_of_ne other]
      exact ref.first_live k'
  · exact (rest _ first_ne_elem.symm last_ne_elem.symm).2.2.trans (ref.refs b)
  · show Function.update s.iSize k 0 k' = UInt32.ofNat (t.lists k').length
    rcases eq_or_ne k' k with rfl | other
    · rw [Function.update_self, ref.rep.nil_of_dead deadK]
      rfl
    · have headed : Function.update t.heads k true k' = true := headed
      rw [Function.update_of_ne other] at headed
      rw [Function.update_of_ne other]
      exact ref.size k' headed

/-- The sentinels of an empty list are deleted. -/
lemma Refines.destroyHead (ref : Refines s t) (headed : t.heads k = true) (nil : t.lists k = []) :
    ∃ h, LinkedListHead.destroy s.cells k = some h ∧
      Refines { s with cells := h } { t with heads := Function.update t.heads k false } := by
  have live := (ref.first_live k).trans headed
  obtain ⟨noPrev, noNext⟩ := ref.rep.ends k live
  have notLast : LinkedListElement.delink s.cells (last k) = some s.cells := by
    rw [LinkedListElement.delink, isInList_eq (ref.rep.live_last live), noNext]
    rfl
  have notFirst : LinkedListElement.delink (s.cells.destroy (last k)) (first k) =
      some (s.cells.destroy (last k)) := by
    rw [LinkedListElement.delink, isInList_eq (Cells.live_destroy.mpr ⟨first_ne_last, live⟩)]
    show Option.bind (some ((s.cells.iNext (first k)).isSome && (s.cells.iPrev (first k)).isSome)) _ = _
    rw [noPrev, Option.isSome_none, Bool.and_false]
    rfl
  refine ⟨_, ?_, ref.rep.destroy_head nil, fun k' => ?_, fun b => ?_, ref.target, fun k' headed' => ?_⟩
  · rw [LinkedListHead.destroy, notLast]
    show (LinkedListElement.delink (s.cells.destroy (last k)) (first k)).bind _ = _
    rw [notFirst]
    rfl
  · show ((s.cells.destroy (last k)).destroy (first k)).live (first k') = Function.update t.heads k false k'
    rcases eq_or_ne k' k with rfl | other
    · rw [Function.update_self]
      exact Function.update_self ..
    · rw [Function.update_of_ne other]
      show Function.update (Function.update s.cells.live (last k) false) (first k) false (first k') = _
      rw [Function.update_of_ne fun eq => other (first.inj eq), Function.update_of_ne first_ne_last]
      exact ref.first_live k'
  · show Function.update (Function.update s.cells.live (last k) false) (first k) false (elem b) = _
    rw [Function.update_of_ne first_ne_elem.symm, Function.update_of_ne last_ne_elem.symm]
    exact ref.refs b
  · refine ref.size k' ?_
    have headed' : Function.update t.heads k false k' = true := headed'
    rcases eq_or_ne k' k with rfl | other
    · exact headed
    · rwa [Function.update_of_ne other] at headed'

/-- A destroyed manager clears its list. -/
lemma Refines.destroyManager (ref : Refines s t) (headed : t.heads k = true) {fuel : Nat}
    (enough : (t.lists k).length < fuel) : ∃ s', s.destroyManager k fuel = some s' ∧
      Refines s' { t.clear k with heads := Function.update t.heads k false } := by
  obtain ⟨s₁, eq, ref₁⟩ := ref.clearReferences headed enough
  obtain ⟨h, eq', ref'⟩ := ref₁.destroyHead (k := k) headed (Function.update_self ..)
  refine ⟨{ s₁ with cells := h }, ?_, ref'⟩
  rw [References.destroyManager, eq]
  show (LinkedListHead.destroy s₁.cells k).bind _ = _
  rw [eq']
  rfl

/-- One call on live objects makes no access through NULL or to a deleted cell, and changes the lists. -/
lemma Refines.step (ref : Refines s t) {e : RefEvent κ α ω} (allowed : Allowed t e) :
    ∃ s' t', s.step e = some s' ∧ t.step e = some t' ∧ Refines s' t' := by
  cases e with
  | construct a => exact ⟨_, _, rfl, rfl, ref.construct allowed⟩
  | destroy a =>
    obtain ⟨s', eq, ref'⟩ := ref.destroy allowed
    exact ⟨s', _, eq, rfl, ref'⟩
  | constructManager k =>
    obtain ⟨s', eq, ref'⟩ := ref.constructManager allowed
    exact ⟨s', _, eq, rfl, ref'⟩
  | destroyManager k fuel =>
    obtain ⟨s', eq, ref'⟩ := ref.destroyManager allowed.1 allowed.2
    exact ⟨s', _, eq, rfl, ref'⟩
  | link a toObj fromObj =>
    obtain ⟨s', eq, ref'⟩ := ref.link allowed.1 toObj allowed.2 fromObj
    exact ⟨s', _, eq, rfl, ref'⟩
  | unlink a =>
    obtain ⟨s', eq, ref'⟩ := ref.unlink allowed
    exact ⟨s', _, eq, rfl, ref'⟩
  | invalidate a =>
    obtain ⟨k, own⟩ := Option.isSome_iff_exists.mp allowed.2
    obtain ⟨s', eq, ref'⟩ := ref.invalidate allowed.1 own
    exact ⟨s', _, eq, rfl, ref'⟩
  | clearReferences k fuel =>
    obtain ⟨s', eq, ref'⟩ := ref.clearReferences allowed.1 allowed.2
    exact ⟨s', _, eq, rfl, ref'⟩

/-- The empty memory holds empty lists. -/
lemma refines_empty : Refines (References.empty : References κ α ω) GridLists.empty where
  rep := by
    refine ⟨linked_empty, ?_, ?_, ?_, ?_⟩
    · intro k live
      cases live
    · intro k live
      cases live
    · intro a k own
      cases own
    · intro a live
      cases live
  first_live := fun _ => rfl
  refs := fun _ => rfl
  target := fun _ _ => rfl
  size := fun _ headed => by cases headed

/-- A run of allowed calls goes through on the heap as it does on the lists. -/
lemma Refines.run (ref : Refines s t) (events : List (RefEvent κ α ω))
    (along : Along GridLists.step Allowed t events) : ∃ s' t', exec References.step s events = some s' ∧
      exec GridLists.step t events = some t' ∧ Refines s' t' := by
  induction events generalizing s t with
  | nil => exact ⟨s, t, rfl, rfl, ref⟩
  | cons e events ih =>
    obtain ⟨s₁, t₁, eq, eq', ref₁⟩ := ref.step along.1
    obtain ⟨s', t', run, run', ref'⟩ := ih ref₁ (along.2 t₁ eq')
    refine ⟨s', t', ?_, ?_, ref'⟩
    · rw [exec, eq]
      exact run
    · rw [exec, eq']
      exact run'

end Simulation

/-- The loops over a manager, in either direction, and its size tell the list of its references, after any number of
rounds that reaches its end. -/
def Shows (s : References κ α ω) (t : GridLists κ α) (k : κ) : Prop :=
  LinkedListHead.isEmpty s.cells k = some (t.lists k).isEmpty ∧
    ∀ fuel, (t.lists k).length ≤ fuel →
      ((LinkedListHead.getFirst s.cells k).bind fun e =>
        LinkedListHead.iterate (LinkedListElement.next s.cells) fuel e) = some ((t.lists k).map elem) ∧
      ((LinkedListHead.getLast s.cells k).bind fun e =>
        LinkedListHead.iterate (LinkedListElement.prev s.cells) fuel e) = some ((t.lists k).reverse.map elem) ∧
      LinkedListHead.getSize s.cells k (s.iSize k) fuel = some (UInt32.ofNat (t.lists k).length)

/-- The memory shows the list of a manager. -/
lemma Refines.shows {s : References κ α ω} {t : GridLists κ α} {k : κ} (ref : Refines s t)
    (headed : t.heads k = true) : Shows s t k := by
  have live := (ref.first_live k).trans headed
  refine ⟨isEmpty_spec ref.rep live, fun fuel enough => ⟨?_, ?_, ?_⟩⟩
  · rw [getFirst_spec ref.rep live, Option.bind_some]
    exact iterate_next ref.rep live enough [] rfl
  · rw [getLast_spec ref.rep live, Option.bind_some]
    exact iterate_prev ref.rep live enough [] (List.append_nil _).symm
  · rw [LinkedListHead.getSize, ref.size k headed]
    split_ifs with zero
    · -- an empty list, or one of a multiple of 2^32 references, is counted anew
      rw [getFirst_spec ref.rep live]
      have counted := countFrom_spec ref.rep live enough [] 0 rfl
      rw [UInt32.zero_add] at counted
      exact counted
    · rfl

/-- In every run of calls on live objects no pointer that is NULL or points at a deleted object is followed, the
links are those of the lists, and the loops over them and their sizes tell the lists. -/
theorem references_refine (events : List (RefEvent κ α ω))
    (along : Along GridLists.step Allowed GridLists.empty events) :
    ∃ s t, exec References.step References.empty events = some s ∧
      exec GridLists.step GridLists.empty events = some t ∧ Linked t.lists t.home ∧
      (∀ a, t.refs a = true → s.iRefTo a = t.home a) ∧ ∀ k, t.heads k = true → Shows s t k := by
  obtain ⟨s, t, run, run', ref⟩ := refines_empty.run events along
  exact ⟨s, t, run, run', ref.rep.linked, ref.target, fun k => ref.shows⟩

/-- Three references in one list, of which two leave it before its manager is deleted. -/
def threeLinks : List (RefEvent Nat Nat Nat) :=
  [.constructManager 0, .construct 1, .construct 2, .construct 3, .link 1 (some 0) 7, .link 2 (some 0) 8,
    .link 3 (some 0) 9, .unlink 1, .invalidate 3, .destroyManager 0 2]

/-- The list of the manager shows its references in every state of this run. -/
theorem references_refine_threeLinks : ∃ s t, exec References.step References.empty threeLinks = some s ∧
    exec GridLists.step GridLists.empty threeLinks = some t ∧ Linked t.lists t.home ∧
    (∀ a, t.refs a = true → s.iRefTo a = t.home a) ∧ ∀ k, t.heads k = true → Shows s t k :=
  references_refine threeLinks (by decide)

end Legacy.Map
