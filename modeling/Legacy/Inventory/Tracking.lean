import Legacy.Inventory.Reload
import Legacy.Inventory.UpdateQueue

/-!
# Items and their rows

What the tables hold of an item is decided by its update state: a new item has no row, the rows of an
unchanged one are those that a save would write, and a changed or removed one waits in the update queue
(`Tracked`). A packet takes items out of this order while it moves them. `Ledger` says that all items but
those in its list are in order, with one lemma for each way to take an item out and to put it back, and
`Step.ledger` that every packet leaves all of them in order.
-/

namespace Legacy.Inventory
open Legacy.Lib

/-- An item without a row joins nothing. -/
lemma Database.joined_of_absent {db : Database} {guid item : Nat} (absent : db.characterInventory item = none) :
    db.joined guid item = none := by
  rw [joined, absent]

namespace Queueing

/-- Both rows of an item exist. -/
def HasRows (s : Queueing) (g : Nat) : Prop :=
  (s.database.characterInventory g).isSome ∧ (s.database.itemInstance g).isSome

/-- The rows of an item are those that a save writes. -/
def Clean (s : Queueing) (g : Nat) (it : Item) : Prop :=
  s.database.characterInventory g = some (s.player.inventoryRow it) ∧
    s.database.itemInstance g = some (Player.instanceRow it)

/-- What an item's update state says about its rows, its place and the queue. -/
inductive Tracked (s : Queueing) (g : Nat) : Prop
  | gone (dead : s.player.heap g = none) (away : s.database.joined s.player.guid g = none)
  | new {it : Item} (live : s.player.heap g = some it) (mark : (s.player.marks g).uState = .new)
      (absent : s.database.characterInventory g = none) (called : s.called g ↔ ¬s.player.Floating g)
  | changed {it : Item} (live : s.player.heap g = some it) (mark : (s.player.marks g).uState = .changed)
      (rows : HasRows s g) (called : s.called g) (held : ¬s.player.Floating g)
  | removed {it : Item} (live : s.player.heap g = some it) (mark : (s.player.marks g).uState = .removed)
      (called : s.called g) (fl : s.player.Floating g)
  | unchanged {it : Item} (live : s.player.heap g = some it)
      (mark : (s.player.marks g).uState = .unchanged) (clean : Clean s g it) (held : ¬s.player.Floating g)

/-- An item that a packet is working on. -/
structure Loose (s : Queueing) (g : Nat) : Prop where
  live : ∃ it, s.player.heap g = some it
  kept : (s.player.marks g).uState ≠ .removed
  absent : (s.player.marks g).uState = .new → s.database.characterInventory g = none
  rows : (s.player.marks g).uState ≠ .new → HasRows s g

/-- The items are tracked, but for those in the list, which are being worked on. -/
structure Accounted (s : Queueing) (out : List Nat) : Prop where
  indexed : Indexed s
  free : s.player.itemUpdateQueueBlocked = false
  owned : ∀ g it, s.player.heap g = some it → it.owner = s.player.guid
  marked : ∀ g, some g ∈ s.player.itemUpdateQueue → s.called g
  beyond : ∀ g, s.player.hiItemGuid < g → s.database.characterInventory g = none
  tracked : ∀ g, g ∉ out → Tracked s g
  loose : ∀ g ∈ out, Loose s g

/-- What an item is tracked by. -/
structure SameItem (s s' : Queueing) (g : Nat) : Prop where
  guid : s'.player.guid = s.player.guid
  heap : s'.player.heap g = s.player.heap g
  marks : s'.player.marks g = s.player.marks g
  called : s'.called g = s.called g
  inventory : s'.database.characterInventory g = s.database.characterInventory g
  inst : s'.database.itemInstance g = s.database.itemInstance g

/-- The rows of an item that is left alone join as before. -/
lemma SameItem.joined {s s' : Queueing} {g : Nat} (same : SameItem s s' g) :
    s'.database.joined s'.player.guid g = s.database.joined s.player.guid g := by
  rw [Database.joined, Database.joined, same.guid, same.inventory, same.inst]

/-- What is tracked depends on the item and where it is. -/
lemma Tracked.congr {s s' : Queueing} {g : Nat} (t : Tracked s g) (same : SameItem s s' g)
    (floating : s'.player.Floating g ↔ s.player.Floating g) : Tracked s' g := by
  have rows : HasRows s' g ↔ HasRows s g := by
    rw [HasRows, HasRows, same.inventory, same.inst]
  cases t with
  | gone dead away => exact Tracked.gone (same.heap.trans dead) (same.joined.trans away)
  | new live mark absent called =>
    refine Tracked.new (same.heap.trans live) ?_ (same.inventory.trans absent) ?_
    · rw [same.marks, mark]
    · rw [same.called, floating, called]
  | changed live mark rows' called held =>
    refine Tracked.changed (same.heap.trans live) ?_ (rows.mpr rows') ?_ fun fl => held (floating.mp fl)
    · rw [same.marks, mark]
    · rw [same.called, called]
  | removed live mark called fl =>
    refine Tracked.removed (same.heap.trans live) ?_ ?_ (floating.mpr fl)
    · rw [same.marks, mark]
    · rw [same.called, called]
  | unchanged live mark clean held =>
    refine Tracked.unchanged (same.heap.trans live) ?_ ?_ fun fl => held (floating.mp fl)
    · rw [same.marks, mark]
    · rw [Clean, same.inventory, same.inst, Player.inventoryRow, same.guid]
      exact clean

/-- What is loose depends on its marks and its rows. -/
lemma Loose.congr {s s' : Queueing} {g : Nat} (loose : Loose s g) (live : ∃ it, s'.player.heap g = some it)
    (marks : s'.player.marks g = s.player.marks g) (database : s'.database = s.database) : Loose s' g := by
  refine ⟨live, ?_, ?_, ?_⟩
  · rw [marks]
    exact loose.kept
  · rw [marks, database]
    exact loose.absent
  · rw [marks, HasRows, database]
    exact loose.rows

/-- A tracked item in a slot can be worked on. -/
lemma Tracked.loose {s : Queueing} {g : Nat} {it : Item} (t : Tracked s g) (live : s.player.heap g = some it)
    (held : ¬s.player.Floating g) : Loose s g := by
  cases t with
  | gone dead => cases dead.symm.trans live
  | new _ mark absent =>
    refine ⟨⟨it, live⟩, ?_, fun _ => absent, fun old => absurd mark old⟩
    rw [mark]
    exact ItemUpdateState.noConfusion
  | changed _ mark rows =>
    refine ⟨⟨it, live⟩, ?_, fun new => ?_, fun _ => rows⟩
    · rw [mark]
      exact ItemUpdateState.noConfusion
    · cases mark.symm.trans new
  | removed _ _ _ fl => exact absurd fl held
  | unchanged _ mark clean =>
    refine ⟨⟨it, live⟩, ?_, fun new => ?_, fun _ => ?_⟩
    · rw [mark]
      exact ItemUpdateState.noConfusion
    · cases mark.symm.trans new
    · exact ⟨Option.isSome_of_eq_some clean.1, Option.isSome_of_eq_some clean.2⟩

/-- The queue and the positions do not depend on the places of the items. -/
lemma Indexed.frame {s : Queueing} {p : Player} (h : Indexed s) (queue : p.itemUpdateQueue = s.player.itemUpdateQueue)
    (marks : p.marks = s.player.marks) (blocked : p.itemUpdateQueueBlocked = s.player.itemUpdateQueueBlocked)
    (named : ∀ g it, p.heap g = some it → it.guid = g) (owns : ∀ g, p.Owns g ↔ s.player.Owns g) :
    Indexed { s with player := p } := by
  have queuedAt (k g : Nat) : p.QueuedAt k g ↔ s.player.QueuedAt k g := by
    rw [Player.QueuedAt, Player.QueuedAt, queue]
  refine ⟨named, fun stuck => ?blocked, queue ▸ h.short, fun k g at_ => ?live, fun g own pos => ?known,
    fun g own dirty called => ?queued⟩
  case blocked =>
    have old := h.blocked (blocked ▸ stuck)
    exact ⟨queue.trans old.1, old.2⟩
  case live =>
    obtain ⟨own, index⟩ := h.live k g ((queuedAt k g).mp at_)
    exact ⟨(owns g).mpr own, (congrArg (fun m => (m g).uQueuePos) marks).trans index⟩
  case known =>
    obtain ⟨k, at_⟩ := h.known g ((owns g).mp own) (marks ▸ pos)
    exact ⟨k, (queuedAt k g).mpr at_⟩
  case queued =>
    obtain ⟨k, at_⟩ := h.queued g ((owns g).mp own) (marks ▸ dirty) called
    exact ⟨k, (queuedAt k g).mpr at_⟩

end Queueing

namespace Player

open Queueing

/-- While the queue has at most 32767 entries, the items are tracked but for those in the list. -/
def Ledger (p : Player) (db : Database) (out : List Nat) : Prop :=
  p.itemUpdateQueue.length ≤ 32767 → ∃ called, Accounted ⟨p, db, called⟩ out

variable {p p' : Player} {db : Database} {out : List Nat} {g : Nat} {it : Item}

/-- The queue may have got an entry of an item, and may have lost others. -/
structure Grown (p p' : Player) (g : Nat) : Prop where
  length : p.itemUpdateQueue.length ≤ p'.itemUpdateQueue.length
  mem : ∀ g', some g' ∈ p'.itemUpdateQueue → g' = g ∨ some g' ∈ p.itemUpdateQueue

/-- A new state adds at most the item to the queue. -/
lemma grown_requeue (p : Player) (g : Nat) (it : Item) (state : ItemUpdateState) :
    Grown p (p.requeue g it state) g := by
  have cases_ : (p.requeue g it state).itemUpdateQueue = p.itemUpdateQueue ∨
      (p.requeue g it state).itemUpdateQueue = p.itemUpdateQueue ++ [some g] := by
    simp only [requeue, addToUpdateQueueOf, setMark]
    split_ifs <;> first | exact Or.inl rfl | exact Or.inr rfl
  cases cases_ with
  | inl same => exact ⟨Nat.le_of_eq (congrArg List.length same.symm), fun g' mem => Or.inr (same ▸ mem)⟩
  | inr more =>
    refine ⟨?_, fun g' mem => ?_⟩
    · rw [more, List.length_append]
      exact Nat.le_add_right ..
    · rw [more, List.mem_append, List.mem_singleton] at mem
      cases mem with
      | inl old => exact Or.inr old
      | inr last => exact Or.inl (Option.some.inj last)

/-- What `SetState` with `ITEM_REMOVED` does: a new item is deleted, and any other one is marked. -/
lemma setState_removed_ok (live : p.heap g = some it) (e : p.setState g .removed = .ok p') :
    Discarded g p p' ∧ Grown p p' g ∧
      ((p.marks g).uState = .new ∧ p'.heap g = none ∨
        (p.marks g).uState ≠ .new ∧ p'.heap g = p.heap g ∧ (p'.marks g).uState = .removed) := by
  refine ⟨(setState_removed_post live).of_ok e, ?_⟩
  by_cases new : (p.marks g).uState = .new
  · rw [setState_removed_new live new, removeFromUpdateQueueOf] at e
    simp only [bind, Except.bind] at e
    split_ifs at e
    all_goals cases e
    all_goals refine ⟨?_, Or.inl ⟨new, deleteItem_heap_self ..⟩⟩
    · exact ⟨Nat.le_refl _, fun g' mem => Or.inr mem⟩
    · exact ⟨Nat.le_refl _, fun g' mem => Or.inr mem⟩
    · exact ⟨Nat.le_refl _, fun g' mem => Or.inr mem⟩
    · refine ⟨Nat.le_of_eq List.length_set.symm, fun g' mem => Or.inr ?_⟩
      exact (List.mem_or_eq_of_mem_set mem).resolve_right (Option.some_ne_none g')
  · rw [setState_removed_old live new] at e
    cases e
    refine ⟨grown_requeue .., Or.inr ⟨new, congrFun (requeue_heap ..) g, ?_⟩⟩
    rw [requeue_marks_self, if_neg new]

/-- The work on an item ends with a call of `SetState`; all other items are as they were. -/
lemma accounted_settle {called : Nat → Bool} (acc : Accounted ⟨p, db, called⟩ (g :: out)) (apart : g ∉ out)
    (indexed : Indexed ⟨p', db, Function.update called g (called g || !p.itemUpdateQueueBlocked)⟩)
    (grown : Grown p p' g) (guid : p'.guid = p.guid) (hi : p'.hiItemGuid = p.hiItemGuid)
    (blocked : p'.itemUpdateQueueBlocked = p.itemUpdateQueueBlocked)
    (off : ∀ g', g' ≠ g → p'.heap g' = p.heap g' ∧ p'.marks g' = p.marks g')
    (floating : ∀ g', p'.Floating g' ↔ p.Floating g') (owned : ∀ it, p'.heap g = some it → it.owner = p'.guid)
    (self : ∀ called' : Nat → Bool, called' g = true → Tracked ⟨p', db, called'⟩ g) :
    Accounted ⟨p', db, Function.update called g (called g || !p.itemUpdateQueueBlocked)⟩ out := by
  have on : Function.update called g (called g || !p.itemUpdateQueueBlocked) g = true := by
    rw [Function.update_self, acc.free]
    exact Bool.or_true _
  refine ⟨indexed, blocked.trans acc.free, fun g' it' live' => ?owned, fun g' mem => ?marked,
    fun g' lt => acc.beyond g' (Nat.lt_of_le_of_lt (Nat.le_of_eq hi.symm) lt), fun g' mem => ?tracked,
    fun g' mem => ?loose⟩
  case owned =>
    by_cases same : g' = g
    · subst same
      exact owned it' live'
    · exact (acc.owned g' it' ((off g' same).1.symm.trans live')).trans guid.symm
  case marked =>
    by_cases same : g' = g
    · subst same
      exact on
    · exact (Function.update_of_ne same ..).trans (acc.marked g' ((grown.mem g' mem).resolve_left same))
  case tracked =>
    by_cases same : g' = g
    · subst same
      exact self _ on
    · have out' : g' ∉ g :: out := fun old => mem ((List.mem_cons.mp old).resolve_left same)
      refine (acc.tracked g' out').congr ⟨guid, (off g' same).1, (off g' same).2, ?_, rfl, rfl⟩ (floating g')
      exact Function.update_of_ne same ..
  case loose =>
    have ne : g' ≠ g := fun same => apart (same ▸ mem)
    have old := acc.loose g' (List.mem_cons_of_mem _ mem)
    obtain ⟨it', live'⟩ := old.live
    exact old.congr ⟨it', (off g' ne).1.trans live'⟩ (off g' ne).2 rfl

namespace Ledger

/-- Items that are being worked on may change, and may come to other places. -/
lemma frame (h : Ledger p db out) (guid : p'.guid = p.guid) (queue : p'.itemUpdateQueue = p.itemUpdateQueue)
    (marks : p'.marks = p.marks) (blocked : p'.itemUpdateQueueBlocked = p.itemUpdateQueueBlocked)
    (top : p.hiItemGuid ≤ p'.hiItemGuid)
    (inside : ∀ g ∈ out, p'.heap g = p.heap g ∨ ∃ it, p'.heap g = some it ∧ it.guid = g ∧ it.owner = p.guid)
    (outside : ∀ g, g ∉ out → p'.heap g = p.heap g ∧ (p'.Floating g ↔ p.Floating g)) : Ledger p' db out := by
  intro short
  obtain ⟨called, acc⟩ := h (queue ▸ short)
  have worked : ∀ g ∈ out, ∃ it, p'.heap g = some it ∧ it.guid = g ∧ it.owner = p.guid := by
    intro g mem
    cases inside g mem with
    | inl same =>
      obtain ⟨it, live⟩ := (acc.loose g mem).live
      exact ⟨it, same.trans live, acc.indexed.named g it live, acc.owned g it live⟩
    | inr new => exact new
  have owned : ∀ g it, p'.heap g = some it → it.guid = g ∧ it.owner = p.guid := by
    intro g it live
    by_cases mem : g ∈ out
    · obtain ⟨it', live', facts⟩ := worked g mem
      cases live.symm.trans live'
      exact facts
    · have old := (outside g mem).1.symm.trans live
      exact ⟨acc.indexed.named g it old, acc.owned g it old⟩
  have owns (g : Nat) : p'.Owns g ↔ p.Owns g := by
    by_cases mem : g ∈ out
    · obtain ⟨it, live, -, owner⟩ := worked g mem
      obtain ⟨it', live'⟩ := (acc.loose g mem).live
      exact iff_of_true ⟨it, live, owner.trans guid.symm⟩ ⟨it', live', acc.owned g it' live'⟩
    · rw [Owns, Owns, (outside g mem).1, guid]
  have indexed := acc.indexed.frame (p := p') queue marks blocked (fun g it live => (owned g it live).1) owns
  refine ⟨called, indexed, blocked.trans acc.free, fun g it live => ?owned, fun g mem => ?marked,
    fun g lt => ?beyond, fun g mem => ?tracked, fun g mem => ?loose⟩
  case owned => exact (owned g it live).2.trans guid.symm
  case marked => exact acc.marked g (queue ▸ mem)
  case beyond => exact acc.beyond g (Nat.lt_of_le_of_lt top lt)
  case tracked =>
    obtain ⟨heap, floating⟩ := outside g mem
    exact (acc.tracked g mem).congr ⟨guid, heap, congrFun marks g, rfl, rfl, rfl⟩ floating
  case loose =>
    obtain ⟨it, live, -⟩ := worked g mem
    exact (acc.loose g mem).congr ⟨it, live⟩ (congrFun marks g) rfl

/-- Work begins on an item in a slot. -/
lemma loosen (h : Ledger p db out) (live : p.heap g = some it) (held : ¬p.Floating g) : Ledger p db (g :: out) := by
  intro short
  obtain ⟨called, acc⟩ := h short
  refine ⟨called, acc.indexed, acc.free, acc.owned, acc.marked, acc.beyond, fun g' mem => ?_, fun g' mem => ?_⟩
  · exact acc.tracked g' fun old => mem (List.mem_cons_of_mem _ old)
  · by_cases old : g' ∈ out
    · exact acc.loose g' old
    · have same : g' = g := (List.mem_cons.mp mem).resolve_right old
      subst same
      exact (acc.tracked g' old).loose live held

/-- A new object is worked on. -/
lemma create (h : Ledger p db out) (dead : p.heap it.guid = none) (absent : db.characterInventory it.guid = none)
    (owner : it.owner = p.guid) : Ledger (p.newObject it) db (it.guid :: out) := by
  intro short
  obtain ⟨called, acc⟩ := h short
  have notQueued : some it.guid ∉ p.itemUpdateQueue := by
    intro mem
    obtain ⟨k, at_⟩ := List.mem_iff_getElem?.mp mem
    obtain ⟨⟨it', live, -⟩, -⟩ := acc.indexed.live k it.guid at_
    cases dead.symm.trans live
  have live : (p.newObject it).heap it.guid = some it := Function.update_self ..
  have heap {g : Nat} (ne : g ≠ it.guid) : (p.newObject it).heap g = p.heap g := Function.update_of_ne ne ..
  have marks {g : Nat} (ne : g ≠ it.guid) : (p.newObject it).marks g = p.marks g := Function.update_of_ne ne ..
  have fresh : (p.newObject it).marks it.guid = .fresh := Function.update_self ..
  refine ⟨Function.update called it.guid false, acc.indexed.create dead, acc.free, fun g it' live' => ?owned,
    fun g mem => ?marked, acc.beyond, fun g mem => ?tracked, fun g mem => ?loose⟩
  case owned =>
    by_cases same : g = it.guid
    · subst same
      cases live.symm.trans live'
      exact owner
    · exact acc.owned g it' ((heap same).symm.trans live')
  case marked =>
    have ne : g ≠ it.guid := fun same => notQueued (same ▸ mem)
    exact (Function.update_of_ne ne ..).trans (acc.marked g mem)
  case tracked =>
    have ne : g ≠ it.guid := fun same => mem (same ▸ List.mem_cons_self)
    have before := acc.tracked g fun old => mem (List.mem_cons_of_mem _ old)
    exact before.congr ⟨rfl, heap ne, marks ne, Function.update_of_ne ne .., rfl, rfl⟩ Iff.rfl
  case loose =>
    by_cases same : g = it.guid
    · subst same
      refine ⟨⟨it, live⟩, ?_, fun _ => absent, fun old => ?_⟩
      · rw [fresh]
        exact ItemUpdateState.noConfusion
      · exact absurd (congrArg Mark.uState fresh) old
    · obtain ⟨it', live'⟩ := (acc.loose g ((List.mem_cons.mp mem).resolve_left same)).live
      have loose := acc.loose g ((List.mem_cons.mp mem).resolve_left same)
      exact loose.congr ⟨it', (heap same).trans live'⟩ (marks same) rfl

/-- An item in a slot is marked as changed. -/
lemma touch (h : Ledger p db (g :: out)) (apart : g ∉ out) (live : p.heap g = some it) (held : ¬p.Floating g) :
    Ledger (p.requeue g it .changed) db out := by
  intro short
  have grown := grown_requeue p g it .changed
  obtain ⟨called, acc⟩ := h (Nat.le_trans grown.length short)
  obtain ⟨q, eq, indexed⟩ := acc.indexed.setState live (acc.owned g it live)
    fun c : ItemUpdateState.changed = .unchanged => by cases c
  cases (setState_changed live).symm.trans eq
  have loose := acc.loose g List.mem_cons_self
  have live' : (p.requeue g it .changed).heap g = some it := (congrFun (requeue_heap ..) g).trans live
  have floating (g' : Nat) : (p.requeue g it .changed).Floating g' ↔ p.Floating g' := by
    simp only [Floating, holds_requeue]
  refine ⟨_, accounted_settle acc apart (indexed short) grown (requeue_guid ..) (requeue_hiItemGuid ..)
    (requeue_blocked ..) (fun g' ne => ⟨congrFun (requeue_heap ..) g', requeue_marks_ne _ _ _ ne⟩) floating
    (fun it' again => ?owned) fun called' on => ?tracked⟩
  case owned =>
    cases live'.symm.trans again
    exact (acc.owned g it live).trans (requeue_guid ..).symm
  case tracked =>
    have held' : ¬(p.requeue g it .changed).Floating g := fun fl => held ((floating g).mp fl)
    by_cases new : (p.marks g).uState = .new
    · refine Tracked.new live' ?_ (loose.absent new) (iff_of_true on held')
      exact (requeue_marks_self ..).trans (if_pos new)
    · refine Tracked.changed live' ?_ (loose.rows new) on held'
      exact (requeue_marks_self ..).trans (if_neg new)

/-- An item in no slot is removed for ever. -/
lemma discard (h : Ledger p db (g :: out)) (apart : g ∉ out) (fl : p.Floating g)
    (e : p.setState g .removed = .ok p') : Ledger p' db out := by
  intro short
  have some_live : ∃ it, p.heap g = some it := by
    cases live : p.heap g with
    | none =>
      rw [setState, deref, live] at e
      cases e
    | some it => exact ⟨it, rfl⟩
  obtain ⟨it, live⟩ := some_live
  obtain ⟨⟨m, q, hp, rfl, -, off⟩, grown, here⟩ := setState_removed_ok live e
  obtain ⟨called, acc⟩ := h (Nat.le_trans grown.length short)
  obtain ⟨p₁, eq, indexed⟩ := acc.indexed.setState live (acc.owned g it live)
    fun c : ItemUpdateState.removed = .unchanged => by cases c
  cases e.symm.trans eq
  have loose := acc.loose g List.mem_cons_self
  have floating (g' : Nat) : Floating { p with heap := hp, marks := m, itemUpdateQueue := q } g' ↔ p.Floating g' := by
    refine forall_congr' fun l => ?_
    cases l <;> rfl
  refine ⟨_, accounted_settle acc apart (indexed short) grown rfl rfl rfl off floating (fun it' live' => ?owned)
    fun called' on => ?tracked⟩
  case owned =>
    rcases here with ⟨-, gone⟩ | ⟨-, old, -⟩
    · cases gone.symm.trans live'
    · exact acc.owned g it' (old.symm.trans live')
  case tracked =>
    rcases here with ⟨new, gone⟩ | ⟨-, old, removed⟩
    · exact Tracked.gone gone (Database.joined_of_absent (loose.absent new))
    · exact Tracked.removed (old.trans live) removed on ((floating g).mpr fl)

end Ledger

/-- An item that is held does not float. -/
lemma not_floating {l : Loc} (held : p.holds l = some g) : ¬p.Floating g := fun fl => fl l held

/-- An item comes to no other place when one place changes that does not hold it. -/
lemma floating_congr {l : Loc} (off : ∀ l', l' ≠ l → p'.holds l' = p.holds l') (before : p.holds l ≠ some g)
    (after : p'.holds l ≠ some g) : p'.Floating g ↔ p.Floating g := by
  refine forall_congr' fun l' => ?_
  by_cases same : l' = l
  · subst same
    exact iff_of_true after before
  · rw [off l' same]

/-- Taking an item leaves the other places alone. -/
lemma holds_taken_ne {objmgr : ObjectMgr} {slot : Nat} {l : Loc} (ne : l ≠ .slot slot) :
    (taken objmgr p slot it).holds l = p.holds l := by
  cases l with
  | slot i => exact taken_items_ne objmgr p it fun same => ne (congrArg Loc.slot same)
  | worn i e => rfl

/-- So does taking one off a pet. -/
lemma holds_petTaken_ne {objmgr : ObjectMgr} {i slot : Nat} {pet : Pet} {l : Loc} (epet : p.pets i = some pet)
    (ne : l ≠ .worn i slot) : (petTaken objmgr p i pet slot it).holds l = p.holds l := by
  cases l with
  | slot j => rfl
  | worn j e =>
    by_cases same : j = i
    · subst same
      have away : e ≠ slot := fun same => ne (congrArg (Loc.worn j) same)
      show ((p.setPet j _).pets j).bind (fun pet => pet.equip e) = (p.pets j).bind fun pet => pet.equip e
      rw [setPet_pets_self, epet]
      exact Function.update_of_ne away ..
    · show ((p.setPet i _).pets j).bind (fun pet => pet.equip e) = (p.pets j).bind fun pet => pet.equip e
      rw [setPet_pets_ne p _ same]

namespace Ledger

variable {objmgr : ObjectMgr}

/-- An item that is being worked on changes, and one place that holds nothing else. -/
lemma move {l : Loc} {it' : Item} (h : Ledger p db (g :: out)) (guid : p'.guid = p.guid)
    (queue : p'.itemUpdateQueue = p.itemUpdateQueue) (marks : p'.marks = p.marks)
    (blocked : p'.itemUpdateQueueBlocked = p.itemUpdateQueueBlocked) (top : p.hiItemGuid ≤ p'.hiItemGuid)
    (self : p'.heap g = some it') (named : it'.guid = g) (owner : it'.owner = p.guid)
    (rest : ∀ g', g' ≠ g → p'.heap g' = p.heap g') (off : ∀ l', l' ≠ l → p'.holds l' = p.holds l')
    (before : ∀ g', p.holds l = some g' → g' = g) (after : ∀ g', p'.holds l = some g' → g' = g) :
    Ledger p' db (g :: out) := by
  refine h.frame guid queue marks blocked top (fun g' mem => ?_) fun g' mem => ?_
  · by_cases same : g' = g
    · subst same
      exact Or.inr ⟨it', self, named, owner⟩
    · exact Or.inl (rest g' same)
  · have ne : g' ≠ g := fun same => mem (same ▸ List.mem_cons_self)
    exact ⟨rest g' ne, floating_congr off (fun here => ne (before g' here)) fun here => ne (after g' here)⟩

/-- An item is taken out of a slot. -/
lemma taken {slot : Nat} (h : Ledger p db out) (st : p.Stored objmgr) (e : p.itemAt slot = some it) :
    Ledger (taken objmgr p slot it) db (it.guid :: out) := by
  obtain ⟨at_, live, -⟩ := st.items_of_itemAt e
  have held : p.holds (.slot slot) = some it.guid := at_
  refine (h.loosen live (not_floating held)).move rfl rfl rfl rfl (Nat.le_refl _) (taken_live ..) rfl
    (st.known live).2.2 (fun g' ne => taken_heap_ne objmgr p slot it ne) (fun l' ne => holds_taken_ne ne)
    (fun g' here => ?_) fun g' here => ?_
  · exact Option.some.inj (here.symm.trans held)
  · cases (taken_free objmgr p slot it).symm.trans here

/-- An item is taken off a pet. -/
lemma petTaken {i slot : Nat} {pet : Pet} (h : Ledger p db out) (st : p.Stored objmgr) (epet : p.pets i = some pet)
    (e : (pet.equip slot).bind p.heap = some it) : Ledger (petTaken objmgr p i pet slot it) db (it.guid :: out) := by
  obtain ⟨g, worn, live⟩ := Option.bind_eq_some_iff.mp e
  obtain ⟨rfl, -, owner⟩ := st.known live
  have held : p.holds (.worn i slot) = some it.guid := Option.bind_eq_some_iff.mpr ⟨pet, epet, worn⟩
  refine (h.loosen live (not_floating held)).move rfl rfl rfl rfl (Nat.le_refl _) (petTaken_live ..) rfl owner
    (fun g' ne => setItem_heap_ne _ _ ne) (fun l' ne => holds_petTaken_ne epet ne) (fun g' here => ?_)
    fun g' here => ?_
  · exact Option.some.inj (here.symm.trans held)
  · obtain ⟨pet', epet', worn'⟩ := Option.bind_eq_some_iff.mp here
    cases (setPet_pets_self ..).symm.trans epet'
    cases (Function.update_self ..).symm.trans worn'

/-- An item is put into a free slot. -/
lemma put {pos : Nat} (h : Ledger p db (g :: out)) (apart : g ∉ out) (st : p.Stored objmgr) (live : p.heap g = some it)
    (free : p.items pos = none) : Ledger (p.put pos g it) db out := by
  have held : (p.place pos g it).holds (.slot pos) = some g := setSlot_items_self p pos _
  have place : Ledger (p.place pos g it) db (g :: out) := by
    refine h.move (l := .slot pos) rfl rfl rfl rfl (Nat.le_refl _) (place_heap_self ..) (st.known live).1 rfl
      (fun g' ne => place_heap_ne p pos it ne) (fun l' ne => ?_) (fun g' here => ?_) fun g' here => ?_
    · cases l' with
      | slot j => exact setSlot_items_ne p _ fun same => ne (congrArg Loc.slot same)
      | worn j e => rfl
    · cases free.symm.trans here
    · exact Option.some.inj (here.symm.trans held)
  exact place.touch apart (place_heap_self ..) (not_floating held)

/-- A pet puts on an item. -/
lemma wear {i pos : Nat} {pet : Pet} (h : Ledger p db (g :: out)) (apart : g ∉ out) (st : p.Stored objmgr)
    (live : p.heap g = some it) (epet : p.pets i = some pet) (free : pet.equip pos = none) :
    Ledger (p.wear i pet pos g it) db out := by
  have self := dressed_pets_self p i pet pos g it
  have held : (p.dressed i pet pos g it).holds (.worn i pos) = some g :=
    Option.bind_eq_some_iff.mpr ⟨_, self, Function.update_self ..⟩
  have dressed : Ledger (p.dressed i pet pos g it) db (g :: out) := by
    refine h.move rfl rfl rfl rfl (Nat.le_refl _) (dressed_heap_self ..) (st.known live).1 rfl
      (fun g' ne => dressed_heap_ne p i pet pos it ne) (fun l' ne => ?_) (fun g' here => ?_)
      fun g' here => Option.some.inj (here.symm.trans held)
    · rw [← holds_wear_ne epet ne, Player.wear, holds_requeue]
    · obtain ⟨pet', epet', worn⟩ := Option.bind_eq_some_iff.mp here
      cases epet.symm.trans epet'
      cases free.symm.trans worn
  exact dressed.touch apart (dressed_heap_self ..) (not_floating held)

/-- An item gets another count. -/
lemma recount {l : Loc} (h : Ledger p db out) (apart : it.guid ∉ out) (st : p.Stored objmgr)
    (live : p.heap it.guid = some it) (held : p.holds l = some it.guid) (count : Nat) :
    Ledger (p.recount it count) db out := by
  have holds (l : Loc) : (p.setItem it.guid { it with count := count }).holds l = p.holds l := by
    cases l <;> rfl
  have held' : (p.setItem it.guid { it with count := count }).holds l = some it.guid := (holds l).trans held
  have counted : Ledger (p.setItem it.guid { it with count := count }) db (it.guid :: out) :=
    (h.loosen live (not_floating held)).move rfl rfl rfl rfl (Nat.le_refl _) (setItem_heap_self ..) rfl
      (st.known live).2.2 (fun g' ne => setItem_heap_ne p _ ne) (fun l' _ => holds l')
      (fun g' here => Option.some.inj (here.symm.trans held)) fun g' here => Option.some.inj (here.symm.trans held')
  exact counted.touch apart (setItem_heap_self ..) (not_floating held')

/-- The order of the items that are being worked on does not matter. -/
lemma swap {g2 : Nat} (h : Ledger p db [g, g2]) : Ledger p db [g2, g] := by
  intro short
  obtain ⟨called, acc⟩ := h short
  have same (g' : Nat) : g' ∈ [g, g2] ↔ g' ∈ [g2, g] := List.Perm.mem_iff (List.Perm.swap g2 g [])
  exact ⟨called, acc.indexed, acc.free, acc.owned, acc.marked, acc.beyond,
    fun g' mem => acc.tracked g' fun mem' => mem ((same g').mp mem'), fun g' mem => acc.loose g' ((same g').mpr mem)⟩

/-- Nothing happens to the items. -/
lemma still (h : Ledger p db out) (guid : p'.guid = p.guid) (queue : p'.itemUpdateQueue = p.itemUpdateQueue)
    (marks : p'.marks = p.marks) (blocked : p'.itemUpdateQueueBlocked = p.itemUpdateQueueBlocked)
    (top : p.hiItemGuid ≤ p'.hiItemGuid) (heap : p'.heap = p.heap) (holds : ∀ l, p'.holds l = p.holds l) :
    Ledger p' db out := by
  refine h.frame guid queue marks blocked top (fun g _ => Or.inl (congrFun heap g)) fun g _ => ⟨congrFun heap g, ?_⟩
  exact forall_congr' fun l => by rw [holds l]

/-- A change of the unit keeps the ledger. -/
lemma withUnit (h : Ledger p db out) (u : Unit) : Ledger { p with unit := u } db out :=
  h.still rfl rfl rfl rfl (Nat.le_refl _) rfl fun l => by cases l <;> rfl

/-- A change of the gold keeps the ledger. -/
lemma withGold (h : Ledger p db out) (n : Nat) : Ledger { p with gold := n } db out :=
  h.still rfl rfl rfl rfl (Nat.le_refl _) rfl fun l => by cases l <;> rfl

/-- An item in no slot is joined to one in a slot. -/
lemma merge {g2 : Nat} {it2 : Item} {l : Loc} (h : Ledger p db [g]) (st : p.Stored objmgr) (fl : p.Floating g)
    (live : p.heap g = some it) (held2 : p.holds l = some g2) (live2 : p.heap g2 = some it2)
    (e : p.mergeInto g g2 = .ok p') : Ledger p' db [] := by
  have ne : g ≠ g2 := fun same => fl l (same ▸ held2)
  have live' : (p.setItem g2 { it2 with count := u32 (it2.count + it.count) }).heap g = some it :=
    (setItem_heap_ne p _ ne).trans live
  have live2' : ((p.setItem g2 { it2 with count := u32 (it2.count + it.count) }).setItem g
      { it with owner := p.guid }).heap g2 = some { it2 with count := u32 (it2.count + it.count) } :=
    (setItem_heap_ne _ _ ne.symm).trans (setItem_heap_self ..)
  have holds (l : Loc) : ((p.setItem g2 { it2 with count := u32 (it2.count + it.count) }).setItem g
      { it with owner := p.guid }).holds l = p.holds l := by
    cases l <;> rfl
  have counted : Ledger ((p.setItem g2 { it2 with count := u32 (it2.count + it.count) }).setItem g
      { it with owner := p.guid }) db [g2, g] := by
    refine (h.loosen live2 (not_floating held2)).frame rfl rfl rfl rfl (Nat.le_refl _) (fun g' mem => ?_)
      fun g' mem => ⟨?_, forall_congr' fun l => by rw [holds]⟩
    · cases mem with
      | head => exact Or.inr ⟨_, live2', (st.known live2).1, (st.known live2).2.2⟩
      | tail _ mem =>
        cases List.mem_singleton.mp mem
        exact Or.inr ⟨_, setItem_heap_self .., (st.known live).1, rfl⟩
    · have ne' : g' ≠ g := fun same => mem (same ▸ List.mem_cons_of_mem _ List.mem_cons_self)
      have ne2 : g' ≠ g2 := fun same => mem (same ▸ List.mem_cons_self)
      exact (setItem_heap_ne _ _ ne').trans (setItem_heap_ne _ _ ne2)
  simp only [mergeInto, deref_eq live, deref_eq live2, deref_eq live', bind, Except.bind, setItem_guid] at e
  split at e
  · cases e
  · next p₁ removed =>
    obtain ⟨⟨m, q, hp, rfl, -, off⟩, -⟩ := setState_removed_ok (setItem_heap_self ..) removed
    have fl' : ((p.setItem g2 { it2 with count := u32 (it2.count + it.count) }).setItem g
        { it with owner := p.guid }).Floating g := by
      intro l held
      exact fl l ((holds l).symm.trans held)
    have rest := counted.swap.discard (fun mem => ne (List.mem_singleton.mp mem)) fl' removed
    have live3 : hp g2 = some { it2 with count := u32 (it2.count + it.count) } := (off g2 ne.symm).1.trans live2'
    have held3 : Player.holds { (p.setItem g2 { it2 with count := u32 (it2.count + it.count) }).setItem g
        { it with owner := p.guid } with heap := hp, marks := m, itemUpdateQueue := q } l = some g2 := by
      cases l <;> exact held2
    cases (setState_changed live3).symm.trans e
    exact rest.touch List.not_mem_nil live3 (not_floating held3)

/-- An item is stored in a slot, alone or in the stack that is there. -/
lemma storeItem {pos : Nat} (h : Ledger p db [g]) (st : p.Stored objmgr) (mv : p.Movable objmgr g it)
    (lt : pos < playerSlotsCount) (e : p.storeItem pos g = .ok p') : Ledger p' db [] := by
  cases at_ : p.itemAt pos with
  | none =>
    have free := st.items_of_itemAt_none at_
    rw [st.storeItem_free lt mv.live free] at e
    cases e
    exact h.put List.not_mem_nil st mv.live free
  | some it2 =>
    obtain ⟨held2, live2, -⟩ := st.items_of_itemAt at_
    have held2' : p.holds (.slot pos) = some it2.guid := held2
    rw [st.storeItem_stack lt mv.live at_] at e
    exact h.merge st mv.floating mv.live held2' live2 e

end Ledger

/-- The queue asks for the owner of an item only. -/
lemma requeue_owner (p : Player) (g : Nat) (it it' : Item) (owner : it.owner = it'.owner) (state : ItemUpdateState) :
    p.requeue g it state = p.requeue g it' state := by
  rw [requeue, requeue, addToUpdateQueueOf, addToUpdateQueueOf, owner]

/-- Marking an item and taking one out of a slot commute. -/
lemma taken_requeue (objmgr : ObjectMgr) (it' : Item) (slot : Nat) (state : ItemUpdateState) :
    Player.taken objmgr (p.requeue g it state) slot it' = (Player.taken objmgr p slot it').requeue g it state := by
  simp only [requeue, addToUpdateQueueOf, setMark, Player.taken, setItem, setSlot]
  split_ifs <;> rfl

section Packets

variable {objmgr : ObjectMgr} (h : Ledger p db []) (st : p.Stored objmgr)

include h st

/-- A smaller stack is tracked. -/
lemma Shrunk.ledger {slot count : Nat} (e : p.itemAt slot = some it) (s : p.Shrunk slot it count p') :
    Ledger p' db [] := by
  obtain ⟨at_, live, -⟩ := st.items_of_itemAt e
  have held : p.holds (.slot slot) = some it.guid := at_
  cases s with
  | kept => exact h.recount List.not_mem_nil st live held count
  | destroyed _ gone =>
    have emptied : Ledger ((p.setItem it.guid { it with count := count }).emptied slot { it with count := count })
        db [it.guid] := by
      refine (h.loosen live (not_floating held)).move (l := .slot slot) rfl rfl rfl rfl (Nat.le_refl _)
        (setItem_heap_self ..) rfl (st.known live).2.2
        (fun g' ne => (setItem_heap_ne _ _ ne).trans (setItem_heap_ne _ _ ne)) (fun l' ne => ?_) (fun g' here => ?_)
        fun g' here => ?_
      · cases l' with
        | slot j => exact setSlot_items_ne _ _ fun same => ne (congrArg Loc.slot same)
        | worn j e => rfl
      · exact Option.some.inj (here.symm.trans held)
      · cases (setSlot_items_self (p.setItem it.guid { it with count := count }) slot none).symm.trans here
    have fl : ((p.setItem it.guid { it with count := count }).emptied slot { it with count := count }).Floating
        it.guid := by
      obtain ⟨st', e'⟩ := st.counted e count
      exact (st'.emptied e').2
    exact emptied.discard List.not_mem_nil fl gone

/-- Dropping an item keeps the ledger. -/
lemma Dropped.ledger {slot amount : Nat} (d : p.Dropped slot amount p') : Ledger p' db [] := by
  cases d with
  | refused => exact h
  | shrunk at_ _ s => exact Shrunk.ledger h st at_ s

/-- Using an item up keeps the ledger. -/
lemma Consumed.ledger {slot target amount : Nat} (c : p.Consumed slot target amount p') : Ledger p' db [] := by
  cases c with
  | refused => exact h
  | @shrunk it u _ at_ s =>
    cases u with
    | none => exact Shrunk.ledger h st at_ s
    | some u =>
      have fed : Ledger (p.setConsumer target u) db [] := by
        have same : ∀ l, (p.setConsumer target u).holds l = p.holds l := holds_setConsumer target u
        rw [setConsumer] at same ⊢
        split at same
        · next own =>
          rw [if_pos own]
          exact h.still rfl rfl rfl rfl (Nat.le_refl _) rfl same
        · next pet =>
          rw [if_neg pet]
          exact h.still rfl rfl rfl rfl (Nat.le_refl _) rfl same
      have at' : (p.setConsumer target u).itemAt slot = some it := by
        rw [setConsumer]
        split
        · exact at_
        · exact at_
      exact Shrunk.ledger fed (st.setConsumer target u) at' s

/-- Putting equipment on keeps the ledger. -/
lemma Equipped.ledger {invslot : Nat} (d : p.Equipped objmgr invslot p') : Ledger p' db [] := by
  cases d with
  | refused => exact h
  | @done it proto dest lt at_ known pos =>
    obtain ⟨st₁, mv⟩ := st.taken at_
    have taken := h.taken st at_
    obtain ⟨st₂, free, keep⟩ := st₁.swapped dest lt (taken_free ..)
    have swapped : Ledger (swapped objmgr (Player.taken objmgr p invslot it) dest invslot) db [it.guid] := by
      rw [Player.swapped]
      cases at2 : (Player.taken objmgr p invslot it).itemAt dest with
      | none => exact taken
      | some it2 =>
        have apart : it2.guid ∉ [it.guid] := by
          intro mem
          have held : (Player.taken objmgr p invslot it).holds (.slot dest) = some it2.guid :=
            (st₁.items_of_itemAt at2).1
          exact mv.floating _ (List.mem_singleton.mp mem ▸ held)
        obtain ⟨st₃, mv2⟩ := st₁.taken at2
        have ne : dest ≠ invslot := by
          intro same
          subst same
          cases (taken_free objmgr p dest it).symm.trans (st₁.items_of_itemAt at2).1
        refine (taken.taken st₁ at2).put apart st₃ mv2.live ?_
        exact (taken_items_ne objmgr _ it2 ne.symm).trans (taken_free ..)
    have worn := swapped.put List.not_mem_nil st₂ (keep _ _ mv).live free
    exact worn.withUnit _

/-- Taking equipment off keeps the ledger. -/
lemma Unequipped.ledger {eqslot invslot : Nat} (d : p.Unequipped objmgr eqslot invslot p') : Ledger p' db [] := by
  cases d with
  | refused => exact h
  | stays => exact h.withUnit _
  | moved at_ _ can stored =>
    obtain ⟨-, hi, -⟩ := canStoreItem_ok can
    obtain ⟨st', mv⟩ := st.taken at_
    exact ((h.taken st at_).storeItem st' mv (Nat.lt_trans hi (by decide)) stored).withUnit _

/-- Taking equipment off a pet keeps the ledger. -/
lemma PetUnequipped.ledger {i eqslot : Nat} (d : p.PetUnequipped objmgr i eqslot p') : Ledger p' db [] := by
  cases d with
  | refused => exact h
  | moved epet at_ can stored =>
    obtain ⟨-, hi, -⟩ := canStoreItem_ok can
    obtain ⟨st', mv⟩ := st.petTaken epet at_
    exact (h.petTaken st epet at_).storeItem st' mv (Nat.lt_trans hi (by decide)) stored

/-- Putting equipment on a pet keeps the ledger. -/
lemma PetEquipped.ledger {i invslot : Nat} (d : p.PetEquipped objmgr i invslot p') : Ledger p' db [] := by
  cases d with
  | refused => exact h
  | @done it pet pet' dest lt ipet at_ epet pos epet' =>
    obtain ⟨st₁, mv⟩ := st.taken at_
    have taken := h.taken st at_
    have epet₁ : (Player.taken objmgr p invslot it).pets i = some pet := epet
    obtain ⟨st₂, ⟨pet₂, epet₂, free⟩, keep⟩ := st₁.petSwapped dest epet₁ lt
    cases epet₂.symm.trans epet'
    have swapped : Ledger (petSwapped objmgr (Player.taken objmgr p invslot it) i pet dest invslot) db [it.guid] := by
      rw [Player.petSwapped]
      cases at2 : (pet.equip dest).bind (Player.taken objmgr p invslot it).heap with
      | none => exact taken
      | some it2 =>
        obtain ⟨g2, worn, live2⟩ := Option.bind_eq_some_iff.mp at2
        obtain rfl := (st₁.known live2).1
        have apart : it2.guid ∉ [it.guid] := by
          intro mem
          have held : (Player.taken objmgr p invslot it).holds (.worn i dest) = some it2.guid :=
            Option.bind_eq_some_iff.mpr ⟨pet, epet₁, worn⟩
          exact mv.floating _ (List.mem_singleton.mp mem ▸ held)
        obtain ⟨st₃, mv2⟩ := st₁.petTaken epet₁ at2
        exact (taken.petTaken st₁ epet₁ at2).put apart st₃ mv2.live (taken_free ..)
    have worn := swapped.wear List.not_mem_nil st₂ (keep _ _ mv).live epet' free
    exact worn.still rfl rfl rfl rfl (Nat.le_refl _) rfl (holds_setPet (wear_pets_self ..) rfl)

/-- The item that a purchase creates has no row. -/
lemma Gained.ledger {itemid count : Nat} (d : Gained objmgr p itemid count p') : Ledger p' db [] := by
  have created {proto : ItemPrototype} : Ledger (p.withNew itemid (createCount proto count)) db [p.hiItemGuid + 2] := by
    have top : Ledger { p with hiItemGuid := p.hiItemGuid + 2 } db [] :=
      h.still rfl rfl rfl rfl (Nat.le_add_right ..) rfl fun l => by cases l <;> rfl
    have dead : p.heap (p.hiItemGuid + 2) = none := by
      cases live : p.heap (p.hiItemGuid + 2) with
      | none => rfl
      | some it =>
        have le := (st.known live).2.1
        omega
    intro short
    obtain ⟨_, acc⟩ := h short
    have absent : db.characterInventory (p.newStack itemid (createCount proto count)).guid = none :=
      acc.beyond _ (Nat.lt_add_of_pos_right Nat.two_pos)
    exact top.create dead absent rfl short
  cases d with
  | refused =>
    rw [afterCanStoreNewItem]
    split
    · exact h.still rfl rfl rfl rfl (Nat.le_succ _) rfl fun l => by cases l <;> rfl
    · exact h
  | placed can known lt free =>
    obtain ⟨st', -⟩ := st.withNew itemid (createCount _ count)
    exact created.put List.not_mem_nil st' (withNew_live ..) free
  | @stacked proto dest it2 can known at2 same =>
    obtain ⟨st', fl⟩ := st.withNew itemid (createCount proto count)
    have at2' := (st.withNew_itemAt itemid (createCount proto count) dest).trans at2
    obtain ⟨held2, live2, -⟩ := st'.items_of_itemAt at2'
    have held2' : (p.withNew itemid (createCount proto count)).holds (.slot dest) = some it2.guid := held2
    have ne : p.hiItemGuid + 2 ≠ it2.guid := fun eq => fl (.slot dest) (eq ▸ held2)
    exact created.merge st' fl (withNew_live ..) held2' live2
      (mergeInto_fresh (withNew_live ..) live2 ne (Function.update_self ..))

/-- A purchase keeps the ledger. -/
lemma Bought.ledger {buy_count : Nat} (d : p.Bought objmgr buy_count p') : Ledger p' db [] := by
  cases d with
  | refused => exact h
  | paid _ gained => exact Gained.ledger (h.withGold _) (st.withGold (applyModUInt32Value_lt ..)) gained

/-- An item that is sold whole is marked before it leaves its slot. -/
lemma Sold.ledger {slot sell_count : Nat} (d : p.Sold objmgr slot sell_count p') : Ledger p' db [] := by
  cases d with
  | refused => exact h
  | @kept it _ at_ =>
    obtain ⟨held, live, -⟩ := st.items_of_itemAt at_
    have held' : p.holds (.slot slot) = some it.guid := held
    exact (h.recount List.not_mem_nil st live held' (it.count - sell_count)).withGold _
  | @emptied it proto at_ _ _ old =>
    obtain ⟨held, live, -⟩ := st.items_of_itemAt at_
    have held' : p.holds (.slot slot) = some it.guid := held
    obtain ⟨st', at'⟩ := st.counted at_ 0
    obtain ⟨-, mv⟩ := st'.taken at'
    have out : Ledger (Player.taken objmgr (p.setItem it.guid { it with count := 0 }) slot { it with count := 0 })
        db [it.guid] := by
      have kept (g : Nat) (ne : g ≠ it.guid) :=
        taken_heap_ne objmgr (p.setItem it.guid { it with count := 0 }) slot { it with count := 0 } ne
      have loose := h.loosen live (not_floating held')
      refine loose.move (l := .slot slot) rfl rfl rfl rfl (Nat.le_refl _) mv.live rfl (st.known live).2.2
        (fun g' ne => (kept g' ne).trans (setItem_heap_ne p _ ne)) (fun l' ne => ?_) (fun g' here => ?_)
        fun g' here => ?_
      · refine (holds_taken_ne ne).trans ?_
        cases l' <;> rfl
      · exact Option.some.inj (here.symm.trans held')
      · cases (taken_free objmgr (p.setItem it.guid { it with count := 0 }) slot _).symm.trans here
    have marked := setState_removed_old mv.live old
    have done := out.discard List.not_mem_nil mv.floating marked
    rw [requeue_owner _ _ { it with count := 0, slot := nullSlot } { it with count := 0 } rfl, ← taken_requeue] at done
    exact done.withGold _

/-- Using items keeps everything tracked. -/
lemma useItem_ledger {req : Wire.UseItemRequest} {o : Outcome} (e : (p.handleUseItem objmgr req).result = .ok o) :
    Ledger o.player db [] := by
  cases req with
  | take =>
    cases e
    exact h
  | drop tmp_invslot amount => exact Dropped.ledger h st ((st.handleDrop tmp_invslot amount).of_ok e)
  | equip tmp_invslot => exact Equipped.ledger h st ((st.handleEquip tmp_invslot).of_ok e)
  | unequip tmp_eqslot tmp_invslot =>
    exact Unequipped.ledger h st ((st.handleUnequip tmp_eqslot tmp_invslot).of_ok e)
  | consume tmp_invslot amount target invslot =>
    exact Consumed.ledger h st ((st.handleConsume tmp_invslot amount target).of_ok e)
  | petEquip target tmp_invslot => exact PetEquipped.ledger h st ((st.handlePetEquip target tmp_invslot).of_ok e)
  | petUnequip target tmp_eqslot tmp_invslot =>
    exact PetUnequipped.ledger h st ((st.handlePetUnequip target tmp_eqslot tmp_invslot).of_ok e)
  | other =>
    cases e
    exact h

omit st in
/-- A pet may come and go that wears nothing. -/
lemma barePet_ledger {i : Nat} {v : Option Pet} (old : ∀ pet, p.pets i = some pet → pet.equip = fun _ => none)
    (new : ∀ pet, v = some pet → pet.equip = fun _ => none) :
    Ledger { p with pets := Function.update p.pets i v } db [] := by
  have naked : ∀ {w : Option Pet} (e : Nat), (∀ pet, w = some pet → pet.equip = fun _ => none) →
      (w.bind fun pet => pet.equip e) = none := by
    intro w e bare
    cases w with
    | none => rfl
    | some pet => exact congrFun (bare pet rfl) e
  refine h.still rfl rfl rfl rfl (Nat.le_refl _) rfl fun l => ?_
  cases l with
  | slot j => rfl
  | worn j e =>
    show ((Function.update p.pets i v j).bind fun pet => pet.equip e) = (p.pets j).bind fun pet => pet.equip e
    by_cases same : j = i
    · subst same
      rw [Function.update_self, naked e new, naked e old]
    · rw [Function.update_of_ne same]

end Packets

end Player

namespace Session

open Player

variable {objmgr : ObjectMgr} {s s' : Session}

/-- The items stay tracked when a pet that leaves wears nothing, unless the step is a save. -/
lemma Step.ledger (h : Ledger s.player s.db []) (st : s.player.Stored objmgr)
    (bare : ∀ i pet, s.player.pets i = some pet → s'.player.pets i = none → pet.equip = fun _ => none)
    (e : Step objmgr s s') :
    Ledger s'.player s'.db [] ∨ ∃ r, s.player.saveInventory objmgr s.db = .ok r ∧ s' = ⟨r.1, r.2⟩ := by
  cases e with
  | useItem e =>
    have used : Ledger _ s.db [] := useItem_ledger h st e
    exact Or.inl used
  | @buy p' cache vendor vendor_slot buy_count e =>
    have st' := (stored_cache cache).mpr st
    obtain ⟨p'', ok, b⟩ := sat_iff.mp (st'.handleBuy vendor vendor_slot buy_count)
    cases ok.symm.trans e
    exact Or.inl (Bought.ledger h st' b)
  | sell e => exact Or.inl (Sold.ledger h st ((st.handleSell ..).of_ok e))
  | @gain p' cache modelid count e =>
    have st' := (stored_cache cache).mpr st
    obtain ⟨p'', ok, g⟩ := sat_iff.mp (st'.addNewInventoryItem modelid count)
    cases ok.symm.trans e
    exact Or.inl (Gained.ledger h st' g)
  | @petRelease p' subcmd petslot e =>
    refine Or.inl ?_
    simp only [handlePetRelease, Traced.run, Traced.access] at e
    split_ifs at e
    · cases e
      exact h
    · cases e
      exact barePet_ledger h (fun pet epet => bare _ pet epet (Function.update_self ..)) fun _ none => by cases none
    · cases e
      exact h
  | @progress gold u => exact Or.inl ((Ledger.withGold h gold).withUnit u)
  | petProgress epet =>
    exact Or.inl (h.still rfl rfl rfl rfl (Nat.le_refl _) rfl (holds_setPet epet rfl))
  | summon free naked =>
    refine Or.inl (barePet_ledger h (fun pet epet => ?_) fun pet new => ?_)
    · cases free.symm.trans epet
    · cases new
      exact naked
  | save e => exact Or.inr ⟨_, e, rfl⟩

end Session

end Legacy.Inventory
