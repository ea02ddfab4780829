import Legacy.Inventory.Handlers
import Legacy.Lib.Faulting
import Legacy.Lib.Table

/-!
# What the inventory keeps true by itself

`Stored` is the invariant of the item pointers: every slot of the player and of its pets that points to
an item points to a living object which knows that slot, so that no object is in two slots, and which
is not marked as removed, so that a save does not delete it. First the operations on single objects are
described by equations (a successful call as a record update), then each is shown to keep `Stored`;
`Floating` objects, which are in no slot, may be deleted or put into a free slot.
-/

namespace Legacy.Inventory
open Legacy.Lib

/-- A place where a pointer to an item object is kept. -/
inductive Loc where
  | slot (i : Nat)
  | worn (i e : Nat)
  deriving DecidableEq, Repr

/-- The places that exist. -/
def Loc.Valid : Loc → Prop
  | .slot i => i < playerSlotsCount
  | .worn i e => i < maxPetSlot ∧ e < equipmentSlotEnd

/-- Faults of an update queue that has grown beyond the range of `uQueuePos`. -/
def QueueFault (f : Fault) : Prop := ∃ pos, f = .queueIndex pos

namespace Player

/-- The object a place points to. -/
def holds (p : Player) : Loc → Option Nat
  | .slot i => p.items i
  | .worn i e => (p.pets i).bind fun pet => pet.equip e

/-- The object knows that it is at this place. -/
def Resides (p : Player) (l : Loc) (it : Item) : Prop :=
  match l with
  | .slot i => it.slot = i ∧ it.container = none
  | .worn i e => it.slot = e ∧ it.container = (p.pets i).map Pet.guid

/-- The object is at no place. -/
def Floating (p : Player) (g : Nat) : Prop := ∀ l, p.holds l ≠ some g

/-- The invariant of the item pointers. -/
structure Stored (objmgr : ObjectMgr) (p : Player) : Prop where
  valid : ∀ {l g}, p.holds l = some g → l.Valid
  live : ∀ {l g}, p.holds l = some g →
    ∃ it, p.heap g = some it ∧ p.Resides l it ∧ (objmgr.getItemPrototype it.entry).isSome
  kept : ∀ {l g}, p.holds l = some g → (p.marks g).uState ≠ .removed
  known : ∀ {g it}, p.heap g = some it → it.guid = g ∧ g ≤ p.hiItemGuid ∧ it.owner = p.guid
  pets : ∀ {i j a b}, p.pets i = some a → p.pets j = some b → a.guid = b.guid → i = j
  gold : p.gold < 2 ^ 32

/-- An object in no slot that may be put into one. -/
structure Movable (objmgr : ObjectMgr) (p : Player) (g : Nat) (it : Item) : Prop where
  floating : p.Floating g
  live : p.heap g = some it
  mark : (p.marks g).uState ≠ .removed
  proto : (objmgr.getItemPrototype it.entry).isSome

/-- The effect of `setState` on an object that stays alive. -/
def requeue (p : Player) (g : Nat) (it : Item) (state : ItemUpdateState) : Player :=
  (if (p.marks g).uState ≠ .new then p.setMark g { p.marks g with uState := state }
    else p).addToUpdateQueueOf g it

/-- The effect of `visualizePetItem` on a free slot, before the object is marked. -/
def dressed (p : Player) (i : Nat) (pet : Pet) (e g : Nat) (it : Item) : Player :=
  (p.setPet i { pet with equip := Function.update pet.equip e (some g) }).setItem g
    { it with owner := p.guid, slot := e, container := some pet.guid }

section Equations

variable {p : Player} {g : Nat} {it : Item}

/-- A live item is read. -/
lemma deref_eq (e : p.heap g = some it) : p.deref g = .ok it := by
  simp only [deref, e]

/-- A live item is marked changed and queued. -/
lemma setState_changed (e : p.heap g = some it) :
    p.setState g .changed = .ok (p.requeue g it .changed) := by
  simp only [setState, deref_eq e, requeue, bind, Except.bind, pure, Except.pure, reduceCtorEq, and_false,
    if_false, ne_eq, not_false_eq_true, if_true]

/-- An item with rows is marked removed and queued. -/
lemma setState_removed_old (e : p.heap g = some it) (old : (p.marks g).uState ≠ .new) :
    p.setState g .removed = .ok (p.requeue g it .removed) := by
  simp only [setState, deref_eq e, requeue, bind, Except.bind, pure, Except.pure, reduceCtorEq, old, false_and,
    if_false, ne_eq, not_false_eq_true, if_true]

/-- A new item leaves the queue and is deleted. -/
lemma setState_removed_new (e : p.heap g = some it) (new : (p.marks g).uState = .new) :
    p.setState g .removed =
      (p.removeFromUpdateQueueOf g it >>= fun p => .ok (p.deleteItem g)) := by
  simp only [setState, deref_eq e, bind, Except.bind, pure, Except.pure, new, and_self, if_true]

/-- A new item that was never queued is deleted. -/
lemma setState_removed_fresh (e : p.heap g = some it) (new : p.marks g = .fresh) :
    p.setState g .removed = .ok (p.deleteItem g) := by
  rw [setState_removed_new e (congrArg Mark.uState new)]
  simp only [removeFromUpdateQueueOf, new, Mark.fresh, if_true]
  rfl

/-- A new state changes the marks and the queue only. -/
lemma requeue_eq (p : Player) (g : Nat) (it : Item) (state : ItemUpdateState) :
    ∃ m q, p.requeue g it state = { p with marks := m, itemUpdateQueue := q } := by
  simp only [requeue, addToUpdateQueueOf, setMark]
  split_ifs <;> exact ⟨_, _, rfl⟩

/-- The item has its new state, unless it is new still. -/
lemma requeue_marks_self (p : Player) (g : Nat) (it : Item) (state : ItemUpdateState) :
    ((p.requeue g it state).marks g).uState = if (p.marks g).uState = .new then .new else state := by
  simp only [requeue, addToUpdateQueueOf, setMark]
  split_ifs <;> simp_all

/-- The other items keep their marks. -/
lemma requeue_marks_ne (p : Player) (it : Item) (state : ItemUpdateState) {g g' : Nat} (ne : g' ≠ g) :
    (p.requeue g it state).marks g' = p.marks g' := by
  simp only [requeue, addToUpdateQueueOf, setMark]
  split_ifs <;> simp [Function.update_of_ne ne]

/-- Leaving the queue changes the marks and the queue only. -/
lemma removeFromUpdateQueueOf_post (p : Player) (g : Nat) (it : Item) :
    Post (p.removeFromUpdateQueueOf g it)
      (fun p' => ∃ m q, p' = { p with marks := m, itemUpdateQueue := q } ∧
        ∀ g', g' ≠ g → m g' = p.marks g') QueueFault := by
  simp only [removeFromUpdateQueueOf]
  split_ifs
  · exact ⟨_, _, rfl, fun _ _ => rfl⟩
  · exact ⟨_, _, rfl, fun _ _ => rfl⟩
  · exact ⟨_, _, rfl, fun _ _ => rfl⟩
  · exact ⟨_, _, rfl, fun _ ne => Function.update_of_ne ne ..⟩
  · exact ⟨_, rfl⟩

end Equations

section Requeue

variable (p : Player) (g : Nat) (it : Item) (state : ItemUpdateState)

/-- A new state moves no item. -/
@[simp]
lemma requeue_items : (p.requeue g it state).items = p.items := by
  obtain ⟨m, q, e⟩ := requeue_eq p g it state
  rw [e]

/-- A new state changes no pet. -/
@[simp]
lemma requeue_pets : (p.requeue g it state).pets = p.pets := by
  obtain ⟨m, q, e⟩ := requeue_eq p g it state
  rw [e]

/-- A new state writes no item. -/
@[simp]
lemma requeue_heap : (p.requeue g it state).heap = p.heap := by
  obtain ⟨m, q, e⟩ := requeue_eq p g it state
  rw [e]

/-- A new state keeps the guid of the player. -/
@[simp]
lemma requeue_guid : (p.requeue g it state).guid = p.guid := by
  obtain ⟨m, q, e⟩ := requeue_eq p g it state
  rw [e]

/-- A new state keeps the gold. -/
@[simp]
lemma requeue_gold : (p.requeue g it state).gold = p.gold := by
  obtain ⟨m, q, e⟩ := requeue_eq p g it state
  rw [e]

/-- A new state keeps the values of the unit. -/
@[simp]
lemma requeue_unit : (p.requeue g it state).unit = p.unit := by
  obtain ⟨m, q, e⟩ := requeue_eq p g it state
  rw [e]

/-- A new state takes no guid. -/
@[simp]
lemma requeue_hiItemGuid : (p.requeue g it state).hiItemGuid = p.hiItemGuid := by
  obtain ⟨m, q, e⟩ := requeue_eq p g it state
  rw [e]

/-- A new state blocks no queue. -/
@[simp]
lemma requeue_blocked :
    (p.requeue g it state).itemUpdateQueueBlocked = p.itemUpdateQueueBlocked := by
  obtain ⟨m, q, e⟩ := requeue_eq p g it state
  rw [e]

/-- The places hold what they held. -/
lemma holds_requeue (l : Loc) : (p.requeue g it state).holds l = p.holds l := by
  obtain ⟨m, q, e⟩ := requeue_eq p g it state
  rw [e]
  cases l <;> rfl

end Requeue

section Holds

variable {p : Player} {l : Loc} {g : Nat}

/-- What is held after a slot was emptied was held before. -/
lemma holds_of_clearSlot {i : Nat} (held : (p.setSlot i none).holds l = some g) :
    p.holds l = some g := by
  cases l with
  | slot j => exact (erase_eq_some.mp held).2
  | worn j e => exact held

/-- What is held after an item was placed is that item or was held before. -/
lemma holds_of_place {i g' : Nat} {it : Item} (held : (p.place i g it).holds l = some g') :
    (l = .slot i ∧ g' = g) ∨ p.holds l = some g' := by
  cases l with
  | slot j =>
    obtain ⟨rfl, new⟩ | ⟨-, old⟩ := update_eq_some.mp held
    · exact .inl ⟨rfl, (Option.some.inj new).symm⟩
    · exact .inr old
  | worn j e => exact .inr held

/-- An item that is placed names its slot. -/
lemma place_heap_self (p : Player) (i g : Nat) (it : Item) :
    (p.place i g it).heap g = some { it with owner := p.guid, slot := i, container := none } :=
  setItem_heap_self ..

/-- The other items stay as they are. -/
lemma place_heap_ne (p : Player) (i : Nat) (it : Item) {g g' : Nat} (ne : g' ≠ g) :
    (p.place i g it).heap g' = p.heap g' :=
  setItem_heap_ne _ _ ne

/-- What is held after an item was taken off a pet was held before. -/
lemma holds_of_undress {i e : Nat} {pet : Pet} {u : Unit} (epet : p.pets i = some pet)
    (held : (p.setPet i { pet with unit := u, equip := Function.update pet.equip e none }).holds l =
      some g) : p.holds l = some g := by
  cases l with
  | slot j => exact held
  | worn j e' =>
    obtain ⟨pet', epet', worn⟩ := Option.bind_eq_some_iff.mp held
    obtain ⟨rfl, new⟩ | ⟨-, old⟩ := update_eq_some.mp epet'
    · cases new
      exact Option.bind_eq_some_iff.mpr ⟨pet, epet, (erase_eq_some.mp worn).2⟩
    · exact Option.bind_eq_some_iff.mpr ⟨pet', old, worn⟩

/-- A pet wears what was put on it. -/
lemma dressed_pets_self (p : Player) (i : Nat) (pet : Pet) (e g : Nat) (it : Item) :
    (p.dressed i pet e g it).pets i =
      some { pet with equip := Function.update pet.equip e (some g) } :=
  setPet_pets_self ..

/-- An item that is put on a pet names it. -/
lemma dressed_heap_self (p : Player) (i : Nat) (pet : Pet) (e g : Nat) (it : Item) :
    (p.dressed i pet e g it).heap g =
      some { it with owner := p.guid, slot := e, container := some pet.guid } :=
  setItem_heap_self ..

/-- The other items stay as they are. -/
lemma dressed_heap_ne (p : Player) (i : Nat) (pet : Pet) (e : Nat) (it : Item) {g g' : Nat}
    (ne : g' ≠ g) : (p.dressed i pet e g it).heap g' = p.heap g' :=
  setItem_heap_ne (p.setPet i _) _ ne

/-- What is held after an item was put on a pet is that item or was held before. -/
lemma holds_of_dressed {i e g' : Nat} {pet : Pet} {it : Item} (epet : p.pets i = some pet)
    (held : (p.dressed i pet e g it).holds l = some g') : (l = .worn i e ∧ g' = g) ∨ p.holds l = some g' := by
  cases l with
  | slot j => exact .inr held
  | worn j e' =>
    obtain ⟨pet', epet', worn⟩ := Option.bind_eq_some_iff.mp held
    obtain ⟨rfl, new⟩ | ⟨-, old⟩ := update_eq_some.mp epet'
    · cases new
      obtain ⟨rfl, put⟩ | ⟨-, worn⟩ := update_eq_some.mp worn
      · exact .inl ⟨rfl, (Option.some.inj put).symm⟩
      · exact .inr (Option.bind_eq_some_iff.mpr ⟨pet, epet, worn⟩)
    · exact .inr (Option.bind_eq_some_iff.mpr ⟨pet', old, worn⟩)

/-- A pet that is changed keeps its guid. -/
lemma guid_setPet {i : Nat} {pet pet' : Pet} (epet : p.pets i = some pet) (guid : pet'.guid = pet.guid) (j : Nat) :
    ((p.setPet i pet').pets j).map Pet.guid = (p.pets j).map Pet.guid := by
  by_cases eq : j = i
  · subst eq
    rw [setPet_pets_self, epet, Option.map_some, Option.map_some, guid]
  · rw [setPet_pets_ne p _ eq]

/-- A pet may change that keeps its equipment. -/
lemma holds_setPet {i : Nat} {pet pet' : Pet} (epet : p.pets i = some pet) (equip : pet'.equip = pet.equip) (l : Loc) :
    (p.setPet i pet').holds l = p.holds l := by
  cases l with
  | slot j => rfl
  | worn j e =>
    rw [holds, holds]
    by_cases same : j = i
    · subst same
      rw [setPet_pets_self, epet, Option.bind_some, Option.bind_some, equip]
    · rw [setPet_pets_ne p _ same]

end Holds

namespace Stored

variable {objmgr : ObjectMgr} {p : Player} (h : p.Stored objmgr)
include h

/-- An object is at one place only. -/
lemma unique {l k : Loc} {g : Nat} (e : p.holds l = some g) (e' : p.holds k = some g) : l = k := by
  obtain ⟨it, live, res, -⟩ := h.live e
  obtain ⟨it', live', res', -⟩ := h.live e'
  obtain rfl : it = it' := Option.some.inj (live.symm.trans live')
  cases l with
  | slot i =>
    cases k with
    | slot j =>
      obtain rfl : i = j := res.1.symm.trans res'.1
      rfl
    | worn j e =>
      simp only [holds, Option.bind_eq_some_iff] at e'
      obtain ⟨pet, epet, -⟩ := e'
      have c := res.2.symm.trans res'.2
      simp [epet] at c
  | worn i e0 =>
    simp only [holds, Option.bind_eq_some_iff] at e
    obtain ⟨pet, epet, -⟩ := e
    cases k with
    | slot j =>
      have c := res.2.symm.trans res'.2
      simp [epet] at c
    | worn j e1 =>
      simp only [holds, Option.bind_eq_some_iff] at e'
      obtain ⟨pet', epet', -⟩ := e'
      have c := res.2.symm.trans res'.2
      rw [epet, epet'] at c
      obtain rfl : i = j := h.pets epet epet' (Option.some.inj c)
      obtain rfl : e0 = e1 := res.1.symm.trans res'.1
      rfl

/-- What is known of an item in a slot. -/
lemma items_of_itemAt {i : Nat} {it : Item} (e : p.itemAt i = some it) :
    p.items i = some it.guid ∧ p.heap it.guid = some it ∧ it.slot = i ∧ it.container = none ∧
      (objmgr.getItemPrototype it.entry).isSome := by
  simp only [itemAt, Option.bind_eq_some_iff] at e
  obtain ⟨g, eg, live⟩ := e
  have at_ : p.holds (.slot i) = some g := eg
  obtain ⟨it', live', res, proto⟩ := h.live at_
  obtain rfl : it = it' := Option.some.inj (live.symm.trans live')
  obtain rfl : it.guid = g := (h.known live).1
  exact ⟨eg, live, res.1, res.2, proto⟩

/-- A slot that is not empty has a live item. -/
lemma itemAt_of_items {i g : Nat} (e : p.items i = some g) : ∃ it, p.itemAt i = some it ∧ it.guid = g := by
  have at_ : p.holds (.slot i) = some g := e
  obtain ⟨it, live, -⟩ := h.live at_
  exact ⟨it, by simp only [itemAt, e, Option.bind_some, live], (h.known live).1⟩

/-- A slot without a live item is empty. -/
lemma items_of_itemAt_none {i : Nat} (e : p.itemAt i = none) : p.items i = none := by
  cases eg : p.items i with
  | none => rfl
  | some g =>
    obtain ⟨it, e', -⟩ := h.itemAt_of_items eg
    simp [e] at e'

/-- A slot inside the array is read. -/
lemma getItemByPos_eq {i : Nat} (lt : i < playerSlotsCount) : p.getItemByPos i = .ok (p.itemAt i) := by
  simp only [getItemByPos, if_neg (Nat.not_le.mpr lt)]
  cases e : p.items i with
  | none => simp only [itemAt, e, Option.bind_none]
  | some g =>
    have at_ : p.holds (.slot i) = some g := e
    obtain ⟨it, live, -⟩ := h.live at_
    simp only [itemAt, e, Option.bind_some, live, deref_eq live]
    rfl

/-- A slot of a pet is read. -/
lemma getEquip_eq {i e : Nat} {pet : Pet} (epet : p.pets i = some pet) (lt : e < equipmentSlotEnd) :
    p.getEquip pet e = .ok ((pet.equip e).bind p.heap) := by
  simp only [getEquip, if_neg (Nat.not_le.mpr lt)]
  cases eg : pet.equip e with
  | none => simp only [Option.bind_none]
  | some g =>
    have at_ : p.holds (.worn i e) = some g := by simp only [holds, epet, Option.bind_some, eg]
    obtain ⟨it, live, -⟩ := h.live at_
    simp only [Option.bind_some, live, deref_eq live]
    rfl

/-- The invariant carries over when every pointer is an old one to an object that kept its place, or a
new one to an object that knows its place. -/
lemma transfer {q : Player} (guid : q.guid = p.guid) (hi : p.hiItemGuid ≤ q.hiItemGuid)
    (gold : q.gold < 2 ^ 32) (pets : ∀ i, (q.pets i).map Pet.guid = (p.pets i).map Pet.guid)
    (held : ∀ l g, q.holds l = some g →
      (p.holds l = some g ∧ ((p.marks g).uState ≠ .removed → (q.marks g).uState ≠ .removed) ∧
        ∀ it, p.heap g = some it → ∃ it', q.heap g = some it' ∧
          it'.slot = it.slot ∧ it'.container = it.container ∧ it'.entry = it.entry) ∨
      (l.Valid ∧ (q.marks g).uState ≠ .removed ∧ ∃ it, q.heap g = some it ∧ p.Resides l it ∧
        (objmgr.getItemPrototype it.entry).isSome))
    (known : ∀ g it', q.heap g = some it' →
      (∃ it, p.heap g = some it ∧ it'.guid = it.guid ∧ it'.owner = it.owner) ∨
      (it'.guid = g ∧ g ≤ q.hiItemGuid ∧ it'.owner = p.guid)) : q.Stored objmgr := by
  have resides : ∀ l it, p.Resides l it → q.Resides l it := by
    intro l it res
    cases l with
    | slot i => exact res
    | worn i e => exact ⟨res.1, res.2.trans (pets i).symm⟩
  refine ⟨?valid, ?live, ?kept, ?known, ?pets, gold⟩
  case valid =>
    intro l g e
    obtain ⟨old, -⟩ | ⟨valid, -⟩ := held l g e
    · exact h.valid old
    · exact valid
  case live =>
    intro l g e
    obtain ⟨old, -, keep⟩ | ⟨-, -, it, live, res, proto⟩ := held l g e
    · obtain ⟨it, live, res, proto⟩ := h.live old
      obtain ⟨it', live', eslot, econt, eentry⟩ := keep it live
      refine ⟨it', live', resides l it' ?_, by rwa [eentry]⟩
      cases l with
      | slot i => exact ⟨eslot.trans res.1, econt.trans res.2⟩
      | worn i e => exact ⟨eslot.trans res.1, econt.trans res.2⟩
    · exact ⟨it, live, resides l it res, proto⟩
  case kept =>
    intro l g e
    obtain ⟨old, mark, -⟩ | ⟨-, mark, -⟩ := held l g e
    · exact mark (h.kept old)
    · exact mark
  case known =>
    intro g it' live'
    obtain ⟨it, live, eguid, eowner⟩ | ⟨eguid, le, eowner⟩ := known g it' live'
    · obtain ⟨k1, k2, k3⟩ := h.known live
      exact ⟨eguid.trans k1, k2.trans hi, by rw [eowner, k3, guid]⟩
    · exact ⟨eguid, le, by rw [eowner, guid]⟩
  case pets =>
    intro i j a b ea eb eguid
    have ha := pets i
    have hb := pets j
    rw [ea, Option.map_some] at ha
    rw [eb, Option.map_some] at hb
    obtain ⟨a', ea', ga⟩ := Option.map_eq_some_iff.mp ha.symm
    obtain ⟨b', eb', gb⟩ := Option.map_eq_some_iff.mp hb.symm
    exact h.pets ea' eb' (by rw [ga, gb, eguid])

/-- Marks and queue may change, as long as no held object is marked as removed. -/
lemma remark {m : Nat → Mark} (q : List (Option Nat))
    (kept : ∀ l g, p.holds l = some g → (m g).uState ≠ .removed) :
    Player.Stored objmgr { p with marks := m, itemUpdateQueue := q } :=
  ⟨h.valid, h.live, fun held => kept _ _ held, h.known, h.pets, h.gold⟩

/-- A new state keeps the player stored. -/
lemma requeue (g : Nat) (it : Item) {state : ItemUpdateState}
    (kept : state ≠ .removed ∨ p.Floating g) : (p.requeue g it state).Stored objmgr := by
  obtain ⟨m, q, e⟩ := requeue_eq p g it state
  rw [e]
  refine h.remark q fun l g' held => ?_
  have marks : m = (p.requeue g it state).marks := by rw [e]
  rw [marks]
  by_cases eq : g' = g
  · subst eq
    rw [requeue_marks_self]
    obtain ne | fl := kept
    · split_ifs
      · exact fun c => ItemUpdateState.noConfusion c
      · exact ne
    · exact absurd held (fl l)
  · rw [requeue_marks_ne p it state eq]
    exact h.kept held

/-- An object is marked as unchanged. -/
lemma setMark (g : Nat) {m : Mark} (kept : m.uState ≠ .removed) : (p.setMark g m).Stored objmgr := by
  refine h.remark p.itemUpdateQueue fun l g' held => ?_
  by_cases eq : g' = g
  · subst eq
    rwa [Function.update_self]
  · rw [Function.update_of_ne eq]
    exact h.kept held

/-- A change of the unit keeps the player stored. -/
lemma withUnit (u : Unit) : Player.Stored objmgr { p with unit := u } :=
  ⟨h.valid, h.live, h.kept, h.known, h.pets, h.gold⟩

/-- A change of the gold keeps the player stored. -/
lemma withGold {n : Nat} (lt : n < 2 ^ 32) : Player.Stored objmgr { p with gold := n } :=
  ⟨h.valid, h.live, h.kept, h.known, h.pets, lt⟩

/-- An object may change as long as it keeps its place, which a floating object does not have. -/
lemma setItem {g : Nat} {it it' : Item} (e : p.heap g = some it) (guid : it'.guid = it.guid)
    (owner : it'.owner = it.owner)
    (place : p.Floating g ∨
      it'.slot = it.slot ∧ it'.container = it.container ∧ it'.entry = it.entry) :
    (p.setItem g it').Stored objmgr := by
  apply h.transfer (q := p.setItem g it') rfl (Nat.le_refl _) h.gold fun _ => rfl
  · intro l g' held
    have old : p.holds l = some g' := held
    refine .inl ⟨old, id, fun it0 live => ?_⟩
    by_cases eq : g' = g
    · subst eq
      obtain fl | same := place
      · exact absurd old (fl l)
      · obtain rfl : it0 = it := Option.some.inj (live.symm.trans e)
        exact ⟨it', setItem_heap_self .., same⟩
    · exact ⟨it0, (setItem_heap_ne p _ eq).trans live, rfl, rfl, rfl⟩
  · intro g' it0 live
    obtain ⟨rfl, new⟩ | ⟨-, live⟩ := update_eq_some.mp live
    · cases new
      exact .inl ⟨it, e, guid, owner⟩
    · exact .inl ⟨it0, live, rfl, rfl⟩

/-- A floating object may be deleted. -/
lemma deleteItem {g : Nat} (fl : p.Floating g) : (p.deleteItem g).Stored objmgr := by
  apply h.transfer (q := p.deleteItem g) rfl (Nat.le_refl _) h.gold fun _ => rfl
  · intro l g' held
    have old : p.holds l = some g' := held
    have ne : g' ≠ g := fun eq => fl l (eq ▸ old)
    refine .inl ⟨old, id, fun it0 live => ⟨it0, ?_, rfl, rfl, rfl⟩⟩
    exact (deleteItem_heap_ne p ne).trans live
  · intro g' it0 live
    exact .inl ⟨it0, (erase_eq_some.mp live).2, rfl, rfl⟩

/-- A slot may be emptied. -/
lemma clearSlot (i : Nat) : (p.setSlot i none).Stored objmgr := by
  apply h.transfer (q := p.setSlot i none) rfl (Nat.le_refl _) h.gold fun _ => rfl
  · intro l g held
    have old : p.holds l = some g := holds_of_clearSlot held
    exact .inl ⟨old, id, fun it0 live => ⟨it0, live, rfl, rfl, rfl⟩⟩
  · exact fun g it live => .inl ⟨it, live, rfl, rfl⟩

/-- The object of an emptied slot floats. -/
lemma floating_clearSlot {i g : Nat} (e : p.items i = some g) : (p.setSlot i none).Floating g := by
  intro l held
  have at_ : p.holds (.slot i) = some g := e
  obtain rfl := h.unique (holds_of_clearSlot held) at_
  exact absurd ((setSlot_items_self p i none).symm.trans held) (by simp)

/-- A movable object may be put into a slot. -/
lemma place {i g : Nat} {it : Item} (lt : i < playerSlotsCount) (mv : p.Movable objmgr g it) :
    (p.place i g it).Stored objmgr := by
  apply h.transfer (q := p.place i g it) rfl (Nat.le_refl _) h.gold fun _ => rfl
  · intro l g' held
    obtain ⟨rfl, rfl⟩ | old := holds_of_place held
    · exact .inr ⟨lt, mv.mark, _, place_heap_self .., ⟨rfl, rfl⟩, mv.proto⟩
    · have ne : g' ≠ g := fun eq => mv.floating l (eq ▸ old)
      refine .inl ⟨old, id, fun it0 live => ⟨it0, ?_, rfl, rfl, rfl⟩⟩
      exact (place_heap_ne p i it ne).trans live
  · intro g' it0 live
    obtain ⟨rfl, new⟩ | ⟨-, live⟩ := update_eq_some.mp live
    · cases new
      exact .inr ⟨(h.known mv.live).1, (h.known mv.live).2.1, rfl⟩
    · exact .inl ⟨it0, live, rfl, rfl⟩

/-- A pet may take something off, and its unit may change. -/
lemma undress {i e : Nat} {pet : Pet} (epet : p.pets i = some pet) (u : Unit) :
    (p.setPet i { pet with unit := u, equip := Function.update pet.equip e none }).Stored objmgr := by
  apply h.transfer (q := p.setPet i _) rfl (Nat.le_refl _) h.gold
  · exact guid_setPet epet rfl
  · intro l g held
    have old : p.holds l = some g := holds_of_undress epet held
    exact .inl ⟨old, id, fun it0 live => ⟨it0, live, rfl, rfl, rfl⟩⟩
  · exact fun g it live => .inl ⟨it, live, rfl, rfl⟩

/-- A pet may put on a movable object. -/
lemma dressed {i e g : Nat} {pet : Pet} {it : Item} (epet : p.pets i = some pet) (ipet : i < maxPetSlot)
    (lt : e < equipmentSlotEnd) (mv : p.Movable objmgr g it) :
    (p.dressed i pet e g it).Stored objmgr := by
  apply h.transfer (q := p.dressed i pet e g it) rfl (Nat.le_refl _) h.gold
  · exact guid_setPet epet rfl
  · intro l g' held
    obtain ⟨rfl, rfl⟩ | old := holds_of_dressed epet held
    · refine .inr ⟨⟨ipet, lt⟩, mv.mark, _, dressed_heap_self .., ⟨rfl, ?_⟩, mv.proto⟩
      rw [epet]
      rfl
    · have ne : g' ≠ g := fun eq => mv.floating l (eq ▸ old)
      refine .inl ⟨old, id, fun it0 live0 => ⟨it0, ?_, rfl, rfl, rfl⟩⟩
      exact (dressed_heap_ne p i pet e it ne).trans live0
  · intro g' it0 live
    obtain ⟨rfl, new⟩ | ⟨-, live⟩ := update_eq_some.mp live
    · cases new
      exact .inr ⟨(h.known mv.live).1, (h.known mv.live).2.1, rfl⟩
    · exact .inl ⟨it0, live, rfl, rfl⟩

/-- The unit of a pet may change. -/
lemma petUnit {i : Nat} {pet : Pet} (epet : p.pets i = some pet) (u : Unit) :
    (p.setPet i { pet with unit := u }).Stored objmgr := by
  apply h.transfer (q := p.setPet i _) rfl (Nat.le_refl _) h.gold
  · exact guid_setPet epet rfl
  · intro l g held
    have same := holds_setPet epet (show Pet.equip { pet with unit := u } = pet.equip from rfl) l
    have old : p.holds l = some g := same.symm.trans held
    exact .inl ⟨old, id, fun it0 live => ⟨it0, live, rfl, rfl, rfl⟩⟩
  · exact fun g it live => .inl ⟨it, live, rfl, rfl⟩

/-- Pets may come without equipment, and go. -/
lemma withPets {pets : Nat → Option Pet}
    (old : ∀ i pet, pets i = some pet → p.pets i = some pet ∨ pet.equip = fun _ => none)
    (unique : ∀ i j a b, pets i = some a → pets j = some b → a.guid = b.guid → i = j) :
    Player.Stored objmgr { p with pets := pets } := by
  have holds : ∀ {l g}, Player.holds { p with pets := pets } l = some g →
      p.holds l = some g ∧ ∀ it, p.Resides l it → Player.Resides { p with pets := pets } l it := by
    intro l g held
    cases l with
    | slot j => exact ⟨held, fun _ res => res⟩
    | worn j e =>
      obtain ⟨pet, epet, eequip⟩ := Option.bind_eq_some_iff.mp held
      obtain same | bare := old j pet epet
      · refine ⟨Option.bind_eq_some_iff.mpr ⟨pet, same, eequip⟩, fun it res => ⟨res.1, ?_⟩⟩
        rw [res.2, same]
        exact (congrArg (Option.map Pet.guid) epet).symm
      · simp [bare] at eequip
  refine ⟨fun held => h.valid (holds held).1, ?_, fun held => h.kept (holds held).1, h.known, ?_, h.gold⟩
  · intro l g held
    obtain ⟨it, live, res, proto⟩ := h.live (holds held).1
    exact ⟨it, live, (holds held).2 it res, proto⟩
  · exact fun ea eb eq => unique _ _ _ _ ea eb eq

/-- A pet may leave the player. -/
lemma release (i : Nat) : Player.Stored objmgr { p with pets := Function.update p.pets i none } := by
  have old : ∀ j pet, Function.update p.pets i none j = some pet → p.pets j = some pet :=
    fun j pet e => (erase_eq_some.mp e).2
  refine h.withPets (fun j pet e => .inl (old j pet e)) ?_
  exact fun j k a b ea eb eq => h.pets (old j a ea) (old k b eb) eq

/-- An object may be created. -/
lemma newObject {it : Item} (fl : p.Floating it.guid) (le : it.guid ≤ p.hiItemGuid)
    (owner : it.owner = p.guid) : (p.newObject it).Stored objmgr := by
  apply h.transfer (q := p.newObject it) rfl (Nat.le_refl _) h.gold fun _ => rfl
  · intro l g held
    have old : p.holds l = some g := held
    have ne : g ≠ it.guid := fun eq => fl l (eq ▸ old)
    refine .inl ⟨old, ?_, fun it0 live => ⟨it0, ?_, rfl, rfl, rfl⟩⟩
    · simp only [Player.newObject, Function.update_of_ne ne]
      exact id
    · exact (Function.update_of_ne ne _ _).trans live
  · intro g it0 live
    obtain ⟨rfl, new⟩ | ⟨-, live⟩ := update_eq_some.mp live
    · cases new
      exact .inr ⟨rfl, le, owner⟩
    · exact .inl ⟨it0, live, rfl, rfl⟩

/-- A guid that was not given yet is in no slot. -/
lemma floating_next {n : Nat} (lt : p.hiItemGuid < n) : p.Floating n := by
  intro l held
  obtain ⟨it, live, -⟩ := h.live held
  have le := (h.known live).2.1
  omega

/-- The guid counter may skip guids. -/
lemma skipGuid {n : Nat} (le : p.hiItemGuid ≤ n) : Player.Stored objmgr { p with hiItemGuid := n } :=
  ⟨h.valid, h.live, h.kept, fun e => ⟨(h.known e).1, (h.known e).2.1.trans le, (h.known e).2.2⟩, h.pets,
    h.gold⟩

end Stored

end Player

end Legacy.Inventory
