import Legacy.Inventory.Stored

/-!
# Specifications of the storage operations

One lemma for each operation of `Player.cpp` on a player whose pointers are sound: what it returns, as a
record update or as a relation between the players before and after, and that the invariant is kept. A
call faults only through the update queue.
-/

namespace Legacy.Inventory
open Legacy.Lib

namespace Player

/-- The effect of `removeItem` on a slot that holds an object. -/
def taken (objmgr : ObjectMgr) (p : Player) (slot : Nat) (it : Item) : Player :=
  let u := if slot < equipmentSlotEnd then applyItemModsFor objmgr p.unit it false else p.unit
  (setSlot { p with unit := u } slot none).setItem it.guid { it with slot := nullSlot }

/-- The effect of `petRemoveItem` on a slot that holds an object. -/
def petTaken (objmgr : ObjectMgr) (p : Player) (i : Nat) (pet : Pet) (slot : Nat) (it : Item) : Player :=
  let u := if slot < equipmentSlotEnd then applyItemModsFor objmgr pet.unit it false else pet.unit
  (p.setPet i { pet with unit := u, equip := Function.update pet.equip slot none }).setItem it.guid
    { it with slot := nullSlot }

/-- The effect of `storeItem` and `equipItem` on a free slot. -/
def put (p : Player) (pos g : Nat) (it : Item) : Player :=
  (p.place pos g it).requeue g { it with owner := p.guid, slot := pos, container := none } .changed

/-- The effect of `petEquipItem` on a free slot. -/
def wear (p : Player) (i : Nat) (pet : Pet) (pos g : Nat) (it : Item) : Player :=
  (p.dressed i pet pos g it).requeue g
    { it with owner := p.guid, slot := pos, container := some pet.guid } .changed

/-- The effect of a new count on a stack. -/
def recount (p : Player) (it : Item) (count : Nat) : Player :=
  (p.setItem it.guid { it with count := count }).requeue it.guid { it with count := count } .changed

/-- The effect of `destroyItem` before the object is marked. -/
def emptied (p : Player) (slot : Nat) (it : Item) : Player :=
  (p.setSlot slot none).setItem it.guid { it with slot := nullSlot }

/-- The slot is free when its item was taken. -/
lemma taken_free (objmgr : ObjectMgr) (p : Player) (slot : Nat) (it : Item) :
    (taken objmgr p slot it).items slot = none := setSlot_items_self ..

/-- Taking an item costs nothing. -/
lemma taken_gold (objmgr : ObjectMgr) (p : Player) (slot : Nat) (it : Item) :
    (taken objmgr p slot it).gold = p.gold := rfl

/-- The other slots stay as they are. -/
lemma taken_items_ne (objmgr : ObjectMgr) (p : Player) (it : Item) {slot slot' : Nat}
    (ne : slot' ≠ slot) : (taken objmgr p slot it).items slot' = p.items slot' :=
  setSlot_items_ne _ _ ne

/-- The item that was taken is live, and in no slot. -/
lemma taken_live (objmgr : ObjectMgr) (p : Player) (slot : Nat) (it : Item) :
    (taken objmgr p slot it).heap it.guid = some { it with slot := nullSlot } := setItem_heap_self ..

/-- The other items stay as they are. -/
lemma taken_heap_ne (objmgr : ObjectMgr) (p : Player) (slot : Nat) (it : Item) {g : Nat}
    (ne : g ≠ it.guid) : (taken objmgr p slot it).heap g = p.heap g :=
  setItem_heap_ne _ _ ne

/-- The item that was taken off a pet is live, and in no slot. -/
lemma petTaken_live (objmgr : ObjectMgr) (p : Player) (i : Nat) (pet : Pet) (slot : Nat) (it : Item) :
    (petTaken objmgr p i pet slot it).heap it.guid = some { it with slot := nullSlot } :=
  setItem_heap_self ..

/-- The item that was put into a slot names it. -/
lemma put_heap_self (p : Player) (pos g : Nat) (it : Item) :
    (p.put pos g it).heap g = some { it with owner := p.guid, slot := pos, container := none } :=
  (congrFun (requeue_heap ..) g).trans (place_heap_self p pos g it)

/-- The other items stay as they are. -/
lemma put_heap_ne (p : Player) (pos : Nat) (it : Item) {g g' : Nat} (ne : g' ≠ g) :
    (p.put pos g it).heap g' = p.heap g' :=
  (congrFun (requeue_heap ..) g').trans (place_heap_ne p pos it ne)

/-- So do the other slots. -/
lemma put_items_ne (p : Player) (g : Nat) (it : Item) {pos pos' : Nat} (ne : pos' ≠ pos) :
    (p.put pos g it).items pos' = p.items pos' :=
  (congrFun (requeue_items ..) pos').trans (setSlot_items_ne p _ ne)

/-- The slot holds the item. -/
lemma put_items_self (p : Player) (pos g : Nat) (it : Item) : (p.put pos g it).items pos = some g :=
  (congrFun (requeue_items ..) pos).trans (setSlot_items_self p pos _)

/-- Putting an item into a slot changes no value of the unit. -/
lemma put_unit (p : Player) (pos g : Nat) (it : Item) : (p.put pos g it).unit = p.unit :=
  requeue_unit ..

/-- Nor does it change a pet. -/
lemma put_pets (p : Player) (pos g : Nat) (it : Item) : (p.put pos g it).pets = p.pets :=
  requeue_pets ..

/-- The item that a pet puts on names it. -/
lemma wear_heap_self (p : Player) (i : Nat) (pet : Pet) (pos g : Nat) (it : Item) :
    (p.wear i pet pos g it).heap g =
      some { it with owner := p.guid, slot := pos, container := some pet.guid } :=
  (congrFun (requeue_heap ..) g).trans (dressed_heap_self p i pet pos g it)

/-- The other items stay as they are. -/
lemma wear_heap_ne (p : Player) (i : Nat) (pet : Pet) (pos : Nat) (it : Item) {g g' : Nat}
    (ne : g' ≠ g) : (p.wear i pet pos g it).heap g' = p.heap g' :=
  (congrFun (requeue_heap ..) g').trans (dressed_heap_ne p i pet pos it ne)

/-- The pet wears the item. -/
lemma wear_pets_self (p : Player) (i : Nat) (pet : Pet) (pos g : Nat) (it : Item) :
    (p.wear i pet pos g it).pets i = some { pet with equip := Function.update pet.equip pos (some g) } :=
  (congrFun (requeue_pets ..) i).trans (dressed_pets_self p i pet pos g it)

/-- What a slot holds after an item was put into one. -/
lemma holds_put {p : Player} {pos g g' : Nat} {it : Item} {l : Loc}
    (held : (p.put pos g it).holds l = some g') : (l = .slot pos ∧ g' = g) ∨ p.holds l = some g' := by
  rw [put, holds_requeue] at held
  exact holds_of_place held

/-- After an item is put on a pet, a place holds it only when it is that slot; the others hold what they held. -/
lemma holds_wear {p : Player} {i pos g g' : Nat} {pet : Pet} {it : Item} {l : Loc}
    (epet : p.pets i = some pet) (held : (p.wear i pet pos g it).holds l = some g') :
    (l = .worn i pos ∧ g' = g) ∨ p.holds l = some g' := by
  rw [wear, holds_requeue] at held
  exact holds_of_dressed epet held

/-- What floats still floats after an item is taken out of a slot. -/
lemma Floating.taken {objmgr : ObjectMgr} {p : Player} {g slot : Nat} {it : Item} (fl : p.Floating g) :
    (taken objmgr p slot it).Floating g := by
  intro l held
  have old : Player.holds { p with unit := (Player.taken objmgr p slot it).unit } l = some g :=
    holds_of_clearSlot held
  cases l with
  | slot i => exact fl (.slot i) old
  | worn i e => exact fl (.worn i e) old

/-- What floats still floats after an item is taken off a pet. -/
lemma Floating.petTaken {objmgr : ObjectMgr} {p : Player} {g i slot : Nat} {pet : Pet} {it : Item}
    (fl : p.Floating g) (epet : p.pets i = some pet) :
    (petTaken objmgr p i pet slot it).Floating g := by
  intro l held
  cases l with
  | slot j => exact fl (.slot j) held
  | worn j e => exact fl (.worn j e) (holds_of_undress epet held)

/-- What floats still floats after another item is put into a slot. -/
lemma Floating.put {p : Player} {g g' pos : Nat} {it : Item} (fl : p.Floating g) (ne : g ≠ g') :
    (p.put pos g' it).Floating g := by
  intro l held
  obtain ⟨-, eq⟩ | old := holds_put held
  · exact ne eq
  · exact fl l old

/-- An item that can be moved stays so while another is taken out of a slot. -/
lemma Movable.taken {objmgr : ObjectMgr} {p : Player} {g slot : Nat} {it it' : Item}
    (mv : p.Movable objmgr g it) (ne : g ≠ it'.guid) :
    (taken objmgr p slot it').Movable objmgr g it :=
  ⟨mv.floating.taken, (taken_heap_ne objmgr p slot it' ne).trans mv.live, mv.mark, mv.proto⟩

/-- An item that can be moved stays so while another is taken off a pet. -/
lemma Movable.petTaken {objmgr : ObjectMgr} {p : Player} {g i slot : Nat} {pet : Pet} {it it' : Item}
    (mv : p.Movable objmgr g it) (epet : p.pets i = some pet) (ne : g ≠ it'.guid) :
    (petTaken objmgr p i pet slot it').Movable objmgr g it :=
  ⟨mv.floating.petTaken epet, (setItem_heap_ne _ _ ne).trans mv.live, mv.mark, mv.proto⟩

/-- An item that can be moved stays so while another is put into a slot. -/
lemma Movable.put {objmgr : ObjectMgr} {p : Player} {g g' pos : Nat} {it it' : Item}
    (mv : p.Movable objmgr g it) (ne : g ≠ g') : (p.put pos g' it').Movable objmgr g it := by
  refine ⟨mv.floating.put ne, (put_heap_ne p pos it' ne).trans mv.live, ?_, mv.proto⟩
  rw [Player.put, requeue_marks_ne _ _ _ ne]
  exact mv.mark

/-- The object may be gone, and its mark and the queue have changed; nothing else has. -/
def Discarded (g : Nat) (p p' : Player) : Prop :=
  ∃ m q hp, p' = { p with heap := hp, marks := m, itemUpdateQueue := q } ∧
    (hp g = p.heap g ∨ hp g = none) ∧ ∀ g', g' ≠ g → hp g' = p.heap g' ∧ m g' = p.marks g'

/-- The object may be gone, and its count was added to the other one. -/
def Merged (g g2 : Nat) (it it2 : Item) (p p' : Player) : Prop :=
  ∃ m q hp, p' = { p with heap := hp, marks := m, itemUpdateQueue := q } ∧
    hp g2 = some { it2 with count := u32 (it2.count + it.count) } ∧
    (hp g = some { it with owner := p.guid } ∨ hp g = none) ∧
    ((p.marks g2).uState ≠ .removed → (m g2).uState ≠ .removed) ∧
    ∀ g', g' ≠ g → g' ≠ g2 → hp g' = p.heap g' ∧ m g' = p.marks g'

/-- The effect of `mergeInto` on a new object that is in no queue. -/
def absorbed (p : Player) (g g2 : Nat) (it it2 : Item) : Player :=
  let it2' := { it2 with count := u32 (it2.count + it.count) }
  (((p.setItem g2 it2').setItem g { it with owner := p.guid }).deleteItem g).requeue g2 it2' .changed

/-- Joining a new object to a stack leaves every place as it was. -/
lemma holds_absorbed (p : Player) (g g2 : Nat) (it it2 : Item) (l : Loc) :
    (p.absorbed g g2 it it2).holds l = p.holds l := by
  rw [absorbed, holds_requeue]
  cases l <;> rfl

section Objects

variable {p : Player} {g : Nat} {it : Item}

/-- Removing an object for ever deletes it or leaves it for the next save. -/
lemma setState_removed_post (e : p.heap g = some it) :
    Post (p.setState g .removed) (Discarded g p) QueueFault := by
  by_cases new : (p.marks g).uState = .new
  · rw [setState_removed_new e new, post_bind]
    refine (removeFromUpdateQueueOf_post p g it).mono ?_ fun _ f => f
    rintro _ ⟨m, q, rfl, off⟩
    exact ⟨m, q, _, rfl, .inr (deleteItem_heap_self p g),
      fun g' ne => ⟨deleteItem_heap_ne p ne, off g' ne⟩⟩
  · rw [setState_removed_old e new]
    obtain ⟨m, q, eq⟩ := requeue_eq p g it .removed
    refine ⟨m, q, _, eq, .inl rfl, fun g' ne => ⟨rfl, ?_⟩⟩
    have marks : m = (p.requeue g it .removed).marks := by rw [eq]
    rw [marks, requeue_marks_ne p it .removed ne]

/-- Taking out an item that is alive runs through. -/
lemma removeItem_live {objmgr : ObjectMgr} {slot : Nat} (lt : slot < playerSlotsCount)
    (at_ : p.items slot = some g) (live : p.heap g = some it) :
    removeItem objmgr p slot = .ok (taken objmgr p slot it) := by
  simp only [removeItem, getItemByPos, if_neg (Nat.not_le.mpr lt), at_, deref_eq live, taken]
  split_ifs <;> rfl

/-- Showing a live item puts it into its slot. -/
lemma visualizeItem_eq {pos : Nat} (lt : pos < playerSlotsCount) (e : p.heap g = some it) :
    p.visualizeItem pos g = .ok (p.put pos g it) := by
  simp only [visualizeItem, deref_eq e]
  exact (if_neg (Nat.not_le.mpr lt)).trans (setState_changed (place_heap_self p pos g it))

/-- Showing a live item on a free slot of a pet puts it there. -/
lemma visualizePetItem_eq {i pos : Nat} {pet : Pet} (lt : pos < equipmentSlotEnd)
    (free : pet.equip pos = none) (e : p.heap g = some it) :
    p.visualizePetItem i pet pos g = .ok (p.wear i pet pos g it) := by
  simp only [visualizePetItem, deref_eq e, free]
  exact (if_neg (Nat.not_le.mpr lt)).trans (setState_changed (dressed_heap_self p i pet pos g it))

/-- Joining two live stacks merges them, unless the queue refuses an entry. -/
lemma mergeInto_post {g2 : Nat} {it2 : Item} (e : p.heap g = some it) (e2 : p.heap g2 = some it2)
    (ne : g ≠ g2) : Post (p.mergeInto g g2) (Merged g g2 it it2 p) QueueFault := by
  have e' : (p.setItem g2 { it2 with count := u32 (it2.count + it.count) }).heap g = some it :=
    (setItem_heap_ne p _ ne).trans e
  simp only [mergeInto, post_bind, deref_eq e, deref_eq e2, deref_eq e', post_ok]
  refine (setState_removed_post (setItem_heap_self ..)).mono ?_ fun _ f => f
  rintro p' ⟨m, q, hp, rfl, at_, off⟩
  obtain ⟨heap2, mark2⟩ := off g2 ne.symm
  have live2 : hp g2 = some { it2 with count := u32 (it2.count + it.count) } := by
    rw [heap2, setItem_heap_ne _ _ ne.symm, setItem_heap_self]
  rw [setState_changed live2]
  obtain ⟨m', q', eq⟩ := requeue_eq _ g2 _ .changed
  have marks : m' = (Player.requeue _ g2 _ .changed).marks := congrArg Player.marks eq.symm
  refine ⟨m', q', hp, eq, live2, ?_, ?_, ?_⟩
  · rwa [setItem_heap_self] at at_
  · intro _
    rw [marks, requeue_marks_self]
    split_ifs <;> exact fun c => ItemUpdateState.noConfusion c
  · intro g' ne1 ne2
    obtain ⟨heap', mark'⟩ := off g' ne1
    refine ⟨?_, ?_⟩
    · rw [heap', setItem_heap_ne _ _ ne1, setItem_heap_ne _ _ ne2]
    · rw [marks, requeue_marks_ne _ _ _ ne2]
      exact mark'

/-- Joining a new object to a stack cannot fail, since the object is in no queue. -/
lemma mergeInto_fresh {g2 : Nat} {it2 : Item} (e : p.heap g = some it) (e2 : p.heap g2 = some it2)
    (ne : g ≠ g2) (new : p.marks g = .fresh) :
    p.mergeInto g g2 = .ok (p.absorbed g g2 it it2) := by
  have e' : (p.setItem g2 { it2 with count := u32 (it2.count + it.count) }).heap g = some it :=
    (setItem_heap_ne p _ ne).trans e
  have live2 : (((p.setItem g2 { it2 with count := u32 (it2.count + it.count) }).setItem g
      { it with owner := p.guid }).deleteItem g).heap g2 =
        some { it2 with count := u32 (it2.count + it.count) } := by
    rw [deleteItem_heap_ne _ ne.symm, setItem_heap_ne _ _ ne.symm, setItem_heap_self]
  have gone := setState_removed_fresh (p := (p.setItem g2
    { it2 with count := u32 (it2.count + it.count) }).setItem g { it with owner := p.guid })
    (setItem_heap_self ..) new
  simp only [mergeInto, deref_eq e, deref_eq e2, deref_eq e', bind, Except.bind, setItem_guid, gone,
    setState_changed live2, absorbed]

end Objects

namespace Stored

variable {objmgr : ObjectMgr} {p : Player} (h : p.Stored objmgr)
include h

/-- Discarding an item that floats keeps the player stored. -/
lemma discarded {g : Nat} {p' : Player} (fl : p.Floating g) (d : Discarded g p p') :
    p'.Stored objmgr := by
  obtain ⟨m, q, hp, rfl, at_, off⟩ := d
  apply h.transfer (q := { p with heap := hp, marks := m, itemUpdateQueue := q }) rfl (Nat.le_refl _)
    h.gold fun _ => rfl
  · intro l g' held
    have ne : g' ≠ g := fun eq => fl l (eq ▸ held)
    obtain ⟨heap', mark'⟩ := off g' ne
    refine .inl ⟨held, ?_, fun it live => ⟨it, heap'.trans live, rfl, rfl, rfl⟩⟩
    simp only [mark']
    exact id
  · intro g' it live
    by_cases eq : g' = g
    · subst eq
      obtain same | none := at_
      · exact .inl ⟨it, same.symm.trans live, rfl, rfl⟩
      · exact absurd (none.symm.trans live) (by simp)
    · exact .inl ⟨it, (off g' eq).1.symm.trans live, rfl, rfl⟩

/-- Merging an item that floats into another keeps the player stored. -/
lemma merged {g g2 : Nat} {it it2 : Item} {p' : Player} (e : p.heap g = some it)
    (e2 : p.heap g2 = some it2) (fl : p.Floating g) (d : Merged g g2 it it2 p p') :
    p'.Stored objmgr := by
  obtain ⟨m, q, hp, rfl, at2, at_, mark2, off⟩ := d
  apply h.transfer (q := { p with heap := hp, marks := m, itemUpdateQueue := q }) rfl (Nat.le_refl _)
    h.gold fun _ => rfl
  · intro l g' held
    have ne : g' ≠ g := fun eq => fl l (eq ▸ held)
    by_cases eq : g' = g2
    · subst eq
      refine .inl ⟨held, mark2, fun it0 live => ?_⟩
      obtain rfl : it2 = it0 := Option.some.inj (e2.symm.trans live)
      exact ⟨_, at2, rfl, rfl, rfl⟩
    · obtain ⟨heap', mark'⟩ := off g' ne eq
      refine .inl ⟨held, ?_, fun it0 live => ⟨it0, heap'.trans live, rfl, rfl, rfl⟩⟩
      simp only [mark']
      exact id
  · intro g' it0 live
    by_cases eq2 : g' = g2
    · subst eq2
      obtain rfl := Option.some.inj (at2.symm.trans live)
      exact .inl ⟨it2, e2, rfl, rfl⟩
    · by_cases eq : g' = g
      · subst eq
        obtain some | none := at_
        · obtain rfl := Option.some.inj (some.symm.trans live)
          exact .inr ⟨(h.known e).1, (h.known e).2.1, rfl⟩
        · exact absurd (none.symm.trans live) (by simp)
      · exact .inl ⟨it0, (off g' eq eq2).1.symm.trans live, rfl, rfl⟩

section Taking

variable {slot : Nat} {it : Item}

/-- Taking the item out of an occupied slot runs through. -/
lemma removeItem_eq (lt : slot < playerSlotsCount) (e : p.itemAt slot = some it) :
    removeItem objmgr p slot = .ok (taken objmgr p slot it) := by
  obtain ⟨at_, live, -⟩ := h.items_of_itemAt e
  exact removeItem_live lt at_ live

/-- Taking an object out of its slot leaves it movable. -/
lemma taken (e : p.itemAt slot = some it) :
    (taken objmgr p slot it).Stored objmgr ∧
      (Player.taken objmgr p slot it).Movable objmgr it.guid { it with slot := nullSlot } := by
  obtain ⟨at_, live, -, -, proto⟩ := h.items_of_itemAt e
  have held : p.holds (.slot slot) = some it.guid := at_
  let u := if slot < equipmentSlotEnd then applyItemModsFor objmgr p.unit it false else p.unit
  have hu := h.withUnit u
  have fl := hu.floating_clearSlot at_
  exact ⟨(hu.clearSlot slot).setItem live rfl rfl (.inl fl), fl, taken_live .., h.kept held, proto⟩

/-- Taking the item off an occupied slot of a pet runs through. -/
lemma petRemoveItem_eq {i : Nat} {pet : Pet} (epet : p.pets i = some pet)
    (lt : slot < equipmentSlotEnd) (e : (pet.equip slot).bind p.heap = some it) :
    petRemoveItem objmgr p i pet slot = .ok (petTaken objmgr p i pet slot it) := by
  simp only [petRemoveItem, h.getEquip_eq epet lt, e, petTaken]
  rfl

/-- Taking an object off a pet leaves it movable. -/
lemma petTaken {i : Nat} {pet : Pet} (epet : p.pets i = some pet)
    (e : (pet.equip slot).bind p.heap = some it) :
    (petTaken objmgr p i pet slot it).Stored objmgr ∧
      (Player.petTaken objmgr p i pet slot it).Movable objmgr it.guid { it with slot := nullSlot } := by
  obtain ⟨g, eequip, live⟩ := Option.bind_eq_some_iff.mp e
  obtain rfl := (h.known live).1
  let u := if slot < equipmentSlotEnd then applyItemModsFor objmgr pet.unit it false else pet.unit
  have at_ : p.holds (.worn i slot) = some it.guid := Option.bind_eq_some_iff.mpr ⟨pet, epet, eequip⟩
  have fl : (p.setPet i { pet with unit := u, equip := Function.update pet.equip slot none }).Floating
      it.guid := by
    intro l held
    obtain rfl := h.unique (holds_of_undress epet held) at_
    simp [holds] at held
  obtain ⟨it', live', -, proto⟩ := h.live at_
  obtain rfl : it = it' := Option.some.inj (live.symm.trans live')
  exact ⟨(h.undress epet u).setItem live rfl rfl (.inl fl), fl, petTaken_live .., h.kept at_, proto⟩

end Taking

section Storing

variable {pos g : Nat} {it : Item}

/-- Storing a live item into a free slot puts it there. -/
lemma storeItem_free (lt : pos < playerSlotsCount) (e : p.heap g = some it) (free : p.items pos = none) :
    p.storeItem pos g = .ok (p.put pos g it) := by
  have none : p.itemAt pos = none := by simp only [itemAt, free, Option.bind_none]
  simp only [storeItem, deref_eq e, h.getItemByPos_eq lt, none]
  exact setState_changed (place_heap_self p pos g it)

/-- Storing a live item into an occupied slot joins it to the stack there. -/
lemma storeItem_stack {it2 : Item} (lt : pos < playerSlotsCount) (e : p.heap g = some it)
    (taken : p.itemAt pos = some it2) : p.storeItem pos g = p.mergeInto g it2.guid := by
  simp only [storeItem, deref_eq e, h.getItemByPos_eq lt, taken]
  rfl

/-- Equipping a live item into a free slot puts it there. -/
lemma equipItem_free (lt : pos < playerSlotsCount) (e : p.heap g = some it) (free : p.items pos = none) :
    p.equipItem pos g = .ok (p.put pos g it) := by
  have none : p.itemAt pos = none := by simp only [itemAt, free, Option.bind_none]
  simp only [equipItem, h.getItemByPos_eq lt, none]
  exact visualizeItem_eq lt e

/-- Putting a movable item into a slot keeps the player stored. -/
lemma put (lt : pos < playerSlotsCount) (mv : p.Movable objmgr g it) : (p.put pos g it).Stored objmgr :=
  (h.place lt mv).requeue _ _ (.inl fun c => ItemUpdateState.noConfusion c)

/-- Storing a movable object keeps the invariant. -/
lemma storeItem (lt : pos < playerSlotsCount) (mv : p.Movable objmgr g it) :
    Post (p.storeItem pos g) (fun p' => p'.Stored objmgr) QueueFault := by
  cases e2 : p.itemAt pos with
  | none =>
    rw [h.storeItem_free lt mv.live (h.items_of_itemAt_none e2)]
    exact h.put lt mv
  | some it2 =>
    obtain ⟨at2, live2, -⟩ := h.items_of_itemAt e2
    rw [h.storeItem_stack lt mv.live e2]
    have ne : g ≠ it2.guid := fun eq => mv.floating (.slot pos) (eq ▸ at2)
    refine (mergeInto_post mv.live live2 ne).mono ?_ fun _ f => f
    exact fun p' d => h.merged mv.live live2 mv.floating d

/-- What storing does, to a free slot or to the stack there. -/
lemma storeItem_cases {p' : Player} (lt : pos < playerSlotsCount) (mv : p.Movable objmgr g it)
    (ok : p.storeItem pos g = .ok p') :
    p.items pos = none ∧ p' = p.put pos g it ∨
      ∃ it2, p.itemAt pos = some it2 ∧ g ≠ it2.guid ∧ Merged g it2.guid it it2 p p' := by
  cases e2 : p.itemAt pos with
  | none =>
    have free := h.items_of_itemAt_none e2
    rw [h.storeItem_free lt mv.live free] at ok
    exact .inl ⟨free, (Except.ok.inj ok).symm⟩
  | some it2 =>
    obtain ⟨at2, live2, -⟩ := h.items_of_itemAt e2
    rw [h.storeItem_stack lt mv.live e2] at ok
    have ne : g ≠ it2.guid := fun eq => mv.floating (.slot pos) (eq ▸ at2)
    exact .inr ⟨it2, rfl, ne, (mergeInto_post mv.live live2 ne).of_ok ok⟩

/-- Destroying the item of an occupied slot empties the slot and marks the item as removed. -/
lemma destroyItem_eq (lt : pos < playerSlotsCount) (e : p.itemAt pos = some it) :
    p.destroyItem pos = (p.emptied pos it).setState it.guid .removed := by
  simp only [destroyItem, h.getItemByPos_eq lt, e, emptied]
  rfl

/-- Emptying a slot leaves its object floating. -/
lemma emptied (e : p.itemAt pos = some it) :
    (p.emptied pos it).Stored objmgr ∧ (p.emptied pos it).Floating it.guid := by
  obtain ⟨at_, live, -⟩ := h.items_of_itemAt e
  have fl := h.floating_clearSlot at_
  exact ⟨(h.clearSlot pos).setItem live rfl rfl (.inl fl), fl⟩

/-- Removing the object of a slot for ever keeps the invariant. -/
lemma destroy (e : p.itemAt pos = some it) :
    Post ((p.emptied pos it).setState it.guid .removed) (fun p' => p'.Stored objmgr) QueueFault := by
  obtain ⟨st, fl⟩ := h.emptied e
  refine (setState_removed_post (setItem_heap_self ..)).mono ?_ fun _ f => f
  exact fun p' d => st.discarded fl d

/-- A stack may be counted anew. -/
lemma counted (e : p.itemAt pos = some it) (count : Nat) :
    (p.setItem it.guid { it with count := count }).Stored objmgr ∧
      (p.setItem it.guid { it with count := count }).itemAt pos = some { it with count := count } := by
  obtain ⟨at_, live, -⟩ := h.items_of_itemAt e
  refine ⟨h.setItem live rfl rfl (.inr ⟨rfl, rfl, rfl⟩), ?_⟩
  exact Option.bind_eq_some_iff.mpr ⟨it.guid, at_, setItem_heap_self ..⟩

/-- A stack may change its count. -/
lemma recount (e : p.itemAt pos = some it) (count : Nat) : (p.recount it count).Stored objmgr :=
  (h.counted e count).1.requeue _ _ (.inl fun c => ItemUpdateState.noConfusion c)

/-- Putting a movable item on a pet keeps the player stored. -/
lemma wear {i : Nat} {pet : Pet} (epet : p.pets i = some pet) (ipet : i < maxPetSlot)
    (lt : pos < equipmentSlotEnd) (mv : p.Movable objmgr g it) :
    (p.wear i pet pos g it).Stored objmgr :=
  (h.dressed epet ipet lt mv).requeue _ _ (.inl fun c => ItemUpdateState.noConfusion c)

/-- Equipping a live item into a free slot of a pet puts it there. -/
lemma petEquipItem_free {i : Nat} {pet : Pet} (epet : p.pets i = some pet) (lt : pos < equipmentSlotEnd)
    (e : p.heap g = some it) (free : pet.equip pos = none) :
    p.petEquipItem i pet pos g = .ok (p.wear i pet pos g it) := by
  simp only [Player.petEquipItem, h.getEquip_eq epet lt, free, Option.bind_none]
  exact visualizePetItem_eq lt free e

end Storing

end Stored

section Checks

variable {objmgr : ObjectMgr} {p : Player} {it : Item} {slot dest : Nat} {swap : Bool}

/-- The slots of the bag, by their range. -/
lemma mem_inventorySlots : slot ∈ inventorySlots ↔ inventorySlotItemStart ≤ slot ∧ slot < inventorySlotItemEnd := by
  simp only [inventorySlots, List.mem_range'_1, inventorySlotItemStart, inventorySlotItemEnd]

/-- A free slot that is found lies in the bag and is free. -/
lemma findFree_some (e : p.findFree = some dest) :
    inventorySlotItemStart ≤ dest ∧ dest < inventorySlotItemEnd ∧ p.items dest = none := by
  obtain ⟨lo, hi⟩ := mem_inventorySlots.mp (List.mem_of_find?_eq_some e)
  have free := List.find?_some e
  exact ⟨lo, hi, by simpa using free⟩

/-- A stack that is found lies in the bag, has the same entry and room for the count. -/
lemma findStack_some {entry count stackable : Nat} (e : p.findStack entry count stackable = some dest) :
    inventorySlotItemStart ≤ dest ∧ dest < inventorySlotItemEnd ∧
      ∃ it2, p.itemAt dest = some it2 ∧ it2.entry = entry ∧ u32 (it2.count + count) ≤ stackable := by
  obtain ⟨lo, hi⟩ := mem_inventorySlots.mp (List.mem_of_find?_eq_some e)
  have found := List.find?_some e
  cases e2 : p.itemAt dest with
  | none => simp [e2] at found
  | some it2 =>
    simp only [e2, Bool.and_eq_true, decide_eq_true_eq] at found
    exact ⟨lo, hi, it2, rfl, found.1, found.2⟩

/-- Where an item goes: to the first stack that takes it, or else to the first free slot. -/
lemma canStoreItem_ok_iff : canStoreItem objmgr p it = .ok dest ↔
    ∃ proto, objmgr.getItemPrototype it.entry = some proto ∧ p.canTakeMoreSimilarItems proto it = true ∧
      (1 < proto.stackable ∧ p.findStack it.entry it.count proto.stackable = some dest ∨
        (1 < proto.stackable → p.findStack it.entry it.count proto.stackable = none) ∧
          p.findFree = some dest) := by
  rw [canStoreItem]
  cases known : objmgr.getItemPrototype it.entry with
  | none => simp
  | some proto =>
    cases limit : p.canTakeMoreSimilarItems proto it with
    | false => simp [limit]
    | true =>
      by_cases more : 1 < proto.stackable
      · cases found : p.findStack it.entry it.count proto.stackable with
        | none => cases free : p.findFree <;> simp [limit, more, found]
        | some d => simp [limit, more, found]
      · cases free : p.findFree <;> simp [limit, more]

/-- A destination is an inventory slot, and free or with a stack of the same entry. -/
lemma canStoreItem_ok (e : canStoreItem objmgr p it = .ok dest) :
    inventorySlotItemStart ≤ dest ∧ dest < inventorySlotItemEnd ∧
      (objmgr.getItemPrototype it.entry).isSome ∧
      (p.items dest = none ∨ ∃ it2, p.itemAt dest = some it2 ∧ it2.entry = it.entry) := by
  obtain ⟨proto, known, -, ⟨-, found⟩ | ⟨-, found⟩⟩ := canStoreItem_ok_iff.mp e
  · obtain ⟨lo, hi, it2, at2, same, -⟩ := findStack_some found
    exact ⟨lo, hi, Option.isSome_of_eq_some known, .inr ⟨it2, at2, same⟩⟩
  · obtain ⟨lo, hi, free⟩ := findFree_some found
    exact ⟨lo, hi, Option.isSome_of_eq_some known, .inl free⟩

/-- An item is worn where it was asked to be worn, and only in a free slot unless it may be swapped. -/
lemma canWearItem_ok {u : Unit} {worn : Nat → Option Nat}
    (e : canWearItem objmgr p u worn slot it swap = .ok dest) :
    dest = slot ∧ (swap = true ∨ worn slot = none) ∧
      ∃ proto, objmgr.getItemPrototype it.entry = some proto ∧
        slotOfInventoryType proto.inventoryType = some slot ∧ proto.requiredLevel ≤ u.level := by
  cases ep : objmgr.getItemPrototype it.entry with
  | none => simp [canWearItem, ep] at e
  | some proto =>
    simp only [canWearItem, ep, findEquipSlot] at e
    split at e
    · exact absurd e (by simp)
    · split at e
      · exact absurd e (by simp)
      · rename_i eslot found
        split_ifs at found with free type
        obtain rfl := Option.some.inj found
        split_ifs at e with low
        obtain rfl := Except.ok.inj e
        refine ⟨rfl, ?_, proto, rfl, type, Nat.not_lt.mp low⟩
        simpa using free

/-- The slot of an equipment type is one of the equipment slots. -/
lemma slotOfInventoryType_lt {t : Nat} (e : slotOfInventoryType t = some slot) : slot < equipmentSlotEnd := by
  simp only [slotOfInventoryType] at e
  split at e <;> cases e <;> decide

end Checks

end Player

end Legacy.Inventory
