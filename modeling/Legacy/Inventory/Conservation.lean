import Legacy.Inventory.Vendor

/-!
# Storing a new item

A new item that finds a place should add its count to what the player holds of its entry, in one
inventory slot, and leave every stack within its limit. `conserves_iff` gives the exact condition for it:
no stack was above its limit before, and the sum that `Player::CanStoreItem` compares with the limit was
not cut to 32 bits.
-/

namespace Legacy.Inventory
open Legacy.Lib

namespace Player

/-- Stores an item where there is room for it, and leaves the inventory alone when there is none (source
`Player::CanStoreItem`, then `Player::StoreItem` with its destination). -/
def storeIfRoom (objmgr : ObjectMgr) (p : Player) (it : Item) : Except Fault Player :=
  match canStoreItem objmgr p it with
  | .ok dest => p.storeItem dest it.guid
  | .error _ => .ok p

/-- Every stack is at or below the limit of its prototype. -/
def WithinLimits (objmgr : ObjectMgr) (p : Player) : Prop :=
  ∀ l st proto, p.itemIn l = some st → objmgr.getItemPrototype st.entry = some proto →
    st.count ≤ proto.stackable

/-- The item has arrived whole in an inventory slot, and nothing else has changed. -/
structure StoredAt (objmgr : ObjectMgr) (p : Player) (it : Item) (dest : Nat) (p' : Player) : Prop where
  counted : p'.heldCount it.entry = p.heldCount it.entry + it.count
  within : p'.WithinLimits objmgr
  inventory : inventorySlotItemStart ≤ dest ∧ dest < inventorySlotItemEnd
  others : ∀ l, l ≠ .slot dest → p'.itemIn l = p.itemIn l

/-- Storing an item conserves items. -/
def Conserves (objmgr : ObjectMgr) (p : Player) (it : Item) : Prop :=
  ∃ p', storeIfRoom objmgr p it = .ok p' ∧
    match canStoreItem objmgr p it with
    | .ok dest => StoredAt objmgr p it dest p'
    | .error _ => ∀ l, p'.itemIn l = p.itemIn l

/-- The stack in a slot passes the test of the first loop of `Player::CanStoreItem`. -/
def Joins (p : Player) (it : Item) (stackable i : Nat) : Prop :=
  1 < stackable ∧ ∃ it2, p.itemAt i = some it2 ∧ it2.entry = it.entry ∧ u32 (it2.count + it.count) ≤ stackable

/-- The first inventory slot whose stack passes the test. -/
def JoinsFirst (p : Player) (it : Item) (stackable i : Nat) : Prop :=
  i ∈ inventorySlots ∧ p.Joins it stackable i ∧ ∀ j ∈ inventorySlots, j < i → ¬ p.Joins it stackable j

/-- The condition on the player: when the item is within the limit on similar items and an inventory slot
takes it, then every stack is within its limit, and the sum of the counts fits into 32 bits. -/
def ConserveOk (objmgr : ObjectMgr) (p : Player) (it : Item) : Prop :=
  ∀ proto, objmgr.getItemPrototype it.entry = some proto → p.canTakeMoreSimilarItems proto it = true →
    (∃ i ∈ inventorySlots, p.items i = none ∨ p.Joins it proto.stackable i) →
      p.WithinLimits objmgr ∧
        ∀ i it2, p.JoinsFirst it proto.stackable i → p.itemAt i = some it2 → it2.count + it.count < 2 ^ 32

section Checks

variable {p : Player} {it : Item} {stackable dest : Nat}

/-- The test of the loop that looks for a stack. -/
lemma findStack_some_iff (more : 1 < stackable) :
    p.findStack it.entry it.count stackable = some dest ↔ p.JoinsFirst it stackable dest := by
  rw [findStack, inventorySlots, List.find?_range'_eq_some]
  constructor
  · intro found
    obtain ⟨joins, mem, before⟩ := found
    refine ⟨mem, ⟨more, ?_⟩, fun j memj lt joinsj => ?_⟩
    · cases at2 : p.itemAt dest with
      | none => simp [at2] at joins
      | some it2 => simpa [at2] using joins
    · obtain ⟨-, it2, at2, same, fits⟩ := joinsj
      have no := before j (mem_inventorySlots.mp memj).1 lt
      simp [at2, same, fits] at no
  · intro first
    obtain ⟨mem, ⟨-, it2, at2, same, fits⟩, before⟩ := first
    refine ⟨by simp [at2, same, fits], mem, fun j lo lt => ?_⟩
    have memj : j ∈ inventorySlots :=
      mem_inventorySlots.mpr ⟨lo, lt.trans (mem_inventorySlots.mp mem).2⟩
    cases at3 : p.itemAt j with
    | none => rfl
    | some it3 =>
      have no := not_and_or.mp fun test => before j memj lt ⟨more, it3, at3, test.1, test.2⟩
      simpa using no

/-- No stack is found when none passes the test. -/
lemma not_joins (none : 1 < stackable → p.findStack it.entry it.count stackable = none) {i : Nat}
    (mem : i ∈ inventorySlots) : ¬ p.Joins it stackable i := by
  intro joins
  obtain ⟨more, it2, at2, same, fits⟩ := joins
  have no := List.find?_eq_none.mp (none more) i mem
  simp [at2, same, fits] at no

/-- An inventory slot that takes the item is enough for a destination. -/
lemma canStoreItem_room {objmgr : ObjectMgr} {proto : ItemPrototype} {i : Nat}
    (known : objmgr.getItemPrototype it.entry = some proto) (limit : p.canTakeMoreSimilarItems proto it = true)
    (mem : i ∈ inventorySlots) (room : p.items i = none ∨ p.Joins it proto.stackable i) :
    ∃ dest, canStoreItem objmgr p it = .ok dest := by
  by_cases found : 1 < proto.stackable ∧ ∃ dest, p.findStack it.entry it.count proto.stackable = some dest
  · obtain ⟨more, dest, found⟩ := found
    exact ⟨dest, canStoreItem_ok_iff.mpr ⟨proto, known, limit, .inl ⟨more, found⟩⟩⟩
  · have alone : 1 < proto.stackable → p.findStack it.entry it.count proto.stackable = none :=
      fun more => Option.eq_none_iff_forall_ne_some.mpr fun dest eq => found ⟨more, dest, eq⟩
    have empty : p.items i = none := room.resolve_right (not_joins alone mem)
    cases free : p.findFree with
    | none =>
      have taken := List.find?_eq_none.mp free i mem
      simp [empty] at taken
    | some dest => exact ⟨dest, canStoreItem_ok_iff.mpr ⟨proto, known, limit, .inr ⟨alone, free⟩⟩⟩

/-- There is one first stack to join. -/
lemma JoinsFirst.unique {i j : Nat} (a : p.JoinsFirst it stackable i) (b : p.JoinsFirst it stackable j) :
    i = j := by
  obtain ⟨memi, joinsi, beforei⟩ := a
  obtain ⟨memj, joinsj, beforej⟩ := b
  obtain lt | eq | gt := Nat.lt_trichotomy i j
  · exact absurd joinsi (beforej i memi lt)
  · exact eq
  · exact absurd joinsj (beforei j memj gt)

/-- The condition, once the item is known to find a place. -/
lemma conserveOk_iff {objmgr : ObjectMgr} {proto : ItemPrototype} {i : Nat}
    (known : objmgr.getItemPrototype it.entry = some proto) (limit : p.canTakeMoreSimilarItems proto it = true)
    (mem : i ∈ inventorySlots) (room : p.items i = none ∨ p.Joins it proto.stackable i) :
    ConserveOk objmgr p it ↔ p.WithinLimits objmgr ∧
      ∀ i it2, p.JoinsFirst it proto.stackable i → p.itemAt i = some it2 → it2.count + it.count < 2 ^ 32 := by
  refine ⟨fun ok => ok proto known limit ⟨i, mem, room⟩, fun cond proto' known' _ _ => ?_⟩
  cases known.symm.trans known'
  exact cond

end Checks

section Storing

variable {objmgr : ObjectMgr} {p p' : Player} {it : Item} {proto : ItemPrototype} {dest : Nat}

/-- The limits are still kept when one place has changed and its stack keeps them. -/
lemma WithinLimits.change {l0 : Loc} (w : p.WithinLimits objmgr)
    (off : ∀ l, l ≠ l0 → p'.itemIn l = p.itemIn l)
    (here : ∀ st proto, p'.itemIn l0 = some st → objmgr.getItemPrototype st.entry = some proto →
      st.count ≤ proto.stackable) : p'.WithinLimits objmgr := by
  intro l st proto at_ known
  by_cases eq : l = l0
  · subst eq
    exact here st proto at_ known
  · exact w l st proto ((off l eq).symm.trans at_) known

variable (fl : p.Floating it.guid)
  (known : objmgr.getItemPrototype it.entry = some proto) (mem : dest ∈ inventorySlots)

include fl known mem

/-- In a slot of its own the item is counted, and the other stacks decide. -/
lemma storedAt_put_iff (le : it.count ≤ proto.stackable) (free : p.items dest = none) :
    StoredAt objmgr p it dest (p.put dest it.guid it) ↔ p.WithinLimits objmgr := by
  have none : p.itemIn (.slot dest) = none := by simp only [itemIn_slot, itemAt, free, Option.bind_none]
  have off : ∀ l, l ≠ .slot dest → (p.put dest it.guid it).itemIn l = p.itemIn l :=
    fun l ne => itemIn_put_ne fl ne
  constructor
  · intro stored
    refine stored.within.change (fun l ne => (off l ne).symm) fun st proto at_ => ?_
    rw [none] at at_
    cases at_
  · intro within
    obtain ⟨lo, hi⟩ := mem_inventorySlots.mp mem
    have valid : Loc.Valid (.slot dest) := hi.trans (by decide)
    refine ⟨?_, within.change off ?_, ⟨lo, hi⟩, off⟩
    · have change := heldCount_change valid off it.entry
      rw [none, itemIn_put_self, weight, weight, if_pos rfl, Nat.add_zero] at change
      exact change
    · intro st proto' at_ known'
      rw [itemIn_put_self] at at_
      cases at_
      cases known.symm.trans known'
      exact le

/-- In a stack the item is counted when the sum does not wrap. -/
lemma storedAt_absorbed_iff {it2 : Item} (h : p.Stored objmgr) (at2 : p.itemAt dest = some it2)
    (same : it2.entry = it.entry) (fits : u32 (it2.count + it.count) ≤ proto.stackable) :
    StoredAt objmgr p it dest (p.absorbed it.guid it2.guid it it2) ↔
      p.WithinLimits objmgr ∧ it2.count + it.count < 2 ^ 32 := by
  obtain ⟨held2, -⟩ := h.items_of_itemAt at2
  have ne : it2.guid ≠ it.guid := fun eq => fl (.slot dest) (eq ▸ held2)
  have off : ∀ l, l ≠ .slot dest → (p.absorbed it.guid it2.guid it it2).itemIn l = p.itemIn l :=
    fun l nel => itemIn_absorbed_ne h fl (show p.holds (.slot dest) = some it2.guid from held2) nel
  have self : (p.absorbed it.guid it2.guid it it2).itemIn (.slot dest) =
      some { it2 with count := u32 (it2.count + it.count) } :=
    Option.bind_eq_some_iff.mpr
      ⟨it2.guid, (holds_absorbed _ _ _ _ _ (.slot dest)).trans held2, absorbed_heap_self ne⟩
  obtain ⟨lo, hi⟩ := mem_inventorySlots.mp mem
  have valid : Loc.Valid (.slot dest) := hi.trans (by decide)
  have change := heldCount_change valid off it.entry
  have sum : (p.absorbed it.guid it2.guid it it2).heldCount it.entry + it2.count =
      p.heldCount it.entry + u32 (it2.count + it.count) := by
    rw [self, itemIn_slot, at2, weight, weight, if_pos same, if_pos same] at change
    exact change
  have limit : ∀ (st : Item) proto', st.entry = it.entry → objmgr.getItemPrototype st.entry = some proto' →
      proto' = proto := by
    intro st proto' eq known'
    rw [eq] at known'
    exact Option.some.inj (known'.symm.trans known)
  constructor
  · intro stored
    have counted := stored.counted
    have whole : u32 (it2.count + it.count) = it2.count + it.count := by omega
    refine ⟨stored.within.change (fun l ne => (off l ne).symm) fun st proto' at_ known' => ?_, ?_⟩
    · cases at2.symm.trans at_
      obtain rfl := limit it2 proto' same known'
      omega
    · simp only [u32] at whole
      omega
  · intro cond
    obtain ⟨within, small⟩ := cond
    refine ⟨?_, within.change off fun st proto' at_ known' => ?_, ⟨lo, hi⟩, off⟩
    · have whole : u32 (it2.count + it.count) = it2.count + it.count := Nat.mod_eq_of_lt small
      omega
    · cases self.symm.trans at_
      obtain rfl := limit _ proto' same known'
      exact fits

end Storing

section Created

variable {objmgr : ObjectMgr} {p : Player} {it : Item} {entry count : Nat}

/-- A created item floats, and nobody has written its update state. -/
lemma Stored.created {q : Player} (h : q.Stored objmgr) (e : createItem objmgr q entry count = some (it, p)) :
    p.Stored objmgr ∧ p.Floating it.guid ∧ p.heap it.guid = some it ∧ p.marks it.guid = .fresh := by
  rw [createItem] at e
  cases known : objmgr.getItemPrototype entry with
  | none => simp [known] at e
  | some proto =>
    rw [known] at e
    cases e
    have st : Player.Stored objmgr { q with hiItemGuid := q.hiItemGuid + 1 } := h.skipGuid (Nat.le_succ _)
    have fl : Player.Floating { q with hiItemGuid := q.hiItemGuid + 1 } (q.hiItemGuid + 1) :=
      h.floating_next (Nat.lt_succ_self _)
    exact ⟨st.newObject fl (Nat.le_refl _) rfl, fl, newObject_live .., Function.update_self ..⟩

/-- In every reachable state a new item within the limit of its prototype is stored without loss if and
only if no stack is above its limit and the sum in the chosen stack does not wrap. -/
theorem conserves_iff {s : Session} (r : Session.Reachable objmgr s)
    (new : createItem objmgr s.player entry count = some (it, p))
    (le : ∀ proto, objmgr.getItemPrototype it.entry = some proto → it.count ≤ proto.stackable) :
    Conserves objmgr p it ↔ ConserveOk objmgr p it := by
  obtain ⟨h, fl, live, fresh⟩ := r.stored.created new
  rw [Conserves, storeIfRoom]
  cases can : canStoreItem objmgr p it with
  | error f =>
    refine iff_of_true ⟨p, rfl, fun _ => rfl⟩ fun proto known limit room => ?_
    obtain ⟨i, mem, room⟩ := room
    obtain ⟨dest, can'⟩ := canStoreItem_room known limit mem room
    cases can.symm.trans can'
  | ok dest =>
    obtain ⟨proto, known, limit, ⟨more, found⟩ | ⟨alone, found⟩⟩ := canStoreItem_ok_iff.mp can
    · have first := (findStack_some_iff more).mp found
      have mem := first.1
      obtain ⟨-, it2, at2, same, fits⟩ := first.2.1
      obtain ⟨held2, live2, -⟩ := h.items_of_itemAt at2
      have lt : dest < playerSlotsCount := (mem_inventorySlots.mp mem).2.trans (by decide)
      have ne : it.guid ≠ it2.guid := fun eq => fl (.slot dest) (eq ▸ held2)
      rw [conserveOk_iff known limit mem (.inr first.2.1)]
      simp only [h.storeItem_stack lt live at2, mergeInto_fresh live live2 ne fresh, Except.ok.injEq,
        exists_eq_left']
      rw [storedAt_absorbed_iff fl known mem h at2 same fits]
      refine and_congr_right fun _ => ⟨fun small i it3 first' at3 => ?_, fun small => ?_⟩
      · obtain rfl := first.unique first'
        cases at2.symm.trans at3
        exact small
      · exact small dest it2 first at2
    · obtain ⟨lo, hi, free⟩ := findFree_some found
      have mem : dest ∈ inventorySlots := mem_inventorySlots.mpr ⟨lo, hi⟩
      have lt : dest < playerSlotsCount := hi.trans (by decide)
      rw [conserveOk_iff known limit mem (.inl free)]
      simp only [h.storeItem_free lt live free, Except.ok.injEq, exists_eq_left']
      rw [storedAt_put_iff fl known mem (le proto known) free]
      refine ⟨fun within => ⟨within, fun i it2 first => ?_⟩, And.left⟩
      exact absurd first.2.1 (not_joins alone first.1)

/-- New potions. -/
def bottles (p : Player) (count : Nat) : Item := ⟨p.hiItemGuid + 1, 1, count, p.guid, 0, none⟩

/-- The player while it holds new potions in no slot. -/
def withBottles (p : Player) (count : Nat) : Player :=
  newObject { p with hiItemGuid := p.hiItemGuid + 1 } (bottles p count)

/-- Three potions are stored in an empty inventory. -/
theorem conserves_potions :
    Conserves wares (withBottles (Session.created 1 10).player 3) (bottles (Session.created 1 10).player 3) := by
  have new : createItem wares (Session.created 1 10).player 1 3 =
      some (bottles (Session.created 1 10).player 3, withBottles (Session.created 1 10).player 3) := rfl
  refine (conserves_iff (Session.created_reachable wares (by decide)) new ?_).mpr ?_
  · intro proto known
    cases known
    decide
  · intro proto _ _ _
    refine ⟨fun l st proto at_ => ?_, fun i it2 _ at2 => by cases at2⟩
    cases l with
    | slot i => cases at_
    | worn i e => cases at_

/-- The customer after it took five of its two potions. -/
def overdrawn : Player :=
  match (customer.handleUseItem wares (.consume 1 5 0 0)).result with
  | .ok o => o.player
  | .error _ => customer

/-- The count of the stack has wrapped, and its sum with five new potions is two: all other potions of the
stack are lost. -/
theorem not_conserves_overdrawn :
    Session.Reachable wares ⟨overdrawn, (Session.created 1 10).db⟩ ∧
      createItem wares overdrawn 1 5 = some (bottles overdrawn 5, withBottles overdrawn 5) ∧
      (bottles overdrawn 5).count ≤ 50 ∧ ¬ Conserves wares (withBottles overdrawn 5) (bottles overdrawn 5) := by
  have taken : (customer.handleUseItem wares (.consume 1 5 0 0)).result.map Outcome.player = .ok overdrawn := rfl
  refine ⟨?_, rfl, by decide, fun conserves => ?_⟩
  · cases result : (customer.handleUseItem wares (.consume 1 5 0 0)).result with
    | error f => simp [result, Except.map] at taken
    | ok o =>
      rw [result] at taken
      have step := Session.Step.useItem (s := ⟨customer, (Session.created 1 10).db⟩) result
      rw [Except.ok.inj taken] at step
      exact .step customer_reachable step
  · obtain ⟨p', stored, arrived⟩ := conserves
    have can : canStoreItem wares (withBottles overdrawn 5) (bottles overdrawn 5) = .ok 10 := by decide +kernel
    have after : (storeIfRoom wares (withBottles overdrawn 5) (bottles overdrawn 5)).map (heldCount · 1) = .ok 2 := by
      decide +kernel
    have before : (withBottles overdrawn 5).heldCount 1 = 2 ^ 32 - 3 := by decide +kernel
    rw [stored] at after
    rw [can] at arrived
    have counted := arrived.counted
    rw [show (bottles overdrawn 5).entry = 1 from rfl, show (bottles overdrawn 5).count = 5 from rfl, before]
      at counted
    have two : p'.heldCount 1 = 2 := Except.ok.inj after
    omega

end Created

end Player

end Legacy.Inventory
