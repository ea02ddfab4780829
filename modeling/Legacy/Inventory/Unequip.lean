import Legacy.Inventory.Conservation
import Legacy.Inventory.EquipRun

/-!
# Confirmations of unequipping

The client names the inventory slot an item is to go to, but `Player::CanStoreItem` looks for one on its own, and the
confirmation of `WorldSession::HandleUseItemOpcodes` names the slot of the client even when the item stays. `Answered`
says what both handlers do, and `unequip_confirms_iff` when the confirmation is true.
-/

namespace Legacy.Inventory
open Legacy.Lib

namespace Player

/-- An object taken from its place. -/
def takenFrom (objmgr : ObjectMgr) (p : Player) (l : Loc) (it : Item) : Player :=
  match l with
  | .slot e => taken objmgr p e it
  | .worn i e =>
    match p.pets i with
    | some pet => petTaken objmgr p i pet e it
    | none => p

/-- The check of the set, which is made for the player alone. -/
def checkedSet (l : Loc) (p : Player) : Player :=
  match l with
  | .slot _ => { p with unit := p.unit.updateItemSet }
  | .worn _ _ => p

/-- What comes of a request to move the object at `l` to the inventory, whose confirmation is `n`. -/
inductive Answered (objmgr : ObjectMgr) (p : Player) (l : Loc) (slot : Nat) (n : Notice) : Outcome → Prop
  | silent {o : Outcome} (nothing : ∀ it, p.itemIn l = some it → ¬isInventoryPos slot) (none : o.notices = []) :
    Answered objmgr p l slot n o
  | stays {it : Item} {f : InventoryChangeFailure} (at_ : p.itemIn l = some it) (pos : isInventoryPos slot)
      (can : canStoreItem objmgr p it = .error f) : Answered objmgr p l slot n ⟨p.checkedSet l, [n], true⟩
  | moved {it : Item} {dest : Nat} {p' : Player} (at_ : p.itemIn l = some it) (pos : isInventoryPos slot)
      (can : canStoreItem objmgr p it = .ok dest)
      (stored : (takenFrom objmgr p l it).storeItem dest it.guid = .ok p') :
      Answered objmgr p l slot n ⟨p'.checkedSet l, [n], true⟩

/-- The item is in the slot, or its pieces are in the stack there. -/
def Arrived (p p' : Player) (slot : Nat) (it : Item) : Prop :=
  (∃ it', p'.itemAt slot = some it' ∧ it'.guid = it.guid ∧ it'.entry = it.entry ∧ it'.count = it.count) ∨
    0 < it.count ∧ ∃ it2, p.itemAt slot = some it2 ∧ it2.entry = it.entry ∧
      p'.itemAt slot = some { it2 with count := it2.count + it.count }

/-- The modifiers are without what the item added where it was worn. The check of the set comes after that. -/
def TakenOff (objmgr : ObjectMgr) (p p' : Player) (it : Item) : Loc → Prop
  | .slot e => ∃ u : Unit, p'.unit = u.updateItemSet ∧ ∀ flag, i32 (u.mods flag) = i32 (p.unit.mods flag -
      if e < equipmentSlotEnd then objmgr.contributionOf p.unit.element flag (some it.entry) else 0)
  | .worn i _ => ∃ pet pet', p.pets i = some pet ∧ p'.pets i = some pet' ∧ ∀ flag,
      i32 (pet'.unit.mods flag) = i32 (pet.unit.mods flag -
        objmgr.contributionOf pet.unit.element flag (some it.entry))

/-- The object at the place left it for the inventory slot, and counts no more where it was worn. -/
def Confirms (objmgr : ObjectMgr) (p p' : Player) (l : Loc) (slot : Nat) : Prop :=
  ∃ it, p.itemIn l = some it ∧ p'.holds l = none ∧ Arrived p p' slot it ∧ TakenOff objmgr p p' it l

/-- The slot is the first one for the item: of a stack that takes all of it, or else a free one. -/
def Room (objmgr : ObjectMgr) (p : Player) (it : Item) (slot : Nat) : Prop :=
  ∃ proto, objmgr.getItemPrototype it.entry = some proto ∧ p.canTakeMoreSimilarItems proto it = true ∧
    (p.JoinsFirst it proto.stackable slot ∧ 0 < it.count ∧ (∀ it2 ∈ p.itemAt slot, it2.count + it.count < 2 ^ 32) ∨
      (∀ i ∈ inventorySlots, ¬p.Joins it proto.stackable i) ∧ p.findFree = some slot)

/-- The slot that is named is another one than the object has, and the one it will get. -/
def StoresThere (objmgr : ObjectMgr) (p : Player) (l : Loc) (slot : Nat) : Prop :=
  isInventoryPos slot → ∀ it, p.itemIn l = some it → l ≠ .slot slot ∧ Room objmgr p it slot

end Player

/-- The place that a request takes an item from, the slot it names for it, and its confirmation. -/
def unequips : Wire.UseItemRequest → Option (Loc × Nat × Notice)
  | .unequip tmp_eqslot tmp_invslot =>
    some (.slot (oneBelow tmp_eqslot), inventorySlot tmp_invslot, .unequipped tmp_eqslot tmp_invslot)
  | .petUnequip target tmp_eqslot tmp_invslot =>
    some (.worn (oneBelow target) (oneBelow tmp_eqslot), inventorySlot tmp_invslot,
      .petUnequipped target tmp_eqslot tmp_invslot)
  | _ => none

namespace Player

section Answers

variable {objmgr : ObjectMgr} {p : Player}

/-- The client-chosen access of a run that returns lies inside the array. -/
lemma access_ok {α : Type} {a : Access} {next : Traced α} {r : α} (run : (Traced.access a next).result = .ok r) :
    a.index < a.array.size ∧ next.result = .ok r := by
  rw [Traced.access] at run
  split at run
  case isTrue lt => exact ⟨lt, run⟩
  case isFalse => cases run

/-- An object in the hands of the player has a prototype. -/
lemma known_of_itemIn {l : Loc} {it : Item} (h : p.Stored objmgr) (at_ : p.itemIn l = some it) :
    (objmgr.getItemPrototype it.entry).isNone = false := by
  obtain ⟨g, held, live⟩ := Option.bind_eq_some_iff.mp at_
  obtain ⟨it', live', -, known⟩ := h.live held
  cases live.symm.trans live'
  rw [Option.isNone_eq_false_iff]
  exact known

/-- Every unequip packet is answered by what it does. -/
lemma handleUnequip_answered (h : p.Stored objmgr) (tmp_eqslot tmp_invslot : Nat) {o : Outcome}
    (run : (handleUnequip objmgr p tmp_eqslot tmp_invslot).result = .ok o) :
    Answered objmgr p (.slot (oneBelow tmp_eqslot)) (inventorySlot tmp_invslot)
      (.unequipped tmp_eqslot tmp_invslot) o := by
  obtain ⟨lt, run⟩ := access_ok run
  have lt : oneBelow tmp_eqslot < playerSlotsCount := lt
  simp only [Traced.run, h.getItemByPos_eq lt, bind, Except.bind] at run
  cases e : p.itemAt (oneBelow tmp_eqslot) with
  | none =>
    rw [e] at run
    cases run
    refine .silent (fun it at_ => ?_) rfl
    cases e.symm.trans at_
  | some it =>
    simp only [e, known_of_itemIn (l := .slot _) h e, Bool.and_false, Bool.false_eq_true, if_false] at run
    by_cases pos : isInventoryPos (inventorySlot tmp_invslot) = true
    · rw [if_pos pos] at run
      cases can : canStoreItem objmgr p it with
      | error f =>
        simp only [storeUnequipped, can] at run
        cases run
        exact .stays e pos can
      | ok dest =>
        simp only [storeUnequipped, can, h.removeItem_eq lt e, bind, Except.bind] at run
        cases stored : (taken objmgr p (oneBelow tmp_eqslot) it).storeItem dest it.guid with
        | error f =>
          rw [stored] at run
          cases run
        | ok p' =>
          rw [stored] at run
          cases run
          exact .moved (l := .slot _) e pos can stored
    · rw [if_neg pos] at run
      cases run
      exact .silent (fun _ _ => pos) rfl

/-- So is every one for a pet. -/
lemma handlePetUnequip_answered (h : p.Stored objmgr) (target tmp_eqslot tmp_invslot : Nat) {o : Outcome}
    (run : (handlePetUnequip objmgr p target tmp_eqslot tmp_invslot).result = .ok o) :
    Answered objmgr p (.worn (oneBelow target) (oneBelow tmp_eqslot)) (inventorySlot tmp_invslot)
      (.petUnequipped target tmp_eqslot tmp_invslot) o := by
  rw [handlePetUnequip] at run
  split at run
  case isTrue zero =>
    cases run
    refine .silent (fun it at_ => ?_) rfl
    obtain ⟨g, held, -⟩ := Option.bind_eq_some_iff.mp at_
    have valid := (h.valid held).1
    rw [zero] at valid
    exact absurd valid (by decide)
  case isFalse =>
    obtain ⟨-, run⟩ := access_ok run
    cases epet : p.pets (oneBelow target) with
    | none =>
      rw [epet] at run
      cases run
      refine .silent (fun it at_ => ?_) rfl
      rw [itemIn, holds, epet] at at_
      cases at_
    | some pet =>
      rw [epet] at run
      obtain ⟨lt, run⟩ := access_ok run
      have lt : oneBelow tmp_eqslot < equipmentSlotEnd := lt
      have here : p.itemIn (.worn (oneBelow target) (oneBelow tmp_eqslot)) =
          (pet.equip (oneBelow tmp_eqslot)).bind p.heap := by
        rw [itemIn, holds, epet, Option.bind_some]
      simp only [Traced.run, h.getEquip_eq epet lt, bind, Except.bind] at run
      cases e : (pet.equip (oneBelow tmp_eqslot)).bind p.heap with
      | none =>
        rw [e] at run
        cases run
        refine .silent (fun it at_ => ?_) rfl
        cases e.symm.trans (here.symm.trans at_)
      | some it =>
        have at_ := here.trans e
        simp only [e, known_of_itemIn h at_, Bool.and_false, Bool.false_eq_true, if_false] at run
        by_cases pos : isInventoryPos (inventorySlot tmp_invslot) = true
        · rw [if_pos pos] at run
          cases can : canStoreItem objmgr p it with
          | error f =>
            simp only [storePetUnequipped, can] at run
            cases run
            exact .stays at_ pos can
          | ok dest =>
            simp only [storePetUnequipped, can, h.petRemoveItem_eq epet lt e, bind, Except.bind] at run
            cases stored : (petTaken objmgr p (oneBelow target) pet (oneBelow tmp_eqslot) it).storeItem dest
                it.guid with
            | error f =>
              rw [stored] at run
              cases run
            | ok p' =>
              rw [stored] at run
              cases run
              refine .moved (l := .worn _ _) at_ pos can ?_
              rw [takenFrom, epet]
              exact stored
        · rw [if_neg pos] at run
          cases run
          exact .silent (fun _ _ => pos) rfl

end Answers

section Effects

variable {objmgr : ObjectMgr} {p p' : Player} {l : Loc} {it : Item} {slot dest : Nat}

/-- The unit after an item was unapplied, up to the width of the modifiers. -/
lemma applyItemModsFor_mods (u : Unit) (worn : isEquipped it) (flag : StatMod) :
    i32 ((applyItemModsFor objmgr u it false).mods flag) =
      i32 (u.mods flag - objmgr.contributionOf u.element flag (some it.entry)) := by
  rw [applyItemModsFor, if_pos worn, ObjectMgr.contributionOf, Option.bind_some]
  cases objmgr.getItemPrototype it.entry with
  | none => rw [sub_zero]
  | some proto =>
    simp only [Unit.applyItemMods]
    cases mod : (proto.itemMods u.element).itemMods flag with
    | none =>
      have zero : proto.contribution u.element flag = 0 := by
        simp only [ItemPrototype.contribution, mod]
      simp [zero]
    | some v => simp [i32_i32]

/-- The pet wears the item no more. -/
lemma petTaken_pets_self (objmgr : ObjectMgr) (p : Player) (i : Nat) (pet : Pet) (e : Nat) (it : Item) :
    (petTaken objmgr p i pet e it).pets i = some { pet with
      unit := if e < equipmentSlotEnd then applyItemModsFor objmgr pet.unit it false else pet.unit
      equip := Function.update pet.equip e none } := setPet_pets_self ..

/-- The place is empty when its item was taken. -/
lemma holds_takenFrom (at_ : p.itemIn l = some it) (k : Loc) :
    (takenFrom objmgr p l it).holds k = if k = l then none else p.holds k := by
  cases l with
  | slot e =>
    cases k with
    | slot e' =>
      by_cases same : e' = e
      · rw [same, if_pos rfl]
        exact taken_free ..
      · rw [if_neg fun eq => same (Loc.slot.inj eq)]
        exact taken_items_ne objmgr p it same
    | worn j e' => rw [if_neg nofun]; rfl
  | worn i e =>
    obtain ⟨g, held, -⟩ := Option.bind_eq_some_iff.mp at_
    obtain ⟨pet, epet, -⟩ := Option.bind_eq_some_iff.mp held
    rw [takenFrom, epet]
    cases k with
    | slot e' => rw [if_neg nofun]; rfl
    | worn j e' =>
      by_cases other : j = i
      · subst other
        rw [holds, petTaken_pets_self, Option.bind_some, holds, epet, Option.bind_some]
        by_cases same : e' = e
        · rw [same, if_pos rfl]
          exact Function.update_self ..
        · rw [if_neg fun eq => same (Loc.worn.inj eq).2]
          exact Function.update_of_ne same ..
      · have same : (petTaken objmgr p i pet e it).pets j = p.pets j := setPet_pets_ne p _ other
        rw [holds, same, if_neg fun eq => other (Loc.worn.inj eq).1]
        rfl

/-- The other items stay as they are. -/
lemma takenFrom_heap_ne (at_ : p.itemIn l = some it) {g : Nat} (ne : g ≠ it.guid) :
    (takenFrom objmgr p l it).heap g = p.heap g := by
  cases l with
  | slot e => exact taken_heap_ne objmgr p e it ne
  | worn i e =>
    rw [takenFrom]
    cases p.pets i with
    | none => rfl
    | some pet => exact setItem_heap_ne _ _ ne

/-- The item in a place is live, and held there. -/
lemma guid_of_itemIn (h : p.Stored objmgr) (at_ : p.itemIn l = some it) :
    p.holds l = some it.guid ∧ p.heap it.guid = some it := by
  obtain ⟨g, held, live⟩ := Option.bind_eq_some_iff.mp at_
  obtain rfl := (h.known live).1
  exact ⟨held, live⟩

/-- A taken item can be moved. -/
lemma Stored.takenFrom (h : p.Stored objmgr) (at_ : p.itemIn l = some it) :
    (takenFrom objmgr p l it).Stored objmgr ∧
      (Player.takenFrom objmgr p l it).Movable objmgr it.guid { it with slot := nullSlot } := by
  cases l with
  | slot e => exact h.taken at_
  | worn i e =>
    obtain ⟨g, held, live⟩ := Option.bind_eq_some_iff.mp at_
    obtain ⟨pet, epet, worn⟩ := Option.bind_eq_some_iff.mp held
    rw [Player.takenFrom, epet]
    exact h.petTaken epet (Option.bind_eq_some_iff.mpr ⟨g, worn, live⟩)

/-- The item counts no more where it was worn. -/
lemma takenOff_takenFrom (h : p.Stored objmgr) (at_ : p.itemIn l = some it)
    (unit : p'.unit = (takenFrom objmgr p l it).unit) (pets : p'.pets = (takenFrom objmgr p l it).pets) :
    TakenOff objmgr p (p'.checkedSet l) it l := by
  obtain ⟨held, live⟩ := guid_of_itemIn h at_
  obtain ⟨it', live', resides, -⟩ := h.live held
  cases live.symm.trans live'
  cases l with
  | slot e =>
    refine ⟨p'.unit, rfl, fun flag => ?_⟩
    rw [unit, Player.takenFrom, taken]
    dsimp only [setItem, setSlot]
    split_ifs with worn
    · have equipped : isEquipped it = true := by
        rw [isEquipped, resides.1, decide_eq_true worn, Bool.or_true]
      exact applyItemModsFor_mods p.unit equipped flag
    · rw [sub_zero]
  | worn i e =>
    obtain ⟨pet, epet, -⟩ := Option.bind_eq_some_iff.mp held
    have lt := (h.valid held).2
    rw [Player.takenFrom, epet] at pets
    refine ⟨pet, _, epet, (congrFun pets i).trans (petTaken_pets_self ..), fun flag => ?_⟩
    dsimp only
    rw [if_pos lt]
    have equipped : isEquipped it = true := by
      rw [isEquipped, resides.2, epet, Option.map_some, Option.isSome_some, Bool.true_or]
    exact applyItemModsFor_mods pet.unit equipped flag

/-- Checking the set moves no item. -/
lemma holds_checkedSet (p : Player) (l k : Loc) : (p.checkedSet l).holds k = p.holds k := by
  cases l <;> cases k <;> rfl

/-- Neither does it in a slot. -/
lemma itemAt_checkedSet (p : Player) (l : Loc) (i : Nat) : (p.checkedSet l).itemAt i = p.itemAt i := by
  cases l <;> rfl

/-- Storing leaves alone what is in other slots. -/
lemma storeItem_elsewhere {g : Nat} (h : p.Stored objmgr) (lt : dest < playerSlotsCount)
    (mv : p.Movable objmgr g it) (ok : p.storeItem dest g = .ok p') :
    (∀ k, k ≠ .slot dest → p'.holds k = p.holds k) ∧
      ∀ i x, i ≠ dest → p.itemAt i = some x → p'.itemAt i = some x := by
  obtain ⟨free, rfl⟩ | ⟨it2, at2, ne, merged⟩ := h.storeItem_cases lt mv ok
  · refine ⟨fun k other => holds_put_ne other, fun i x other at_ => ?_⟩
    obtain ⟨held, live, -⟩ := h.items_of_itemAt at_
    have apart : x.guid ≠ g := fun eq => mv.floating (.slot i) (eq ▸ held)
    rw [itemAt, put_items_ne p g it other, held, Option.bind_some, put_heap_ne p dest it apart, live]
  · obtain ⟨m, q, hp, rfl, -, -, -, off⟩ := merged
    refine ⟨fun k _ => by cases k <;> rfl, fun i x other at_ => ?_⟩
    obtain ⟨held, live, -⟩ := h.items_of_itemAt at_
    obtain ⟨held2, -⟩ := h.items_of_itemAt at2
    have apart : x.guid ≠ g := fun eq => mv.floating (.slot i) (eq ▸ held)
    have apart2 : x.guid ≠ it2.guid := by
      intro eq
      rw [eq] at held
      exact other (Loc.slot.inj (h.unique (l := .slot i) (k := .slot dest) held held2))
    have same : hp x.guid = some x := (off x.guid apart apart2).1.trans live
    rw [itemAt]
    exact Option.bind_eq_some_iff.mpr ⟨x.guid, held, same⟩

/-- An item that has room can be stored. -/
lemma Room.can (room : Room objmgr p it slot) : canStoreItem objmgr p it = .ok slot := by
  obtain ⟨proto, known, more, ⟨joins, -⟩ | ⟨alone, free⟩⟩ := room
  · have stack := joins.2.1.1
    exact canStoreItem_ok_iff.mpr ⟨proto, known, more, .inl ⟨stack, (findStack_some_iff stack).mpr joins⟩⟩
  · refine canStoreItem_ok_iff.mpr ⟨proto, known, more, .inr ⟨fun stack => ?_, free⟩⟩
    refine Option.eq_none_iff_forall_ne_some.mpr fun i found => ?_
    have joins := (findStack_some_iff stack).mp found
    exact alone i joins.1 joins.2.1

/-- An item that can be stored has room, when the counts fit. -/
lemma room_of_can (can : canStoreItem objmgr p it = .ok slot)
    (fits : ∀ it2 ∈ p.itemAt slot, 0 < it.count ∧ it2.count + it.count < 2 ^ 32) : Room objmgr p it slot := by
  obtain ⟨proto, known, more, ⟨stack, found⟩ | ⟨alone, free⟩⟩ := canStoreItem_ok_iff.mp can
  · have joins := (findStack_some_iff stack).mp found
    obtain ⟨-, it2, at2, -⟩ := joins.2.1
    exact ⟨proto, known, more, .inl ⟨joins, (fits it2 at2).1, fun it2 at2 => (fits it2 at2).2⟩⟩
  · exact ⟨proto, known, more, .inr ⟨fun i mem => not_joins alone mem, free⟩⟩

/-- An item at another slot stays when one is taken. -/
lemma itemAt_takenFrom (h : p.Stored objmgr) (at_ : p.itemIn l = some it) (ne : l ≠ .slot slot) :
    (takenFrom objmgr p l it).itemAt slot = p.itemAt slot := by
  have held : (takenFrom objmgr p l it).items slot = p.items slot := by
    exact (holds_takenFrom at_ (.slot slot)).trans (if_neg ne.symm)
  rw [itemAt, itemAt, held]
  cases here : p.items slot with
  | none => rfl
  | some g =>
    have apart : g ≠ it.guid := by
      rintro rfl
      exact ne (h.unique (guid_of_itemIn h at_).1 (k := .slot slot) here)
    rw [Option.bind_some, Option.bind_some, takenFrom_heap_ne at_ apart]

/-- An item that is stored in the slot that was named. -/
lemma confirms_of_room (h : p.Stored objmgr) (at_ : p.itemIn l = some it) (ne : l ≠ .slot slot)
    (room : Room objmgr p it slot) (stored : (takenFrom objmgr p l it).storeItem slot it.guid = .ok p') :
    Confirms objmgr p (p'.checkedSet l) l slot := by
  obtain ⟨-, hi, -, target⟩ := canStoreItem_ok room.can
  have lt : slot < playerSlotsCount := Nat.lt_trans hi (by decide)
  obtain ⟨st, mv⟩ := h.takenFrom at_
  have gone : p'.holds l = none := by
    rw [(storeItem_elsewhere st lt mv stored).1 l ne, holds_takenFrom at_, if_pos rfl]
  refine ⟨it, at_, (holds_checkedSet ..).trans gone, ?_, ?_⟩
  · rw [Arrived, itemAt_checkedSet]
    obtain ⟨-, rfl⟩ | ⟨it2, at2, -, merged⟩ := st.storeItem_cases lt mv stored
    · left
      exact ⟨_, Option.bind_eq_some_iff.mpr ⟨_, put_items_self .., put_heap_self ..⟩, rfl, rfl, rfl⟩
    · right
      have before := (itemAt_takenFrom h at_ ne).symm.trans at2
      obtain ⟨held2, -⟩ := h.items_of_itemAt before
      have same : it2.entry = it.entry := by
        obtain free | ⟨it3, at3, same⟩ := target
        · cases held2.symm.trans free
        · cases before.symm.trans at3
          exact same
      obtain ⟨proto, -, -, ⟨-, some, fits⟩ | ⟨-, free⟩⟩ := room
      · refine ⟨some, it2, before, same, ?_⟩
        obtain ⟨m, q, hp, rfl, now, -⟩ := merged
        have sum : u32 (it2.count + it.count) = it2.count + it.count := Nat.mod_eq_of_lt (fits it2 before)
        obtain ⟨heldT, -⟩ := st.items_of_itemAt at2
        rw [sum] at now
        exact Option.bind_eq_some_iff.mpr ⟨it2.guid, heldT, now⟩
      · cases held2.symm.trans (findFree_some free).2.2
  · refine takenOff_takenFrom h at_ ?_ ?_
    · obtain ⟨-, rfl⟩ | ⟨it2, at2, -, merged⟩ := st.storeItem_cases lt mv stored
      · exact put_unit ..
      · obtain ⟨m, q, hp, rfl, -⟩ := merged
        rfl
    · obtain ⟨-, rfl⟩ | ⟨it2, at2, -, merged⟩ := st.storeItem_cases lt mv stored
      · exact put_pets ..
      · obtain ⟨m, q, hp, rfl, -⟩ := merged
        rfl

/-- An item that went where the confirmation says was to go there. -/
lemma room_of_confirms (h : p.Stored objmgr) (at_ : p.itemIn l = some it)
    (can : canStoreItem objmgr p it = .ok dest)
    (stored : (takenFrom objmgr p l it).storeItem dest it.guid = .ok p')
    (confirms : Confirms objmgr p (p'.checkedSet l) l slot) : l ≠ .slot slot ∧ Room objmgr p it slot := by
  obtain ⟨-, hi, -⟩ := canStoreItem_ok can
  have lt : dest < playerSlotsCount := Nat.lt_trans hi (by decide)
  obtain ⟨st, mv⟩ := h.takenFrom at_
  have st' : p'.Stored objmgr := (st.storeItem lt mv).of_ok stored
  obtain ⟨elsewhere, kept⟩ := storeItem_elsewhere st lt mv stored
  obtain ⟨it', at', left, arrived, -⟩ := confirms
  obtain rfl := Option.some.inj (at_.symm.trans at')
  rw [holds_checkedSet] at left
  rw [Arrived, itemAt_checkedSet] at arrived
  have out : l ≠ .slot slot := by
    rintro rfl
    have empty : p'.itemAt slot = none := by
      rw [itemAt]
      exact Option.bind_eq_none_iff.mpr fun g held => by cases left.symm.trans held
    obtain ⟨x, now, -⟩ | ⟨-, x, -, -, now⟩ := arrived
    · cases empty.symm.trans now
    · cases empty.symm.trans now
  have there : dest = slot := by
    by_contra ne
    obtain ⟨x, now, guid, -⟩ | ⟨pos, x, before, -, now⟩ := arrived
    · obtain ⟨held, -⟩ := st'.items_of_itemAt now
      have old := (elsewhere (.slot slot) fun eq => ne (Loc.slot.inj eq).symm).symm.trans held
      rw [guid] at old
      exact mv.floating _ old
    -- the stack in the slot that was named did not grow
    · have still := kept slot x (Ne.symm ne) ((itemAt_takenFrom h at_ out).trans before)
      have counts := congrArg Item.count (Option.some.inj (still.symm.trans now))
      dsimp only at counts
      omega
  subst there
  refine ⟨out, room_of_can can fun it2 before => ?_⟩
  have before' : (takenFrom objmgr p l it).itemAt dest = some it2 := (itemAt_takenFrom h at_ out).trans before
  obtain ⟨heldT, -⟩ := st.items_of_itemAt before'
  obtain ⟨free, -⟩ | ⟨it3, at3, -, merged⟩ := st.storeItem_cases lt mv stored
  · cases heldT.symm.trans free
  · cases before'.symm.trans at3
    obtain ⟨m, q, hp, rfl, now, -⟩ := merged
    have after : Player.itemAt { takenFrom objmgr p l it with heap := hp, marks := m, itemUpdateQueue := q } dest =
        some { it2 with count := u32 (it2.count + it.count) } := Option.bind_eq_some_iff.mpr ⟨_, heldT, now⟩
    obtain ⟨x, eq, guid, -⟩ | ⟨pos, x, old, -, eq⟩ := arrived
    · cases after.symm.trans eq
      rw [← guid] at mv
      exact absurd heldT (mv.floating (.slot dest))
    · cases before.symm.trans old
      have counts := congrArg Item.count (Option.some.inj (after.symm.trans eq))
      refine ⟨pos, ?_⟩
      have lt : u32 (it2.count + it.count) < 2 ^ 32 := Nat.mod_lt _ (by decide)
      dsimp only at counts
      omega

/-- A confirmation of either handler is true exactly if the item was to be stored where the client wants it. -/
lemma Answered.confirms_iff (h : p.Stored objmgr) {n : Notice} {o : Outcome} (a : Answered objmgr p l slot n o) :
    (n ∈ o.notices → Confirms objmgr p o.player l slot) ↔ StoresThere objmgr p l slot := by
  cases a with
  | silent nothing none =>
    refine iff_of_true (fun sent => ?_) fun pos it at_ => absurd pos (nothing it at_)
    rw [none] at sent
    cases sent
  | @stays it f at_ pos can =>
    refine iff_of_false (fun confirms => ?_) fun there => ?_
    · obtain ⟨-, -, left, -⟩ := confirms (List.mem_singleton_self n)
      rw [holds_checkedSet, (guid_of_itemIn h at_).1] at left
      cases left
    · cases can.symm.trans (there pos it at_).2.can
  | @moved it dest p' at_ pos can stored =>
    constructor
    · intro confirms _ it' at'
      obtain rfl := Option.some.inj (at_.symm.trans at')
      exact room_of_confirms h at_ can stored (confirms (List.mem_singleton_self n))
    · intro there _
      obtain ⟨ne, room⟩ := there pos it at_
      obtain rfl := Except.ok.inj (can.symm.trans room.can)
      exact confirms_of_room h at_ ne room stored

end Effects

end Player

section Sessions

open Player

variable {objmgr : ObjectMgr} {s : Session} {l : Loc} {slot : Nat} {n : Notice} {o : Outcome}

/-- In every reachable state the confirmation of an unequip packet is true exactly if the slot that it names is the
one that `Player::CanStoreItem` finds for the item, which is not there yet. -/
theorem unequip_confirms_iff (r : Session.Reachable objmgr s) {req : Wire.UseItemRequest}
    (named : unequips req = some (l, slot, n)) (run : (s.player.handleUseItem objmgr req).result = .ok o) :
    (n ∈ o.notices → Confirms objmgr s.player o.player l slot) ↔ StoresThere objmgr s.player l slot := by
  have h := r.stored
  cases req with
  | unequip tmp_eqslot tmp_invslot =>
    cases named
    exact (handleUnequip_answered h tmp_eqslot tmp_invslot run).confirms_iff h
  | petUnequip target tmp_eqslot tmp_invslot =>
    cases named
    exact (handlePetUnequip_answered h target tmp_eqslot tmp_invslot run).confirms_iff h
  | _ => cases named

/-- A character comes back that wears a sword. -/
def swordsman : Session :=
  match Player.loadInventory armoury (Session.returned 1 0 1) (Session.holding 1 (rowsOf [(3, 2)]))
    (rowsOf [(3, 2)]) with
  | .ok r => ⟨r.1, r.2⟩
  | .error _ => Session.created 1 0

/-- The swordsman can be reached. -/
lemma swordsman_reachable : Session.Reachable armoury swordsman := by
  have login : Session.Login (Session.returned 1 0 1) (Session.holding 1 (rowsOf [(3, 2)])) (rowsOf [(3, 2)]) :=
    Session.login_holding (by decide) (by decide) (by decide) (by decide) (by decide)
  exact .login (r := (swordsman.player, swordsman.db)) login rfl

/-- It takes the sword off, into the first inventory slot. -/
theorem confirms_swordsman : ∃ o, (swordsman.player.handleUseItem armoury (.unequip 4 1)).result = .ok o ∧
    .unequipped 4 1 ∈ o.notices ∧ Confirms armoury swordsman.player o.player (.slot 3) 10 := by
  obtain ⟨o, run, sent⟩ : ∃ o, (swordsman.player.handleUseItem armoury (.unequip 4 1)).result = .ok o ∧
      o.notices = [.unequipped 4 1] := ⟨_, rfl, rfl⟩
  have mem : .unequipped 4 1 ∈ o.notices := by
    rw [sent]
    exact List.mem_singleton_self _
  have named : unequips (.unequip 4 1) = some (.slot 3, 10, .unequipped 4 1) := rfl
  refine ⟨o, run, mem, (unequip_confirms_iff swordsman_reachable named run).mpr ?_ mem⟩
  intro _ it at_
  have sword : swordsman.player.itemIn (.slot 3) = some ⟨1, 2, 1, 1, 3, none⟩ := by decide +kernel
  cases sword.symm.trans at_
  refine ⟨nofun, _, rfl, by decide +kernel, .inr ⟨fun i _ joins => ?_, by decide +kernel⟩⟩
  exact absurd joins.1 (by decide)

/-- The confirmation names the second slot, and the sword goes to the first one. -/
theorem confirmation_elsewhere : ∃ s o, Session.Reachable armoury s ∧
    (s.player.handleUseItem armoury (.unequip 4 2)).result = .ok o ∧ .unequipped 4 2 ∈ o.notices ∧
      o.player.itemAt 11 = none ∧ ¬Confirms armoury s.player o.player (.slot 3) 11 := by
  obtain ⟨o, run, sent, empty⟩ : ∃ o, (swordsman.player.handleUseItem armoury (.unequip 4 2)).result = .ok o ∧
      o.notices = [.unequipped 4 2] ∧ o.player.itemAt 11 = none := ⟨_, rfl, rfl, rfl⟩
  refine ⟨swordsman, o, swordsman_reachable, run, ?_, empty, ?_⟩
  · rw [sent]
    exact List.mem_singleton_self _
  · rintro ⟨it, -, -, arrived, -⟩
    obtain ⟨x, now, -⟩ | ⟨-, x, -, -, now⟩ := arrived
    · cases empty.symm.trans now
    · cases empty.symm.trans now

end Sessions

end Legacy.Inventory
