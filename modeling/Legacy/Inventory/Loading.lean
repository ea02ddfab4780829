import Legacy.Inventory.Database
import Legacy.Inventory.Effects

/-!
# What loading a row does

`Loaded` lists the ways through the loop's body of `Player::_LoadInventory`. Reading a row never faults
when its item is not in memory yet: the object it creates is new and in no queue, so joining it to a
stack deletes it at once. The loop is an induction over the rows, and keeps the pointers sound.
-/

namespace Legacy.Inventory
open Legacy.Lib

namespace Player

/-- The mark an object gets when it is as the database has it. -/
def markUnchanged (p : Player) (g : Nat) : Player := p.setMark g ⟨.unchanged, -1⟩

/-- The slot a row of the player's own items is loaded into. -/
inductive Destination (objmgr : ObjectMgr) (p : Player) (slot : Nat) (it : Item) : Nat → Prop
  | inventory {dest : Nat} (pos : isInventoryPos slot) (can : canStoreItem objmgr p it = .ok dest) :
      Destination objmgr p slot it dest
  | equipment (pos : isEquipmentPos slot) (can : canEquipItem objmgr p slot it false = .ok slot) :
      Destination objmgr p slot it slot
  | bank (pos : isBankPos slot) : Destination objmgr p slot it slot

/-- The ways through the body of the loop. -/
inductive Loaded (objmgr : ObjectMgr) (p : Player) (db : Database) (row : LoginRow) :
    Player → Database → Prop
  /-- Unknown entry, broken data, or a pet that is not there. -/
  | refused : Loaded objmgr p db row p ((db.deleteInventory row.item).deleteInstance row.item)
  /-- No room: the object stays behind. -/
  | rejected {d : ItemData} (data : row.data = some d) :
      Loaded objmgr p db row (p.newObject (p.loadedItem row d)) (db.deleteInventory row.item)
  /-- A slot that is neither inventory, equipment nor bank. -/
  | unplaced {d : ItemData} (data : row.data = some d) :
      Loaded objmgr p db row ((p.newObject (p.loadedItem row d)).markUnchanged row.item) db
  | placed {d : ItemData} {dest : Nat} (data : row.data = some d) (own : row.pet = 0)
      (goal : Destination objmgr (p.newObject (p.loadedItem row d)) row.slot (p.loadedItem row d) dest)
      (lt : dest < playerSlotsCount) (free : p.items dest = none)
      (known : (objmgr.getItemPrototype d.entry).isSome) :
      Loaded objmgr p db row
        (((p.newObject (p.loadedItem row d)).put dest row.item (p.loadedItem row d)).markUnchanged
          row.item) db
  | stacked {d : ItemData} {dest : Nat} {it2 : Item} (data : row.data = some d) (own : row.pet = 0)
      (goal : Destination objmgr (p.newObject (p.loadedItem row d)) row.slot (p.loadedItem row d) dest)
      (at2 : p.itemAt dest = some it2) :
      Loaded objmgr p db row
        (((p.newObject (p.loadedItem row d)).absorbed row.item it2.guid (p.loadedItem row d)
          it2).markUnchanged it2.guid) db
  | worn {d : ItemData} {i : Nat} {pet : Pet} (data : row.data = some d)
      (epet : p.pets i = some pet) (guid : row.pet = pet.guid) (ipet : i < maxPetSlot)
      (lt : row.slot < equipmentSlotEnd) (free : pet.equip row.slot = none)
      (known : (objmgr.getItemPrototype d.entry).isSome) :
      Loaded objmgr p db row
        (((p.newObject (p.loadedItem row d)).wear i pet row.slot row.item
          (p.loadedItem row d)).markUnchanged row.item) db

/-- A pet is found in one of the slots. -/
lemma getPetByGuid_some {p : Player} {g i : Nat} (e : p.getPetByGuid g = some i) :
    i < maxPetSlot ∧ ∃ pet, p.pets i = some pet ∧ pet.guid = g := by
  have lt := List.mem_range.mp (List.mem_of_find?_eq_some e)
  have found := List.find?_some e
  simp only [decide_eq_true_eq, Option.map_eq_some_iff] at found
  exact ⟨lt, found⟩

section Rows

variable {objmgr : ObjectMgr} {p : Player} (h : p.Stored objmgr)

/-- An item that is live can be marked unchanged. -/
lemma setState_unchanged {g : Nat} {it : Item} (e : p.heap g = some it) :
    p.setState g .unchanged = .ok (p.markUnchanged g) := by
  simp only [setState, deref_eq e, bind, Except.bind, pure, Except.pure, reduceCtorEq, and_false, ne_eq,
    not_true_eq_false, if_false, markUnchanged]

/-- An entry of the queue that was saved is a living object. -/
lemma saveEntry_saved {db : Database} {g : Nat} {r : Player × Database} (e : saveEntry objmgr p db g = .ok r) :
    ∃ it, p.heap g = some it ∧ p.saveToDB (p.saveRow db it) it = .ok r := by
  cases live : p.heap g with
  | none =>
    rw [saveEntry, deref, live] at e
    cases e
  | some it =>
    refine ⟨it, rfl, ?_⟩
    simp only [saveEntry, deref_eq live, bind, Except.bind] at e
    split at e
    · cases e
    · split at e
      · exact e
      · split at e
        · cases e
        · exact e

/-- A new object is live. -/
lemma newObject_live (p : Player) (it : Item) : (p.newObject it).heap it.guid = some it :=
  Function.update_self ..

/-- The other objects stay as they are. -/
lemma newObject_heap_ne (p : Player) (it : Item) {g : Nat} (ne : g ≠ it.guid) :
    (p.newObject it).heap g = p.heap g :=
  Function.update_of_ne ne ..

/-- A loaded item has the guid of its row. -/
lemma loadedItem_guid (p : Player) (row : LoginRow) (d : ItemData) :
    (p.loadedItem row d).guid = row.item := rfl

/-- The object of a row is found under the row's guid. -/
lemma loadedItem_live (p : Player) (row : LoginRow) (d : ItemData) :
    (p.newObject (p.loadedItem row d)).heap row.item = some (p.loadedItem row d) :=
  newObject_live p (p.loadedItem row d)

/-- A new object is in no slot. -/
lemma newObject_itemAt {it : Item} (fl : p.Floating it.guid) (slot : Nat) :
    (p.newObject it).itemAt slot = p.itemAt slot := by
  have items : (p.newObject it).items = p.items := rfl
  cases e : p.items slot with
  | none => simp only [itemAt, items, e, Option.bind_none]
  | some g =>
    have ne : g ≠ it.guid := fun eq => fl (.slot slot) (eq ▸ e)
    simp only [itemAt, items, e, Option.bind_some, newObject_heap_ne p it ne]

include h

/-- Storing a loaded item in a slot of the player. -/
lemma Stored.loadInto {row : LoginRow} {d : ItemData} {dest : Nat} {db : Database}
    (fl : p.Floating row.item) (le : row.item ≤ p.hiItemGuid) (data : row.data = some d)
    (own : row.pet = 0) (lt : dest < playerSlotsCount)
    (known : (objmgr.getItemPrototype d.entry).isSome)
    (goal : Destination objmgr (p.newObject (p.loadedItem row d)) row.slot (p.loadedItem row d) dest) :
    Sat ((p.newObject (p.loadedItem row d)).loadInto dest row.item) fun r =>
      Sat (r.1.finishRow db row.item r.2) fun r => p.Loaded objmgr db row r.1 r.2 := by
  have fl' : p.Floating (p.loadedItem row d).guid := fl
  have st := h.newObject fl' le rfl
  have live := loadedItem_live p row d
  simp only [Player.loadInto, sat_bind, sat_pure]
  cases e2 : p.itemAt dest with
  | none =>
    have free := h.items_of_itemAt_none e2
    have free' : (p.newObject (p.loadedItem row d)).items dest = none := free
    rw [st.storeItem_free lt live free']
    simp only [sat_ok, free', Option.getD_none, finishRow, sat_bind,
      setState_unchanged (put_heap_self ..), sat_pure]
    exact .placed data own goal lt free known
  | some it2 =>
    have e2' := (newObject_itemAt fl' dest).trans e2
    obtain ⟨at2, live2, -⟩ := st.items_of_itemAt e2'
    have ne : row.item ≠ it2.guid := fun eq => fl (.slot dest) (eq ▸ at2)
    have live3 : ((p.newObject (p.loadedItem row d)).absorbed row.item it2.guid (p.loadedItem row d)
        it2).heap it2.guid = some { it2 with count := u32 (it2.count + d.count) } := by
      rw [absorbed, requeue_heap, deleteItem_heap_ne _ ne.symm, setItem_heap_ne _ _ ne.symm,
        setItem_heap_self]
      rfl
    rw [st.storeItem_stack lt live e2', mergeInto_fresh live live2 ne (Function.update_self ..)]
    simp only [sat_ok, at2, Option.getD_some, finishRow, sat_bind, setState_unchanged live3, sat_pure]
    exact .stacked data own goal e2

/-- Placing an item of the player takes one of the ways. -/
lemma Stored.loadItem {row : LoginRow} {d : ItemData} {db : Database} (fl : p.Floating row.item)
    (le : row.item ≤ p.hiItemGuid) (data : row.data = some d) (own : row.pet = 0)
    (known : (objmgr.getItemPrototype d.entry).isSome) :
    Sat (loadItem objmgr (p.newObject (p.loadedItem row d)) row.slot (p.loadedItem row d)) fun r =>
      Sat (r.1.finishRow db row.item r.2) fun r => p.Loaded objmgr db row r.1 r.2 := by
  have live := loadedItem_live p row d
  rw [Player.loadItem]
  split_ifs with inventory equipment bank
  · cases can : canStoreItem objmgr (p.newObject (p.loadedItem row d)) (p.loadedItem row d) with
    | error f => exact .rejected data
    | ok dest =>
      obtain ⟨-, hi, -⟩ := canStoreItem_ok can
      exact h.loadInto fl le data own (Nat.lt_trans hi (by decide)) known (.inventory inventory can)
  · cases can : canEquipItem objmgr (p.newObject (p.loadedItem row d)) row.slot (p.loadedItem row d) false with
    | error f => exact .rejected data
    | ok dest =>
      obtain ⟨rfl, free, proto', -, type, -⟩ := canWearItem_ok can
      have free' : p.items row.slot = none := free.resolve_left Bool.false_ne_true
      have lt : row.slot < playerSlotsCount := (slotOfInventoryType_lt type).trans (by decide)
      simp only [loadedItem_guid, visualizeItem_eq lt live, sat_bind, sat_ok, sat_pure, finishRow,
        setState_unchanged (put_heap_self ..)]
      exact .placed data own (.equipment equipment can) lt free' known
  · have lt : row.slot < playerSlotsCount := (isBankPos_iff.mp bank).2.trans (by decide)
    exact h.loadInto fl le data own lt known (.bank bank)
  · simp only [loadedItem_guid, sat_ok, finishRow, sat_bind, setState_unchanged live, sat_pure]
    exact .unplaced data

omit h in
/-- Placing an item of a pet takes one of the ways. -/
lemma loadPetItem_sat {row : LoginRow} {d : ItemData} {db : Database} {i : Nat} (data : row.data = some d)
    (known : (objmgr.getItemPrototype d.entry).isSome) (found : p.getPetByGuid row.pet = some i) :
    Sat (loadPetItem objmgr (p.newObject (p.loadedItem row d)) i row.slot (p.loadedItem row d)) fun r =>
      Sat (r.1.finishRow db row.item r.2) fun r => p.Loaded objmgr db row r.1 r.2 := by
  have live := loadedItem_live p row d
  obtain ⟨ipet, pet, epet, guid⟩ := getPetByGuid_some found
  have epet' : (p.newObject (p.loadedItem row d)).pets i = some pet := epet
  simp only [sat_bind, loadPetItem, epet', sat_ok]
  split_ifs with equipment
  · cases can : canPetEquipItem objmgr (p.newObject (p.loadedItem row d)) pet row.slot (p.loadedItem row d) false with
    | error f => exact .rejected data
    | ok dest =>
      obtain ⟨rfl, free, proto', -, type, -⟩ := canWearItem_ok can
      have free' : pet.equip row.slot = none := free.resolve_left Bool.false_ne_true
      have lt := slotOfInventoryType_lt type
      simp only [loadedItem_guid, visualizePetItem_eq lt free' live, sat_bind, sat_ok, sat_pure, finishRow,
        setState_unchanged (wear_heap_self ..)]
      exact .worn data epet guid.symm ipet lt free' known
  · exact .rejected data

section Branches

variable {proto : ItemPrototype} {row : LoginRow} {d : ItemData} (db : Database)
  (known : objmgr.getItemPrototype row.entry = some proto) (data : row.data = some d)

include known data

omit h

/-- A row of the player is placed, and finished. -/
lemma loadRow_own (own : row.pet = 0) : Player.loadRow objmgr p db row =
    (Player.loadItem objmgr (p.newObject (p.loadedItem row d)) row.slot (p.loadedItem row d) >>=
      fun r => r.1.finishRow db row.item r.2) := by
  rw [Player.loadRow, known, data]
  simp only [if_pos own]

/-- A row of a pet is placed, and finished. -/
lemma loadRow_pet {i : Nat} (worn : row.pet ≠ 0) (found : p.getPetByGuid row.pet = some i) :
    Player.loadRow objmgr p db row =
      (loadPetItem objmgr (p.newObject (p.loadedItem row d)) i row.slot (p.loadedItem row d) >>=
        fun r => r.1.finishRow db row.item r.2) := by
  rw [Player.loadRow, known, data]
  simp only [if_neg worn, found]

/-- A row of a pet that is not there is deleted. -/
lemma loadRow_petless (worn : row.pet ≠ 0) (none : p.getPetByGuid row.pet = none) :
    Player.loadRow objmgr p db row = .ok (p, (db.deleteInventory row.item).deleteInstance row.item) := by
  rw [Player.loadRow, known, data]
  simp only [if_neg worn, none]

end Branches

/-- Every row whose data agree with its entry takes one of the ways. -/
lemma Stored.loadRow {row : LoginRow} (db : Database) (fl : p.Floating row.item)
    (le : row.item ≤ p.hiItemGuid) (coherent : ∀ d, row.data = some d → d.entry = row.entry) :
    Sat (loadRow objmgr p db row) fun r => p.Loaded objmgr db row r.1 r.2 := by
  cases ep : objmgr.getItemPrototype row.entry with
  | none =>
    rw [Player.loadRow, ep]
    exact .refused
  | some proto =>
    cases data : row.data with
    | none =>
      rw [Player.loadRow, ep, data]
      exact .refused
    | some d =>
      have known : (objmgr.getItemPrototype d.entry).isSome :=
        coherent d data ▸ Option.isSome_of_eq_some ep
      by_cases own : row.pet = 0
      · rw [loadRow_own db ep data own, sat_bind]
        exact h.loadItem fl le data own known
      · cases found : p.getPetByGuid row.pet with
        | none =>
          rw [loadRow_petless db ep data own found]
          exact .refused
        | some i =>
          rw [loadRow_pet db ep data own found, sat_bind]
          exact loadPetItem_sat data known found

end Rows

end Player

end Legacy.Inventory
