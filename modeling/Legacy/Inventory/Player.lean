import Legacy.Inventory.Prototype
import Mathlib.Logic.Function.Basic

/-!
# The player's memory

The state that the inventory code of the server works on (`src/src/game/Player.h`, `Item.h`, `Pet.h`
and `Unit.h`), with the operations on a single item object of `src/src/game/Item.cpp`. An item object
is named by its low guid, which the server never gives out twice; `heap` holds the objects that are
alive, and every pointer to an item is such a name. An object's update state and queue position
(`uState` and `uQueuePos`) are kept beside its other fields, in `marks`. Reading an object that was
deleted, an array beyond its end or a null pointer is a `Fault`, after which the C++ program has no
defined behaviour.
-/

namespace Legacy.Inventory
open Legacy.Lib

/-- Number of item slots of a player (source `PLAYER_SLOTS_COUNT`). -/
abbrev playerSlotsCount : Nat := 145

/-- Number of pets of a player (source `MAX_PET_SLOT`). -/
abbrev maxPetSlot : Nat := 10

/-- First slot after the equipment, for players and pets (source `EQUIPMENT_SLOT_END`). -/
abbrev equipmentSlotEnd : Nat := 6

/-- First inventory slot (source `INVENTORY_SLOT_ITEM_START`). -/
abbrev inventorySlotItemStart : Nat := 10

/-- First slot after the inventory (source `INVENTORY_SLOT_ITEM_END`). -/
abbrev inventorySlotItemEnd : Nat := 35

/-- First bank slot (source `BANK_SLOT_ITEM_START`). -/
abbrev bankSlotItemStart : Nat := 70

/-- First slot after the bank (source `BANK_SLOT_ITEM_END`). -/
abbrev bankSlotItemEnd : Nat := 120

/-- The slot of an item that is in no slot (source `NULL_SLOT`). -/
abbrev nullSlot : Nat := 255

/-- The six modifiers that equipment changes (source `UNIT_FIELD_INT_MOD` and the following). -/
inductive StatMod where
  | intMod | atkMod | defMod | hpxMod | spxMod | agiMod
  deriving DecidableEq, Repr

/-- A player or a pet as a fighter (source `class Unit`, its value fields and its item set). -/
structure Unit where
  level : Nat
  element : Nat
  hp : Nat
  sp : Nat
  hpx : Nat
  spx : Nat
  mods : StatMod → Int
  itemSet : Nat
  itemSetApplied : Bool

/-- An item object (source `class Item`): `slot` is `m_slot`, `container` the guid of the pet
`m_container` points to. -/
structure Item where
  guid : Nat
  entry : Nat
  count : Nat
  owner : Nat
  slot : Nat
  container : Option Nat
  deriving DecidableEq, Repr

/-- How an item differs from its database rows (source `enum ItemUpdateState`). -/
inductive ItemUpdateState where
  | unchanged | changed | new | removed
  deriving DecidableEq, Repr

/-- The update state of an item object, and its index in the update queue or `-1` (source `uState`
and `uQueuePos`). -/
structure Mark where
  uState : ItemUpdateState
  uQueuePos : Int
  deriving DecidableEq, Repr

/-- A pet object (source `class Pet`): `equip` is its array `m_items`. -/
structure Pet where
  guid : Nat
  unit : Unit
  equip : Nat → Option Nat

/-- The arrays that slot numbers index. -/
inductive SlotArray where
  /-- source `Player::m_items` -/
  | items
  /-- source `Player::m_pets` -/
  | pets
  /-- source `Pet::m_items` -/
  | equip
  deriving DecidableEq, Repr

/-- The number of elements of an array. -/
def SlotArray.size : SlotArray → Nat
  | .items => playerSlotsCount
  | .pets => maxPetSlot
  | .equip => equipmentSlotEnd

/-- Undefined behaviour of the program. -/
inductive Fault where
  /-- An array is indexed beyond its end. -/
  | outOfBounds (array : SlotArray) (index : Nat)
  /-- A field of a deleted item object is read or written. -/
  | useAfterFree (guid : Nat)
  /-- A pet that is not among the player's pets any more is read. -/
  | stalePet (guid : Nat)
  /-- A null pointer is read. -/
  | nullPointer
  /-- The update queue is indexed outside of its bounds. -/
  | queueIndex (pos : Int)
  deriving DecidableEq, Repr

/-- The player with the objects it reaches, and the guid counter of the server. -/
structure Player where
  guid : Nat
  /-- source `PLAYER_GOLD_INHAND` -/
  gold : Nat
  unit : Unit
  /-- source `m_items` -/
  items : Nat → Option Nat
  /-- source `m_pets` -/
  pets : Nat → Option Pet
  /-- the item objects that are alive -/
  heap : Nat → Option Item
  marks : Nat → Mark
  /-- source `ObjectMgr::m_hiItemGuid` -/
  hiItemGuid : Nat
  /-- source `m_itemUpdateQueue` -/
  itemUpdateQueue : List (Option Nat)
  /-- source `m_itemUpdateQueueBlocked` -/
  itemUpdateQueueBlocked : Bool

/-- The update state of a new object (source `Item::Item`). -/
def Mark.fresh : Mark := ⟨.new, -1⟩

namespace Player

/-- The item object behind a pointer. -/
def deref (p : Player) (g : Nat) : Except Fault Item :=
  match p.heap g with
  | some it => .ok it
  | none => .error (.useAfterFree g)

/-- Overwrites fields of an item object. -/
def setItem (p : Player) (g : Nat) (it : Item) : Player :=
  { p with heap := Function.update p.heap g (some it) }

/-- Deletes an item object (source `delete this`). -/
def deleteItem (p : Player) (g : Nat) : Player :=
  { p with heap := Function.update p.heap g none }

/-- Writes the update state of an item object. -/
def setMark (p : Player) (g : Nat) (m : Mark) : Player :=
  { p with marks := Function.update p.marks g m }

/-- Writes a slot of the player. -/
def setSlot (p : Player) (slot : Nat) (v : Option Nat) : Player :=
  { p with items := Function.update p.items slot v }

/-- Writes a pet of the player. -/
def setPet (p : Player) (slot : Nat) (pet : Pet) : Player :=
  { p with pets := Function.update p.pets slot (some pet) }

section Fields

variable (p : Player) (g : Nat) (it : Item) (slot : Nat) (v : Option Nat) (pet : Pet)

/-- A written item is what the heap has. -/
@[simp] lemma setItem_heap_self : (p.setItem g it).heap g = some it := Function.update_self ..

/-- Writing an item keeps the guid of the player. -/
@[simp] lemma setItem_guid : (p.setItem g it).guid = p.guid := rfl

/-- A deleted item is gone. -/
@[simp] lemma deleteItem_heap_self : (p.deleteItem g).heap g = none := Function.update_self ..

/-- A written slot has what was written. -/
@[simp] lemma setSlot_items_self : (p.setSlot slot v).items slot = v := Function.update_self ..

/-- A written slot of the pets has the pet. -/
@[simp] lemma setPet_pets_self : (p.setPet slot pet).pets slot = some pet := Function.update_self ..

variable {g slot}

/-- Writing an item keeps the others. -/
lemma setItem_heap_ne {g' : Nat} (ne : g' ≠ g) : (p.setItem g it).heap g' = p.heap g' :=
  Function.update_of_ne ne ..

/-- Deleting an item keeps the others. -/
lemma deleteItem_heap_ne {g' : Nat} (ne : g' ≠ g) : (p.deleteItem g).heap g' = p.heap g' :=
  Function.update_of_ne ne ..

/-- Writing a slot keeps the others. -/
lemma setSlot_items_ne {slot' : Nat} (ne : slot' ≠ slot) :
    (p.setSlot slot v).items slot' = p.items slot' :=
  Function.update_of_ne ne ..

/-- Writing a pet keeps the others. -/
lemma setPet_pets_ne {slot' : Nat} (ne : slot' ≠ slot) : (p.setPet slot pet).pets slot' = p.pets slot' :=
  Function.update_of_ne ne ..

end Fields

/-- Appends an item to the update queue, unless it is there (source `Item::AddToUpdateQueueOf`). -/
def addToUpdateQueueOf (p : Player) (g : Nat) (it : Item) : Player :=
  if (p.marks g).uQueuePos ≠ -1 then p
  else if p.guid ≠ it.owner then p
  else if p.itemUpdateQueueBlocked then p
  else
    { p with
      itemUpdateQueue := p.itemUpdateQueue ++ [some g]
      marks := Function.update p.marks g
        { p.marks g with uQueuePos := i16 p.itemUpdateQueue.length } }

/-- Takes an item out of the update queue (source `Item::RemoveFromUpdateQueueOf`). -/
def removeFromUpdateQueueOf (p : Player) (g : Nat) (it : Item) : Except Fault Player :=
  let pos := (p.marks g).uQueuePos
  if pos = -1 then .ok p
  else if p.guid ≠ it.owner then .ok p
  else if p.itemUpdateQueueBlocked then .ok p
  else if 0 ≤ pos ∧ pos < p.itemUpdateQueue.length then
    .ok { p with
      itemUpdateQueue := p.itemUpdateQueue.set pos.toNat none
      marks := Function.update p.marks g { p.marks g with uQueuePos := -1 } }
  else .error (.queueIndex pos)

/-- Records a change of an item; a new item that is removed is deleted at once (source
`Item::SetState`, whose `forplayer` is always the owner). -/
def setState (p : Player) (g : Nat) (state : ItemUpdateState) : Except Fault Player := do
  let it ← p.deref g
  if (p.marks g).uState = .new ∧ state = .removed then
    let p ← p.removeFromUpdateQueueOf g it
    return p.deleteItem g
  else if state ≠ .unchanged then
    -- new items must stay in the new state until saved
    let p := if (p.marks g).uState ≠ .new then p.setMark g { p.marks g with uState := state } else p
    return p.addToUpdateQueueOf g it
  else
    -- the item must be removed from the queue manually
    return p.setMark g ⟨.unchanged, -1⟩

/-- The item in a slot (source `Player::GetItemByPos`). -/
def getItemByPos (p : Player) (slot : Nat) : Except Fault (Option Item) :=
  if playerSlotsCount ≤ slot then .error (.outOfBounds .items slot)
  else
    match p.items slot with
    | none => .ok none
    | some g => do
      let it ← p.deref g
      return some it

/-- The item in a slot of the loops over all slots, whose bounds are constants of the source. -/
def itemAt (p : Player) (slot : Nat) : Option Item := (p.items slot).bind p.heap

/-- A slot of the inventory, or no slot (source `Player::IsInventoryPos`). -/
def isInventoryPos (slot : Nat) : Bool :=
  slot = nullSlot || (inventorySlotItemStart ≤ slot && slot < inventorySlotItemEnd)

/-- A slot of the equipment (source `Player::IsEquipmentPos`). -/
def isEquipmentPos (slot : Nat) : Bool := slot < equipmentSlotEnd

/-- A slot of the bank (source `Player::IsBankPos`). -/
def isBankPos (slot : Nat) : Bool := bankSlotItemStart ≤ slot && slot < bankSlotItemEnd

section Positions

variable {slot : Nat}

/-- The places of the bag, with the null slot among them. -/
lemma isInventoryPos_iff : isInventoryPos slot = true ↔
    slot = nullSlot ∨ inventorySlotItemStart ≤ slot ∧ slot < inventorySlotItemEnd := by
  simp only [isInventoryPos, Bool.or_eq_true, Bool.and_eq_true, decide_eq_true_eq]

/-- The places of the equipment. -/
lemma isEquipmentPos_iff : isEquipmentPos slot = true ↔ slot < equipmentSlotEnd := decide_eq_true_iff

/-- The places of the bank. -/
lemma isBankPos_iff : isBankPos slot = true ↔ bankSlotItemStart ≤ slot ∧ slot < bankSlotItemEnd := by
  simp only [isBankPos, Bool.and_eq_true, decide_eq_true_eq]

/-- No slot is in two of the ranges. -/
lemma not_isInventoryPos_of_equipment (pos : isEquipmentPos slot = true) : isInventoryPos slot = false := by
  have lt : slot < 6 := isEquipmentPos_iff.mp pos
  refine Bool.eq_false_iff.mpr fun both => ?_
  obtain rfl | ⟨lo, -⟩ := isInventoryPos_iff.mp both
  · exact absurd lt (by decide)
  · exact absurd (Nat.le_trans lo (Nat.le_of_lt lt)) (by decide)

/-- No place of the bank is one of the bag. -/
lemma not_isInventoryPos_of_bank (pos : isBankPos slot = true) : isInventoryPos slot = false := by
  obtain ⟨lo, hi⟩ := isBankPos_iff.mp pos
  refine Bool.eq_false_iff.mpr fun both => ?_
  obtain rfl | ⟨-, lt⟩ := isInventoryPos_iff.mp both
  · exact absurd hi (by decide)
  · exact absurd (Nat.lt_of_le_of_lt lo lt) (by decide)

/-- No place of the bank is one of the equipment. -/
lemma not_isEquipmentPos_of_bank (pos : isBankPos slot = true) : isEquipmentPos slot = false := by
  refine Bool.eq_false_iff.mpr fun both => ?_
  have lt := Nat.lt_of_le_of_lt (isBankPos_iff.mp pos).1 (isEquipmentPos_iff.mp both)
  exact absurd lt (by decide)

end Positions

end Player

end Legacy.Inventory
