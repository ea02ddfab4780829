import Legacy.Inventory.Mods

/-!
# Item storage

Model of the inventory system of `src/src/game/Player.cpp`: the checks that choose a destination
(`CanStoreItem`, `CanEquipItem`, `CanPetEquipItem`) and the operations that move item objects between
the slots of the player and its pets (`StoreItem`, `EquipItem`, `RemoveItem`, `DestroyItem` and their
relatives). A check returns its destination slot, or the reason why there is none.
-/

namespace Legacy.Inventory
open Legacy.Lib

/-- Why an item cannot be stored or equipped (source `enum InventoryChangeFailure`). -/
inductive InventoryChangeFailure where
  | cantCarryMoreOfThis | inventoryFull | itemNotFound | itemCantBeEquipped | cantEquipLevelI
  deriving DecidableEq, Repr

namespace Player

/-- The slots of the inventory, in the order of the loops of the source. -/
def inventorySlots : List Nat := List.range' inventorySlotItemStart 25

/-- The summed counts of an entry in some slots, without one object (source `Player::GetItemCount`
and `Player::GetBankItemCount`, whose sums are `uint32`). -/
def countIn (p : Player) (slots : List Nat) (entry eItem : Nat) : Nat :=
  slots.foldl (fun count i =>
    match p.itemAt i with
    | some it => if it.guid ≠ eItem ∧ it.entry = entry then u32 (count + it.count) else count
    | none => count) 0

/-- Source `Player::GetItemCount`: equipment, padding and inventory. -/
def getItemCount (p : Player) (entry eItem : Nat) : Nat :=
  p.countIn (List.range inventorySlotItemEnd) entry eItem

/-- Source `Player::GetBankItemCount`. -/
def getBankItemCount (p : Player) (entry eItem : Nat) : Nat :=
  p.countIn (List.range' bankSlotItemStart 50) entry eItem

/-- The limit on similar items (source `Player::CanTakeMoreSimilarItems`, with the prototype of the
item). -/
def canTakeMoreSimilarItems (p : Player) (proto : ItemPrototype) (it : Item) : Bool :=
  if proto.maxCount = 0 then true
  else
    let curcount := u32 (p.getItemCount proto.itemId it.guid + p.getBankItemCount proto.itemId it.guid)
    !(proto.maxCount < u32 (curcount + it.count))

/-- The stack a new item can join (source `Player::CanStoreItem`, first loop). -/
def findStack (p : Player) (entry count stackable : Nat) : Option Nat :=
  inventorySlots.find? fun i =>
    match p.itemAt i with
    | some it2 => it2.entry = entry && u32 (it2.count + count) ≤ stackable
    | none => false

/-- The first free inventory slot (source `Player::CanStoreItem`, second loop). -/
def findFree (p : Player) : Option Nat :=
  inventorySlots.find? fun i => (p.items i).isNone

/-- The slot an item is to be stored in; the slot that was asked for does not matter (source
`Player::CanStoreItem`). -/
def canStoreItem (objmgr : ObjectMgr) (p : Player) (it : Item) :
    Except InventoryChangeFailure Nat :=
  match objmgr.getItemPrototype it.entry with
  | none => .error .itemNotFound
  | some proto =>
    if !p.canTakeMoreSimilarItems proto it then .error .cantCarryMoreOfThis
    else
      match if 1 < proto.stackable then p.findStack it.entry it.count proto.stackable else none with
      | some dest => .ok dest
      | none =>
        match p.findFree with
        | some dest => .ok dest
        | none => .error .inventoryFull

/-- The equipment slot of an inventory type (source `INVTYPE_HEAD` to `INVTYPE_SPECIAL`). -/
def slotOfInventoryType : Nat → Option Nat
  | 1 => some 0
  | 2 => some 1
  | 3 => some 2
  | 4 => some 3
  | 5 => some 4
  | 6 => some 5
  | _ => none

/-- The equipment slot for a prototype, when the asked slot is the one of its inventory type and is
free or may be swapped (source `Player::FindEquipSlot` and `Player::FindPetEquipSlot`, which are
never called with `NULL_SLOT`). -/
def findEquipSlot (worn : Nat → Option Nat) (proto : ItemPrototype) (slot : Nat) (swap : Bool) :
    Option Nat :=
  if swap || (worn slot).isNone then
    if slotOfInventoryType proto.inventoryType = some slot then some slot else none
  else none

/-- The checks for wearing an item, on a unit with this equipment (source `Player::CanEquipItem` and
`Player::CanPetEquipItem`). -/
def canWearItem (objmgr : ObjectMgr) (p : Player) (u : Unit) (worn : Nat → Option Nat) (slot : Nat)
    (it : Item) (swap : Bool) : Except InventoryChangeFailure Nat :=
  match objmgr.getItemPrototype it.entry with
  | none => .error .itemNotFound
  | some proto =>
    if !p.canTakeMoreSimilarItems proto it then .error .cantCarryMoreOfThis
    else
      match findEquipSlot worn proto slot swap with
      | none => .error .itemCantBeEquipped
      | some eslot =>
        if u.level < proto.requiredLevel then .error .cantEquipLevelI else .ok eslot

/-- Source `Player::CanEquipItem`. -/
def canEquipItem (objmgr : ObjectMgr) (p : Player) (slot : Nat) (it : Item) (swap : Bool) :
    Except InventoryChangeFailure Nat :=
  canWearItem objmgr p p.unit p.items slot it swap

/-- Source `Player::CanPetEquipItem`. -/
def canPetEquipItem (objmgr : ObjectMgr) (p : Player) (pet : Pet) (slot : Nat) (it : Item)
    (swap : Bool) : Except InventoryChangeFailure Nat :=
  canWearItem objmgr p pet.unit pet.equip slot it swap

/-- The stack size of a created item (source `Player::CreateItem`). -/
def createCount (proto : ItemPrototype) (count : Nat) : Nat :=
  max 1 (min count proto.stackable)

/-- A new object (source `Item::Item` and `Object::_Create`). -/
def newObject (p : Player) (it : Item) : Player :=
  { p with
    heap := Function.update p.heap it.guid (some it)
    marks := Function.update p.marks it.guid .fresh }

/-- A new item object with the next guid (source `Player::CreateItem`); without a prototype nothing
is created. -/
def createItem (objmgr : ObjectMgr) (p : Player) (item count : Nat) : Option (Item × Player) :=
  match objmgr.getItemPrototype item with
  | none => none
  | some proto =>
    let g := p.hiItemGuid + 1
    let it : Item := ⟨g, item, createCount proto count, p.guid, 0, none⟩
    some (it, newObject { p with hiItemGuid := g } it)

/-- Puts an item object into a slot of the player (source `Player::StoreItem` with a free slot, and
`Player::VisualizeItem`). -/
def place (p : Player) (slot g : Nat) (it : Item) : Player :=
  (p.setSlot slot (some g)).setItem g { it with owner := p.guid, slot := slot, container := none }

/-- Joins an item object to a stack, and removes it (source `Player::StoreItem` and
`Player::EquipItem` with an occupied slot). -/
def mergeInto (p : Player) (g g2 : Nat) : Except Fault Player := do
  let it ← p.deref g
  let it2 ← p.deref g2
  let p := p.setItem g2 { it2 with count := u32 (it2.count + it.count) }
  let it ← p.deref g
  let p := p.setItem g { it with owner := p.guid }
  let p ← p.setState g .removed
  p.setState g2 .changed

/-- Stores an item object in a slot: alone, or in the stack that is there (source
`Player::StoreItem`). -/
def storeItem (p : Player) (pos g : Nat) : Except Fault Player := do
  let it ← p.deref g
  match ← p.getItemByPos pos with
  | none => (p.place pos g it).setState g .changed
  | some it2 => p.mergeInto g it2.guid

/-- Puts an item object into an equipment slot (source `Player::VisualizeItem`). -/
def visualizeItem (p : Player) (pos g : Nat) : Except Fault Player := do
  let it ← p.deref g
  if playerSlotsCount ≤ pos then .error (.outOfBounds .items pos)
  else (p.place pos g it).setState g .changed

/-- Equips an item object (source `Player::EquipItem`). -/
def equipItem (p : Player) (pos g : Nat) : Except Fault Player := do
  match ← p.getItemByPos pos with
  | none => p.visualizeItem pos g
  | some it2 => p.mergeInto g it2.guid

/-- The item a pet wears in a slot (source `Pet::GetEquip`, followed by a read of the item). -/
def getEquip (p : Player) (pet : Pet) (slot : Nat) : Except Fault (Option Item) :=
  if equipmentSlotEnd ≤ slot then .error (.outOfBounds .equip slot)
  else
    match pet.equip slot with
    | none => .ok none
    | some g => do
      let it ← p.deref g
      return some it

/-- Puts an item object on a pet, unless the slot is taken (source `Player::VisualizePetItem` and
`Pet::SetEquip`). -/
def visualizePetItem (p : Player) (i : Nat) (pet : Pet) (pos g : Nat) : Except Fault Player := do
  let it ← p.deref g
  if equipmentSlotEnd ≤ pos then .error (.outOfBounds .equip pos)
  else if (pet.equip pos).isSome then p.setState g .changed
  else
    let p := p.setPet i { pet with equip := Function.update pet.equip pos (some g) }
    let p := p.setItem g { it with owner := p.guid, slot := pos, container := some pet.guid }
    p.setState g .changed

/-- Equips an item object to a pet (source `Player::PetEquipItem`). -/
def petEquipItem (p : Player) (i : Nat) (pet : Pet) (pos g : Nat) : Except Fault Player := do
  match ← p.getEquip pet pos with
  | none => p.visualizePetItem i pet pos g
  | some it2 => p.mergeInto g it2.guid

/-- Takes an item out of its slot, and unapplies it when the slot is an equipment slot; its update
state stays as it is (source `Player::RemoveItem`). -/
def removeItem (objmgr : ObjectMgr) (p : Player) (slot : Nat) : Except Fault Player := do
  match ← p.getItemByPos slot with
  | none => return p
  | some it =>
    let p :=
      if slot < equipmentSlotEnd then { p with unit := applyItemModsFor objmgr p.unit it false } else p
    return (p.setSlot slot none).setItem it.guid { it with slot := nullSlot }

/-- Takes an item off a pet (source `Player::PetRemoveItem`); the item keeps its container. -/
def petRemoveItem (objmgr : ObjectMgr) (p : Player) (i : Nat) (pet : Pet) (slot : Nat) :
    Except Fault Player := do
  match ← p.getEquip pet slot with
  | none => return p
  | some it =>
    let u := if slot < equipmentSlotEnd then applyItemModsFor objmgr pet.unit it false else pet.unit
    let pet := { pet with unit := u, equip := Function.update pet.equip slot none }
    return (p.setPet i pet).setItem it.guid { it with slot := nullSlot }

/-- Removes an item for ever (source `Player::DestroyItem`). -/
def destroyItem (p : Player) (slot : Nat) : Except Fault Player := do
  match ← p.getItemByPos slot with
  | none => return p
  | some it =>
    let p := (p.setSlot slot none).setItem it.guid { it with slot := nullSlot }
    p.setState it.guid .removed

/-- Whether and where a new item can be stored (source `Player::CanStoreNewItem`, which asks
`CanStoreItem` for an object that it creates and deletes again). -/
def canStoreNewItem (objmgr : ObjectMgr) (p : Player) (item count : Nat) :
    Except InventoryChangeFailure Nat :=
  match createItem objmgr p item count with
  | none => .error .itemNotFound
  | some (it, _) => canStoreItem objmgr p it

/-- The player after asking whether a new item can be stored: a guid is used up when the entry has a
prototype. -/
def afterCanStoreNewItem (objmgr : ObjectMgr) (p : Player) (item : Nat) : Player :=
  if (objmgr.getItemPrototype item).isSome then { p with hiItemGuid := p.hiItemGuid + 1 } else p

/-- Creates an item and stores it (source `Player::StoreNewItem`). -/
def storeNewItem (objmgr : ObjectMgr) (p : Player) (pos item count : Nat) : Except Fault Player :=
  match createItem objmgr p item count with
  | none => .ok p
  | some (it, p) => p.storeItem pos it.guid

/-- Gives the player new items of a model, if they can be stored (source
`Player::AddNewInventoryItem`, whose result its callers ignore). -/
def addNewInventoryItem (objmgr : ObjectMgr) (p : Player) (modelid count : Nat) :
    Except Fault Player :=
  let itemid := (objmgr.getItemEntryByModelId modelid).1
  match canStoreNewItem objmgr p itemid count with
  | .ok dest => storeNewItem objmgr (afterCanStoreNewItem objmgr p itemid) dest itemid count
  | .error _ => .ok (afterCanStoreNewItem objmgr p itemid)

end Player

end Legacy.Inventory
