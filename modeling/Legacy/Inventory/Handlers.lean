import Legacy.Inventory.Storage
import Legacy.Wire.Requests

/-!
# The item packets

Model of the packet handlers that work on the inventory: `WorldSession::HandleUseItemOpcodes` and
`WorldSession::HandlePlayerTransacItemOpcodes` (`src/src/game/ItemHandler.cpp`) with
`Player::ConsumeInventoryItemFor`, and the pet look-ups of the spell add and pet release handlers. A
handler's result comes with the array accesses whose index was computed from a byte of the packet,
in the order they are made; an access beyond the array ends the run.
-/

namespace Legacy.Inventory
open Legacy.Lib

/-- Which byte of a packet an index comes from. -/
inductive Origin where
  | inventoryByte | equipmentByte | petByte
  deriving DecidableEq, Repr

/-- An access to an array at an index that a client chose. -/
structure Access where
  array : SlotArray
  index : Nat
  origin : Origin
  deriving DecidableEq, Repr

/-- A computation with the client-chosen accesses it makes. -/
structure Traced (α : Type) where
  accesses : List Access
  result : Except Fault α

namespace Traced

variable {α : Type}

/-- A computation without client-chosen accesses. -/
def run (result : Except Fault α) : Traced α := ⟨[], result⟩

/-- Makes an access and goes on, when the index lies inside the array. -/
def access (a : Access) (next : Traced α) : Traced α :=
  if a.index < a.array.size then ⟨a :: next.accesses, next.result⟩
  else ⟨[a], .error (.outOfBounds a.array a.index)⟩

end Traced

/-- The confirmations sent to the client (source packet `0x17`), named by their sub-opcode. -/
inductive Notice where
  /-- `0x09` -/
  | removed (slot amount : Nat)
  /-- `0x11` -/
  | equipped (slot : Nat)
  /-- `0x10` -/
  | unequipped (eqslot slot : Nat)
  /-- `0x0F` -/
  | consumed
  /-- `0x17` -/
  | petEquipped (target slot : Nat)
  /-- `0x16` -/
  | petUnequipped (target eqslot slot : Nat)
  deriving DecidableEq, Repr

/-- What a handler leaves behind: `finished` tells that it reached its end, where a battle counts the
packet as an action. -/
structure Outcome where
  player : Player
  notices : List Notice
  finished : Bool

/-- An early return. -/
def Outcome.stop (p : Player) : Outcome := ⟨p, [], false⟩

/-- A changed unsigned field: it is read, added to and clamped at zero as a signed number (source
`Object::ApplyModUInt32Value`). -/
def applyModUInt32Value (cur : Nat) (val : Int) (apply : Bool) : Nat :=
  (i32 (if apply then i32 cur + i32 val else i32 cur - i32 val)).toNat

/-- A clamped subtraction takes what it should from a field below the sign bit. -/
lemma applyModUInt32Value_take {cur n : Nat} (le : n ≤ cur) :
    applyModUInt32Value cur n false = cur - n ↔ cur < 2 ^ 31 + n := by
  simp only [applyModUInt32Value, i32, Bool.false_eq_true, if_false]
  omega

/-- The slot an inventory byte stands for (source `tmp_invslot + INVENTORY_SLOT_ITEM_START - 1`, cut
to a `uint8`). -/
def inventorySlot (tmp : Nat) : Nat := u8 (tmp + inventorySlotItemStart - 1)

/-- The index one below a byte that counts from one, cut to a `uint8`. -/
def oneBelow (tmp : Nat) : Nat := u8 (tmp + 2 ^ 8 - 1)

/-- Goods of a vendor (source `struct CreatureItem`). -/
structure CreatureItem where
  slot : Nat
  entry : Nat
  deriving DecidableEq, Repr

/-- The goods at a slot of a vendor's list (source `Creature::GetItem`). -/
def getGoods (m_vendor_items : List CreatureItem) (slot : Nat) : Option CreatureItem :=
  if m_vendor_items.length ≤ slot then none
  else m_vendor_items.find? fun i => i.slot = slot

namespace Player

/-- A pet that is known to be there. -/
def getPet (p : Player) (i : Nat) : Except Fault Pet :=
  match p.pets i with
  | some pet => .ok pet
  | none => .error .nullPointer

/-- Writes the new count of a stack, and destroys an empty one. -/
def shrink (p : Player) (slot : Nat) (it : Item) (count : Nat) : Except Fault Player :=
  let p := p.setItem it.guid { it with count := count }
  if count = 0 then p.destroyItem slot else p.setState it.guid .changed

/-- Case `0x03`: drop an item to the floor. -/
def handleDrop (p : Player) (tmp_invslot amount : Nat) : Traced Outcome :=
  let invslot := inventorySlot tmp_invslot
  .access ⟨.items, invslot, .inventoryByte⟩ <| .run do
    match ← p.getItemByPos invslot with
    | none => return .stop p
    | some it =>
      if it.count < amount then return .stop p
      else
        let p ← p.shrink invslot it (it.count - amount)
        return ⟨p, [.removed tmp_invslot amount], true⟩

/-- Swaps an item into an emptied equipment slot: what it replaces goes to the freed slot. -/
def swapOut (objmgr : ObjectMgr) (p : Player) (dest invslot : Nat) : Except Fault Player := do
  match ← p.getItemByPos dest with
  | none => return p
  | some it2 =>
    let p ← removeItem objmgr p dest
    p.storeItem invslot it2.guid

/-- Case `0x0B`: equip an item to the player. -/
def handleEquip (objmgr : ObjectMgr) (p : Player) (tmp_invslot : Nat) : Traced Outcome :=
  let invslot := inventorySlot tmp_invslot
  .access ⟨.items, invslot, .inventoryByte⟩ <| .run do
    match ← p.getItemByPos invslot with
    | none => return .stop p
    | some it =>
      match objmgr.getItemPrototype it.entry with
      | none => .error .nullPointer
      | some proto =>
        let slot := u8 proto.equipmentSlot
        if isEquipmentPos slot then
          match canEquipItem objmgr p slot it true with
          | .error _ => return .stop p
          | .ok dest =>
            let p ← removeItem objmgr p invslot
            let p ← swapOut objmgr p dest invslot
            let p ← p.equipItem dest it.guid
            let it ← p.deref it.guid
            let u := applyItemModsFor objmgr p.unit it true
            return ⟨{ p with unit := u.updateItemSet }, [.equipped tmp_invslot], true⟩
        else return .stop p

/-- Moves a worn item to the inventory when there is room, and nothing otherwise. -/
def storeUnequipped (objmgr : ObjectMgr) (p : Player) (eqslot : Nat) (it : Item) :
    Except Fault Player :=
  match canStoreItem objmgr p it with
  | .error _ => .ok p
  | .ok dest => do
    let p ← removeItem objmgr p eqslot
    p.storeItem dest it.guid

/-- Case `0x0C`: unequip an item of the player. The check of the item set and the confirmation follow
even when the item stays where it is. -/
def handleUnequip (objmgr : ObjectMgr) (p : Player) (tmp_eqslot tmp_invslot : Nat) :
    Traced Outcome :=
  let eqslot := oneBelow tmp_eqslot
  let invslot := inventorySlot tmp_invslot
  .access ⟨.items, eqslot, .equipmentByte⟩ <| .run do
    match ← p.getItemByPos eqslot with
    | none => return .stop p
    | some it =>
      -- source `CanUnequipItem`
      if isEquipmentPos eqslot && (objmgr.getItemPrototype it.entry).isNone then return .stop p
      else if isInventoryPos invslot then
        let p ← storeUnequipped objmgr p eqslot it
        return ⟨{ p with unit := p.unit.updateItemSet }, [.unequipped tmp_eqslot tmp_invslot], true⟩
      else return .stop p

/-- The rounded fourth root of a level (source `round(pow(level, 0.25))`): the number of half-integers
below it. -/
def roundRoot4 (level : Nat) : Nat :=
  ((List.range 4).filter fun k => (2 * k + 1) ^ 4 ≤ 16 * level).length

/-- Source `Unit::GetHPMax`. -/
def getHPMax (u : Unit) : Nat :=
  let level := u8 u.level
  let hpx := u16 u.hpx
  let hpx_mod := (u.mods .hpxMod % 2 ^ 16).toNat
  u16 (u16 (80 + level + u16 (hpx * (4 * roundRoot4 level))) + hpx_mod)

/-- Source `Unit::GetSPMax`, which leaves the modifier out. -/
def getSPMax (u : Unit) : Nat :=
  let level := u8 u.level
  let spx := u16 u.spx
  u16 (60 + level + u16 (spx * (2 * roundRoot4 level)))

/-- One step of the loop over the modifiers of a consumed prototype, on the consuming unit; the limits
are those of the player, and a missing pet is only noticed here. -/
def consumeStat (p : Player) (amount : Nat) (unit : Option Unit) (s : ItemStat) :
    Except Fault (Option Unit) :=
  if s.itemStatType = 15 then
    match unit with
    | none => .error .nullPointer
    | some u =>
      if getHPMax p.unit ≤ u.hp then .ok unit
      else .ok (some { u with hp := applyModUInt32Value u.hp (i32 (s.itemStatValue * amount)) true })
  else if s.itemStatType = 16 then
    match unit with
    | none => .error .nullPointer
    | some u =>
      if getSPMax p.unit ≤ u.sp then .ok unit
      else .ok (some { u with sp := applyModUInt32Value u.sp (i32 (s.itemStatValue * amount)) true })
  else .ok unit

/-- The consuming unit: the player, or a pet when there is one. -/
def consumer (p : Player) (target : Nat) : Option Unit :=
  if target = 0 then some p.unit else (p.pets (target - 1)).map Pet.unit

/-- The player after the consuming unit changed. -/
def setConsumer (p : Player) (target : Nat) (u : Unit) : Player :=
  if target = 0 then { p with unit := u }
  else
    let pet := (p.pets (target - 1)).map fun pet => { pet with unit := u }
    { p with pets := Function.update p.pets (target - 1) pet }

/-- The types of items that can be consumed (source `ConsumeInventoryItemFor`). -/
def isConsumable (proto : ItemPrototype) : Bool :=
  proto.typeDesc = "Food" || proto.typeDesc = "Medicine" || proto.typeDesc = "Power" ||
    proto.typeDesc = "RevivePill"

/-- The loop over the modifiers of a consumed prototype. -/
def consumeStats (p : Player) (amount : Nat) :
    List ItemStat → Option Unit → Except Fault (Option Unit)
  | [], unit => .ok unit
  | s :: ss, unit => do
    let unit ← p.consumeStat amount unit s
    p.consumeStats amount ss unit

/-- Consumes items of a stack; `none` when the call returns `false` (source
`Player::ConsumeInventoryItemFor`). -/
def consumeInventoryItemFor (objmgr : ObjectMgr) (p : Player) (target invslot amount : Nat) :
    Except Fault (Option Player) := do
  match ← p.getItemByPos invslot with
  | none => return none
  | some it =>
    if amount = 0 then return none
    else
      match objmgr.getItemPrototype it.entry with
      | none => return none
      | some proto =>
        if 4 < target then return none
        else if !isConsumable proto then return none
        else
          let unit ← p.consumeStats amount proto.itemState (p.consumer target)
          let p := match unit with
            | none => p
            | some u => p.setConsumer target u
          -- the difference is a `uint32`
          let p ← p.shrink invslot it (u32 (it.count + 2 ^ 32 - amount))
          return some p

/-- Case `0x0F`: consume items. -/
def handleConsume (objmgr : ObjectMgr) (p : Player) (tmp_invslot amount target : Nat) :
    Traced Outcome :=
  let invslot := inventorySlot tmp_invslot
  .access ⟨.items, invslot, .inventoryByte⟩ <| .run do
    match ← consumeInventoryItemFor objmgr p target invslot amount with
    | none => return ⟨p, [], true⟩
    | some p => return ⟨p, [.removed tmp_invslot amount, .consumed], true⟩

/-- Swaps an item off a pet: what it replaces goes to the freed slot of the player. -/
def petSwapOut (objmgr : ObjectMgr) (p : Player) (i dest invslot : Nat) : Except Fault Player := do
  let pet ← p.getPet i
  match ← p.getEquip pet dest with
  | none => return p
  | some it2 =>
    let p ← petRemoveItem objmgr p i pet dest
    p.storeItem invslot it2.guid

/-- Case `0x11` on a pet: equip an item to it. -/
def petEquipFrom (objmgr : ObjectMgr) (p : Player) (i : Nat) (pet : Pet) (invslot : Nat)
    (it : Item) (notice : Notice) : Except Fault Outcome :=
  match objmgr.getItemPrototype it.entry with
  | none => .error .nullPointer
  | some proto =>
    let slot := u8 proto.equipmentSlot
    if isEquipmentPos slot then
      match canPetEquipItem objmgr p pet slot it true with
      | .error _ => return .stop p
      | .ok dest => do
        let p ← removeItem objmgr p invslot
        let p ← petSwapOut objmgr p i dest invslot
        let pet ← p.getPet i
        let p ← p.petEquipItem i pet dest it.guid
        let it ← p.deref it.guid
        let pet ← p.getPet i
        return ⟨p.setPet i { pet with unit := applyItemModsFor objmgr pet.unit it true }, [notice],
          true⟩
    else return .stop p

/-- Case `0x11`: equip an item to a pet, which is looked up without a check of its number. -/
def handlePetEquip (objmgr : ObjectMgr) (p : Player) (target tmp_invslot : Nat) : Traced Outcome :=
  let invslot := inventorySlot tmp_invslot
  .access ⟨.items, invslot, .inventoryByte⟩ <|
    match p.getItemByPos invslot with
    | .error f => .run (.error f)
    | .ok none => .run (.ok (.stop p))
    | .ok (some it) =>
      if target = 0 then .run (.ok (.stop p))
      else
        .access ⟨.pets, oneBelow target, .petByte⟩ <|
          match p.pets (oneBelow target) with
          | none => .run (.ok (.stop p))
          | some pet =>
            .run (petEquipFrom objmgr p (oneBelow target) pet invslot it
              (.petEquipped target tmp_invslot))

/-- Moves an item of a pet to the inventory when there is room, and nothing otherwise. -/
def storePetUnequipped (objmgr : ObjectMgr) (p : Player) (i : Nat) (pet : Pet) (eqslot : Nat)
    (it : Item) : Except Fault Player :=
  match canStoreItem objmgr p it with
  | .error _ => .ok p
  | .ok dest => do
    let p ← petRemoveItem objmgr p i pet eqslot
    p.storeItem dest it.guid

/-- Case `0x12`: unequip an item of a pet; neither the pet's number nor the equipment slot is
checked. -/
def handlePetUnequip (objmgr : ObjectMgr) (p : Player) (target tmp_eqslot tmp_invslot : Nat) :
    Traced Outcome :=
  let eqslot := oneBelow tmp_eqslot
  let invslot := inventorySlot tmp_invslot
  if target = 0 then .run (.ok (.stop p))
  else
    .access ⟨.pets, oneBelow target, .petByte⟩ <|
      match p.pets (oneBelow target) with
      | none => .run (.ok (.stop p))
      | some pet =>
        .access ⟨.equip, eqslot, .equipmentByte⟩ <| .run do
          match ← p.getEquip pet eqslot with
          | none => return .stop p
          | some it =>
            -- source `CanPetUnequipItem`
            if isEquipmentPos eqslot && (objmgr.getItemPrototype it.entry).isNone then
              return .stop p
            else if isInventoryPos invslot then
              let p ← storePetUnequipped objmgr p (oneBelow target) pet eqslot it
              return ⟨p, [.petUnequipped target tmp_eqslot tmp_invslot], true⟩
            else return .stop p

/-- Source `WorldSession::HandleUseItemOpcodes`. -/
def handleUseItem (objmgr : ObjectMgr) (p : Player) : Wire.UseItemRequest → Traced Outcome
  | .take _ _ => .run (.ok ⟨p, [], true⟩)
  | .drop tmp_invslot amount => p.handleDrop tmp_invslot amount
  | .equip tmp_invslot => handleEquip objmgr p tmp_invslot
  | .unequip tmp_eqslot tmp_invslot => handleUnequip objmgr p tmp_eqslot tmp_invslot
  | .consume tmp_invslot amount target _ => handleConsume objmgr p tmp_invslot amount target
  | .petEquip target tmp_invslot => handlePetEquip objmgr p target tmp_invslot
  | .petUnequip target tmp_eqslot tmp_invslot =>
    handlePetUnequip objmgr p target tmp_eqslot tmp_invslot
  | .other => .run (.ok ⟨p, [], true⟩)

/-- Case `0x01`: buy from a vendor, whose goods are `none` when the player talks to nobody or may not
interact with the creature. -/
def handleBuy (objmgr : ObjectMgr) (p : Player) (vendor : Option (List CreatureItem))
    (vendor_slot buy_count : Nat) : Except Fault Player :=
  match vendor with
  | none => .ok p
  | some goods =>
    match getGoods goods vendor_slot with
    | none => .ok p
    | some citem =>
      match objmgr.getItemPrototype citem.entry with
      | none => .ok p
      | some proto =>
        let buy_price := u32 (proto.buyprice * buy_count)
        -- the guard compares the gold with the number of pieces, not with their price
        if p.gold < buy_count then .ok p
        else
          let p := { p with gold := applyModUInt32Value p.gold buy_price false }
          addNewInventoryItem objmgr p proto.modelid buy_count

/-- Case `0x02`: sell to a vendor. -/
def handleSell (objmgr : ObjectMgr) (p : Player) (player_slot sell_count : Nat) : Traced Player :=
  let inv_slot := inventorySlot player_slot
  .access ⟨.items, inv_slot, .inventoryByte⟩ <| .run do
    match ← p.getItemByPos inv_slot with
    | none => return p
    | some it =>
      match objmgr.getItemPrototype it.entry with
      | none => .error .nullPointer
      | some proto =>
        if it.count < sell_count then return p
        else
          let p := p.setItem it.guid { it with count := it.count - sell_count }
          let p ← if it.count - sell_count = 0 then do
              -- a new item is deleted here, and `RemoveItem` goes on reading it
              let p ← p.setState it.guid .removed
              removeItem objmgr p inv_slot
            else p.setState it.guid .changed
          return { p with
            gold := applyModUInt32Value p.gold (u32 (proto.sellprice * sell_count)) true }

/-- The unit a spell add packet names, where the pet is looked up without a check of its number
(source `WorldSession::HandlePlayerSpellAddOpcodes`). -/
def spellAddUnit (p : Player) (target petslot : Nat) : Traced (Option Unit) :=
  if target = 1 then .run (.ok (some p.unit))
  else if target = 2 then
    .access ⟨.pets, oneBelow petslot, .petByte⟩ <|
      .run (.ok ((p.pets (oneBelow petslot)).map Pet.unit))
  else .run (.ok none)

/-- Releases a pet (source `WorldSession::HandlePetReleaseOpcode` and `Player::ReleasePet`): the pet
object is deleted, the items it wears are not. -/
def handlePetRelease (p : Player) (subcmd petslot : Nat) : Traced Player :=
  if petslot = 0 ∨ maxPetSlot < petslot then .run (.ok p)
  else if subcmd = 0x02 then
    .access ⟨.pets, oneBelow petslot, .petByte⟩ <|
      .run (.ok { p with pets := Function.update p.pets (oneBelow petslot) none })
  else .run (.ok p)

end Player

end Legacy.Inventory
