import Legacy.Inventory.Storage
import Legacy.Lib.Faulting

/-!
# The inventory tables

Model of the two tables that keep an inventory (`src/sql/characters.sql`), of the statements the server
sends to them, and of `Player::_LoadInventory`, `Player::_SaveInventory` (`src/src/game/Player.cpp`) and
`Item::SaveToDB` (`src/src/game/Item.cpp`). A table is a partial function of its primary key, and a
statement is executed as written. The login query is not a function: rows of one slot come in any order.
-/

namespace Legacy.Inventory
open Legacy.Lib

/-- The values of an item object that the column `data` keeps. -/
structure ItemData where
  entry : Nat
  count : Nat
  deriving DecidableEq, Repr

/-- A row of `character_inventory`, whose primary key is `item`. -/
structure InventoryRow where
  guid : Nat
  pet : Nat
  slot : Nat
  entry : Nat
  deriving DecidableEq, Repr

/-- A row of `item_instance`, whose primary key is `guid`; `data` is `none` where `LoadValues` fails. -/
structure InstanceRow where
  owner_guid : Nat
  data : Option ItemData
  deriving DecidableEq, Repr

/-- The two tables. -/
structure Database where
  characterInventory : Nat → Option InventoryRow
  itemInstance : Nat → Option InstanceRow

/-- A row of the login query (source `LoginQueryHolder::Initialize`). -/
structure LoginRow where
  data : Option ItemData
  pet : Nat
  slot : Nat
  item : Nat
  entry : Nat
  deriving DecidableEq, Repr

namespace Database

/-- Source `DELETE FROM character_inventory WHERE item = …`. -/
def deleteInventory (db : Database) (item : Nat) : Database :=
  { db with characterInventory := Function.update db.characterInventory item none }

/-- Source `INSERT INTO character_inventory …`, which fails on a key that exists. -/
def insertInventory (db : Database) (item : Nat) (row : InventoryRow) : Database :=
  if (db.characterInventory item).isSome then db
  else { db with characterInventory := Function.update db.characterInventory item (some row) }

/-- Source `UPDATE character_inventory SET … WHERE item = …`. -/
def updateInventory (db : Database) (item : Nat) (row : InventoryRow) : Database :=
  { db with
    characterInventory :=
      Function.update db.characterInventory item ((db.characterInventory item).map fun _ => row) }

/-- Source `DELETE FROM item_instance WHERE guid = …`. -/
def deleteInstance (db : Database) (guid : Nat) : Database :=
  { db with itemInstance := Function.update db.itemInstance guid none }

/-- Source `INSERT INTO item_instance …`, which fails on a key that exists. -/
def insertInstance (db : Database) (guid : Nat) (row : InstanceRow) : Database :=
  if (db.itemInstance guid).isSome then db
  else { db with itemInstance := Function.update db.itemInstance guid (some row) }

/-- Source `UPDATE item_instance SET … WHERE guid = …`. -/
def updateInstance (db : Database) (guid : Nat) (row : InstanceRow) : Database :=
  { db with
    itemInstance := Function.update db.itemInstance guid ((db.itemInstance guid).map fun _ => row) }

/-- The row of the login query for an item of a character. -/
def joined (db : Database) (guid item : Nat) : Option LoginRow :=
  match db.characterInventory item, db.itemInstance item with
  | some ci, some ii =>
    if ci.guid = guid then some ⟨ii.data, ci.pet, ci.slot, item, ci.entry⟩ else none
  | _, _ => none

/-- A result of the login query: the joined rows of the character, ordered by slot. -/
structure LoginResult (db : Database) (guid : Nat) (rows : List LoginRow) : Prop where
  nodup : (rows.map LoginRow.item).Nodup
  sorted : rows.Pairwise fun r r' => r.slot ≤ r'.slot
  mem : ∀ r, r ∈ rows ↔ db.joined guid r.item = some r

end Database

namespace Player

/-- The slot of a pet (source `Player::GetPetByGuid`). -/
def getPetByGuid (p : Player) (pet_guid : Nat) : Option Nat :=
  (List.range maxPetSlot).find? fun slot => (p.pets slot).map Pet.guid = some pet_guid

/-- What became of an item that was read: the object to mark as unchanged, or none when it cannot be
loaded. -/
abbrev Placement := Option Nat

/-- Stores a loaded item in the inventory or the bank; the object that is marked is the one
`StoreItem` returns. -/
def loadInto (p : Player) (dest : Nat) (g : Nat) : Except Fault (Player × Placement) := do
  let marked := (p.items dest).getD g
  let p ← p.storeItem dest g
  return (p, some marked)

/-- The placement of an item of the player (source `_LoadInventory`, branch without a pet): a slot
outside inventory, equipment and bank counts as a success although nothing is placed. -/
def loadItem (objmgr : ObjectMgr) (p : Player) (slot : Nat) (it : Item) :
    Except Fault (Player × Placement) :=
  if isInventoryPos slot then
    match canStoreItem objmgr p it with
    | .ok dest => p.loadInto dest it.guid
    | .error _ => .ok (p, none)
  else if isEquipmentPos slot then
    match canEquipItem objmgr p slot it false with
    | .ok dest => do
      let p ← p.visualizeItem dest it.guid
      return (p, some it.guid)
    | .error _ => .ok (p, none)
  else if isBankPos slot then p.loadInto slot it.guid
  else .ok (p, some it.guid)

/-- The placement of an item of a pet (source `_LoadInventory`, branch with a pet). -/
def loadPetItem (objmgr : ObjectMgr) (p : Player) (i : Nat) (slot : Nat) (it : Item) :
    Except Fault (Player × Placement) := do
  let pet ← match p.pets i with
    | some pet => .ok pet
    | none => .error .nullPointer
  if isEquipmentPos slot then
    match canPetEquipItem objmgr p pet slot it false with
    | .ok dest =>
      let p ← p.visualizePetItem i pet dest it.guid
      return (p, some it.guid)
    | .error _ => return (p, none)
  else return (p, none)

/-- The end of the loop's body: the item is as the database has it, or its inventory row is deleted and
the object stays behind. -/
def finishRow (p : Player) (db : Database) (item : Nat) : Placement → Except Fault (Player × Database)
  | some g => do
    let p ← p.setState g .unchanged
    return (p, db)
  | none => .ok (p, db.deleteInventory item)

/-- The object that is created for a row (source `Item::LoadFromDB`). -/
def loadedItem (p : Player) (row : LoginRow) (d : ItemData) : Item :=
  ⟨row.item, d.entry, d.count, p.guid, if row.pet = 0 then row.slot else 0, none⟩

/-- The body of the loop over the rows (source `Player::_LoadInventory`). -/
def loadRow (objmgr : ObjectMgr) (p : Player) (db : Database) (row : LoginRow) :
    Except Fault (Player × Database) :=
  -- rows of unknown or broken items are deleted, and so is the object
  let refused := (p, (db.deleteInventory row.item).deleteInstance row.item)
  match objmgr.getItemPrototype row.entry, row.data with
  | none, _ => .ok refused
  | some _, none => .ok refused
  | some _, some d => do
    let it := p.loadedItem row d
    if row.pet = 0 then
      let (p, placed) ← loadItem objmgr (p.newObject it) row.slot it
      p.finishRow db row.item placed
    else
      match p.getPetByGuid row.pet with
      | none => .ok refused
      | some i =>
        let (p, placed) ← loadPetItem objmgr (p.newObject it) i row.slot it
        p.finishRow db row.item placed

/-- The loop over the rows. -/
def loadRows (objmgr : ObjectMgr) (p : Player) (db : Database) :
    List LoginRow → Except Fault (Player × Database)
  | [] => .ok (p, db)
  | row :: rows => do
    let (p, db) ← loadRow objmgr p db row
    loadRows objmgr p db rows

/-- The rows of a login are loaded one after the other. -/
lemma loadRows_cons_ok {objmgr : ObjectMgr} {p : Player} {db : Database} {row : LoginRow} {rows : List LoginRow}
    {r : Player × Database} : loadRows objmgr p db (row :: rows) = .ok r ↔
      ∃ r₁, loadRow objmgr p db row = .ok r₁ ∧ loadRows objmgr r₁.1 r₁.2 rows = .ok r :=
  bind_eq_ok

/-- Loads the inventory (source `Player::_LoadInventory`): the update queue is blocked meanwhile, and
the equipment is applied at the end. -/
def loadInventory (objmgr : ObjectMgr) (p : Player) (db : Database) (rows : List LoginRow) :
    Except Fault (Player × Database) := do
  let (p, db) ← loadRows objmgr { p with itemUpdateQueueBlocked := true } db rows
  return (applyAllItemMods objmgr { p with itemUpdateQueueBlocked := false }, db)

/-- A login loads all rows while the queue is blocked. -/
lemma loadInventory_ok {objmgr : ObjectMgr} {p : Player} {db : Database} {rows : List LoginRow}
    {r : Player × Database} (e : loadInventory objmgr p db rows = .ok r) :
    ∃ r₁, loadRows objmgr { p with itemUpdateQueueBlocked := true } db rows = .ok r₁ ∧
      r = (applyAllItemMods objmgr { r₁.1 with itemUpdateQueueBlocked := false }, r₁.2) := by
  obtain ⟨r₁, loaded, done⟩ := bind_eq_ok.mp e
  exact ⟨r₁, loaded, (Except.ok.inj done).symm⟩

/-- The row of `item_instance` for an object. -/
def instanceRow (it : Item) : InstanceRow := ⟨it.owner, some ⟨it.entry, it.count⟩⟩

/-- The row of `character_inventory` for an object. -/
def inventoryRow (p : Player) (it : Item) : InventoryRow :=
  ⟨p.guid, it.container.getD 0, it.slot, it.entry⟩

/-- Saves an item object (source `Item::SaveToDB`). -/
def saveToDB (p : Player) (db : Database) (it : Item) : Except Fault (Player × Database) :=
  match (p.marks it.guid).uState with
  | .new => do
    let p ← p.setState it.guid .unchanged
    return (p, (db.deleteInstance it.guid).insertInstance it.guid (instanceRow it))
  | .changed => do
    let p ← p.setState it.guid .unchanged
    return (p, db.updateInstance it.guid (instanceRow it))
  | .removed => .ok (p.deleteItem it.guid, db.deleteInstance it.guid)
  | .unchanged => do
    let p ← p.setState it.guid .unchanged
    return (p, db)

/-- The statement for `character_inventory` (source `Player::_SaveInventory`). -/
def saveRow (p : Player) (db : Database) (it : Item) : Database :=
  match (p.marks it.guid).uState with
  | .new => db.insertInventory it.guid (p.inventoryRow it)
  | .changed => db.updateInventory it.guid (p.inventoryRow it)
  | .removed => db.deleteInventory it.guid
  | .unchanged => db

/-- One entry of the update queue: the object, its prototype and its container are read. -/
def saveEntry (objmgr : ObjectMgr) (p : Player) (db : Database) (g : Nat) :
    Except Fault (Player × Database) := do
  let it ← p.deref g
  if (objmgr.getItemPrototype it.entry).isNone then .error .nullPointer
  else
    match it.container with
    | none => p.saveToDB (p.saveRow db it) it
    | some c =>
      if (p.getPetByGuid c).isNone then .error (.stalePet c)
      else p.saveToDB (p.saveRow db it) it

/-- The loop over the update queue. -/
def saveQueue (objmgr : ObjectMgr) (p : Player) (db : Database) :
    List (Option Nat) → Except Fault (Player × Database)
  | [] => .ok (p, db)
  | none :: queue => saveQueue objmgr p db queue
  | some g :: queue => do
    let (p, db) ← saveEntry objmgr p db g
    saveQueue objmgr p db queue

/-- An entry of the queue is saved before the others. -/
lemma saveQueue_some_ok {objmgr : ObjectMgr} {p : Player} {db : Database} {g : Nat} {queue : List (Option Nat)}
    {r : Player × Database} : saveQueue objmgr p db (some g :: queue) = .ok r ↔
      ∃ r₁, saveEntry objmgr p db g = .ok r₁ ∧ saveQueue objmgr r₁.1 r₁.2 queue = .ok r :=
  bind_eq_ok

/-- Saves the inventory (source `Player::_SaveInventory`). -/
def saveInventory (objmgr : ObjectMgr) (p : Player) (db : Database) : Except Fault (Player × Database) := do
  let (p, db) ← saveQueue objmgr p db p.itemUpdateQueue
  return ({ p with itemUpdateQueue := [] }, db)

/-- A save writes the entries of the queue and empties it. -/
lemma saveInventory_ok {objmgr : ObjectMgr} {p : Player} {db : Database} {r : Player × Database}
    (e : saveInventory objmgr p db = .ok r) :
    ∃ r₁, saveQueue objmgr p db p.itemUpdateQueue = .ok r₁ ∧ r = ({ r₁.1 with itemUpdateQueue := [] }, r₁.2) := by
  obtain ⟨r₁, saved, done⟩ := bind_eq_ok.mp e
  exact ⟨r₁, saved, (Except.ok.inj done).symm⟩

end Player

namespace Database

/-- Only the rows of one item have changed. -/
def Off (db db' : Database) (item : Nat) : Prop :=
  ∀ g, g ≠ item → db'.characterInventory g = db.characterInventory g ∧ db'.itemInstance g = db.itemInstance g

variable {db db' db'' : Database} {item : Nat}

/-- Two steps that leave the other items alone. -/
lemma Off.trans (off : Off db db' item) (off' : Off db' db'' item) : Off db db'' item := by
  intro g ne
  exact ⟨(off' g ne).1.trans (off g ne).1, (off' g ne).2.trans (off g ne).2⟩

/-- No step at all. -/
lemma off_refl (db : Database) (item : Nat) : Off db db item := fun _ _ => ⟨rfl, rfl⟩

/-- A row of `character_inventory` is deleted. -/
lemma off_deleteInventory (db : Database) (item : Nat) : Off db (db.deleteInventory item) item :=
  fun _ ne => ⟨Function.update_of_ne ne .., rfl⟩

/-- A row of `character_inventory` is updated. -/
lemma off_updateInventory (db : Database) (item : Nat) (row : InventoryRow) :
    Off db (db.updateInventory item row) item :=
  fun _ ne => ⟨Function.update_of_ne ne .., rfl⟩

/-- A row of `character_inventory` is inserted. -/
lemma off_insertInventory (db : Database) (item : Nat) (row : InventoryRow) :
    Off db (db.insertInventory item row) item := by
  rw [insertInventory]
  split
  · exact off_refl db item
  · exact fun _ ne => ⟨Function.update_of_ne ne .., rfl⟩

/-- A row of `item_instance` is deleted. -/
lemma off_deleteInstance (db : Database) (item : Nat) : Off db (db.deleteInstance item) item :=
  fun _ ne => ⟨rfl, Function.update_of_ne ne ..⟩

/-- A row of `item_instance` is updated. -/
lemma off_updateInstance (db : Database) (item : Nat) (row : InstanceRow) :
    Off db (db.updateInstance item row) item :=
  fun _ ne => ⟨rfl, Function.update_of_ne ne ..⟩

/-- A row of `item_instance` is inserted. -/
lemma off_insertInstance (db : Database) (item : Nat) (row : InstanceRow) :
    Off db (db.insertInstance item row) item := by
  rw [insertInstance]
  split
  · exact off_refl db item
  · exact fun _ ne => ⟨rfl, Function.update_of_ne ne ..⟩

/-- What is written of a new item. -/
lemma off_inserted (db : Database) (item : Nat) (row : InventoryRow) (inst : InstanceRow) :
    Off db (((db.insertInventory item row).deleteInstance item).insertInstance item inst) item :=
  (off_insertInventory db item row).trans ((off_deleteInstance _ item).trans (off_insertInstance _ item inst))

/-- An instance row is written in place of what was there. -/
lemma replaceInstance_self (db : Database) (item : Nat) (row : InstanceRow) :
    ((db.deleteInstance item).insertInstance item row).itemInstance item = some row := by
  have gone : (db.deleteInstance item).itemInstance item = none := Function.update_self ..
  rw [insertInstance, gone]
  exact Function.update_self ..

/-- Replacing a row of one table leaves the other table alone. -/
lemma replaceInstance_inventory (db : Database) (item : Nat) (row : InstanceRow) :
    ((db.deleteInstance item).insertInstance item row).characterInventory = db.characterInventory := by
  rw [insertInstance]
  split
  · rfl
  · rfl

end Database

end Legacy.Inventory
