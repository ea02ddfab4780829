import Legacy.Lib.Word

/-!
# Item prototypes

Model of the item table (`src/src/game/ItemPrototype.h`) and of its two lookups in
`src/src/game/ObjectMgr.cpp`. The prototypes are loaded once from `item_template` into an index by entry; the table has
no key, and of several rows of an entry the index keeps the last one. The lookup by model goes through a cache that is
filled lazily and keyed by entry.
-/

namespace Legacy.Inventory
open Legacy.Lib

/-- One of the ten modifiers of a prototype (source `struct _ItemStat`). -/
structure ItemStat where
  itemStatType : Nat
  itemStatValue : Int
  deriving DecidableEq, Repr

/-- A row of `item_template` (source `struct ItemPrototype`). -/
structure ItemPrototype where
  itemId : Nat
  modelid : Nat
  typeDesc : String
  inventoryType : Nat
  requiredLevel : Nat
  equipmentSlot : Nat
  buyprice : Nat
  sellprice : Nat
  maxCount : Nat
  stackable : Nat
  itemState : List ItemStat
  deriving DecidableEq, Repr

/-- The part of the object manager the inventory uses: the item table and the lazily filled pairs of
entry and model (source `sItemStorage` and `m_itemPrototypeList`). -/
structure ObjectMgr where
  itemStorage : List ItemPrototype
  itemPrototypeList : List (Nat × Nat)
  deriving DecidableEq, Repr

namespace ObjectMgr

/-- The prototype of an entry (source `ObjectMgr::GetItemPrototype`). Entry 0 is never found (source
`SQLStorage::LookupEntry`). -/
def getItemPrototype (objmgr : ObjectMgr) (id : Nat) : Option ItemPrototype :=
  if id = 0 then none else objmgr.itemStorage.reverse.find? fun proto => proto.itemId = id

/-- The entry for a model, and the cache after the lookup: the cache is searched by entry, the
database by model (source `ObjectMgr::GetItemEntryByModelId`). -/
def getItemEntryByModelId (objmgr : ObjectMgr) (modelid : Nat) : Nat × ObjectMgr :=
  match objmgr.itemPrototypeList.find? fun e => e.1 = modelid with
  | some e => (e.1, objmgr)
  | none =>
    match objmgr.itemStorage.find? fun proto => proto.modelid = modelid with
    | none => (0, objmgr)
    | some proto =>
      -- inserting a pair whose entry is already a key has no effect
      if objmgr.itemPrototypeList.any fun e => e.1 = proto.itemId then (proto.itemId, objmgr)
      else
        (proto.itemId,
          { objmgr with itemPrototypeList := objmgr.itemPrototypeList ++ [(proto.itemId, modelid)] })

/-- A prototype is found under its own entry. -/
lemma itemId_of_getItemPrototype {objmgr : ObjectMgr} {id : Nat} {proto : ItemPrototype}
    (e : objmgr.getItemPrototype id = some proto) : proto.itemId = id := by
  rw [getItemPrototype] at e
  split_ifs at e
  have h := List.find?_some e
  simpa using h

/-- A prototype that is found is a row of the table. -/
lemma mem_of_getItemPrototype {objmgr : ObjectMgr} {id : Nat} {proto : ItemPrototype}
    (e : objmgr.getItemPrototype id = some proto) : proto ∈ objmgr.itemStorage := by
  rw [getItemPrototype] at e
  split_ifs at e
  exact List.mem_reverse.mp (List.mem_of_find?_eq_some e)

/-- The lookup by model leaves the item table as it is. -/
lemma getItemEntryByModelId_storage (objmgr : ObjectMgr) (modelid : Nat) :
    (objmgr.getItemEntryByModelId modelid).2.itemStorage = objmgr.itemStorage := by
  simp only [getItemEntryByModelId]
  split
  · rfl
  · split
    · rfl
    · split <;> rfl

end ObjectMgr

end Legacy.Inventory
