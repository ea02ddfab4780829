import Legacy.Inventory.Handlers
import Legacy.Lib.Reach

/-!
# Editing the goods of a vendor

Model of the commands `.vendor add` and `.vendor del` (`src/src/game/Level2.cpp`) with the goods of a creature
(`src/src/game/Creature.h`, `Creature.cpp`) and the table `npc_vendor`. `stays_exact_iff` says which commands keep the
table and the goods in step: a deletion has to hit the last of the goods, since the statement that it sends reads
the deleted entry through a pointer to where the next one has moved.
-/

namespace Legacy.Inventory
open Legacy.Lib

/-- A row of `npc_vendor` for one vendor. -/
structure VendorRow where
  slot : Int
  item : Nat
  deriving DecidableEq, Repr

/-- The rows of one vendor; the item is part of the primary key. -/
structure NpcVendor where
  rows : List VendorRow
  key : (rows.map VendorRow.item).Nodup

namespace NpcVendor

/-- `INSERT INTO npc_vendor`; a second row for an item is refused -/
def insert (table : NpcVendor) (row : VendorRow) : NpcVendor :=
  if fresh : row.item ∈ table.rows.map VendorRow.item then table
  else ⟨row :: table.rows, List.nodup_cons.mpr ⟨by simpa using fresh, table.key⟩⟩

/-- `DELETE FROM npc_vendor WHERE item = .. AND slot = ..` -/
def delete (table : NpcVendor) (item : Nat) (slot : Int) : NpcVendor where
  rows := table.rows.filter fun row => ¬(row.item = item ∧ row.slot = slot)
  key := table.key.sublist (List.filter_sublist.map _)

end NpcVendor

/-- A vendor with its goods, beside the table and the item store. -/
structure VendorState where
  objmgr : ObjectMgr
  table : NpcVendor
  items : List CreatureItem
  itemsLoaded : Bool

/-- The commands on a vendor, with the slot that was typed. -/
inductive VendorCommand where
  | add (slot modelid : Nat)
  | del (slot : Nat)
  deriving DecidableEq, Repr

/-- source `MAX_VENDOR_ITEMS` -/
abbrev maxVendorItems : Nat := 255

/-- The goods of a slot and an entry, which the constructor cuts to a `uint8` and a `uint16`. -/
def creatureItem (slot : Int) (entry : Nat) : CreatureItem := ⟨(slot % 2 ^ 8).toNat, u16 entry⟩

/-- The row that the goods stand for. -/
def CreatureItem.row (i : CreatureItem) : VendorRow := ⟨i.slot, i.entry⟩

/-- source `Creature::FindItem` -/
def findGoods (items : List CreatureItem) (entry : Nat) : Option CreatureItem := items.find? fun i => i.entry = entry

/-- source `Creature::RemoveItem` -/
def removeGoods (items : List CreatureItem) (entry : Nat) : List CreatureItem := items.eraseP fun i => i.entry = entry

/-- What the pointer to some goods shows once they are removed: the goods that moved up, or the old ones at the
end. -/
def shownAfterRemove (items : List CreatureItem) (citem : CreatureItem) : CreatureItem :=
  (items[items.findIdx (fun i => i.slot = citem.slot) + 1]?).getD citem

/-- The loop of `Creature::LoadGoods`; the count of the goods is a `uint8`. -/
def loadRows (objmgr : ObjectMgr) : List VendorRow → List CreatureItem → List CreatureItem
  | [], items => items
  | row :: rows, items =>
    if maxVendorItems ≤ u8 items.length then items
    else if (objmgr.getItemPrototype row.item).isNone then loadRows objmgr rows items
    else loadRows objmgr rows (items ++ [creatureItem row.slot row.item])

namespace VendorState

/-- source `Creature::LoadGoods`; without a row the goods stay unloaded -/
def loadGoods (v : VendorState) : VendorState :=
  if v.itemsLoaded then v
  else if v.table.rows = [] then { v with items := [] }
  else { v with items := loadRows v.objmgr v.table.rows [], itemsLoaded := true }

/-- source `ChatHandler::HandleVendorAddItemCommand`; `none` is the read of the name of goods without a prototype -/
def handleAdd (v : VendorState) (slot modelid : Nat) : Option VendorState :=
  if slot = 0 ∨ 25 < slot then some v
  else
    let (entry, objmgr) := v.objmgr.getItemEntryByModelId modelid
    let v := { v with objmgr := objmgr }
    if (objmgr.getItemPrototype entry).isNone then some v
    else
      let v := v.loadGoods
      if (findGoods v.items (u16 entry)).isSome then some v
      else
        match getGoods v.items (slot - 1) with
        | some citem => (objmgr.getItemPrototype citem.entry).map fun _ => v
        | none =>
          some { v with
            table := v.table.insert ⟨(slot - 1 : Nat), entry⟩
            items := v.items ++ [creatureItem (slot - 1 : Nat) entry] }

/-- source `ChatHandler::HandleVendorDelItemCommand` -/
def handleDel (v : VendorState) (slot : Nat) : VendorState :=
  if slot = 0 ∨ 25 < slot then v
  else
    let v := v.loadGoods
    match getGoods v.items (slot - 1) with
    | none => v
    | some citem =>
      { v with
        items := removeGoods v.items (u16 citem.entry)
        table := v.table.delete (shownAfterRemove v.items citem).entry (slot - 1 : Nat) }

/-- What a command of the vendor tables does. -/
def step (v : VendorState) : VendorCommand → Option VendorState
  | .add slot modelid => v.handleAdd slot modelid
  | .del slot => some (v.handleDel slot)

/-- The rows of the vendor are its goods. -/
def SameGoods (v : VendorState) : Prop := ∀ row, row ∈ v.table.rows ↔ row ∈ v.items.map CreatureItem.row

/-- The goods of a slot are gone, from the table and from the vendor, and nothing else is. -/
def Removed (slot : Nat) (v v' : VendorState) : Prop :=
  (∀ row, row ∈ v'.table.rows ↔ row ∈ v.table.rows ∧ row.slot ≠ (slot - 1 : Nat)) ∧
    ∀ i, i ∈ v'.items ↔ i ∈ v.items ∧ i.slot ≠ slot - 1

/-- A command that leaves the table and the goods in step, and removes the goods of its slot if it is a deletion. -/
def Exact (v : VendorState) (c : VendorCommand) : Prop :=
  ∃ v', step v c = some v' ∧ SameGoods v' ∧ ∀ slot, c = .del slot → 1 ≤ slot → slot ≤ 25 → Removed slot v v'

/-- A new entry goes into the table. -/
def Inserts (v : VendorState) (slot entry : Nat) : Prop :=
  1 ≤ slot ∧ slot ≤ 25 ∧ v.objmgr.getItemPrototype entry ≠ none ∧ findGoods v.items (u16 entry) = none ∧
    getGoods v.items (slot - 1) = none

/-- What is inserted has an entry of 16 bits, and what is deleted is nothing or the last of the goods, in a slot
below their number that no other goods have. -/
def Fits (v : VendorState) : VendorCommand → Prop
  | .add slot modelid =>
    let entry := (v.objmgr.getItemEntryByModelId modelid).1
    v.Inserts slot entry → entry < 2 ^ 16
  | .del slot => 1 ≤ slot → slot ≤ 25 →
    (∀ i ∈ v.items, i.slot ≠ slot - 1) ∨
      slot ≤ v.items.length ∧ ∃ before last, v.items = before ++ [last] ∧ last.slot = slot - 1 ∧
        ∀ i ∈ before, i.slot ≠ slot - 1

end VendorState

/-- Every row can be loaded: its slot and its entry have the width of the goods, and the item is known. -/
def NpcVendor.Loads (table : NpcVendor) (objmgr : ObjectMgr) : Prop :=
  ∀ row ∈ table.rows, 0 ≤ row.slot ∧ row.slot < 2 ^ 8 ∧ row.item < 2 ^ 16 ∧ objmgr.getItemPrototype row.item ≠ none

/-- A vendor whose goods are loaded from the table (source, the constructor and `Creature::LoadGoods`). -/
def opened (objmgr : ObjectMgr) (table : NpcVendor) : VendorState :=
  VendorState.loadGoods ⟨objmgr, table, [], false⟩

/-- The goods of a row that can be loaded stand for it. -/
lemma row_creatureItem (row : VendorRow) (lo : 0 ≤ row.slot) (hi : row.slot < 2 ^ 8) (small : row.item < 2 ^ 16) :
    (creatureItem row.slot row.item).row = row := by
  have slot : ((row.slot % 2 ^ 8).toNat : Int) = row.slot := by omega
  have item : u16 row.item = row.item := Nat.mod_eq_of_lt small
  rw [creatureItem, CreatureItem.row, slot, item]

/-- Two goods with the same row are the same. -/
lemma row_injective : Function.Injective CreatureItem.row := by
  rintro ⟨slot, entry⟩ ⟨slot', entry'⟩ eq
  simpa [CreatureItem.row] using eq

/-- The loop loads every row, if there are not too many. -/
lemma loadRows_eq {objmgr : ObjectMgr} {rows : List VendorRow} {items : List CreatureItem}
    (known : ∀ row ∈ rows, objmgr.getItemPrototype row.item ≠ none)
    (few : items.length + rows.length ≤ maxVendorItems) :
    loadRows objmgr rows items = items ++ rows.map fun row => creatureItem row.slot row.item := by
  induction rows generalizing items with
  | nil => rw [loadRows, List.map_nil, List.append_nil]
  | cons row rows ih =>
    rw [List.length_cons] at few
    have room : ¬maxVendorItems ≤ u8 items.length := by
      rw [u8_of_lt (Nat.lt_of_le_of_lt (Nat.le_add_right ..) (Nat.lt_of_le_of_lt few (by decide)))]
      omega
    have found : ¬(objmgr.getItemPrototype row.item).isNone := by
      rw [Option.isNone_iff_eq_none]
      exact known row List.mem_cons_self
    rw [loadRows, if_neg room, if_neg found, ih (fun r mem => known r (List.mem_cons_of_mem _ mem))]
    · rw [List.append_assoc, List.map_cons, List.singleton_append]
    · rw [List.length_append, List.length_singleton]
      omega

/-- Where no two goods have one entry, removing an entry removes the goods that have it. -/
lemma mem_removeGoods {items : List CreatureItem} (key : (items.map CreatureItem.entry).Nodup) {citem i : CreatureItem}
    (mem : citem ∈ items) : i ∈ removeGoods items citem.entry ↔ i ∈ items ∧ i ≠ citem := by
  induction items with
  | nil => cases mem
  | cons a items ih =>
    obtain ⟨fresh, key⟩ := List.nodup_cons.mp key
    by_cases same : a.entry = citem.entry
    · have first : a = citem := by
        rcases List.mem_cons.mp mem with rfl | mem
        · rfl
        · exact absurd (List.mem_map_of_mem mem) (same ▸ fresh)
      subst first
      rw [removeGoods, List.eraseP_cons_of_pos (by simp)]
      constructor
      · intro kept
        refine ⟨List.mem_cons_of_mem _ kept, ?_⟩
        rintro rfl
        exact fresh (List.mem_map_of_mem kept)
      · rintro ⟨old, other⟩
        exact (List.mem_cons.mp old).resolve_left other
    · have rest : citem ∈ items := (List.mem_cons.mp mem).resolve_left fun eq => same (congrArg _ eq.symm)
      have tail := ih key rest
      rw [removeGoods] at tail
      rw [removeGoods, List.eraseP_cons_of_neg (by simpa using same), List.mem_cons, tail, List.mem_cons]
      constructor
      · rintro (rfl | ⟨kept, other⟩)
        · exact ⟨Or.inl rfl, fun eq => same (congrArg _ eq)⟩
        · exact ⟨Or.inr kept, other⟩
      · rintro ⟨rfl | kept, other⟩
        · exact Or.inl rfl
        · exact Or.inr ⟨kept, other⟩

/-- The pointer to the goods at some place of the list. -/
lemma shownAfterRemove_eq {before after : List CreatureItem} {citem : CreatureItem}
    (first : ∀ i ∈ before, i.slot ≠ citem.slot) :
    shownAfterRemove (before ++ citem :: after) citem = after.head?.getD citem := by
  have index : (before ++ citem :: after).findIdx (fun i => i.slot = citem.slot) = before.length := by
    rw [List.findIdx_append, List.findIdx_eq_length.mpr (fun i mem => by simpa using first i mem)]
    simp [List.findIdx_cons]
  rw [shownAfterRemove, index, List.getElem?_append_right (Nat.le_add_right ..), Nat.add_sub_cancel_left]
  cases after <;> rfl

/-- What `GetItem` finds is the first of the slot. -/
lemma getGoods_eq_some {items : List CreatureItem} {slot : Nat} {citem : CreatureItem}
    (found : getGoods items slot = some citem) : slot < items.length ∧ citem.slot = slot ∧
      ∃ before after, items = before ++ citem :: after ∧ ∀ i ∈ before, i.slot ≠ slot := by
  rw [getGoods] at found
  split at found
  · cases found
  · next below =>
    obtain ⟨slot_eq, before, after, eq, first⟩ := List.find?_eq_some_iff_append.mp found
    refine ⟨Nat.not_le.mp below, of_decide_eq_true slot_eq, before, after, eq, fun i mem => ?_⟩
    simpa using first i mem

/-- A slot below the number of goods that has none is the slot of none. -/
lemma getGoods_eq_none {items : List CreatureItem} {slot : Nat} (none : getGoods items slot = none)
    (below : slot < items.length) : ∀ i ∈ items, i.slot ≠ slot := by
  rw [getGoods, if_neg (Nat.not_le.mpr below), List.find?_eq_none] at none
  intro i mem
  simpa using none i mem

namespace VendorState

/-- The table and the goods are in step, and stay so when the goods are loaded again. -/
structure Mirrored (v : VendorState) : Prop where
  same : SameGoods v
  entries : (v.items.map CreatureItem.entry).Nodup
  loads : v.table.Loads v.objmgr
  unloaded : v.itemsLoaded = false →
    v.items = v.table.rows.map (fun row => creatureItem row.slot row.item) ∧ v.table.rows.length ≤ 1

variable {v v' : VendorState} {c : VendorCommand} {slot : Nat}

/-- The goods are those of the rows. -/
lemma Mirrored.mem_items (h : v.Mirrored) {i : CreatureItem} : i ∈ v.items ↔ i.row ∈ v.table.rows := by
  rw [h.same]
  exact (List.mem_map_of_injective row_injective).symm

/-- Loading the goods once more changes neither them nor the table. -/
lemma Mirrored.load (h : v.Mirrored) : v.loadGoods.Mirrored ∧ v.loadGoods.objmgr = v.objmgr ∧
    v.loadGoods.table = v.table ∧ v.loadGoods.items = v.items ∧
    (v.loadGoods.itemsLoaded = false → v.table.rows = []) := by
  rw [loadGoods]
  split
  · next loaded => exact ⟨h, rfl, rfl, rfl, fun fresh => absurd (fresh.symm.trans loaded) Bool.noConfusion⟩
  · next fresh =>
    obtain ⟨items, few⟩ := h.unloaded (by simpa using fresh)
    split
    · next none =>
      rw [none, List.map_nil] at items
      refine ⟨?_, rfl, rfl, items.symm, fun _ => none⟩
      have same : v = { v with items := [] } := by rw [← items]
      exact same ▸ h
    · have loaded : loadRows v.objmgr v.table.rows [] = v.items := by
        rw [items]
        exact loadRows_eq (fun row mem => (h.loads row mem).2.2.2) (Nat.le_trans (by simpa using few) (by decide))
      rw [loaded]
      exact ⟨⟨h.same, h.entries, h.loads, fun absent => absurd absent Bool.noConfusion⟩, rfl, rfl, rfl,
        fun absent => absurd absent Bool.noConfusion⟩

/-- An item without a row gets one. -/
lemma insert_rows {table : NpcVendor} {row : VendorRow} (fresh : row.item ∉ table.rows.map VendorRow.item) :
    (table.insert row).rows = row :: table.rows := by
  rw [NpcVendor.insert, dif_neg fresh]

/-- A deletion takes the rows of the item in the slot. -/
lemma mem_delete {table : NpcVendor} {item : Nat} {slot : Int} {r : VendorRow} :
    r ∈ (table.delete item slot).rows ↔ r ∈ table.rows ∧ ¬(r.item = item ∧ r.slot = slot) := by
  rw [NpcVendor.delete, List.mem_filter, decide_eq_true_iff]

/-- The lookup of a model keeps the prototypes. -/
lemma getItemPrototype_lookup (objmgr : ObjectMgr) (modelid entry : Nat) :
    (objmgr.getItemEntryByModelId modelid).2.getItemPrototype entry = objmgr.getItemPrototype entry := by
  rw [ObjectMgr.getItemPrototype, ObjectMgr.getItemEntryByModelId_storage]
  rfl

/-- The prototypes have no part in it. -/
lemma Mirrored.lookup (h : v.Mirrored) (modelid : Nat) :
    Mirrored { v with objmgr := (v.objmgr.getItemEntryByModelId modelid).2 } where
  same := h.same
  entries := h.entries
  loads row mem := by
    rw [getItemPrototype_lookup]
    exact h.loads row mem
  unloaded := h.unloaded

/-- The command `.vendor add` inserts its entry, or changes nothing but what was looked up and loaded. -/
lemma handleAdd_cases (h : v.Mirrored) (slot modelid : Nat) :
    (¬v.Inserts slot (v.objmgr.getItemEntryByModelId modelid).1 ∧
      ∃ v', v.handleAdd slot modelid = some v' ∧ v'.Mirrored ∧ v'.table = v.table ∧ v'.items = v.items) ∨
    (v.Inserts slot (v.objmgr.getItemEntryByModelId modelid).1 ∧
      ∃ v₁ : VendorState, (∀ entry, v₁.objmgr.getItemPrototype entry = v.objmgr.getItemPrototype entry) ∧
        (v₁.itemsLoaded = false → v.table.rows = []) ∧
        v.handleAdd slot modelid = some { v₁ with
          table := v.table.insert ⟨(slot - 1 : Nat), (v.objmgr.getItemEntryByModelId modelid).1⟩
          items := v.items ++ [creatureItem (slot - 1 : Nat) (v.objmgr.getItemEntryByModelId modelid).1] }) := by
  obtain ⟨mirrored, objmgr, table, items, unloaded⟩ := (h.lookup modelid).load
  rw [handleAdd]
  -- in the order of the source: the range, the model id, the goods of the entry, the goods in the slot
  split
  · next range =>
    exact Or.inl ⟨fun inserts => by have := inserts.1; have := inserts.2.1; omega, v, rfl, h, rfl, rfl⟩
  · next range =>
    simp only
    split
    · next unknown =>
      refine Or.inl ⟨fun inserts => ?_, _, rfl, h.lookup modelid, rfl, rfl⟩
      rw [Option.isNone_iff_eq_none, getItemPrototype_lookup] at unknown
      exact inserts.2.2.1 unknown
    · next known =>
      rw [Option.isNone_iff_eq_none, getItemPrototype_lookup] at known
      simp only [items]
      split
      · next has =>
        refine Or.inl ⟨fun inserts => ?_, _, rfl, mirrored, table, items⟩
        rw [inserts.2.2.2.1] at has
        cases has
      · next fresh =>
        have fresh : findGoods v.items _ = none := Option.not_isSome_iff_eq_none.mp fresh
        split
        · next citem found =>
          refine Or.inl ⟨fun inserts => ?_, ?_⟩
          · rw [inserts.2.2.2.2] at found
            cases found
          · obtain ⟨-, -, before, after, eq, -⟩ := getGoods_eq_some found
            have mem : citem ∈ v.items := by
              rw [eq]
              exact List.mem_append_right _ List.mem_cons_self
            have proto := (h.loads _ (h.mem_items.mp mem)).2.2.2
            obtain ⟨proto, some⟩ := Option.ne_none_iff_exists'.mp proto
            refine ⟨_, ?_, mirrored, table, items⟩
            rw [getItemPrototype_lookup]
            exact Option.map_eq_some_iff.mpr ⟨proto, some, rfl⟩
        · next free =>
          refine Or.inr ⟨⟨by omega, by omega, known, fresh, free⟩, _, fun entry => ?_, unloaded, ?_⟩
          · rw [objmgr]
            exact getItemPrototype_lookup ..
          · rw [table]

/-- An entry of 16 bits that no goods have can be inserted. -/
lemma Mirrored.inserted (h : v.Mirrored) {entry : Nat} (inserts : v.Inserts slot entry) (small : entry < 2 ^ 16)
    {v₁ : VendorState} (objmgr : ∀ entry, v₁.objmgr.getItemPrototype entry = v.objmgr.getItemPrototype entry)
    (unloaded : v₁.itemsLoaded = false → v.table.rows = []) :
    Mirrored { v₁ with
      table := v.table.insert ⟨(slot - 1 : Nat), entry⟩
      items := v.items ++ [creatureItem (slot - 1 : Nat) entry] } := by
  obtain ⟨lo, hi, known, absent, -⟩ := inserts
  have row : (creatureItem (slot - 1 : Nat) entry).row = ⟨(slot - 1 : Nat), entry⟩ :=
    row_creatureItem ⟨(slot - 1 : Nat), entry⟩ (Int.natCast_nonneg _) (by simp only; omega) small
  have cut : u16 entry = entry := Nat.mod_eq_of_lt small
  have others : ∀ i ∈ v.items, i.entry ≠ entry := by
    rw [findGoods, List.find?_eq_none, cut] at absent
    intro i mem
    simpa using absent i mem
  have fresh : entry ∉ v.table.rows.map VendorRow.item := by
    intro mem
    obtain ⟨r, old, eq⟩ := List.mem_map.mp mem
    obtain ⟨i, goods, rfl⟩ := List.mem_map.mp ((h.same r).mp old)
    exact others i goods eq
  refine ⟨fun r => ?same, ?entries, fun r mem => ?loads, fun first => ?unloaded⟩
  case same =>
    rw [insert_rows fresh, List.mem_cons, h.same, List.map_append, List.mem_append, List.map_singleton,
      List.mem_singleton, row]
    exact or_comm
  case entries =>
    rw [List.map_append]
    refine List.nodup_append.mpr ⟨h.entries, List.pairwise_singleton _ _, fun e mem e' mem' eq => ?_⟩
    obtain ⟨i, goods, rfl⟩ := List.mem_map.mp mem
    rw [List.map_singleton, List.mem_singleton] at mem'
    exact others i goods (eq.trans (mem'.trans cut))
  case loads =>
    rw [objmgr]
    rw [insert_rows fresh] at mem
    rcases List.mem_cons.mp mem with rfl | mem
    · exact ⟨Int.natCast_nonneg _, by simp only; omega, small, known⟩
    · exact h.loads r mem
  case unloaded =>
    have empty := unloaded first
    have none : v.items = [] := by
      refine List.eq_nil_iff_forall_not_mem.mpr fun i mem => ?_
      have row := h.mem_items.mp mem
      rw [empty] at row
      cases row
    rw [insert_rows fresh, empty, none]
    exact ⟨rfl, Nat.le_refl 1⟩

/-- An entry that does not fit is cut in the goods only. -/
lemma Mirrored.not_same (h : v.Mirrored) {entry : Nat} (inserts : v.Inserts slot entry) (big : ¬entry < 2 ^ 16)
    (v₁ : VendorState) : ¬SameGoods { v₁ with
      table := v.table.insert ⟨(slot - 1 : Nat), entry⟩
      items := v.items ++ [creatureItem (slot - 1 : Nat) entry] } := by
  obtain ⟨-, -, -, absent, -⟩ := inserts
  intro same
  have goods : creatureItem (slot - 1 : Nat) entry ∈ v.items ++ [creatureItem (slot - 1 : Nat) entry] :=
    List.mem_append_right _ List.mem_cons_self
  have row := (same _).mpr (List.mem_map_of_mem goods)
  have fresh : entry ∉ v.table.rows.map VendorRow.item := by
    intro mem
    obtain ⟨r, old, rfl⟩ := List.mem_map.mp mem
    exact big (h.loads r old).2.2.1
  rw [insert_rows fresh] at row
  -- the goods have the cut entry, and no row has it
  rcases List.mem_cons.mp row with new | old
  · have eq : u16 entry = entry := congrArg VendorRow.item new
    exact big (eq ▸ Nat.mod_lt _ (by decide))
  · obtain ⟨i, mem, eq⟩ := List.mem_map.mp ((h.same _).mp old)
    rw [findGoods, List.find?_eq_none] at absent
    exact absent i mem (decide_eq_true (congrArg VendorRow.item eq))

/-- The goods of a list that starts with those of another slot, without the ones that were found. -/
lemma mem_rest {before after : List CreatureItem} {citem i : CreatureItem} (h : v.Mirrored)
    (eq : v.items = before ++ citem :: after) :
    i ∈ removeGoods v.items (u16 citem.entry) ↔ i ∈ v.items ∧ i ≠ citem := by
  have mem : citem ∈ v.items := by
    rw [eq]
    exact List.mem_append_right _ List.mem_cons_self
  have cut : u16 citem.entry = citem.entry := Nat.mod_eq_of_lt (h.loads _ (h.mem_items.mp mem)).2.2.1
  rw [cut]
  exact mem_removeGoods h.entries mem

/-- The deletion of the last goods. -/
lemma Mirrored.deleted (h : v.Mirrored) {before : List CreatureItem} {citem : CreatureItem}
    (eq : v.items = before ++ [citem]) (first : ∀ i ∈ before, i.slot ≠ citem.slot) {v₁ : VendorState}
    (load : v₁.Mirrored ∧ v₁.objmgr = v.objmgr ∧ v₁.table = v.table ∧ v₁.items = v.items ∧
      (v₁.itemsLoaded = false → v.table.rows = [])) :
    Mirrored { v₁ with
      items := removeGoods v.items (u16 citem.entry)
      table := v.table.delete citem.entry citem.slot } := by
  obtain ⟨-, objmgr, -, -, unloaded⟩ := load
  have rest (i : CreatureItem) := mem_rest (i := i) h eq
  refine ⟨fun r => ?same, ?entries, fun r mem => ?loads, fun fresh => ?unloaded⟩
  case same =>
    rw [mem_delete, h.same]
    constructor
    · rintro ⟨old, other⟩
      obtain ⟨i, mem, rfl⟩ := List.mem_map.mp old
      refine List.mem_map_of_mem ((rest i).mpr ⟨mem, ?_⟩)
      rintro rfl
      exact other ⟨rfl, rfl⟩
    · intro kept
      obtain ⟨i, mem, rfl⟩ := List.mem_map.mp kept
      obtain ⟨old, other⟩ := (rest i).mp mem
      refine ⟨List.mem_map_of_mem old, fun same => other (row_injective ?_)⟩
      rw [CreatureItem.row, CreatureItem.row, VendorRow.mk.injEq]
      exact ⟨same.2, same.1⟩
  case entries => exact h.entries.sublist ((List.eraseP_sublist).map _)
  case loads =>
    rw [objmgr]
    exact h.loads r (mem_delete.mp mem).1
  case unloaded =>
    have mem := h.mem_items.mp (eq ▸ List.mem_append_right _ List.mem_cons_self : citem ∈ v.items)
    rw [unloaded fresh] at mem
    cases mem

/-- A deletion before the end takes away the goods, and leaves their row. -/
lemma Mirrored.not_deleted (h : v.Mirrored) {before after : List CreatureItem} {citem next : CreatureItem}
    (eq : v.items = before ++ citem :: next :: after) (slot : Int) (v₁ : VendorState) :
    ¬SameGoods { v₁ with
      items := removeGoods v.items (u16 citem.entry)
      table := v.table.delete next.entry slot } := by
  intro same
  have mem : citem ∈ v.items := by
    rw [eq]
    exact List.mem_append_right _ List.mem_cons_self
  have other : citem.entry ≠ next.entry := by
    have key := h.entries
    rw [eq, List.map_append, List.map_cons, List.map_cons] at key
    have fresh := (List.nodup_cons.mp (List.nodup_append.mp key).2.1).1
    intro both
    exact fresh (both ▸ List.mem_cons_self)
  have row : citem.row ∈ (v.table.delete next.entry slot).rows :=
    mem_delete.mpr ⟨h.mem_items.mp mem, fun both => other both.1⟩
  obtain ⟨i, kept, eq'⟩ := List.mem_map.mp ((same _).mp row)
  exact ((mem_rest h eq).mp kept).2 (row_injective eq')

/-- The condition on a command is exact, and keeps the table and the goods in step. -/
def Settled (v : VendorState) (c : VendorCommand) : Prop :=
  (Exact v c ↔ Fits v c) ∧ (Fits v c → ∀ v', step v c = some v' → v'.Mirrored)

/-- Every new entry is settled. -/
lemma Mirrored.settled_add (h : v.Mirrored) (slot modelid : Nat) : Settled v (.add slot modelid) := by
  obtain ⟨refused, v₁, eq, mirrored, -⟩ | ⟨inserts, v₁, objmgr, unloaded, eq⟩ := handleAdd_cases h slot modelid
  · refine ⟨iff_of_true ⟨v₁, eq, mirrored.same, fun _ other => ?_⟩ fun inserts => absurd inserts refused,
      fun _ v' next => ?_⟩
    · cases other
    · cases eq.symm.trans next
      exact mirrored
  · refine ⟨⟨fun exact _ => ?_, fun fits => ?_⟩, fun fits v' next => ?_⟩
    · obtain ⟨v', next, same, -⟩ := exact
      cases eq.symm.trans next
      by_contra big
      exact h.not_same inserts big v₁ same
    · exact ⟨_, eq, (h.inserted inserts (fits inserts) objmgr unloaded).same, fun _ other => by cases other⟩
    · cases eq.symm.trans next
      exact h.inserted inserts (fits inserts) objmgr unloaded

/-- A slot out of range is refused. -/
lemma Mirrored.settled_refused (h : v.Mirrored) (range : slot = 0 ∨ 25 < slot) : Settled v (.del slot) := by
  have eq : step v (.del slot) = some v := by rw [step, handleDel, if_pos range]
  refine ⟨iff_of_true ⟨v, eq, h.same, fun slot' same lo hi => ?_⟩ fun lo hi => ?_, fun _ v' next => ?_⟩
  · cases same
    omega
  · omega
  · cases eq.symm.trans next
    exact h

/-- A deletion that finds no goods changes nothing. -/
lemma Mirrored.settled_none (h : v.Mirrored) (range : ¬(slot = 0 ∨ 25 < slot))
    (found : getGoods v.items (slot - 1) = none) :
    Settled v (.del slot) := by
  obtain ⟨mirrored, -, table, items, -⟩ := h.load
  have eq : step v (.del slot) = some v.loadGoods := by
    rw [step, handleDel, if_neg range]
    simp only [items, found]
  refine ⟨⟨fun exact lo hi => Or.inl fun i mem => ?_, fun fits => ?_⟩, fun _ v' next => ?_⟩
  · obtain ⟨v', next, -, removed⟩ := exact
    cases eq.symm.trans next
    have gone := (removed slot rfl lo hi).2 i
    rw [items] at gone
    exact (gone.mp mem).2
  · have empty : ∀ i ∈ v.items, i.slot ≠ slot - 1 := by
      rcases fits (by omega) (by omega) with empty | ⟨below, -⟩
      · exact empty
      · exact getGoods_eq_none found (by omega)
    refine ⟨_, eq, mirrored.same, fun slot' same _ _ => ?_⟩
    cases same
    refine ⟨fun row => ?_, fun i => ?_⟩
    · rw [table]
      refine (and_iff_left_of_imp fun mem => ?_).symm
      obtain ⟨i, goods, rfl⟩ := List.mem_map.mp ((h.same row).mp mem)
      exact fun same => empty i goods (Int.ofNat.inj same)
    · rw [items]
      exact (and_iff_left_of_imp fun mem => empty i mem).symm
  · cases eq.symm.trans next
    exact mirrored

/-- A deletion that finds goods removes their entry, and the row of what the pointer shows then. -/
lemma Mirrored.handleDel_some (h : v.Mirrored) (range : ¬(slot = 0 ∨ 25 < slot)) {before after : List CreatureItem}
    {citem : CreatureItem} (found : getGoods v.items (slot - 1) = some citem) (at_ : citem.slot = slot - 1)
    (split : v.items = before ++ citem :: after) (first : ∀ i ∈ before, i.slot ≠ slot - 1) :
    step v (.del slot) = some { v.loadGoods with
      items := removeGoods v.items (u16 citem.entry)
      table := v.table.delete (after.head?.getD citem).entry citem.slot } := by
  obtain ⟨-, -, table, items, -⟩ := h.load
  have shown : shownAfterRemove v.items citem = after.head?.getD citem := by
    rw [split]
    exact shownAfterRemove_eq fun i mem => at_ ▸ first i mem
  rw [step, handleDel, if_neg range]
  simp only [items, found, shown, table, at_]

/-- The last goods are removed with their row. -/
lemma Mirrored.settled_last (h : v.Mirrored) (range : ¬(slot = 0 ∨ 25 < slot)) {before : List CreatureItem}
    {citem : CreatureItem} (found : getGoods v.items (slot - 1) = some citem) (at_ : citem.slot = slot - 1)
    (split : v.items = before ++ [citem]) (first : ∀ i ∈ before, i.slot ≠ slot - 1) : Settled v (.del slot) := by
  have eq := h.handleDel_some range found at_ split first
  have mirrored := h.deleted split (at_ ▸ first) h.load
  have gone (i : CreatureItem) : i ∈ removeGoods v.items (u16 citem.entry) ↔ i ∈ v.items ∧ i.slot ≠ slot - 1 := by
    rw [mem_rest h split]
    refine and_congr_right fun mem => ⟨fun other => ?_, fun other same => ?_⟩
    · rw [split] at mem
      rcases List.mem_append.mp mem with old | last
      · exact first i old
      · exact absurd (List.mem_singleton.mp last) other
    · exact other (same ▸ at_)
  have below := (getGoods_eq_some found).1
  refine ⟨iff_of_true ⟨_, eq, mirrored.same, fun slot' same _ _ => ?_⟩ fun _ _ => ?_, fun _ v' next => ?_⟩
  · cases same
    refine ⟨fun row => ?_, gone⟩
    refine (mirrored.same row).trans ?_
    rw [h.same]
    constructor
    · intro kept
      obtain ⟨i, mem, rfl⟩ := List.mem_map.mp kept
      obtain ⟨old, other⟩ := (gone i).mp mem
      exact ⟨List.mem_map_of_mem old, fun same => other (Int.ofNat.inj same)⟩
    · rintro ⟨old, other⟩
      obtain ⟨i, mem, rfl⟩ := List.mem_map.mp old
      exact List.mem_map_of_mem ((gone i).mpr ⟨mem, fun same => other (congrArg Nat.cast same)⟩)
  · exact Or.inr ⟨by omega, before, citem, split, at_, first⟩
  · cases eq.symm.trans next
    exact mirrored

/-- Goods with others behind them are not removed from the table. -/
lemma Mirrored.settled_middle (h : v.Mirrored) (range : ¬(slot = 0 ∨ 25 < slot)) {before after : List CreatureItem}
    {citem b : CreatureItem} (found : getGoods v.items (slot - 1) = some citem) (at_ : citem.slot = slot - 1)
    (split : v.items = before ++ citem :: b :: after) (first : ∀ i ∈ before, i.slot ≠ slot - 1) :
    Settled v (.del slot) := by
  have eq := h.handleDel_some range found at_ split first
  have unfit : ¬Fits v (.del slot) := by
    intro fits
    rcases fits (by omega) (by omega) with empty | ⟨-, before', last, split', -, first'⟩
    · refine empty citem ?_ at_
      rw [split]
      exact List.mem_append_right _ List.mem_cons_self
    · refine first' citem ?_ at_
      have init := congrArg List.dropLast (split'.symm.trans split)
      rw [List.dropLast_concat, List.dropLast_append_cons, List.dropLast_cons_cons] at init
      rw [init]
      exact List.mem_append_right _ List.mem_cons_self
  refine ⟨iff_of_false (fun exact => ?_) unfit, fun fits => absurd fits unfit⟩
  obtain ⟨v', next, same, -⟩ := exact
  cases eq.symm.trans next
  exact h.not_deleted split _ _ same

/-- Every command is settled where the table and the goods are in step. -/
lemma Mirrored.settled (h : v.Mirrored) (c : VendorCommand) : Settled v c := by
  cases c with
  | add slot modelid => exact h.settled_add slot modelid
  | del slot =>
    by_cases range : slot = 0 ∨ 25 < slot
    · exact h.settled_refused range
    · cases found : getGoods v.items (slot - 1) with
      | none => exact h.settled_none range found
      | some citem =>
        obtain ⟨-, at_, before, after, split, first⟩ := getGoods_eq_some found
        cases after with
        | nil => exact h.settled_last range found at_ split first
        | cons b after => exact h.settled_middle range found at_ split first

/-- The goods that are loaded from a table are in step with it. -/
lemma mirrored_opened {objmgr : ObjectMgr} {table : NpcVendor} (loads : table.Loads objmgr)
    (few : table.rows.length ≤ maxVendorItems) : (opened objmgr table).Mirrored := by
  have rows : table.rows.map (fun row => (creatureItem row.slot row.item).row) = table.rows := by
    refine (List.map_congr_left fun row mem => ?_).trans (List.map_id _)
    obtain ⟨lo, hi, small, -⟩ := loads row mem
    exact row_creatureItem row lo hi small
  rw [opened, loadGoods, if_neg Bool.false_ne_true]
  split
  · next none =>
    simp only at none
    refine ⟨fun row => ?_, List.nodup_nil, loads, fun _ => ?_⟩
    · simp only [none, List.map_nil]
    · simp only [none, List.map_nil, List.length_nil, Nat.zero_le, and_self]
  · have goods : loadRows objmgr table.rows [] = table.rows.map fun row => creatureItem row.slot row.item :=
      loadRows_eq (fun row mem => (loads row mem).2.2.2) (by simpa using few)
    refine ⟨fun row => ?_, ?_, loads, fun absent => absurd absent Bool.noConfusion⟩
    · rw [goods, List.map_map]
      exact iff_of_eq (congrArg (row ∈ ·) rows.symm)
    · rw [goods, List.map_map]
      have key := table.key
      rw [← rows, List.map_map] at key
      exact key

/-- Every command of a run on a vendor whose goods were loaded leaves the table and the goods in step, and every
deletion removes the goods of its slot from both, exactly if each command fits where it is given. -/
theorem stays_exact_iff {objmgr : ObjectMgr} {table : NpcVendor} (loads : table.Loads objmgr)
    (few : table.rows.length ≤ maxVendorItems) (commands : List VendorCommand) :
    Along step Exact (opened objmgr table) commands ↔ Along step Fits (opened objmgr table) commands :=
  along_congr (mirrored_opened loads few) (fun h => (h.settled _).1) (fun h fits next => (h.settled _).2 fits _ next)
    commands

/-- Two kinds of medicine. -/
def medicines : ObjectMgr :=
  ⟨[⟨10, 7, "Salve", 0, 0, 0, 3, 1, 0, 50, []⟩, ⟨11, 8, "Potion", 0, 0, 0, 3, 1, 0, 50, []⟩], []⟩

/-- A table with a row for each of them. -/
def shelf : NpcVendor := ⟨[⟨0, 10⟩, ⟨1, 11⟩], by decide⟩

/-- The shelf of the examples loads its medicines. -/
lemma loads_shelf : shelf.Loads medicines := by
  intro row mem
  rcases List.mem_cons.mp mem with rfl | mem
  · decide
  · rw [List.mem_singleton.mp mem]
    decide

/-- The last goods are deleted and added again. -/
theorem exact_shelf : Along step Exact (opened medicines shelf) [.del 2, .add 2 8] := by
  refine (stays_exact_iff loads_shelf (by decide) _).mpr
    ⟨fun _ _ => ?_, fun v next => ⟨fun _ => ?_, fun _ _ => trivial⟩⟩
  · exact Or.inr ⟨by decide, [⟨0, 10⟩], ⟨1, 11⟩, rfl, rfl, by decide⟩
  · cases next
    decide

/-- The deletion of the first of two goods leaves its row in the table. -/
theorem not_exact_shelf :
    ¬∀ (objmgr : ObjectMgr) (table : NpcVendor), table.Loads objmgr → table.rows.length ≤ maxVendorItems →
      ∀ commands, Along step Exact (opened objmgr table) commands := by
  intro exact
  obtain ⟨v, next, same, -⟩ := (exact medicines shelf loads_shelf (by decide) [.del 1]).1
  cases next
  exact absurd ((same ⟨0, 10⟩).mp (by decide)) (by decide)

end VendorState

end Legacy.Inventory
