import Legacy.Inventory.Vendor

/-!
# Loading what was saved

`Player::_LoadInventory` chooses the slots of the inventory anew: a row comes to the first stack that takes
it, or to the first free slot. `loadInventory_restores_iff` gives the exact condition on the rows under which
a login puts every item back into its slot. The rows before a row describe what has been loaded
(`Reloaded`), so that the checks of the loader are conditions on the rows.
-/

namespace Legacy.Inventory
open Legacy.Lib

namespace LoginRow

/-- The pieces of a row. -/
def count (row : LoginRow) : Nat := row.data.elim 0 ItemData.count

/-- The place that a row names. -/
def place (p : Player) (row : LoginRow) : Option Loc :=
  if row.pet = 0 then some (.slot row.slot)
  else (p.getPetByGuid row.pet).map fun i => .worn i row.slot

/-- The pieces of an entry that the rows put into slots of the player. -/
def carried (rows : List LoginRow) (entry : Nat) : Nat :=
  ((rows.filter fun row => row.pet = 0 ∧ row.entry = entry).map count).sum

variable {before : List LoginRow} {row : LoginRow} {e : Nat}

/-- What is carried with one more row. -/
lemma carried_concat : carried (before ++ [row]) e = carried before e + carried [row] e := by
  rw [carried, carried, carried, List.filter_append, List.map_append, List.sum_append]

/-- A row of the player carries its pieces of its own entry. -/
lemma carried_own (own : row.pet = 0) : carried [row] e = if row.entry = e then row.count else 0 := by
  simp only [carried, List.filter_cons, own, true_and, decide_eq_true_eq, List.filter_nil]
  split
  · rw [List.map_singleton, List.sum_singleton]
  · rfl

/-- What a pet wears is not carried. -/
lemma carried_worn (worn : row.pet ≠ 0) : carried [row] e = 0 := by
  simp only [carried, List.filter_cons, worn, false_and, decide_false, Bool.false_eq_true, if_false, List.filter_nil,
    List.map_nil, List.sum_nil]

end LoginRow

/-- The row's item is where the row says, with its guid, entry and count. -/
def Player.Restored (p p' : Player) (row : LoginRow) : Prop :=
  ∃ l it, row.place p = some l ∧ p'.itemIn l = some it ∧ it.guid = row.item ∧
    row.data = some ⟨it.entry, it.count⟩

/-- No row before it names the same place. -/
def PlaceFree (before : List LoginRow) (row : LoginRow) : Prop :=
  ∀ r ∈ before, r.pet = row.pet → r.slot ≠ row.slot

/-- The limit on similar items has room for the row. -/
def UnderLimit (proto : ItemPrototype) (before : List LoginRow) (row : LoginRow) : Prop :=
  proto.maxCount = 0 ∨ u32 (LoginRow.carried before row.entry + row.count) ≤ proto.maxCount

/-- The first place that the loader finds is the slot of the row: no stack before it takes its pieces, and
the slots before its own are filled. -/
structure BagFits (proto : ItemPrototype) (before : List LoginRow) (row : LoginRow) : Prop where
  lo : inventorySlotItemStart ≤ row.slot
  hi : row.slot < inventorySlotItemEnd
  alone : 1 < proto.stackable → ∀ r ∈ before, r.pet = 0 → r.slot ∈ Player.inventorySlots → r.entry = row.entry →
    proto.stackable < u32 (r.count + row.count)
  filled : ∀ i, inventorySlotItemStart ≤ i → i < row.slot → ∃ r ∈ before, r.pet = 0 ∧ r.slot = i

/-- A unit can wear the item of the row. -/
def WearFits (u : Unit) (proto : ItemPrototype) (row : LoginRow) : Prop :=
  Player.slotOfInventoryType proto.inventoryType = some row.slot ∧ proto.requiredLevel ≤ u.level

/-- A row that comes to its place after the rows before it. -/
inductive RowFits (objmgr : ObjectMgr) (p : Player) (before : List LoginRow) (row : LoginRow) : Prop
  | bag {proto : ItemPrototype} (known : objmgr.getItemPrototype row.entry = some proto) (data : row.data.isSome)
      (own : row.pet = 0) (free : PlaceFree before row) (limit : UnderLimit proto before row)
      (fits : BagFits proto before row)
  | worn {proto : ItemPrototype} (known : objmgr.getItemPrototype row.entry = some proto) (data : row.data.isSome)
      (own : row.pet = 0) (free : PlaceFree before row) (limit : UnderLimit proto before row)
      (fits : WearFits p.unit proto row)
  | bank {proto : ItemPrototype} (known : objmgr.getItemPrototype row.entry = some proto) (data : row.data.isSome)
      (own : row.pet = 0) (free : PlaceFree before row) (pos : Player.isBankPos row.slot)
  | petWorn {proto : ItemPrototype} {i : Nat} {pet : Pet} (known : objmgr.getItemPrototype row.entry = some proto)
      (data : row.data.isSome) (worn : row.pet ≠ 0) (found : p.getPetByGuid row.pet = some i)
      (epet : p.pets i = some pet) (free : PlaceFree before row) (limit : UnderLimit proto before row)
      (fits : WearFits pet.unit proto row)

/-- Every row comes to its place after those before it. -/
def Fitting (objmgr : ObjectMgr) (p : Player) : List LoginRow → List LoginRow → Prop
  | _, [] => True
  | before, row :: rows => RowFits objmgr p before row ∧ Fitting objmgr p (before ++ [row]) rows

namespace Player

/-- The slots that count for the limit on similar items. -/
def countedSlots : List Nat := List.range inventorySlotItemEnd ++ List.range' bankSlotItemStart 50

/-- No slot is counted twice. -/
lemma countedSlots_nodup : countedSlots.Nodup := by
  refine List.nodup_append.mpr ⟨List.nodup_range, List.nodup_range', fun i mem j mem' eq => ?_⟩
  have lt := List.mem_range.mp mem
  have le := (List.mem_range'_1.mp mem').1
  simp only [inventorySlotItemEnd, bankSlotItemStart] at lt le
  omega

/-- The counted slots are those below the end of the bag, and the bank. -/
lemma mem_countedSlots {i : Nat} :
    i ∈ countedSlots ↔ i < inventorySlotItemEnd ∨ bankSlotItemStart ≤ i ∧ i < bankSlotItemEnd := by
  rw [countedSlots, List.mem_append, List.mem_range, List.mem_range'_1]

variable {objmgr : ObjectMgr} {p q : Player} {it : Item}

/-- The sum of the counts is cut to its width, when the object itself is in no slot. -/
lemma countIn_eq (slots : List Nat) (entry g : Nat) (apart : ∀ i it, p.itemAt i = some it → it.guid ≠ g) :
    p.countIn slots entry g = u32 (total slots fun i => weight entry (p.itemAt i)) := by
  rw [countIn, foldl_u32 _ slots (by decide), Nat.zero_add]
  intro sum lt i
  cases at_ : p.itemAt i with
  | none => exact (u32_of_lt lt).symm
  | some it =>
    simp only [weight]
    split
    · next both => rw [if_pos both.2]
    · next either =>
      rw [if_neg fun same => either ⟨apart i it at_, same⟩]
      exact (u32_of_lt lt).symm

/-- The limit on similar items, by the counts of all slots. -/
lemma canTakeMoreSimilarItems_iff {proto : ItemPrototype}
    (apart : ∀ i it', p.itemAt i = some it' → it'.guid ≠ it.guid) :
    p.canTakeMoreSimilarItems proto it = true ↔ proto.maxCount = 0 ∨
      u32 (total countedSlots (fun i => weight proto.itemId (p.itemAt i)) + it.count) ≤ proto.maxCount := by
  rw [canTakeMoreSimilarItems]
  split
  · next zero => exact iff_of_true rfl (Or.inl zero)
  · next limit =>
    simp only [getItemCount, getBankItemCount, countIn_eq _ _ _ apart, countedSlots, total_append,
      Bool.not_eq_true', decide_eq_false_iff_not, Nat.not_lt, limit, false_or, u32_u32_add, u32_add_u32]

/-- No stack is found when every one of the entry is too full. -/
lemma findStack_none_iff {entry count stackable : Nat} :
    p.findStack entry count stackable = none ↔ ∀ i ∈ inventorySlots, ∀ it2, p.itemAt i = some it2 →
      it2.entry = entry → stackable < u32 (it2.count + count) := by
  rw [findStack, List.find?_eq_none]
  refine forall₂_congr fun i _ => ?_
  cases p.itemAt i with
  | none => simp
  | some it2 => simp

/-- The free slot that is found is the first one. -/
lemma findFree_iff {slot : Nat} : p.findFree = some slot ↔
    p.items slot = none ∧ slot ∈ inventorySlots ∧
      ∀ i, inventorySlotItemStart ≤ i → i < slot → p.items i ≠ none := by
  rw [findFree, inventorySlots, List.find?_range'_eq_some]
  simp only [Option.isNone_iff_eq_none, Bool.not_eq_true', Option.isNone_eq_false_iff,
    Option.isSome_iff_ne_none]

/-- An item goes to an empty slot when no stack takes it. -/
lemma canStoreItem_free_iff {slot : Nat} : canStoreItem objmgr p it = .ok slot ∧ p.items slot = none ↔
    ∃ proto, objmgr.getItemPrototype it.entry = some proto ∧ p.canTakeMoreSimilarItems proto it = true ∧
      (1 < proto.stackable → p.findStack it.entry it.count proto.stackable = none) ∧ p.findFree = some slot := by
  rw [canStoreItem_ok_iff]
  constructor
  · intro stored
    obtain ⟨⟨proto, known, limit, ⟨-, found⟩ | ⟨alone, found⟩⟩, free⟩ := stored
    · obtain ⟨-, -, it2, at2, -⟩ := findStack_some found
      rw [itemAt, free] at at2
      cases at2
    · exact ⟨proto, known, limit, alone, found⟩
  · intro fits
    obtain ⟨proto, known, limit, alone, found⟩ := fits
    exact ⟨⟨proto, known, limit, .inr ⟨alone, found⟩⟩, (findFree_iff.mp found).1⟩

/-- An item is worn where its type wants it. -/
lemma canWearItem_iff {u : Unit} {worn : Nat → Option Nat} {slot : Nat} :
    canWearItem objmgr p u worn slot it false = .ok slot ↔
      ∃ proto, objmgr.getItemPrototype it.entry = some proto ∧ p.canTakeMoreSimilarItems proto it = true ∧
        worn slot = none ∧ slotOfInventoryType proto.inventoryType = some slot ∧ proto.requiredLevel ≤ u.level := by
  constructor
  · intro can
    obtain ⟨-, free, proto, known, type, level⟩ := canWearItem_ok can
    refine ⟨proto, known, ?_, free.resolve_left Bool.false_ne_true, type, level⟩
    rw [canWearItem, known] at can
    simp only at can
    split at can
    · cases can
    · next limit => simpa using limit
  · intro fits
    obtain ⟨proto, known, limit, free, type, level⟩ := fits
    rw [canWearItem, known]
    simp only [limit, Bool.not_true, Bool.false_eq_true, if_false, findEquipSlot, free, Option.isNone_none,
      Bool.or_true, if_true, type, if_neg (Nat.not_lt.mpr level)]

/-- The rows before have come to their places, and there is nothing else. -/
structure Reloaded (p q : Player) (before : List LoginRow) : Prop where
  unit : q.unit = p.unit
  pets : ∀ i, (q.pets i).map (fun pet => (pet.guid, pet.unit)) = (p.pets i).map fun pet => (pet.guid, pet.unit)
  restored : ∀ row ∈ before, Restored p q row
  only : ∀ l g, q.holds l = some g → ∃ row ∈ before, row.place p = some l
  counted : ∀ entry,
    (total countedSlots fun i => weight entry (q.itemAt i)) = LoginRow.carried before entry
  coherent : ∀ row ∈ before, ∀ d, row.data = some d → d.entry = row.entry

variable {before : List LoginRow} {row : LoginRow} {l : Loc}

/-- The pets are found as before the load. -/
lemma Reloaded.getPetByGuid (re : Reloaded p q before) (guid : Nat) : q.getPetByGuid guid = p.getPetByGuid guid := by
  have same : ∀ i, (q.pets i).map Pet.guid = (p.pets i).map Pet.guid := by
    intro i
    have both := congrArg (Option.map Prod.fst) (re.pets i)
    rw [Option.map_map, Option.map_map] at both
    exact both
  rw [Player.getPetByGuid, Player.getPetByGuid]
  simp only [same]

/-- The pets are those of before, but for what they wear. -/
lemma Reloaded.pet (re : Reloaded p q before) {i : Nat} {pet : Pet} (epet : p.pets i = some pet) :
    ∃ pet', q.pets i = some pet' ∧ pet'.guid = pet.guid ∧ pet'.unit = pet.unit := by
  have both := re.pets i
  rw [epet] at both
  obtain ⟨pet', epet', eq⟩ := Option.map_eq_some_iff.mp both
  exact ⟨pet', epet', congrArg Prod.fst eq, congrArg Prod.snd eq⟩

/-- Two rows name one place when they name the same slot of the player or of a pet. -/
lemma place_eq_iff {r : LoginRow} (at_ : row.place p = some l) :
    r.place p = some l ↔ r.pet = row.pet ∧ r.slot = row.slot := by
  constructor
  · intro at'
    rw [LoginRow.place] at at_ at'
    split at at_
    · next own =>
      cases at_
      split at at'
      · next own' => exact ⟨own'.trans own.symm, Loc.slot.inj (Option.some.inj at')⟩
      · obtain ⟨i, -, eq⟩ := Option.map_eq_some_iff.mp at'
        cases eq
    · obtain ⟨i, found, eq⟩ := Option.map_eq_some_iff.mp at_
      cases eq
      split at at'
      · cases at'
      · obtain ⟨j, found', eq⟩ := Option.map_eq_some_iff.mp at'
        obtain ⟨rfl, slot⟩ := Loc.worn.inj eq
        obtain ⟨-, pet, epet, guid⟩ := getPetByGuid_some found
        obtain ⟨-, pet', epet', guid'⟩ := getPetByGuid_some found'
        cases epet.symm.trans epet'
        exact ⟨guid'.symm.trans guid, slot⟩
  · intro ⟨pet, slot⟩
    rw [← at_, LoginRow.place, LoginRow.place, pet, slot]

/-- A row that was restored has its place filled. -/
lemma Restored.holds (restored : Restored p q row) (at_ : row.place p = some l) : (q.holds l).isSome := by
  obtain ⟨l', it, at', there, -⟩ := restored
  cases at_.symm.trans at'
  obtain ⟨g, held, -⟩ := Option.bind_eq_some_iff.mp there
  exact Option.isSome_of_eq_some held

/-- A place is free while no row before has it. -/
lemma Reloaded.free_iff (re : Reloaded p q before) (at_ : row.place p = some l) :
    q.holds l = none ↔ PlaceFree before row := by
  constructor
  · intro free r mem pet slot
    have there := (re.restored r mem).holds ((place_eq_iff at_).mpr ⟨pet, slot⟩)
    rw [free] at there
    cases there
  · intro free
    cases held : q.holds l with
    | none => rfl
    | some g =>
      obtain ⟨r, mem, at'⟩ := re.only l g held
      obtain ⟨pet, slot⟩ := (place_eq_iff at_).mp at'
      exact absurd slot (free r mem pet)

/-- A row of the player has a slot. -/
lemma place_own (own : row.pet = 0) : row.place p = some (.slot row.slot) := if_pos own

/-- A row of a pet has a slot of that pet. -/
lemma place_worn {i : Nat} (worn : row.pet ≠ 0) (found : p.getPetByGuid row.pet = some i) :
    row.place p = some (.worn i row.slot) := by
  rw [LoginRow.place, if_neg worn, found]
  rfl

/-- A row that names a slot of the player is the player's, and names the slot. -/
lemma place_eq_slot {i : Nat} (at_ : row.place p = some (.slot i)) : row.pet = 0 ∧ row.slot = i := by
  rw [LoginRow.place] at at_
  split at at_
  · next own =>
    cases at_
    exact ⟨own, rfl⟩
  · obtain ⟨j, -, eq⟩ := Option.map_eq_some_iff.mp at_
    cases eq

/-- The items in the slots of the player are those of its rows. -/
lemma Reloaded.itemAt_some (re : Reloaded p q before) {i : Nat} {it : Item} (at_ : q.itemAt i = some it) :
    ∃ r ∈ before, r.pet = 0 ∧ r.slot = i ∧ it.entry = r.entry ∧ it.count = r.count := by
  obtain ⟨g, held, live⟩ := Option.bind_eq_some_iff.mp at_
  obtain ⟨r, mem, place⟩ := re.only (.slot i) g held
  obtain ⟨l, it', at', there, -, data⟩ := re.restored r mem
  cases place.symm.trans at'
  cases at_.symm.trans there
  obtain ⟨own, slot⟩ := place_eq_slot place
  refine ⟨r, mem, own, slot, re.coherent r mem _ data, ?_⟩
  rw [LoginRow.count, data]
  rfl

/-- A row that was loaded has its item in its slot. -/
lemma Reloaded.itemAt_row (re : Reloaded p q before) (mem : row ∈ before) (own : row.pet = 0) :
    ∃ it, q.itemAt row.slot = some it ∧ it.entry = row.entry ∧ it.count = row.count := by
  obtain ⟨l, it, at', there, -, data⟩ := re.restored row mem
  cases (place_own own).symm.trans at'
  refine ⟨it, there, re.coherent row mem _ data, ?_⟩
  rw [LoginRow.count, data]
  rfl

section Checks

variable {d : ItemData} (h : q.Stored objmgr) (re : Reloaded p q before) (fl : q.Floating row.item)
  (data : row.data = some d) (entry : d.entry = row.entry)

include h re fl data

/-- The limit on similar items, by the rows before. -/
lemma Reloaded.limit_iff {proto : ItemPrototype} (known : objmgr.getItemPrototype row.entry = some proto) :
    (q.newObject (q.loadedItem row d)).canTakeMoreSimilarItems proto (q.loadedItem row d) = true ↔
      UnderLimit proto before row := by
  have same : ∀ i, (q.newObject (q.loadedItem row d)).itemAt i = q.itemAt i := newObject_itemAt fl
  have apart : ∀ i it', (q.newObject (q.loadedItem row d)).itemAt i = some it' →
      it'.guid ≠ (q.loadedItem row d).guid := by
    intro i it' at_ eq
    rw [same] at at_
    have held := (h.items_of_itemAt at_).1
    rw [eq] at held
    exact fl (.slot i) held
  rw [canTakeMoreSimilarItems_iff apart]
  simp only [same]
  rw [re.counted, ObjectMgr.itemId_of_getItemPrototype known, UnderLimit, LoginRow.count, data]
  rfl

include entry

/-- An inventory row comes to its slot when the rows before it fit. -/
lemma Reloaded.bag_iff (own : row.pet = 0) :
    (canStoreItem objmgr (q.newObject (q.loadedItem row d)) (q.loadedItem row d) = .ok row.slot ∧
      q.items row.slot = none) ↔
        ∃ proto, objmgr.getItemPrototype row.entry = some proto ∧ UnderLimit proto before row ∧
          PlaceFree before row ∧ BagFits proto before row := by
  have same : ∀ i, (q.newObject (q.loadedItem row d)).itemAt i = q.itemAt i := newObject_itemAt fl
  have count : d.count = row.count := by
    rw [LoginRow.count, data]
    rfl
  have ofEntry : (q.loadedItem row d).entry = row.entry := entry
  have filled : ∀ i, (q.newObject (q.loadedItem row d)).items i ≠ none ↔ ∃ r ∈ before, r.pet = 0 ∧ r.slot = i := by
    intro i
    constructor
    · intro full
      obtain ⟨g, held⟩ := Option.ne_none_iff_exists'.mp full
      obtain ⟨it, at_, -⟩ := h.itemAt_of_items held
      obtain ⟨r, mem, pet, slot, -⟩ := re.itemAt_some at_
      exact ⟨r, mem, pet, slot⟩
    · intro named free
      obtain ⟨r, mem, pet, slot⟩ := named
      obtain ⟨it, at_, -⟩ := re.itemAt_row mem pet
      rw [itemAt, slot] at at_
      rw [show q.items i = none from free] at at_
      cases at_
  have free := re.free_iff (place_own (p := p) own)
  rw [show q.items row.slot = (q.newObject (q.loadedItem row d)).items row.slot from rfl, canStoreItem_free_iff,
    ofEntry]
  refine exists_congr fun proto => and_congr_right fun known => ?_
  rw [re.limit_iff h fl data known, findStack_none_iff, findFree_iff, mem_inventorySlots]
  refine and_congr_right fun _ => ?_
  constructor
  · intro found
    obtain ⟨alone, empty, ⟨lo, hi⟩, full⟩ := found
    refine ⟨free.mp empty, lo, hi, fun more r mem pet slot eq => ?_, fun i lo lt => (filled i).mp (full i lo lt)⟩
    obtain ⟨it2, at2, entry2, count2⟩ := re.itemAt_row mem pet
    rw [← count2, ← count]
    exact alone more r.slot slot it2 ((same _).trans at2) (entry2.trans eq)
  · intro fitting
    obtain ⟨place, fits⟩ := fitting
    refine ⟨fun more i mem it2 at2 eq => ?_, free.mpr place, ⟨fits.lo, fits.hi⟩,
      fun i lo lt => (filled i).mpr (fits.filled i lo lt)⟩
    obtain ⟨r, mem', pet, slot, entry2, count2⟩ := re.itemAt_some ((same i).symm.trans at2)
    rw [count2, show (q.loadedItem row d).count = row.count from count]
    exact fits.alone more r mem' pet (slot ▸ mem) (entry2.symm.trans eq)

/-- An item is worn when the rows before it fit. -/
lemma Reloaded.wear_iff {u : Unit} {worn : Nat → Option Nat} :
    canWearItem objmgr (q.newObject (q.loadedItem row d)) u worn row.slot (q.loadedItem row d) false =
        .ok row.slot ↔
      ∃ proto, objmgr.getItemPrototype row.entry = some proto ∧ UnderLimit proto before row ∧
        worn row.slot = none ∧ WearFits u proto row := by
  have ofEntry : (q.loadedItem row d).entry = row.entry := entry
  rw [canWearItem_iff, ofEntry]
  refine exists_congr fun proto => and_congr_right fun known => ?_
  rw [re.limit_iff h fl data known]
  rfl

end Checks

section Rows

variable {d : ItemData} {proto : ItemPrototype} {db : Database} (h : q.Stored objmgr) (fl : q.Floating row.item)
  (le : row.item ≤ q.hiItemGuid) (known : objmgr.getItemPrototype row.entry = some proto)
  (data : row.data = some d)

include h fl le in
/-- A new object is stored in an empty slot. -/
lemma loadInto_free {slot : Nat} (lt : slot < playerSlotsCount) (free : q.items slot = none) :
    (q.newObject (q.loadedItem row d)).loadInto slot row.item =
      .ok ((q.newObject (q.loadedItem row d)).put slot row.item (q.loadedItem row d), some row.item) := by
  have fl' : q.Floating (q.loadedItem row d).guid := fl
  have st := h.newObject fl' le rfl
  have live := loadedItem_live q row d
  have free' : (q.newObject (q.loadedItem row d)).items slot = none := free
  rw [loadInto, st.storeItem_free lt live free', free']
  rfl

/-- An item that was put into its slot is marked as unchanged. -/
lemma finishRow_put (q : Player) (slot g : Nat) (it : Item) (item : Nat) :
    (q.put slot g it).finishRow db item (some g) = .ok ((q.put slot g it).markUnchanged g, db) := by
  rw [finishRow, setState_unchanged (put_heap_self ..)]
  rfl

/-- The player with the row's item in its slot. -/
def shelved (q : Player) (row : LoginRow) (d : ItemData) : Player :=
  ((q.newObject (q.loadedItem row d)).put row.slot row.item (q.loadedItem row d)).markUnchanged row.item

include h fl le known data

/-- An own row that comes to its slot. -/
lemma loadRow_shelved (own : row.pet = 0) (lt : row.slot < playerSlotsCount) (free : q.items row.slot = none)
    (goal : isInventoryPos row.slot ∧
        canStoreItem objmgr (q.newObject (q.loadedItem row d)) (q.loadedItem row d) = .ok row.slot ∨
      isInventoryPos row.slot = false ∧ isEquipmentPos row.slot ∧
        canEquipItem objmgr (q.newObject (q.loadedItem row d)) row.slot (q.loadedItem row d) false = .ok row.slot ∨
      isInventoryPos row.slot = false ∧ isEquipmentPos row.slot = false ∧ isBankPos row.slot) :
    loadRow objmgr q db row = .ok (q.shelved row d, db) := by
  have into := loadInto_free (d := d) h fl le lt free
  have finish := @finishRow_put db (q.newObject (q.loadedItem row d)) row.slot row.item (q.loadedItem row d) row.item
  have guid : (q.loadedItem row d).guid = row.item := rfl
  rw [loadRow_own db known data own, loadItem]
  rcases goal with ⟨pos, can⟩ | ⟨pos, pos', can⟩ | ⟨pos, pos', bank⟩
  · simp only [pos, if_true, can, guid, into, bind, Except.bind]
    exact finish
  · have fl' : q.Floating (q.loadedItem row d).guid := fl
    have live := loadedItem_live q row d
    simp only [pos, pos', Bool.false_eq_true, if_true, if_false, can, guid, visualizeItem_eq lt live, bind,
      Except.bind, pure, Except.pure]
    exact finish
  · simp only [pos, pos', Bool.false_eq_true, if_true, if_false, bank, guid, into, bind, Except.bind]
    exact finish

omit h fl le in
/-- A row that a pet wears. -/
lemma loadRow_worn {i : Nat} {pet : Pet} (worn : row.pet ≠ 0) (found : q.getPetByGuid row.pet = some i)
    (epet : q.pets i = some pet)
    (can : canPetEquipItem objmgr (q.newObject (q.loadedItem row d)) pet row.slot (q.loadedItem row d) false =
      .ok row.slot) :
    loadRow objmgr q db row = .ok (((q.newObject (q.loadedItem row d)).wear i pet row.slot row.item
      (q.loadedItem row d)).markUnchanged row.item, db) := by
  have live := loadedItem_live q row d
  have epet' : (q.newObject (q.loadedItem row d)).pets i = some pet := epet
  have guid : (q.loadedItem row d).guid = row.item := rfl
  obtain ⟨-, free, proto', -, type, -⟩ := canWearItem_ok can
  have lt := slotOfInventoryType_lt type
  have pos : isEquipmentPos row.slot = true := decide_eq_true lt
  rw [loadRow_pet db known data worn found, loadPetItem]
  simp only [epet', pos, if_true, can, guid, visualizePetItem_eq lt (free.resolve_left Bool.false_ne_true) live, bind,
    Except.bind, pure, Except.pure, finishRow, setState_unchanged (wear_heap_self ..)]

omit h fl le in
/-- A row of a pet that cannot wear its item leaves the places as they are. -/
lemma loadRow_unworn {i : Nat} {pet : Pet} {r : Player × Database} (worn : row.pet ≠ 0)
    (found : q.getPetByGuid row.pet = some i) (epet : q.pets i = some pet)
    (can : canPetEquipItem objmgr (q.newObject (q.loadedItem row d)) pet row.slot (q.loadedItem row d) false ≠
      .ok row.slot) (e : loadRow objmgr q db row = .ok r) : ∀ l, r.1.holds l = q.holds l := by
  have epet' : (q.newObject (q.loadedItem row d)).pets i = some pet := epet
  rw [loadRow_pet db known data worn found, loadPetItem] at e
  simp only [epet', bind, Except.bind] at e
  split at e
  · cases e
  · next res ran =>
    split at ran
    · split at ran
      · next dest ok =>
        obtain ⟨rfl, -⟩ := canWearItem_ok ok
        exact absurd ok can
      · cases ran
        cases e
        exact fun l => rfl
    · cases ran
      cases e
      exact fun l => rfl

end Rows

/-- Another row has come to its place. -/
lemma Reloaded.snoc {q' : Player} {d : ItemData} {it : Item} (re : Reloaded p q before)
    (fl : q.Floating row.item) (at_ : row.place p = some l) (free : q.holds l = none) (data : row.data = some d)
    (entry : d.entry = row.entry) (counts : row.pet = 0 → row.slot ∈ countedSlots)
    (unit : q'.unit = q.unit)
    (pets : ∀ i, (q'.pets i).map (fun pet => (pet.guid, pet.unit)) = (q.pets i).map fun pet => (pet.guid, pet.unit))
    (here : q'.itemIn l = some it) (guid : it.guid = row.item) (same : d = ⟨it.entry, it.count⟩)
    (holds : ∀ l', l' ≠ l → q'.holds l' = q.holds l') (heap : ∀ g, g ≠ row.item → q'.heap g = q.heap g) :
    Reloaded p q' (before ++ [row]) := by
  have off : ∀ l', l' ≠ l → q'.itemIn l' = q.itemIn l' := by
    intro l' ne
    exact itemIn_congr (holds l' ne) fun g held => heap g fun eq => fl l' (eq ▸ held)
  have empty : q.itemIn l = none := by
    rw [itemIn, free]
    rfl
  refine ⟨unit.trans re.unit, fun i => (pets i).trans (re.pets i), fun r mem => ?restored,
    fun l' g held => ?only, fun e => ?counted, fun r mem => ?coherent⟩
  case restored =>
    rcases List.mem_append.mp mem with old | last
    · obtain ⟨l', it', at', there, guid', data'⟩ := re.restored r old
      -- the place of an earlier row is taken
      have ne : l' ≠ l := by
        intro eq
        rw [eq, empty] at there
        cases there
      exact ⟨l', it', at', (off l' ne).trans there, guid', data'⟩
    · cases List.mem_singleton.mp last
      exact ⟨l, it, at_, here, guid, data.trans (congrArg some same)⟩
  case only =>
    by_cases eq : l' = l
    · exact ⟨row, List.mem_append_right _ (List.mem_singleton_self _), eq ▸ at_⟩
    · obtain ⟨r, mem, at'⟩ := re.only l' g ((holds l' eq).symm.trans held)
      exact ⟨r, List.mem_append_left _ mem, at'⟩
  case counted =>
    rw [LoginRow.carried_concat, ← re.counted e]
    by_cases own : row.pet = 0
    · cases (place_own own).symm.trans at_
      -- only the slot of the row changes, from nothing to its count
      have change := total_change countedSlots_nodup (counts own) (f := fun i => weight e (q'.itemAt i))
        (g := fun i => weight e (q.itemAt i)) fun i _ ne =>
          congrArg (weight e) (off (.slot i) fun eq => ne (Loc.slot.inj eq))
      have there : weight e (q'.itemAt row.slot) = LoginRow.carried [row] e := by
        have count : row.count = it.count := by
          rw [LoginRow.count, data, same]
          rfl
        rw [show q'.itemAt row.slot = some it from here, LoginRow.carried_own own, ← entry, same, count, weight]
      rw [show q.itemAt row.slot = none from empty, there, weight, Nat.add_zero] at change
      exact change
    · rw [LoginRow.carried_worn own, Nat.add_zero]
      refine total_congr fun i _ => congrArg (weight e) (off (.slot i) fun eq => ?_)
      exact own (place_eq_slot (eq ▸ at_)).1
  case coherent =>
    rcases List.mem_append.mp mem with old | last
    · exact re.coherent r old
    · cases List.mem_singleton.mp last
      intro d' data'
      cases data.symm.trans data'
      exact entry

/-- Putting an item on a pet leaves the other places alone. -/
lemma holds_wear_ne {i slot g : Nat} {pet : Pet} (epet : q.pets i = some pet) (ne : l ≠ .worn i slot) :
    (q.wear i pet slot g it).holds l = q.holds l := by
  rw [wear, holds_requeue]
  cases l with
  | slot j => rfl
  | worn j e =>
    by_cases eq : j = i
    · subst eq
      have away : e ≠ slot := fun eq => ne (by rw [eq])
      rw [holds, dressed_pets_self, holds, epet]
      exact Function.update_of_ne away ..
    · rw [holds, holds]
      exact congrArg (fun pet => Option.bind pet fun pet => pet.equip e) (setPet_pets_ne q _ eq)

section Step

variable {db : Database} (h : q.Stored objmgr) (re : Reloaded p q before) (fl : q.Floating row.item)
  (le : row.item ≤ q.hiItemGuid) (coherent : ∀ d, row.data = some d → d.entry = row.entry)

include re fl in
/-- The row's item in its own slot. -/
lemma Reloaded.shelved {d : ItemData} (own : row.pet = 0) (data : row.data = some d) (entry : d.entry = row.entry)
    (free : PlaceFree before row) (counts : row.slot ∈ countedSlots) :
    Reloaded p (q.shelved row d) (before ++ [row]) := by
  have place := place_own (p := p) own
  refine re.snoc fl place ((re.free_iff place).mpr free) data entry (fun _ => counts) (put_unit ..) (fun i => ?_)
    (itemIn_put_self ..) rfl rfl (fun l' ne => ?_) fun g ne => ?_
  · exact congrArg (Option.map _) (congrFun (put_pets ..) i)
  · show ((q.newObject (q.loadedItem row d)).put row.slot row.item (q.loadedItem row d)).holds l' = _
    rw [holds_put_ne ne]
    rfl
  · show ((q.newObject (q.loadedItem row d)).put row.slot row.item (q.loadedItem row d)).heap g = _
    rw [put_heap_ne _ _ _ ne, newObject_heap_ne _ _ ne]

include re fl in
/-- The row's item on its pet. -/
lemma Reloaded.dressed {d : ItemData} {i : Nat} {pet : Pet} (worn : row.pet ≠ 0)
    (place : row.place p = some (.worn i row.slot)) (epet : q.pets i = some pet)
    (free : q.holds (.worn i row.slot) = none) (data : row.data = some d) (entry : d.entry = row.entry) :
    Reloaded p (((q.newObject (q.loadedItem row d)).wear i pet row.slot row.item
      (q.loadedItem row d)).markUnchanged row.item) (before ++ [row]) := by
  have epet' : (q.newObject (q.loadedItem row d)).pets i = some pet := epet
  have self := wear_pets_self (q.newObject (q.loadedItem row d)) i pet row.slot row.item (q.loadedItem row d)
  have here : Player.itemIn (((q.newObject (q.loadedItem row d)).wear i pet row.slot row.item
      (q.loadedItem row d)).markUnchanged row.item) (.worn i row.slot) =
        some { q.loadedItem row d with owner := q.guid, slot := row.slot, container := some pet.guid } := by
    refine Option.bind_eq_some_iff.mpr ⟨row.item, ?_, wear_heap_self ..⟩
    exact Option.bind_eq_some_iff.mpr ⟨_, self, Function.update_self ..⟩
  refine re.snoc fl place free data entry (fun own => absurd own worn) (requeue_unit ..) (fun j => ?_) here rfl rfl
    (fun l' ne => ?_) fun g ne => ?_
  · by_cases eq : j = i
    · subst eq
      have both := congrArg (Option.map fun pet => (pet.guid, pet.unit)) self
      rw [epet]
      exact both.trans rfl
    · refine congrArg (Option.map fun pet => (pet.guid, pet.unit)) ((congrFun (requeue_pets ..) j).trans ?_)
      exact setPet_pets_ne (q.newObject (q.loadedItem row d)) _ eq
  · exact (holds_wear_ne epet' ne).trans rfl
  · exact (wear_heap_ne _ _ _ _ _ ne).trans (newObject_heap_ne q _ ne)

include h re fl le coherent

/-- A row that fits comes to its place. -/
lemma Reloaded.next (fits : RowFits objmgr p before row) :
    ∃ q', loadRow objmgr q db row = .ok (q', db) ∧ Reloaded p q' (before ++ [row]) := by
  cases fits with
  | @bag proto known some own free limit fits =>
    obtain ⟨d, data⟩ := Option.isSome_iff_exists.mp some
    have entry := coherent d data
    obtain ⟨can, empty⟩ := (re.bag_iff h fl data entry own).mpr ⟨proto, known, limit, free, fits⟩
    have lt : row.slot < playerSlotsCount := fits.hi.trans (by decide)
    have pos : isInventoryPos row.slot = true := isInventoryPos_iff.mpr (Or.inr ⟨fits.lo, fits.hi⟩)
    exact ⟨_, loadRow_shelved h fl le known data own lt empty (Or.inl ⟨pos, can⟩),
      re.shelved fl own data entry free (mem_countedSlots.mpr (Or.inl fits.hi))⟩
  | @worn proto known some own free limit fits =>
    obtain ⟨d, data⟩ := Option.isSome_iff_exists.mp some
    have entry := coherent d data
    have empty : q.items row.slot = none := (re.free_iff (place_own own)).mpr free
    have can : canEquipItem objmgr (q.newObject (q.loadedItem row d)) row.slot (q.loadedItem row d) false =
        .ok row.slot :=
      (re.wear_iff h fl data entry).mpr ⟨proto, known, limit, empty, re.unit ▸ fits⟩
    have lt := slotOfInventoryType_lt fits.1
    have pos : isEquipmentPos row.slot = true := isEquipmentPos_iff.mpr lt
    exact ⟨_, loadRow_shelved h fl le known data own (lt.trans (by decide)) empty
        (Or.inr (Or.inl ⟨not_isInventoryPos_of_equipment pos, pos, can⟩)),
      re.shelved fl own data entry free (mem_countedSlots.mpr (Or.inl (lt.trans (by decide))))⟩
  | @bank proto known some own free pos =>
    obtain ⟨d, data⟩ := Option.isSome_iff_exists.mp some
    have entry := coherent d data
    have empty : q.items row.slot = none := (re.free_iff (place_own own)).mpr free
    have range := isBankPos_iff.mp pos
    exact ⟨_, loadRow_shelved h fl le known data own (range.2.trans (by decide)) empty
        (Or.inr (Or.inr ⟨not_isInventoryPos_of_bank pos, not_isEquipmentPos_of_bank pos, pos⟩)),
      re.shelved fl own data entry free (mem_countedSlots.mpr (Or.inr range))⟩
  | @petWorn proto i pet known some worn found epet free limit fits =>
    obtain ⟨d, data⟩ := Option.isSome_iff_exists.mp some
    have entry := coherent d data
    have place : row.place p = .some (.worn i row.slot) := place_worn worn found
    obtain ⟨pet', epet', guid, unit⟩ := re.pet epet
    have empty : q.holds (.worn i row.slot) = none := (re.free_iff place).mpr free
    have bare : pet'.equip row.slot = none := by
      rw [holds, epet'] at empty
      exact empty
    have can : canPetEquipItem objmgr (q.newObject (q.loadedItem row d)) pet' row.slot (q.loadedItem row d) false =
        .ok row.slot :=
      (re.wear_iff h fl data entry).mpr ⟨proto, known, limit, bare, unit ▸ fits⟩
    have found' := (re.getPetByGuid row.pet).trans found
    have epet'' : (q.newObject (q.loadedItem row d)).pets i = .some pet' := epet'
    exact ⟨_, loadRow_worn known data worn found' epet' can, re.dressed fl worn place epet' empty data entry⟩

/-- A row whose item comes to its place fits. -/
lemma Reloaded.fits {r : Player × Database} (e : loadRow objmgr q db row = .ok r) (at_ : row.place p = some l)
    (held : r.1.holds l = some row.item) : RowFits objmgr p before row := by
  have loaded := h.loadRow db fl le coherent
  rw [e, sat_ok] at loaded
  have away : q.holds l ≠ some row.item := fl l
  obtain ⟨p', db'⟩ := r
  cases loaded with
  -- only the ways that put the item into its place are left
  | refused | rejected | unplaced => exact absurd held away
  | stacked => exact absurd ((holds_absorbed ..).symm.trans held) away
  | @placed d dest data own goal lt free known =>
    have entry := coherent d data
    have some : row.data.isSome := Option.isSome_of_eq_some data
    cases (place_own own).symm.trans at_
    have held' : ((q.newObject (q.loadedItem row d)).put dest row.item (q.loadedItem row d)).holds
        (.slot row.slot) = Option.some row.item := held
    have here : dest = row.slot := by
      obtain ⟨eq, -⟩ | old := holds_put held'
      · exact (Loc.slot.inj eq).symm
      · exact absurd old away
    subst here
    have vacant := (re.free_iff (place_own own)).mp free
    cases goal with
    | inventory pos can =>
      obtain ⟨proto, known, limit, free, fits⟩ := (re.bag_iff h fl data entry own).mp ⟨can, free⟩
      exact .bag known some own free limit fits
    | equipment pos can =>
      obtain ⟨proto, known, limit, -, fits⟩ := (re.wear_iff h fl data entry).mp can
      exact .worn known some own vacant limit (re.unit ▸ fits)
    | bank pos =>
      obtain ⟨proto, known⟩ := Option.isSome_iff_exists.mp known
      exact .bank (entry ▸ known) some own vacant pos
  | @worn d i pet data epet guid ipet lt free known =>
    have entry := coherent d data
    obtain ⟨proto, known⟩ := Option.isSome_iff_exists.mp known
    rw [entry] at known
    have epet' : (q.newObject (q.loadedItem row d)).pets i = some pet := epet
    have held' : ((q.newObject (q.loadedItem row d)).wear i pet row.slot row.item (q.loadedItem row d)).holds l =
        some row.item := held
    obtain ⟨rfl, -⟩ := (holds_wear epet' held').resolve_right away
    by_cases own : row.pet = 0
    · cases (place_own own).symm.trans at_
    · have found : p.getPetByGuid row.pet = some i := by
        rw [LoginRow.place, if_neg own] at at_
        obtain ⟨j, found, eq⟩ := Option.map_eq_some_iff.mp at_
        cases eq
        exact found
      have vacant : PlaceFree before row := by
        refine (re.free_iff at_).mp ?_
        rw [holds, epet]
        exact free
      by_cases can : canPetEquipItem objmgr (q.newObject (q.loadedItem row d)) pet row.slot (q.loadedItem row d)
          false = .ok row.slot
      · obtain ⟨proto, known, limit, -, fits⟩ := (re.wear_iff h fl data entry).mp can
        obtain ⟨-, pet', epet', -⟩ := getPetByGuid_some found
        obtain ⟨pet2, epet2, -, unit⟩ := re.pet epet'
        cases epet.symm.trans epet2
        exact .petWorn known (Option.isSome_of_eq_some data) own found epet' vacant limit (unit ▸ fits)
      · have found' := (re.getPetByGuid row.pet).trans found
        have unworn := loadRow_unworn known data own found' epet can e
        exact absurd ((unworn _).symm.trans held) away

end Step

section Loop

variable {db : Database} {rows : List LoginRow} {r : Player × Database}

/-- The loop takes its first row, and goes on. -/
lemma loadRows_cons (h : q.Stored objmgr) (w : q.Awaiting (row :: rows))
    (e : Player.loadRows objmgr q db (row :: rows) = .ok r) :
    ∃ q' db', loadRow objmgr q db row = .ok (q', db') ∧ q.Loaded objmgr db row q' db' ∧ q'.Stored objmgr ∧
      q'.Awaiting rows ∧ Player.loadRows objmgr q' db' rows = .ok r := by
  have fl := w.floating row List.mem_cons_self
  have le := w.known row List.mem_cons_self
  have loaded := h.loadRow db fl le (w.coherent row List.mem_cons_self)
  obtain ⟨r', first, rest⟩ := loadRows_cons_ok.mp e
  rw [first, sat_ok] at loaded
  exact ⟨r'.1, r'.2, first, loaded, loaded.stored h fl le, w.next loaded, rest⟩

/-- The loop puts only the items of its rows into slots. -/
lemma loadRows_holds (h : q.Stored objmgr) (w : q.Awaiting rows) (e : Player.loadRows objmgr q db rows = .ok r) :
    r.1.Stored objmgr ∧ ∀ l g, r.1.holds l = some g → q.holds l = some g ∨ ∃ row ∈ rows, row.item = g := by
  induction rows generalizing q db with
  | nil =>
    cases e
    exact ⟨h, fun l g held => Or.inl held⟩
  | cons row rows ih =>
    obtain ⟨q', db', -, loaded, h', w', e'⟩ := loadRows_cons h w e
    obtain ⟨stored, later⟩ := ih h' w' e'
    refine ⟨stored, fun l g held => ?_⟩
    obtain held' | ⟨row', mem, eq⟩ := later l g held
    · obtain eq | old := loaded.holds held'
      · exact Or.inr ⟨row, List.mem_cons_self, eq.symm⟩
      · exact Or.inl old
    · exact Or.inr ⟨row', List.mem_cons_of_mem _ mem, eq⟩

/-- Rows that fit come to their places. -/
lemma Reloaded.loadRows (re : Reloaded p q before) (h : q.Stored objmgr) (w : q.Awaiting rows)
    (e : Player.loadRows objmgr q db rows = .ok r) (fitting : Fitting objmgr p before rows) :
    Reloaded p r.1 (before ++ rows) := by
  induction rows generalizing q db before with
  | nil =>
    cases e
    rw [List.append_nil]
    exact re
  | cons row rows ih =>
    obtain ⟨q', db', first, -, h', w', e'⟩ := loadRows_cons h w e
    obtain ⟨q1, first', re'⟩ := re.next h (w.floating row List.mem_cons_self) (w.known row List.mem_cons_self)
      (w.coherent row List.mem_cons_self) fitting.1
    cases first.symm.trans first'
    have rest := ih re' h' w' e' fitting.2
    rwa [List.append_assoc] at rest

/-- Rows that came to their places fit. -/
lemma Reloaded.fitting (re : Reloaded p q before) (h : q.Stored objmgr) (w : q.Awaiting rows)
    (e : Player.loadRows objmgr q db rows = .ok r) (restored : ∀ row ∈ rows, Restored p r.1 row) :
    Fitting objmgr p before rows := by
  induction rows generalizing q db before with
  | nil => trivial
  | cons row rows ih =>
    obtain ⟨q', db', first, loaded, h', w', e'⟩ := loadRows_cons h w e
    obtain ⟨stored, later⟩ := loadRows_holds h' w' e'
    have fl := w.floating row List.mem_cons_self
    have le := w.known row List.mem_cons_self
    have coherent := w.coherent row List.mem_cons_self
    obtain ⟨l, it, at_, there, guid, data⟩ := restored row List.mem_cons_self
    obtain ⟨g, held, live⟩ := Option.bind_eq_some_iff.mp there
    have same : row.item = g := guid.symm.trans (stored.known live).1
    have held' : q'.holds l = some row.item := by
      obtain old | ⟨row', mem, eq⟩ := later l g held
      · rw [same]
        exact old
      · -- the later rows are of other items
        have apart := (List.nodup_cons.mp w.nodup).1
        exact absurd (List.mem_map.mpr ⟨row', mem, eq.trans same.symm⟩) apart
    have fits : RowFits objmgr p before row := re.fits h fl le coherent first at_ held'
    obtain ⟨q1, first', re'⟩ := re.next h fl le coherent fits
    cases first.symm.trans first'
    exact ⟨fits, ih re' h' w' e' fun row' mem => restored row' (List.mem_cons_of_mem _ mem)⟩

/-- Nothing is loaded at first. -/
lemma reloaded_start (l : Session.Login p db rows) : Reloaded p { p with itemUpdateQueueBlocked := true } [] := by
  have bare : ∀ i, Player.itemAt { p with itemUpdateQueueBlocked := true } i = none := by
    intro i
    simp only [itemAt, l.fresh.items, Option.bind_none]
  refine ⟨rfl, fun _ => rfl, fun _ mem => absurd mem List.not_mem_nil, fun loc g held => ?_, fun entry => ?_,
    fun _ mem => absurd mem List.not_mem_nil⟩
  · have held' : p.holds loc = some g := by
      cases loc <;> exact held
    exact absurd held' (l.fresh.floating g loc)
  · refine total_eq_zero fun i _ => ?_
    rw [bare i]
    rfl

end Loop

/-- A login puts every item back into its place exactly when every row fits after those before it. -/
theorem loadInventory_restores_iff {db : Database} {rows : List LoginRow} {r : Player × Database}
    (l : Session.Login p db rows) (e : Player.loadInventory objmgr p db rows = .ok r) :
    (∀ row ∈ rows, Restored p r.1 row) ↔ Fitting objmgr p [] rows := by
  obtain ⟨st, w⟩ := l.ready objmgr
  have start := reloaded_start l
  obtain ⟨r', loaded, rfl⟩ := Player.loadInventory_ok e
  have applied : ∀ row, Restored p (applyAllItemMods objmgr { r'.1 with itemUpdateQueueBlocked := false }) row ↔
      Restored p r'.1 row := by
    intro row
    have same : ∀ l, Player.itemIn (applyAllItemMods objmgr { r'.1 with itemUpdateQueueBlocked := false }) l =
        r'.1.itemIn l := by
      intro l
      refine itemIn_congr ?_ fun _ _ => rfl
      rw [holds_applyAllItemMods]
      cases l <;> rfl
    simp only [Restored, same]
  simp only [applied]
  constructor
  · intro restored
    exact start.fitting st w loaded restored
  · intro fitting
    exact (start.loadRows st w loaded fitting).restored

/-- Three potions in the first inventory slot, and a sword in the second one. -/
def packedRows : List LoginRow := [⟨some ⟨1, 3⟩, 0, 10, 1, 1⟩, ⟨some ⟨2, 1⟩, 0, 11, 2, 2⟩]

/-- A character that comes back to its rows. -/
def unpacked (rows : List LoginRow) : Player × Database :=
  match Player.loadInventory wares (Session.returned 1 10 4) (Session.holding 1 rows) rows with
  | .ok r => r
  | .error _ => (Session.returned 1 10 4, Session.holding 1 rows)

/-- The packed rows fit. -/
lemma fitting_packed : Fitting wares (Session.returned 1 10 4) [] packedRows := by
  refine ⟨?_, ?_, trivial⟩
  · refine .bag rfl rfl rfl (fun _ mem => absurd mem List.not_mem_nil) (Or.inl rfl) ⟨by decide, by decide, ?_, ?_⟩
    · exact fun _ _ mem => absurd mem List.not_mem_nil
    · exact fun i lo lt => absurd lt (Nat.not_lt.mpr lo)
  · refine .bag rfl rfl rfl (fun r mem _ => ?_) (Or.inl rfl) ⟨by decide, by decide, ?_, fun i lo lt => ?_⟩
    · rw [List.mem_singleton.mp mem]
      decide
    · exact fun more => absurd more (by decide)
    · exact ⟨_, List.mem_singleton_self _, rfl, Nat.le_antisymm lo (Nat.le_of_lt_succ lt)⟩

/-- Potions and a sword come back into their slots. -/
theorem restored_packed :
    Restored (Session.returned 1 10 4) (unpacked packedRows).1 ⟨some ⟨1, 3⟩, 0, 10, 1, 1⟩ ∧
      Restored (Session.returned 1 10 4) (unpacked packedRows).1 ⟨some ⟨2, 1⟩, 0, 11, 2, 2⟩ := by
  have login : Session.Login (Session.returned 1 10 4) (Session.holding 1 packedRows) packedRows :=
    Session.login_holding (by decide) (by decide) (by decide) (by decide) (by decide)
  have loaded : Player.loadInventory wares (Session.returned 1 10 4) (Session.holding 1 packedRows) packedRows =
      .ok (unpacked packedRows) := rfl
  have all := (loadInventory_restores_iff login loaded).mpr fitting_packed
  exact ⟨all _ List.mem_cons_self, all _ (List.mem_cons_of_mem _ List.mem_cons_self)⟩

/-- A character finds a sword. -/
def gather (s : Session) : Session :=
  match addNewInventoryItem wares s.player 8 1 with
  | .ok p => { s with player := p }
  | .error _ => s

/-- It has found two swords, and has dropped the first. -/
def oneDropped : Session :=
  let s := gather (gather (Session.created 1 10))
  match (s.player.handleDrop 1 1).result with
  | .ok o => { s with player := o.player }
  | .error _ => s

/-- Its save. -/
def oneSaved : Player × Database :=
  match oneDropped.player.saveInventory wares oneDropped.db with
  | .ok s => s
  | .error _ => (oneDropped.player, oneDropped.db)

/-- The row of the second sword. -/
def secondSlot : List LoginRow := [⟨some ⟨2, 1⟩, 0, 11, 4, 2⟩]

/-- The save leaves these tables. -/
lemma oneSaved_tables : oneSaved.2 = Session.holding 1 secondSlot := by
  have saved : oneSaved.2 = (((Session.created 1 10).db.insertInventory 4 ⟨1, 0, 11, 2⟩).deleteInstance
      4).insertInstance 4 ⟨1, some ⟨2, 1⟩⟩ := rfl
  apply Session.eq_holding
  · intro row mem
    rw [List.mem_singleton.mp mem]
    exact ⟨rfl, rfl⟩
  · intro g out
    rw [saved]
    exact Database.off_inserted (Session.created 1 10).db 4 ⟨1, 0, 11, 2⟩ ⟨1, some ⟨2, 1⟩⟩ g
      (List.ne_of_not_mem_cons out)

/-- A sword that was saved in the second slot comes back in the first. -/
theorem not_restored_oneDropped :
    Session.Reachable wares oneDropped ∧
      ∃ s, oneDropped.player.saveInventory wares oneDropped.db = .ok s ∧
        Session.Login (Session.returned 1 10 4) s.2 secondSlot ∧
        ∃ r, Player.loadInventory wares (Session.returned 1 10 4) s.2 secondSlot = .ok r ∧
          ¬ ∀ row ∈ secondSlot, Restored (Session.returned 1 10 4) r.1 row := by
  have first : Session.Step wares (Session.created 1 10) (gather (Session.created 1 10)) :=
    .gain (show addNewInventoryItem { wares with itemPrototypeList := [] } _ 8 1 = .ok _ from rfl)
  have second : Session.Step wares (gather (Session.created 1 10)) (gather (gather (Session.created 1 10))) :=
    .gain (show addNewInventoryItem { wares with itemPrototypeList := [] } _ 8 1 = .ok _ from rfl)
  have third : Session.Step wares (gather (gather (Session.created 1 10))) oneDropped :=
    .useItem (show (handleUseItem wares _ (.drop 1 1)).result = .ok _ from rfl)
  refine ⟨.step (.step (.step (Session.created_reachable wares (by decide)) first) second) third, oneSaved, rfl, ?_⟩
  rw [oneSaved_tables]
  refine ⟨Session.login_holding (by decide) (by decide) (by decide) (by decide) (by decide),
    unpacked secondSlot, rfl, ?_⟩
  intro all
  obtain ⟨l, it, at_, there, -⟩ := all _ List.mem_cons_self
  cases at_
  have empty : (unpacked secondSlot).1.itemIn (.slot 11) = none := rfl
  cases empty.symm.trans there

end Player

end Legacy.Inventory
