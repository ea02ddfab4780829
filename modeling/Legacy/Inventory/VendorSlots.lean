import Legacy.Inventory.VendorGoods
import Mathlib.Data.List.Nodup
import Mathlib.Data.List.Perm.Subperm

/-!
# The goods of a vendor by their slots

`Creature::GetItem`, `AddItem`, `RemoveItem` and `LoadGoods` (`src/src/game/Creature.h`, `Creature.cpp`) next to the
goods that were stored, with their whole entries. `getItem_iff` says in which sequences of calls the list answers like
a map from slots to goods: the slots in use have to be the first ones, without a gap, and the entries have to fit into
the 16 bits that the constructor of `CreatureItem` lets through.
-/

namespace Legacy.Inventory
open Legacy.Lib

/-- A vendor, and the goods that are stored with it. -/
structure StockedVendor where
  vendor : VendorState
  stored : List CreatureItem

/-- The calls that change the goods of a vendor. -/
inductive GoodsCall where
  | loadGoods
  | addItem (slot : UInt8) (entry : UInt32)
  | removeItem (entry : UInt32)
  deriving DecidableEq, Repr

/-- source `Creature::AddItem` -/
def VendorState.addItem (v : VendorState) (slot : UInt8) (entry : UInt32) : VendorState :=
  { v with items := v.items ++ [creatureItem slot.toNat entry.toNat] }

/-- source `Creature::RemoveItem` -/
def VendorState.removeItem (v : VendorState) (entry : UInt32) : VendorState :=
  { v with items := removeGoods v.items (u16 entry.toNat) }

/-- The goods that a vendor is to load: the first rows with a known item. -/
def VendorState.stock (v : VendorState) : List CreatureItem :=
  ((v.table.rows.filter fun row => (v.objmgr.getItemPrototype row.item).isSome).take maxVendorItems).map fun row =>
    ⟨(row.slot % 2 ^ 8).toNat, row.item⟩

namespace StockedVendor

/-- A vendor that has just been created. -/
def new (objmgr : ObjectMgr) (table : NpcVendor) : StockedVendor := ⟨⟨objmgr, table, [], false⟩, []⟩

/-- One call, on the vendor and on what is stored; nothing is added in a slot in use. -/
def step (s : StockedVendor) : GoodsCall → Option StockedVendor
  | .loadGoods => some ⟨s.vendor.loadGoods, if s.vendor.itemsLoaded then s.stored else s.vendor.stock⟩
  | .addItem slot entry =>
    if ∃ i ∈ s.vendor.items, i.slot = slot.toNat then none
    else some ⟨s.vendor.addItem slot entry, s.stored ++ [⟨slot.toNat, entry.toNat⟩]⟩
  | .removeItem entry => some ⟨s.vendor.removeItem entry, removeGoods s.stored entry.toNat⟩

/-- `GetItem` returns the goods that are stored at a slot, and nothing where none are. -/
def Answers (s : StockedVendor) : Prop :=
  ∀ (slot : UInt8) (i : CreatureItem), getGoods s.vendor.items slot.toNat = some i ↔ i ∈ s.stored ∧ i.slot = slot.toNat

/-- A call after which the goods are found by their slots. -/
def Exact (s : StockedVendor) (c : GoodsCall) : Prop := ∀ s' ∈ step s c, s'.Answers

/-- The slots of the goods are the first ones. -/
def Dense (goods : List CreatureItem) : Prop := (goods.map CreatureItem.slot).Nodup ∧ ∀ i ∈ goods, i.slot < goods.length

/-- The goods to be loaded are dense and have entries of 16 bits; what is added goes behind the slots in use or into
a gap, with an entry of 16 bits; what is removed is at the last slot. -/
def Fits (s : StockedVendor) : GoodsCall → Prop
  | .loadGoods => s.vendor.itemsLoaded = false → Dense s.vendor.stock ∧ ∀ i ∈ s.vendor.stock, i.entry < 2 ^ 16
  | .addItem slot entry => (∀ i ∈ s.vendor.items, i.slot ≠ slot.toNat) →
    slot.toNat ≤ s.vendor.items.length ∧ entry.toNat < 2 ^ 16
  | .removeItem entry => ∀ i, findGoods s.vendor.items (u16 entry.toNat) = some i →
    entry.toNat < 2 ^ 16 ∧ i.slot + 1 = s.vendor.items.length

/-- The vendor has what is stored, and finds it. -/
structure InStep (s : StockedVendor) : Prop where
  same : s.vendor.items = s.stored
  dense : Dense s.stored
  entries : ∀ i ∈ s.stored, i.entry < 2 ^ 16
  slots : ∀ i ∈ s.stored, i.slot < 2 ^ 8

variable {s s' : StockedVendor} {goods : List CreatureItem} {i j : CreatureItem}

/-- Goods without gaps have one item a slot. -/
lemma Dense.inj (dense : Dense goods) (mem : i ∈ goods) (mem' : j ∈ goods) (eq : i.slot = j.slot) : i = j :=
  List.inj_on_of_nodup_map dense.1 mem mem' eq

/-- Goods in the first slots are found there. -/
lemma getGoods_iff (dense : Dense goods) {slot : Nat} : getGoods goods slot = some i ↔ i ∈ goods ∧ i.slot = slot := by
  constructor
  · intro found
    obtain ⟨-, at_, before, after, rfl, -⟩ := getGoods_eq_some found
    exact ⟨List.mem_append_right _ List.mem_cons_self, at_⟩
  · rintro ⟨mem, rfl⟩
    cases found : getGoods goods i.slot with
    | none => exact absurd rfl (getGoods_eq_none found (dense.2 i mem) i mem)
    | some j =>
      obtain ⟨-, at_, before, after, rfl, -⟩ := getGoods_eq_some found
      exact congrArg some (dense.inj (List.mem_append_right _ List.mem_cons_self) mem at_)

/-- A shelf in step answers right. -/
lemma InStep.answers (h : s.InStep) : s.Answers := by
  intro slot i
  rw [h.same]
  exact getGoods_iff h.dense

/-- What is stored is among the goods, in one of the first slots. -/
lemma Answers.mem (answers : s.Answers) (mem : i ∈ s.stored) (slot : i.slot < 2 ^ 8) :
    i ∈ s.vendor.items ∧ i.slot < s.vendor.items.length := by
  have found := (answers (UInt8.ofNat i.slot) i).mpr ⟨mem, (UInt8.toNat_ofNat_of_lt' slot).symm⟩
  rw [UInt8.toNat_ofNat_of_lt' slot] at found
  obtain ⟨below, -, before, after, split, -⟩ := getGoods_eq_some found
  refine ⟨?_, below⟩
  rw [split]
  exact List.mem_append_right _ List.mem_cons_self

/-- Nothing else is stored in the same slot. -/
lemma Answers.inj (answers : s.Answers) (mem : i ∈ s.stored) (mem' : j ∈ s.stored) (slot : i.slot < 2 ^ 8)
    (eq : i.slot = j.slot) : i = j := by
  have at_ := (UInt8.toNat_ofNat_of_lt' slot).symm
  have found := (answers (UInt8.ofNat i.slot) i).mpr ⟨mem, at_⟩
  have found' := (answers (UInt8.ofNat i.slot) j).mpr ⟨mem', eq ▸ at_⟩
  exact Option.some.inj (found.symm.trans found')

/-- The loop of `LoadGoods` takes the first rows with a known item. -/
lemma loadRows_take (objmgr : ObjectMgr) (rows : List VendorRow) {items : List CreatureItem}
    (few : items.length ≤ maxVendorItems) :
    loadRows objmgr rows items =
      items ++ ((rows.filter fun row => (objmgr.getItemPrototype row.item).isSome).take
        (maxVendorItems - items.length)).map fun row => creatureItem row.slot row.item := by
  induction rows generalizing items with
  | nil => rw [loadRows, List.filter_nil, List.take_nil, List.map_nil, List.append_nil]
  | cons row rows ih =>
    rw [loadRows, u8_of_lt (Nat.lt_of_le_of_lt few (by decide))]
    split
    · next full =>
      rw [Nat.sub_eq_zero_of_le full, List.take_zero, List.map_nil, List.append_nil]
    · next room =>
      have rest : maxVendorItems - items.length = (maxVendorItems - (items.length + 1)) + 1 := by omega
      cases known : objmgr.getItemPrototype row.item with
      | none =>
        rw [if_pos (by rfl), ih few, List.filter_cons_of_neg (by rw [known]; exact Bool.false_ne_true)]
      | some proto =>
        have len : (items ++ [creatureItem row.slot row.item]).length = items.length + 1 := List.length_append
        rw [if_neg (by exact Bool.false_ne_true), ih (by rw [len]; omega), len,
          List.filter_cons_of_pos (by rw [known]; rfl), rest, List.take_succ_cons, List.map_cons, List.append_assoc]
        rfl

/-- The goods are loaded with what the constructor leaves of their entries. -/
lemma loadGoods_items (v : VendorState) (fresh : v.itemsLoaded = false) :
    v.loadGoods.items = v.stock.map fun i => ⟨i.slot, u16 i.entry⟩ := by
  rw [VendorState.loadGoods, if_neg (by rw [fresh]; exact Bool.false_ne_true), VendorState.stock, List.map_map]
  split
  · next none => rw [none]; rfl
  · exact loadRows_take v.objmgr v.table.rows (Nat.zero_le _)

/-- The entries to be loaded are different ones. -/
lemma nodup_stock (v : VendorState) : v.stock.Nodup := by
  refine List.Nodup.of_map CreatureItem.entry ?_
  rw [VendorState.stock, List.map_map]
  exact v.table.key.sublist (((List.take_sublist ..).trans List.filter_sublist).map _)

/-- A slot in stock fits into a byte. -/
lemma slot_of_mem_stock {v : VendorState} (mem : i ∈ v.stock) : i.slot < 2 ^ 8 := by
  obtain ⟨row, -, rfl⟩ := List.mem_map.mp mem
  dsimp only
  omega

/-- A condition on a call is exact, and keeps the goods in step. -/
def Settled (s : StockedVendor) (c : GoodsCall) : Prop :=
  (Exact s c ↔ Fits s c) ∧ (Fits s c → ∀ s' ∈ step s c, s'.InStep)

/-- A call that happens is settled by what it leaves. -/
lemma settled_of_step {c : GoodsCall} (next : step s c = some s') (fits : s'.Answers → Fits s c)
    (kept : Fits s c → s'.InStep) : Settled s c := by
  refine ⟨⟨fun exact => fits (exact s' next), fun fit s₁ next' => ?_⟩, fun fit s₁ next' => ?_⟩
  · cases next.symm.trans next'
    exact (kept fit).answers
  · cases next.symm.trans next'
    exact kept fit

/-- Loading is settled on a shelf in step. -/
lemma InStep.settled_load (h : s.InStep) : Settled s .loadGoods := by
  cases loaded : s.vendor.itemsLoaded with
  | true =>
    have idle : s.vendor.loadGoods = s.vendor := by rw [VendorState.loadGoods, if_pos loaded]
    have next : step s .loadGoods = some s := by rw [step, idle, if_pos loaded]
    exact settled_of_step next (fun _ fresh => absurd fresh (by rw [loaded]; exact Bool.noConfusion)) fun _ => h
  | false =>
    have items := loadGoods_items s.vendor loaded
    have next : step s .loadGoods = some ⟨s.vendor.loadGoods, s.vendor.stock⟩ := by
      rw [step, if_neg (by rw [loaded]; exact Bool.false_ne_true)]
    refine settled_of_step next (fun answers _ => ?_) fun fits => ?_
    · have stored {i : CreatureItem} (mem : i ∈ s.vendor.stock) := answers.mem mem (slot_of_mem_stock mem)
      dsimp only at stored
      rw [items] at stored
      refine ⟨⟨?_, fun i mem => ?_⟩, fun i mem => ?_⟩
      · exact (nodup_stock s.vendor).map_on fun i mem j mem' eq => answers.inj mem mem' (slot_of_mem_stock mem) eq
      · have below := (stored mem).2
        rwa [List.length_map] at below
      · obtain ⟨j, -, cut⟩ := List.mem_map.mp (stored mem).1
        rw [← cut]
        exact Nat.mod_lt _ (by decide)
    · obtain ⟨dense, entries⟩ := fits loaded
      refine ⟨?_, dense, entries, fun i mem => slot_of_mem_stock mem⟩
      dsimp only
      rw [items]
      refine (List.map_congr_left fun i mem => ?_).trans (List.map_id _)
      rw [u16, Nat.mod_eq_of_lt (entries i mem)]
      rfl

/-- A slot of 8 bits is kept as it is, and the low half of the entry. -/
lemma creatureItem_slot (slot : UInt8) (entry : Nat) : creatureItem slot.toNat entry = ⟨slot.toNat, u16 entry⟩ := by
  have lt := slot.toNat_lt
  have kept : ((slot.toNat : Int) % 2 ^ 8).toNat = slot.toNat := by omega
  rw [creatureItem, kept]

/-- Goods are added behind the slots in use. -/
lemma Dense.append (dense : Dense goods) {slot entry : Nat} (free : ∀ i ∈ goods, i.slot ≠ slot)
    (below : slot ≤ goods.length) : Dense (goods ++ [⟨slot, entry⟩]) := by
  constructor
  · rw [List.map_append, List.map_singleton]
    refine List.nodup_append.mpr ⟨dense.1, List.nodup_singleton _, fun k old k' added => ?_⟩
    obtain ⟨i, mem, rfl⟩ := List.mem_map.mp old
    rw [List.mem_singleton.mp added]
    exact free i mem
  · intro i mem
    rw [List.length_append, List.length_singleton]
    rcases List.mem_append.mp mem with old | added
    · exact Nat.lt_succ_of_lt (dense.2 i old)
    · rw [List.mem_singleton.mp added]
      exact Nat.lt_succ_of_le below

/-- Added goods that fit are stored as they are. -/
lemma InStep.added (h : s.InStep) {slot : UInt8} {entry : UInt32} (free : ∀ i ∈ s.vendor.items, i.slot ≠ slot.toNat)
    (below : slot.toNat ≤ s.vendor.items.length) (small : entry.toNat < 2 ^ 16) :
    InStep ⟨s.vendor.addItem slot entry, s.stored ++ [⟨slot.toNat, entry.toNat⟩]⟩ := by
  have whole : u16 entry.toNat = entry.toNat := Nat.mod_eq_of_lt small
  rw [h.same] at free below
  refine ⟨?_, h.dense.append free below, fun i mem => ?_, fun i mem => ?_⟩
  · rw [VendorState.addItem, creatureItem_slot, whole, h.same]
  · rcases List.mem_append.mp mem with old | added
    · exact h.entries i old
    · rwa [List.mem_singleton.mp added]
  · rcases List.mem_append.mp mem with old | added
    · exact h.slots i old
    · rw [List.mem_singleton.mp added]
      exact slot.toNat_lt

/-- Adding is settled on a shelf in step. -/
lemma InStep.settled_add (h : s.InStep) (slot : UInt8) (entry : UInt32) : Settled s (.addItem slot entry) := by
  by_cases used : ∃ i ∈ s.vendor.items, i.slot = slot.toNat
  · have idle : step s (.addItem slot entry) = none := by rw [step, if_pos used]
    refine ⟨iff_of_true (fun s' next => ?_) fun free => ?_, fun _ s' next => ?_⟩
    · cases idle.symm.trans next
    · obtain ⟨i, mem, at_⟩ := used
      exact absurd at_ (free i mem)
    · cases idle.symm.trans next
  · refine settled_of_step (if_neg used) (fun answers free => ?_) fun fits => ?_
    · obtain ⟨mem, below⟩ := answers.mem (i := ⟨slot.toNat, entry.toNat⟩)
        (List.mem_append_right _ (List.mem_singleton_self _)) slot.toNat_lt
      rw [VendorState.addItem, creatureItem_slot, List.length_append, List.length_singleton] at below
      rw [VendorState.addItem, creatureItem_slot] at mem
      refine ⟨Nat.le_of_lt_succ below, ?_⟩
      rcases List.mem_append.mp mem with old | added
      · exact absurd rfl (free _ old)
      · have cut := congrArg CreatureItem.entry (List.mem_singleton.mp added)
        dsimp only at cut
        rw [cut]
        exact Nat.mod_lt _ (by decide)
    · have free : ∀ i ∈ s.vendor.items, i.slot ≠ slot.toNat := fun i mem at_ => used ⟨i, mem, at_⟩
      obtain ⟨below, small⟩ := fits free
      exact h.added free below small

/-- The goods at one place are taken out. -/
lemma removeGoods_split {before after : List CreatureItem} (first : ∀ j ∈ before, j.entry ≠ i.entry) :
    removeGoods (before ++ i :: after) i.entry = before ++ after := by
  rw [removeGoods, List.eraseP_append_right _ (fun j mem => by simpa using first j mem),
    List.eraseP_cons_of_pos (by simp)]

/-- What is found for an entry is the first of its goods. -/
lemma findGoods_eq_some {entry : Nat} (found : findGoods goods entry = some i) :
    i.entry = entry ∧ ∃ before after, goods = before ++ i :: after ∧ ∀ j ∈ before, j.entry ≠ i.entry := by
  obtain ⟨same, before, after, split, first⟩ := List.find?_eq_some_iff_append.mp found
  have entry_eq : i.entry = entry := of_decide_eq_true same
  refine ⟨entry_eq, before, after, split, fun j mem => ?_⟩
  rw [entry_eq]
  simpa using first j mem

/-- Nothing is taken out where nothing has the entry. -/
lemma removeGoods_of_absent {entry : Nat} (absent : ∀ j ∈ goods, j.entry ≠ entry) : removeGoods goods entry = goods :=
  List.eraseP_of_forall_not fun j mem => by simpa using absent j mem

/-- The goods around one place have other slots, which differ. -/
lemma Dense.apart {before after : List CreatureItem} (dense : Dense (before ++ i :: after)) :
    i.slot ∉ (before ++ after).map CreatureItem.slot ∧ ((before ++ after).map CreatureItem.slot).Nodup :=
  List.nodup_cons.mp ((List.perm_middle.map CreatureItem.slot).nodup_iff.mp dense.1)

/-- The slots of what stays are the first ones exactly if the last one is given up. -/
lemma dense_rest_iff {before after : List CreatureItem} (dense : Dense (before ++ i :: after)) :
    (∀ j ∈ before ++ after, j.slot < (before ++ after).length) ↔ i.slot + 1 = (before ++ i :: after).length := by
  have length : (before ++ i :: after).length = (before ++ after).length + 1 := by
    rw [List.length_append, List.length_cons, List.length_append, Nat.add_assoc]
  have middle : (before ++ i :: after).Perm (i :: (before ++ after)) := List.perm_middle
  have here := dense.2 i (middle.mem_iff.mpr List.mem_cons_self)
  rw [length] at here ⊢
  constructor
  · intro below
    by_contra other
    -- otherwise all slots lie below the number of the goods less one
    have sub : (before ++ i :: after).map CreatureItem.slot ⊆ List.range (before ++ after).length := by
      intro k at_
      obtain ⟨j, mem, rfl⟩ := List.mem_map.mp at_
      rw [List.mem_range]
      rcases List.mem_cons.mp (middle.mem_iff.mp mem) with rfl | mem
      · omega
      · exact below j mem
    have le := (List.subperm_of_subset dense.1 sub).length_le
    rw [List.length_map, List.length_range] at le
    omega
  · intro last j mem
    have below := dense.2 j (middle.mem_iff.mpr (List.mem_cons_of_mem _ mem))
    have other : j.slot ≠ i.slot := fun eq => dense.apart.1 (eq ▸ List.mem_map_of_mem mem)
    omega

/-- A part of the goods that is dense again, with the vendor and stored. -/
lemma InStep.part (h : s.InStep) {v : VendorState} (same : v.items = goods) (dense : Dense goods)
    (sub : goods ⊆ s.stored) : InStep ⟨v, goods⟩ :=
  ⟨same, dense, fun i mem => h.entries i (sub mem), fun i mem => h.slots i (sub mem)⟩

/-- Where nothing has the low half of an entry, nothing has the entry. -/
lemma InStep.removed_absent (h : s.InStep) {entry : UInt32}
    (missing : findGoods s.vendor.items (u16 entry.toNat) = none) :
    InStep ⟨s.vendor.removeItem entry, removeGoods s.stored entry.toNat⟩ := by
  have absent : ∀ j ∈ s.stored, j.entry ≠ u16 entry.toNat := by
    intro j mem
    have other := List.find?_eq_none.mp missing j (h.same ▸ mem)
    simpa using other
  have absent' : ∀ j ∈ s.stored, j.entry ≠ entry.toNat := by
    intro j mem eq
    have whole : u16 entry.toNat = entry.toNat := Nat.mod_eq_of_lt (eq ▸ h.entries j mem)
    exact absent j mem (eq.trans whole.symm)
  rw [removeGoods_of_absent absent']
  refine h.part ?_ h.dense (List.Subset.refl _)
  rw [VendorState.removeItem, h.same, removeGoods_of_absent absent]

/-- The goods at the last slot are removed. -/
lemma InStep.removed (h : s.InStep) {entry : UInt32} (found : findGoods s.vendor.items (u16 entry.toNat) = some i)
    (small : entry.toNat < 2 ^ 16) (last : i.slot + 1 = s.vendor.items.length) :
    InStep ⟨s.vendor.removeItem entry, removeGoods s.stored entry.toNat⟩ := by
  obtain ⟨entry_eq, before, after, split, first⟩ := findGoods_eq_some found
  have whole : u16 entry.toNat = entry.toNat := Nat.mod_eq_of_lt small
  have stored := h.same.symm.trans split
  have dense := stored ▸ h.dense
  have rest : removeGoods s.stored entry.toNat = before ++ after := by
    rw [← whole, ← entry_eq, stored, removeGoods_split first]
  have sub : before ++ after ⊆ s.stored := by
    intro j mem
    exact stored ▸ List.perm_middle.mem_iff.mpr (List.mem_cons_of_mem _ mem)
  rw [rest]
  refine h.part ?_ ⟨dense.apart.2, (dense_rest_iff dense).mpr (split ▸ last)⟩ sub
  rw [VendorState.removeItem, h.same, whole, rest]

/-- If the slots answer after a removal, the goods that it has found had the entry and the last slot. -/
lemma InStep.fits_remove (h : s.InStep) {entry : UInt32}
    (answers : Answers ⟨s.vendor.removeItem entry, removeGoods s.stored entry.toNat⟩) :
    Fits s (.removeItem entry) := by
  intro i found
  obtain ⟨entry_eq, before, after, split, first⟩ := findGoods_eq_some found
  have stored := h.same.symm.trans split
  have dense := stored ▸ h.dense
  have items : (s.vendor.removeItem entry).items = before ++ after := by
    rw [VendorState.removeItem, ← entry_eq, split, removeGoods_split first]
  have small : entry.toNat < 2 ^ 16 := by
    by_contra big
    -- the goods stay stored, but not with the vendor
    have kept : i ∈ removeGoods s.stored entry.toNat := by
      have absent : ∀ j ∈ s.stored, j.entry ≠ entry.toNat := fun j mem eq => big (eq ▸ h.entries j mem)
      rw [removeGoods_of_absent absent, stored]
      exact List.mem_append_right _ List.mem_cons_self
    have mem := (answers.mem kept (h.slots i (stored ▸ List.mem_append_right _ List.mem_cons_self))).1
    dsimp only at mem
    rw [items] at mem
    exact dense.apart.1 (List.mem_map_of_mem mem)
  refine ⟨small, ?_⟩
  rw [split]
  refine (dense_rest_iff dense).mp fun j mem => ?_
  have kept : j ∈ removeGoods s.stored entry.toNat := by
    have whole : u16 entry.toNat = entry.toNat := Nat.mod_eq_of_lt small
    rw [← whole, ← entry_eq, stored, removeGoods_split first]
    exact mem
  have slot : j.slot < 2 ^ 8 :=
    h.slots j (stored ▸ List.perm_middle.mem_iff.mpr (List.mem_cons_of_mem _ mem))
  have below := (answers.mem kept slot).2
  dsimp only at below
  rwa [items] at below

/-- Removing is settled on a shelf in step. -/
lemma InStep.settled_remove (h : s.InStep) (entry : UInt32) : Settled s (.removeItem entry) := by
  refine settled_of_step rfl h.fits_remove fun fits => ?_
  cases found : findGoods s.vendor.items (u16 entry.toNat) with
  | none => exact h.removed_absent found
  | some i =>
    obtain ⟨small, last⟩ := fits i found
    exact h.removed found small last

/-- Every call is settled on a shelf in step. -/
lemma InStep.settled (h : s.InStep) (c : GoodsCall) : Settled s c := by
  cases c with
  | loadGoods => exact h.settled_load
  | addItem slot entry => exact h.settled_add slot entry
  | removeItem entry => exact h.settled_remove entry

/-- After every call of a sequence on a new vendor, each slot answers with the goods that are stored at it, exactly
if every call fits where it is made. -/
theorem getItem_iff (objmgr : ObjectMgr) (table : NpcVendor) (calls : List GoodsCall) :
    Along step Exact (new objmgr table) calls ↔ Along step Fits (new objmgr table) calls := by
  have empty : (new objmgr table).InStep := by
    refine ⟨rfl, ⟨List.nodup_nil, ?_⟩, ?_, ?_⟩
    all_goals exact fun i mem => absurd mem List.not_mem_nil
  exact along_congr empty (fun h => (h.settled _).1) (fun h fits next => (h.settled _).2 fits _ next) calls

/-- Goods at slot 5 of a vendor that has no others are not found. -/
theorem not_getItem :
    ¬∀ (objmgr : ObjectMgr) (table : NpcVendor) (calls : List GoodsCall),
      Along step Exact (new objmgr table) calls := by
  intro exact
  have answers := (exact VendorState.medicines VendorState.shelf [.addItem 5 10]).1 _ rfl
  have found := (answers 5 ⟨5, 10⟩).mpr ⟨List.mem_singleton_self _, rfl⟩
  cases found

end StockedVendor

end Legacy.Inventory
