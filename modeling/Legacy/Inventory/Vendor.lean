import Legacy.Inventory.Session
import Legacy.Lib.Tally

/-!
# Trading with a vendor

A purchase should take the whole price and give all the pieces, or do nothing; a sale should take the
pieces and pay for them, or do nothing. `handleBuy_atomic_iff` and `handleSell_exact_iff` give the exact
condition, on the player before the packet, under which the handlers do so.
-/

namespace Legacy.Inventory
open Legacy.Lib

/-- All places, in the order of the arrays. -/
def Loc.all : List Loc :=
  (List.range playerSlotsCount).map Loc.slot ++
    (List.range maxPetSlot).flatMap fun i => (List.range equipmentSlotEnd).map (Loc.worn i)

/-- All places are listed. -/
lemma Loc.mem_all {l : Loc} : l ∈ Loc.all ↔ l.Valid := by
  cases l with
  | slot i => simp [all, Valid]
  | worn i e => simp [all, Valid]

/-- No place is listed twice. -/
lemma Loc.nodup_all : Loc.all.Nodup := by
  have slots : Function.Injective Loc.slot := fun _ _ e => Loc.slot.inj e
  have worn : ∀ i, Function.Injective (Loc.worn i) := fun i _ _ e => (Loc.worn.inj e).2
  refine List.nodup_append.mpr ⟨List.Nodup.map slots List.nodup_range, ?_, ?_⟩
  · refine List.nodup_flatMap.mpr ⟨?_, List.nodup_range.imp ?_⟩
    · exact fun i _ => List.Nodup.map (worn i) List.nodup_range
    · intro i j ne l mem mem'
      obtain ⟨e, -, rfl⟩ := List.mem_map.mp mem
      obtain ⟨e', -, eq⟩ := List.mem_map.mp mem'
      exact ne (Loc.worn.inj eq).1.symm
  · intro l mem l' mem'
    obtain ⟨i, -, rfl⟩ := List.mem_map.mp mem
    obtain ⟨j, -, mem''⟩ := List.mem_flatMap.mp mem'
    obtain ⟨e, -, rfl⟩ := List.mem_map.mp mem''
    exact Loc.noConfusion

namespace Player

/-- The item at a place. -/
def itemIn (p : Player) (l : Loc) : Option Item := (p.holds l).bind p.heap

/-- What an item adds to the count of an entry. -/
def weight (entry : Nat) : Option Item → Nat
  | some it => if it.entry = entry then it.count else 0
  | none => 0

/-- How many pieces of an entry the player holds, its pets included. -/
def heldCount (p : Player) (entry : Nat) : Nat :=
  total Loc.all fun l => weight entry (p.itemIn l)

/-- Gold and items are as they were. -/
def Unchanged (p p' : Player) : Prop := p'.gold = p.gold ∧ ∀ l, p'.itemIn l = p.itemIn l

/-- The price was paid and the pieces were received. -/
def Received (p p' : Player) (entry price count : Nat) : Prop :=
  p'.gold + price = p.gold ∧ p'.heldCount entry = p.heldCount entry + count

/-- A purchase that is atomic and exact. -/
def Atomic (objmgr : ObjectMgr) (vendor : Option (List CreatureItem)) (vendor_slot buy_count : Nat)
    (p p' : Player) : Prop :=
  Unchanged p p' ∨
    ∃ goods citem proto, vendor = some goods ∧ getGoods goods vendor_slot = some citem ∧
      objmgr.getItemPrototype citem.entry = some proto ∧
      Received p p' citem.entry (proto.buyprice * buy_count) buy_count

/-- The pieces are all stored, under the entry that was sold. -/
def StoredWhole (objmgr : ObjectMgr) (p : Player) (proto : ItemPrototype) (buy_count : Nat) : Prop :=
  (objmgr.getItemEntryByModelId proto.modelid).1 = proto.itemId ∧
    createCount proto buy_count = buy_count ∧
    ∃ dest, canStoreNewItem objmgr p proto.itemId buy_count = .ok dest ∧
      ∀ it2, p.itemAt dest = some it2 → it2.count + buy_count < 2 ^ 32

/-- Nothing is stored. -/
def StoredNone (objmgr : ObjectMgr) (p : Player) (proto : ItemPrototype) (buy_count : Nat) : Prop :=
  ∀ dest, canStoreNewItem objmgr p (objmgr.getItemEntryByModelId proto.modelid).1 buy_count ≠ .ok dest

/-- The condition on a purchase past the check of the gold: a price that is a multiple of `2 ^ 32` costs
nothing, and then nothing may be stored; otherwise the gold covers the price, what is left is below
`2 ^ 31`, and all pieces are stored, or none was asked for and none of that entry is stored. -/
def PaysExactly (objmgr : ObjectMgr) (p : Player) (proto : ItemPrototype) (buy_count : Nat) : Prop :=
  (2 ^ 32 ∣ proto.buyprice * buy_count ∧ p.gold < 2 ^ 31 ∧ StoredNone objmgr p proto buy_count) ∨
  (proto.buyprice * buy_count ≤ p.gold ∧ p.gold < 2 ^ 31 + proto.buyprice * buy_count ∧
    (StoredWhole objmgr p proto buy_count ∨
      (buy_count = 0 ∧ (StoredNone objmgr p proto buy_count ∨
        (objmgr.getItemEntryByModelId proto.modelid).1 ≠ proto.itemId))))

/-- The condition on a purchase. -/
def BuyOk (objmgr : ObjectMgr) (p : Player) (vendor : Option (List CreatureItem))
    (vendor_slot buy_count : Nat) : Prop :=
  ∀ goods citem proto, vendor = some goods → getGoods goods vendor_slot = some citem →
    objmgr.getItemPrototype citem.entry = some proto → buy_count ≤ p.gold →
      PaysExactly objmgr p proto buy_count

/-- A sale that is exact: nothing has changed, or pieces of the stack in an inventory slot are gone and
were paid for. -/
def SoldExactly (objmgr : ObjectMgr) (slot sell_count : Nat) (p p' : Player) : Prop :=
  Unchanged p p' ∨
    (inventorySlotItemStart ≤ slot ∧ slot < inventorySlotItemEnd ∧
      ∃ it proto, p.itemAt slot = some it ∧ objmgr.getItemPrototype it.entry = some proto ∧
        sell_count ≤ it.count ∧ p'.gold = p.gold + proto.sellprice * sell_count ∧
        p'.itemIn (.slot slot) =
          (if it.count = sell_count then none
          else some { it with count := it.count - sell_count }) ∧
        ∀ l, l ≠ .slot slot → p'.itemIn l = p.itemIn l)

/-- The condition on a sale: the slot exists, and when there are enough pieces in it then the gold stays
below `2 ^ 31`, and either the slot is an inventory slot and the item is not sold whole before its first
save, or nothing is sold of a stack. -/
def SellOk (objmgr : ObjectMgr) (p : Player) (slot sell_count : Nat) : Prop :=
  slot < playerSlotsCount ∧
    ∀ it proto, p.itemAt slot = some it → objmgr.getItemPrototype it.entry = some proto →
      sell_count ≤ it.count →
        p.gold + proto.sellprice * sell_count < 2 ^ 31 ∧
        ((inventorySlotItemStart ≤ slot ∧ slot < inventorySlotItemEnd ∧
            (it.count = sell_count → (p.marks it.guid).uState ≠ .new)) ∨
          (sell_count = 0 ∧ it.count ≠ 0))

section Counts

variable {objmgr : ObjectMgr} {p p' : Player}

/-- A change at one place changes the count by the difference there. -/
lemma heldCount_change {l : Loc} (valid : l.Valid) (off : ∀ l', l' ≠ l → p'.itemIn l' = p.itemIn l')
    (entry : Nat) :
    p'.heldCount entry + weight entry (p.itemIn l) = p.heldCount entry + weight entry (p'.itemIn l) :=
  total_change (f := fun l => weight entry (p'.itemIn l)) Loc.nodup_all (Loc.mem_all.mpr valid)
    fun l' _ ne => congrArg (weight entry) (off l' ne)

/-- A count depends on the places. -/
lemma heldCount_congr (same : ∀ l, p'.itemIn l = p.itemIn l) (entry : Nat) :
    p'.heldCount entry = p.heldCount entry := by
  simp only [heldCount, same]

/-- The item in a place depends on the place and its item. -/
lemma itemIn_congr {l : Loc} (holds : p'.holds l = p.holds l)
    (heap : ∀ g, p.holds l = some g → p'.heap g = p.heap g) : p'.itemIn l = p.itemIn l := by
  rw [itemIn, itemIn, holds]
  exact Option.bind_congr heap

/-- A slot is a place. -/
lemma itemIn_slot (p : Player) (i : Nat) : p.itemIn (.slot i) = p.itemAt i := rfl

/-- Putting an item into a slot leaves the other places alone. -/
lemma holds_put_ne {pos g : Nat} {it : Item} {l : Loc} (ne : l ≠ .slot pos) :
    (p.put pos g it).holds l = p.holds l := by
  rw [put, holds_requeue]
  cases l with
  | slot i => exact setSlot_items_ne _ _ fun eq => ne (congrArg Loc.slot eq)
  | worn i e => rfl

/-- So do their items. -/
lemma itemIn_put_ne {pos g : Nat} {it : Item} {l : Loc} (fl : p.Floating g) (ne : l ≠ .slot pos) :
    (p.put pos g it).itemIn l = p.itemIn l :=
  itemIn_congr (holds_put_ne ne) fun _ held => put_heap_ne _ _ _ fun eq => fl l (eq ▸ held)

/-- The slot has its item. -/
lemma itemIn_put_self (p : Player) (pos g : Nat) (it : Item) :
    (p.put pos g it).itemIn (.slot pos) =
      some { it with owner := p.guid, slot := pos, container := none } :=
  Option.bind_eq_some_iff.mpr ⟨g, put_items_self .., put_heap_self ..⟩

/-- The stack that takes another one has both counts. -/
lemma absorbed_heap_self {g g2 : Nat} {it it2 : Item} (ne : g2 ≠ g) :
    (p.absorbed g g2 it it2).heap g2 = some { it2 with count := u32 (it2.count + it.count) } := by
  rw [absorbed, requeue_heap, deleteItem_heap_ne _ ne, setItem_heap_ne _ _ ne, setItem_heap_self]

/-- The other items stay as they are. -/
lemma absorbed_heap_ne {g g2 g' : Nat} {it it2 : Item} (ne : g' ≠ g) (ne2 : g' ≠ g2) :
    (p.absorbed g g2 it it2).heap g' = p.heap g' := by
  rw [absorbed, requeue_heap, deleteItem_heap_ne _ ne, setItem_heap_ne _ _ ne, setItem_heap_ne _ _ ne2]

/-- So do the other places. -/
lemma itemIn_absorbed_ne {g g2 : Nat} {it it2 : Item} {l l2 : Loc} (h : p.Stored objmgr)
    (fl : p.Floating g) (at2 : p.holds l2 = some g2) (ne : l ≠ l2) :
    (p.absorbed g g2 it it2).itemIn l = p.itemIn l := by
  refine itemIn_congr (holds_absorbed ..) fun g' held => absorbed_heap_ne ?_ ?_
  · exact fun eq => fl l (eq ▸ held)
  · exact fun eq => ne (h.unique held (eq ▸ at2))

/-- A new object leaves what the places hold. -/
lemma Stored.itemIn_withNew (h : p.Stored objmgr) (itemid count : Nat) (l : Loc) :
    (p.withNew itemid count).itemIn l = p.itemIn l := by
  refine itemIn_congr (by cases l <;> rfl) fun g held => withNew_heap_ne p itemid count fun eq => ?_
  obtain ⟨it, live, -⟩ := h.live held
  have le := (h.known live).2.1
  omega

/-- New pieces are stored whole in one place, or nothing changes. -/
lemma Gained.itemIn {itemid count : Nat} (h : p.Stored objmgr) (g : Gained objmgr p itemid count p') :
    p'.gold = p.gold ∧
    (((∀ dest, canStoreNewItem objmgr p itemid count ≠ .ok dest) ∧ ∀ l, p'.itemIn l = p.itemIn l) ∨
    ∃ proto dest it', canStoreNewItem objmgr p itemid count = .ok dest ∧
      objmgr.getItemPrototype itemid = some proto ∧ dest < playerSlotsCount ∧
      (∀ l, l ≠ .slot dest → p'.itemIn l = p.itemIn l) ∧ p'.itemIn (.slot dest) = some it' ∧
      it'.entry = itemid ∧
      ((p.itemAt dest = none ∧ it'.count = createCount proto count) ∨
        ∃ it2, p.itemAt dest = some it2 ∧ it2.entry = itemid ∧
          it'.count = u32 (it2.count + createCount proto count))) := by
  cases g with
  | refused can =>
    refine ⟨?_, .inl ⟨fun dest => by simp [can], fun l => ?_⟩⟩
    · simp only [afterCanStoreNewItem]
      split_ifs <;> rfl
    · simp only [afterCanStoreNewItem]
      split_ifs
      · cases l <;> rfl
      · rfl
  | @placed proto dest can known lt free =>
    obtain ⟨st, fl⟩ := h.withNew itemid (createCount proto count)
    refine ⟨requeue_gold .., .inr ⟨proto, dest, _, can, known, lt, ?_, itemIn_put_self .., rfl, .inl ?_⟩⟩
    · exact fun l ne => (itemIn_put_ne fl ne).trans (h.itemIn_withNew ..)
    · exact ⟨by simp only [itemAt, free, Option.bind_none], rfl⟩
  | @stacked proto dest it2 can known at2 same =>
    obtain ⟨st, fl⟩ := h.withNew itemid (createCount proto count)
    have at2' := (h.withNew_itemAt itemid (createCount proto count) dest).trans at2
    obtain ⟨held2, -⟩ := st.items_of_itemAt at2'
    have lt : dest < playerSlotsCount := h.valid (l := .slot dest) held2
    have ne : it2.guid ≠ p.hiItemGuid + 2 := fun eq => fl (.slot dest) (eq ▸ held2)
    refine ⟨requeue_gold .., .inr ⟨proto, dest, { it2 with count := u32 (it2.count +
      createCount proto count) }, can, known, lt, ?_, ?_, same, .inr ⟨it2, at2, same, rfl⟩⟩⟩
    · have at2'' : (p.withNew itemid (createCount proto count)).holds (.slot dest) = some it2.guid :=
        held2
      exact fun l nel => (itemIn_absorbed_ne st fl at2'' nel).trans (h.itemIn_withNew ..)
    · refine Option.bind_eq_some_iff.mpr ⟨it2.guid, ?_, absorbed_heap_self ne⟩
      exact (holds_absorbed _ _ _ _ _ (.slot dest)).trans held2

end Counts

section Purchase

/-- Paying leaves the gold as it is when the price is cut to nothing. -/
lemma spend_eq_self {g price : Nat} (free : g = 0 → price = 0) :
    applyModUInt32Value g (u32 price) false = g ↔ 2 ^ 32 ∣ price ∧ g < 2 ^ 31 := by
  simp only [applyModUInt32Value, i32, u32, Bool.false_eq_true, if_false]
  omega

/-- Paying takes the price when the gold covers it and the rest is below the sign bit. -/
lemma spend_exact {g price : Nat} :
    applyModUInt32Value g (u32 price) false + price = g ↔ price ≤ g ∧ g < 2 ^ 31 + price := by
  simp only [applyModUInt32Value, i32, u32, Bool.false_eq_true, if_false]
  omega

/-- The pieces that join a stack are counted when none is cut off and the sum does not wrap. -/
lemma u32_add_eq {c n count : Nat} (le : n ≤ max 1 count) (small : count < 2 ^ 16) :
    u32 (c + n) = c + count ↔ n = count ∧ c + count < 2 ^ 32 := by
  simp only [u32]
  omega

/-- Adding a positive amount below 2 ^ 32 changes a count. -/
lemma u32_add_ne {c n : Nat} (pos : 0 < n) (small : n < 2 ^ 32) : u32 (c + n) ≠ c := by
  simp only [u32]
  omega

/-- A created stack has at most the count asked for, or one. -/
lemma createCount_le (proto : ItemPrototype) (count : Nat) : createCount proto count ≤ max 1 count := by
  simp only [createCount]
  omega

/-- A created stack is not empty. -/
lemma createCount_pos (proto : ItemPrototype) (count : Nat) : 0 < createCount proto count := by
  simp only [createCount]
  omega

variable {objmgr : ObjectMgr} {p p' : Player}

/-- What storing new pieces of the entry that was sold does to its count. -/
lemma Gained.received_iff {proto : ItemPrototype} {count : Nat} (h : p.Stored objmgr)
    (known : objmgr.getItemPrototype proto.itemId = some proto) (small : count < 2 ^ 16)
    (g : Gained objmgr p (objmgr.getItemEntryByModelId proto.modelid).1 count p') :
    p'.heldCount proto.itemId = p.heldCount proto.itemId + count ↔
      StoredWhole objmgr p proto count ∨
        (count = 0 ∧ (StoredNone objmgr p proto count ∨
          (objmgr.getItemEntryByModelId proto.modelid).1 ≠ proto.itemId)) := by
  obtain ⟨-, ⟨none, same⟩ | ⟨proto', dest, it', can, known', lt, off, at_, entry, change⟩⟩ := g.itemIn h
  · -- nothing was stored
    rw [heldCount_congr same]
    have notWhole : ¬ StoredWhole objmgr p proto count := fun ⟨eq, _, dest, can, _⟩ =>
      none dest (eq ▸ can)
    have noneStored : StoredNone objmgr p proto count := none
    simp only [notWhole, noneStored, true_or, and_true, false_or]
    omega
  · have notNone : ¬ StoredNone objmgr p proto count := fun none => none dest can
    have change' := heldCount_change (l := .slot dest) lt off proto.itemId
    rw [at_, itemIn_slot] at change'
    simp only [notNone, false_or]
    by_cases eq : (objmgr.getItemEntryByModelId proto.modelid).1 = proto.itemId
    · -- the pieces are of the entry that was sold
      obtain rfl : proto' = proto := Option.some.inj (known'.symm.trans (eq ▸ known))
      have whole : StoredWhole objmgr p proto' count ↔ createCount proto' count = count ∧
          ∀ it2, p.itemAt dest = some it2 → it2.count + count < 2 ^ 32 := by
        refine ⟨fun ⟨_, all, dest', can', room⟩ => ⟨all, ?_⟩, fun ⟨all, room⟩ => ⟨eq, all, dest, ?_, room⟩⟩
        · rw [eq] at can
          obtain rfl := Except.ok.inj (can.symm.trans can')
          exact room
        · rwa [← eq]
      rw [whole, weight, if_pos (entry.trans eq)] at *
      simp only [eq, ne_eq, not_true_eq_false, and_false, or_false]
      obtain ⟨free, count'⟩ | ⟨it2, at2, entry2, count'⟩ := change
      · rw [free, weight, count'] at change'
        simp only [free, reduceCtorEq, false_implies, implies_true, and_true]
        omega
      · rw [at2, weight, if_pos (entry2.trans eq), count'] at change'
        have sum := u32_add_eq (c := it2.count) (createCount_le proto' count) small
        simp only [at2, Option.some_inj, forall_eq']
        omega
    · -- the model led to another entry
      have notWhole : ¬ StoredWhole objmgr p proto count := fun w => eq w.1
      have other : ∀ it, p.itemAt dest = some it → it.entry ≠ proto.itemId := by
        intro it at_it
        obtain ⟨free, -⟩ | ⟨it2, at2, entry2, -⟩ := change
        · simp [free] at at_it
        · obtain rfl := Option.some.inj (at2.symm.trans at_it)
          exact entry2.trans_ne eq
      rw [weight, if_neg (entry.trans_ne eq)] at change'
      simp only [notWhole, eq, ne_eq, not_false_eq_true, and_true, false_or]
      cases at2 : p.itemAt dest with
      | none =>
        rw [at2, weight] at change'
        omega
      | some it2 =>
        rw [at2, weight, if_neg (other it2 at2)] at change'
        omega

/-- Nothing of the player's items changes exactly when nothing was stored. -/
lemma Gained.unchanged_iff {itemid count : Nat} (h : p.Stored objmgr) (small : count < 2 ^ 16)
    (g : Gained objmgr p itemid count p') :
    (∀ l, p'.itemIn l = p.itemIn l) ↔ ∀ dest, canStoreNewItem objmgr p itemid count ≠ .ok dest := by
  obtain ⟨-, ⟨none, same⟩ | ⟨proto, dest, it', can, -, -, -, at_, -, change⟩⟩ := g.itemIn h
  · exact iff_of_true same none
  · refine iff_of_false (fun same => ?_) fun none => none dest can
    have at_' : p.itemAt dest = some it' := (itemIn_slot p dest).symm.trans ((same _).symm.trans at_)
    obtain ⟨free, -⟩ | ⟨it2, at2, -, count'⟩ := change
    · exact absurd (free.symm.trans at_') (by simp)
    · obtain rfl := Option.some.inj (at2.symm.trans at_')
      have le := createCount_le proto count
      exact u32_add_ne (createCount_pos proto count) (by omega) count'.symm

/-- The checks of the storage do not look at the gold. -/
lemma canStoreNewItem_gold (gold itemid count : Nat) :
    canStoreNewItem objmgr { p with gold := gold } itemid count =
      canStoreNewItem objmgr p itemid count := by
  simp only [canStoreNewItem, createItem]
  cases objmgr.getItemPrototype itemid with
  | none => rfl
  | some proto => rfl

/-- Whether nothing fits does not depend on the gold. -/
lemma storedNone_gold (gold : Nat) (proto : ItemPrototype) (count : Nat) :
    StoredNone objmgr { p with gold := gold } proto count ↔ StoredNone objmgr p proto count := by
  simp only [StoredNone, canStoreNewItem_gold]

/-- Whether everything fits does not depend on the gold. -/
lemma storedWhole_gold (gold : Nat) (proto : ItemPrototype) (count : Nat) :
    StoredWhole objmgr { p with gold := gold } proto count ↔ StoredWhole objmgr p proto count := by
  simp only [StoredWhole, canStoreNewItem_gold]
  rfl

/-- A purchase past the check of the gold, in terms of the gold that is left and of what is stored. -/
lemma Gained.atomic_iff {goods : List CreatureItem} {citem : CreatureItem} {proto : ItemPrototype}
    {vendor_slot count gold : Nat} (h : p.Stored objmgr) (small : count < 2 ^ 16)
    (found : getGoods goods vendor_slot = some citem)
    (known : objmgr.getItemPrototype citem.entry = some proto) (lt : gold < 2 ^ 32)
    (g : Gained objmgr { p with gold := gold } (objmgr.getItemEntryByModelId proto.modelid).1 count p') :
    Atomic objmgr (some goods) vendor_slot count p p' ↔
      (gold = p.gold ∧ StoredNone objmgr p proto count) ∨
      (gold + proto.buyprice * count = p.gold ∧
        (StoredWhole objmgr p proto count ∨ (count = 0 ∧ (StoredNone objmgr p proto count ∨
          (objmgr.getItemEntryByModelId proto.modelid).1 ≠ proto.itemId)))) := by
  have entry : proto.itemId = citem.entry := ObjectMgr.itemId_of_getItemPrototype known
  have st : Player.Stored objmgr { p with gold := gold } := h.withGold lt
  have paid : p'.gold = gold := (g.itemIn st).1
  have unchanged : Unchanged p p' ↔ gold = p.gold ∧ StoredNone objmgr p proto count := by
    rw [Unchanged, paid, ← storedNone_gold gold]
    exact and_congr_right fun _ => Gained.unchanged_iff (p := { p with gold := gold }) st small g
  have received : Received p p' citem.entry (proto.buyprice * count) count ↔
      gold + proto.buyprice * count = p.gold ∧
      (StoredWhole objmgr p proto count ∨ (count = 0 ∧ (StoredNone objmgr p proto count ∨
          (objmgr.getItemEntryByModelId proto.modelid).1 ≠ proto.itemId))) := by
    rw [Received, paid, ← entry, ← storedNone_gold gold, ← storedWhole_gold gold]
    exact and_congr_right fun _ =>
      Gained.received_iff (p := { p with gold := gold }) st (entry ▸ known) small g
  rw [Atomic, unchanged]
  refine or_congr_right ⟨?_, fun rec => ⟨goods, citem, proto, rfl, found, known, received.mpr rec⟩⟩
  rintro ⟨_, citem', proto', ⟨⟩, found', known', rec⟩
  obtain rfl := Option.some.inj (found.symm.trans found')
  obtain rfl := Option.some.inj (known.symm.trans known')
  exact received.mp rec

/-- The price and the gold meet the condition exactly when the gold that is left is right. -/
lemma paysExactly_iff {proto : ItemPrototype} {count : Nat} (enough : count ≤ p.gold) :
    PaysExactly objmgr p proto count ↔
      (applyModUInt32Value p.gold (u32 (proto.buyprice * count)) false = p.gold ∧
        StoredNone objmgr p proto count) ∨
      (applyModUInt32Value p.gold (u32 (proto.buyprice * count)) false + proto.buyprice * count = p.gold ∧
        (StoredWhole objmgr p proto count ∨ (count = 0 ∧ (StoredNone objmgr p proto count ∨
          (objmgr.getItemEntryByModelId proto.modelid).1 ≠ proto.itemId)))) := by
  have free : p.gold = 0 → proto.buyprice * count = 0 := by
    intro zero
    have none : count = 0 := by omega
    rw [none, Nat.mul_zero]
  rw [spend_eq_self free, spend_exact, PaysExactly, and_assoc, and_assoc]

/-- In every reachable state a purchase is atomic and exact if and only if the gold is compared with a
price that fits, and the pieces fit. -/
theorem handleBuy_atomic_iff {s : Session} (r : Session.Reachable objmgr s)
    (vendor : Option (List CreatureItem)) (vendor_slot : Nat) {buy_count : Nat}
    (small : buy_count < 2 ^ 16) :
    (∃ p', handleBuy objmgr s.player vendor vendor_slot buy_count = .ok p' ∧
      Atomic objmgr vendor vendor_slot buy_count s.player p') ↔
    BuyOk objmgr s.player vendor vendor_slot buy_count := by
  have h := r.stored
  have stays : (∃ p', Except.ok (ε := Fault) s.player = .ok p' ∧
      Atomic objmgr vendor vendor_slot buy_count s.player p') :=
    ⟨s.player, rfl, .inl ⟨rfl, fun _ => rfl⟩⟩
  cases vendor with
  | none => exact iff_of_true stays fun _ _ _ e => absurd e (by simp)
  | some goods =>
    simp only [handleBuy]
    cases found : getGoods goods vendor_slot with
    | none =>
      refine iff_of_true stays ?_
      rintro _ _ _ ⟨⟩ found'
      exact absurd (found.symm.trans found') (by simp)
    | some citem =>
      simp only
      cases known : objmgr.getItemPrototype citem.entry with
      | none =>
        refine iff_of_true stays ?_
        rintro _ citem' _ ⟨⟩ found' known'
        obtain rfl := Option.some.inj (found.symm.trans found')
        exact absurd (known.symm.trans known') (by simp)
      | some proto =>
        have ok : BuyOk objmgr s.player (some goods) vendor_slot buy_count ↔
            (buy_count ≤ s.player.gold → PaysExactly objmgr s.player proto buy_count) := by
          refine ⟨fun ok => ok goods citem proto rfl found known, ?_⟩
          rintro pays _ citem' proto' ⟨⟩ found' known'
          obtain rfl := Option.some.inj (found.symm.trans found')
          obtain rfl := Option.some.inj (known.symm.trans known')
          exact pays
        rw [ok]
        simp only
        split_ifs with few
        · exact iff_of_true stays fun enough => absurd few (Nat.not_lt.mpr enough)
        · have enough := Nat.not_lt.mp few
          have lt : applyModUInt32Value s.player.gold (u32 (proto.buyprice * buy_count)) false < 2 ^ 32 :=
            applyModUInt32Value_lt ..
          rw [paysExactly_iff enough]
          obtain ⟨p', eq, g⟩ := sat_iff.mp ((h.withGold lt).addNewInventoryItem proto.modelid buy_count)
          simp only [eq, Except.ok.injEq, exists_eq_left', enough, forall_const]
          exact g.atomic_iff h small found known lt

/-- A potion for three coins, under model 7, and a sword for a hundred. -/
def wares : ObjectMgr :=
  ⟨[⟨1, 7, "Medicine", 0, 0, 0, 3, 1, 0, 50, []⟩, ⟨2, 8, "Weapon", 4, 0, 3, 100, 50, 0, 1, []⟩], []⟩

/-- Two potions for six of ten coins. -/
theorem handleBuy_potions :
    ∃ p', handleBuy wares (Session.created 1 10).player (some [⟨0, 1⟩]) 0 2 = .ok p' ∧
      Atomic wares (some [⟨0, 1⟩]) 0 2 (Session.created 1 10).player p' := by
  refine (handleBuy_atomic_iff (Session.created_reachable wares (by decide)) _ 0 (by decide)).mpr ?_
  rintro _ citem proto ⟨⟩ ⟨⟩ ⟨⟩ -
  refine .inr ⟨by decide, by decide, .inl ⟨rfl, rfl, 10, rfl, ?_⟩⟩
  rintro it2 ⟨⟩

/-- Ten coins are enough for a sword, and nothing is left of them. -/
theorem handleBuy_sword :
    Session.Reachable wares (Session.created 1 10) ∧
      ¬ ∃ p', handleBuy wares (Session.created 1 10).player (some [⟨0, 2⟩]) 0 1 = .ok p' ∧
        Atomic wares (some [⟨0, 2⟩]) 0 1 (Session.created 1 10).player p' := by
  refine ⟨Session.created_reachable wares (by decide), ?_⟩
  rintro ⟨p', bought, atomic⟩
  have left : (handleBuy wares (Session.created 1 10).player (some [⟨0, 2⟩]) 0 1).map Player.gold =
      .ok 0 := by decide +kernel
  rw [bought] at left
  have broke : p'.gold = 0 := Except.ok.inj left
  obtain ⟨gold, -⟩ | ⟨_, _, proto, ⟨⟩, ⟨⟩, ⟨⟩, gold, -⟩ := atomic
  · exact absurd (broke.symm.trans gold) (by decide)
  · exact absurd (broke ▸ gold) (by decide)

end Purchase

section Sale

/-- A payment arrives whole when the gold stays below the sign bit. -/
lemma earn_exact {g price : Nat} :
    applyModUInt32Value g (u32 price) true = g + price ↔ g + price < 2 ^ 31 := by
  simp only [applyModUInt32Value, i32, u32, if_true]
  omega

variable {objmgr : ObjectMgr} {p : Player} {slot : Nat} {it : Item} (h : p.Stored objmgr)
  (e : p.itemAt slot = some it)
include h e

/-- A recounted slot holds its item with the new count. -/
lemma Stored.itemIn_recount (count : Nat) :
    (p.recount it count).itemIn (.slot slot) = some { it with count := count } ∧
      ∀ l, l ≠ .slot slot → (p.recount it count).itemIn l = p.itemIn l := by
  obtain ⟨at_, -⟩ := h.items_of_itemAt e
  have heap : (p.recount it count).heap = (p.setItem it.guid { it with count := count }).heap :=
    requeue_heap ..
  have holds : ∀ l, (p.recount it count).holds l = p.holds l := holds_requeue _ _ _ _
  constructor
  · refine Option.bind_eq_some_iff.mpr ⟨it.guid, (holds _).trans at_, ?_⟩
    rw [heap, setItem_heap_self]
  · intro l ne
    refine itemIn_congr (holds l) fun g held => ?_
    have other : g ≠ it.guid := by
      rintro rfl
      exact ne (h.unique held (k := .slot slot) at_)
    rw [heap, setItem_heap_ne _ _ other]

/-- Selling a whole stack empties its slot and nothing else. -/
lemma Stored.itemIn_soldOut (it0 : Item) (same : it0.guid = it.guid) :
    (Player.taken objmgr ((p.setItem it.guid it0).requeue it.guid it0 .removed) slot it0).itemIn
        (.slot slot) = none ∧
      ∀ l, l ≠ .slot slot →
        (Player.taken objmgr ((p.setItem it.guid it0).requeue it.guid it0 .removed) slot it0).itemIn l =
          p.itemIn l := by
  obtain ⟨at_, -⟩ := h.items_of_itemAt e
  constructor
  · rw [itemIn_slot, itemAt, taken_free, Option.bind_none]
  · intro l ne
    refine itemIn_congr ?_ fun g held => ?_
    · cases l with
      | slot i =>
        have nei : i ≠ slot := fun eq => ne (congrArg Loc.slot eq)
        exact (taken_items_ne objmgr _ _ nei).trans (congrFun (requeue_items ..) i)
      | worn i e' => exact holds_requeue _ _ _ _ (.worn i e')
    · have other : g ≠ it.guid := by
        rintro rfl
        exact ne (h.unique held (k := .slot slot) at_)
      rw [taken_heap_ne objmgr _ _ _ (same ▸ other), requeue_heap, setItem_heap_ne _ _ other]

omit h

/-- A payment for pieces that are gone from a slot, which changes nothing else. -/
lemma soldExactly_iff {q : Player} {proto : ItemPrototype} {sell_count gold : Nat}
    (known : objmgr.getItemPrototype it.entry = some proto) (le : sell_count ≤ it.count)
    (self : q.itemIn (.slot slot) =
      if it.count = sell_count then none else some { it with count := it.count - sell_count })
    (off : ∀ l, l ≠ .slot slot → q.itemIn l = p.itemIn l)
    (pay : gold = applyModUInt32Value p.gold (u32 (proto.sellprice * sell_count)) true) :
    SoldExactly objmgr slot sell_count p { q with gold := gold } ↔
      p.gold + proto.sellprice * sell_count < 2 ^ 31 ∧
        ((inventorySlotItemStart ≤ slot ∧ slot < inventorySlotItemEnd) ∨
          (sell_count = 0 ∧ it.count ≠ 0)) := by
  constructor
  · rintro (⟨same, items⟩ | ⟨lo, hi, it', proto', e', known', -, paid, -⟩)
    · have kept : q.itemIn (.slot slot) = some it := (items (.slot slot)).trans e
      rw [self] at kept
      split_ifs at kept with all
      have count := congrArg Item.count (Option.some.inj kept)
      have zero : sell_count = 0 := by
        simp only at count
        omega
      have price : proto.sellprice * sell_count = 0 := by rw [zero, Nat.mul_zero]
      refine ⟨earn_exact.mp ?_, .inr ⟨zero, fun empty => all (empty.trans zero.symm)⟩⟩
      rw [← pay, price, Nat.add_zero]
      exact same
    · obtain rfl := Option.some.inj (e.symm.trans e')
      obtain rfl := Option.some.inj (known.symm.trans known')
      exact ⟨earn_exact.mp (pay.symm.trans paid), .inl ⟨lo, hi⟩⟩
  · rintro ⟨fits, ⟨lo, hi⟩ | ⟨zero, pos⟩⟩
    · exact .inr ⟨lo, hi, it, proto, e, known, le, pay.trans (earn_exact.mpr fits), self, off⟩
    · have price : proto.sellprice * sell_count = 0 := by rw [zero, Nat.mul_zero]
      have same := pay.trans (earn_exact.mpr fits)
      rw [price, Nat.add_zero] at same
      refine .inl ⟨same, fun l => ?_⟩
      by_cases eq : l = .slot slot
      · subst eq
        have kept : q.itemIn (.slot slot) = some it := by
          rw [self, if_neg (by omega), zero, Nat.sub_zero]
        exact kept.trans e.symm
      · exact off l eq

/-- When a sale is right, spelled out. -/
lemma sellOk_iff {proto : ItemPrototype} {sell_count : Nat}
    (known : objmgr.getItemPrototype it.entry = some proto) (lt : slot < playerSlotsCount) :
    SellOk objmgr p slot sell_count ↔ (sell_count ≤ it.count →
      p.gold + proto.sellprice * sell_count < 2 ^ 31 ∧
      ((inventorySlotItemStart ≤ slot ∧ slot < inventorySlotItemEnd ∧
          (it.count = sell_count → (p.marks it.guid).uState ≠ .new)) ∨
        (sell_count = 0 ∧ it.count ≠ 0))) := by
  refine ⟨fun ok => ok.2 it proto e known, fun ok => ⟨lt, fun it' proto' e' known' => ?_⟩⟩
  obtain rfl := Option.some.inj (e.symm.trans e')
  obtain rfl := Option.some.inj (known.symm.trans known')
  exact ok

end Sale

/-- In every reachable state a sale is safe and exact if and only if it sells from an inventory slot, the
gold stays below the sign bit, and an item that was not saved yet is not sold whole. -/
theorem handleSell_exact_iff {objmgr : ObjectMgr} {s : Session} (r : Session.Reachable objmgr s)
    (player_slot sell_count : Nat) :
    (∃ p', (handleSell objmgr s.player player_slot sell_count).result = .ok p' ∧
      SoldExactly objmgr (inventorySlot player_slot) sell_count s.player p') ↔
    SellOk objmgr s.player (inventorySlot player_slot) sell_count := by
  have h := r.stored
  have stays : SoldExactly objmgr (inventorySlot player_slot) sell_count s.player s.player :=
    .inl ⟨rfl, fun _ => rfl⟩
  by_cases lt : inventorySlot player_slot < playerSlotsCount
  · cases e : s.player.itemAt (inventorySlot player_slot) with
    | none =>
      refine iff_of_true ⟨_, h.handleSell_none lt e, stays⟩ ⟨lt, fun it proto e' => ?_⟩
      exact absurd (e.symm.trans e') (by simp)
    | some it =>
      obtain ⟨-, -, -, -, isSome⟩ := h.items_of_itemAt e
      obtain ⟨proto, known⟩ := Option.isSome_iff_exists.mp isSome
      rw [sellOk_iff e known lt]
      obtain few | all | less := Nat.lt_trichotomy it.count sell_count
      · exact iff_of_true ⟨_, h.handleSell_few lt e known few, stays⟩
          fun le => absurd few (Nat.not_lt.mpr le)
      · by_cases new : (s.player.marks it.guid).uState = .new
        · -- the deleted item is read
          refine iff_of_false ?_ fun ok => ?_
          · rintro ⟨p', ok, -⟩
            exact (h.handleSell_new lt e known all new).of_ok ok
          · obtain ⟨-, ⟨-, -, old⟩ | ⟨zero, pos⟩⟩ := ok all.ge
            · exact old all new
            · exact pos (all.trans zero)
        · obtain ⟨self, off⟩ := h.itemIn_soldOut e { it with count := 0 } rfl
          simp only [h.handleSell_emptied lt e known all new, Except.ok.injEq, exists_eq_left']
          refine (soldExactly_iff e known all.ge (self.trans (if_pos all).symm) off rfl).trans ?_
          simp only [all, le_refl, forall_const, ne_eq, new, not_false_eq_true, and_true]
      · obtain ⟨self, off⟩ := h.itemIn_recount e (it.count - sell_count)
        simp only [h.handleSell_kept lt e known less, Except.ok.injEq, exists_eq_left']
        refine (soldExactly_iff e known less.le (self.trans (if_neg less.ne').symm) off rfl).trans ?_
        simp only [less.le, less.ne', false_implies, forall_const, and_true]
  · refine iff_of_false ?_ fun ok => lt ok.1
    rintro ⟨p', ok, -⟩
    simp [handleSell, Traced.access, SlotArray.size, lt] at ok

/-- A character that bought two potions. -/
def customer : Player :=
  match handleBuy wares (Session.created 1 10).player (some [⟨0, 1⟩]) 0 2 with
  | .ok p => p
  | .error _ => (Session.created 1 10).player

/-- The state of the customer is reachable. -/
lemma customer_reachable : Session.Reachable wares ⟨customer, (Session.created 1 10).db⟩ := by
  have bought : handleBuy wares (Session.created 1 10).player (some [⟨0, 1⟩]) 0 2 = .ok customer := rfl
  exact .step (Session.created_reachable wares (by decide)) (.buy bought)

/-- One of the two potions is sold. -/
theorem handleSell_potion :
    ∃ p', (handleSell wares customer 1 1).result = .ok p' ∧
      SoldExactly wares (inventorySlot 1) 1 customer p' := by
  refine (handleSell_exact_iff customer_reachable 1 1).mpr ⟨by decide, ?_⟩
  have potions : customer.itemAt (inventorySlot 1) = some ⟨2, 1, 2, 1, 10, none⟩ := by decide +kernel
  rintro it proto e known -
  obtain rfl := Option.some.inj (potions.symm.trans e)
  cases known
  exact ⟨by decide +kernel, .inl ⟨by decide, by decide, by decide⟩⟩

/-- Potions that were just bought are read after they are sold and deleted. -/
theorem handleSell_potions :
    Session.Reachable wares ⟨customer, (Session.created 1 10).db⟩ ∧
      ¬ ∃ p', (handleSell wares customer 1 2).result = .ok p' ∧
        SoldExactly wares (inventorySlot 1) 2 customer p' := by
  have sold : (handleSell wares customer 1 2).result.map (fun _ => ()) = .error (.useAfterFree 2) := by
    decide +kernel
  refine ⟨customer_reachable, ?_⟩
  rintro ⟨p', ok, -⟩
  rw [ok] at sold
  exact absurd sold (by simp [Except.map])

end Player

end Legacy.Inventory
