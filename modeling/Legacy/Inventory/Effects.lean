import Legacy.Inventory.Operations

/-!
# What the item packets do

For each handler the relation between the player before and after (`Shrunk`, `Equipped`, `Unequipped`
and so on), one constructor for each way through the source, and a lemma that a run on a player with
sound pointers returns such a player. The relations say everything that later proofs use of a handler.
A run faults only through the update queue or through an index taken from the packet.
-/

namespace Legacy.Inventory
open Legacy.Lib

/-- The fault is not an access beyond an array. -/
def Fault.Tame (f : Fault) : Prop := ∀ a i, f ≠ .outOfBounds a i

/-- Faults of the queue are tame. -/
lemma QueueFault.tame {f : Fault} (h : QueueFault f) : f.Tame := by
  obtain ⟨pos, rfl⟩ := h
  exact fun _ _ => Fault.noConfusion

/-- A modified value fits in 32 bits. -/
lemma applyModUInt32Value_lt (cur : Nat) (val : Int) (apply : Bool) :
    applyModUInt32Value cur val apply < 2 ^ 32 := by
  simp only [applyModUInt32Value, i32]
  omega

namespace Traced

variable {α : Type}

/-- The client-chosen accesses lie inside the arrays. -/
def Within (t : Traced α) : Prop := ∀ a ∈ t.accesses, a.index < a.array.size

/-- What is returned satisfies `Q`, and only a client-chosen access lies beyond an array. -/
def Yields (t : Traced α) (Q : α → Prop) : Prop :=
  Post t.result Q fun f => f.Tame ∨ ¬ t.Within

/-- A function without slot accesses yields what it returns. -/
lemma yields_run {m : Except Fault α} {Q : α → Prop} (h : Post m Q Fault.Tame) : (run m).Yields Q :=
  h.mono (fun _ q => q) fun _ f => .inl f

/-- An access inside its array yields what follows. -/
lemma yields_access {a : Access} {next : Traced α} {Q : α → Prop}
    (h : a.index < a.array.size → next.Yields Q) : (access a next).Yields Q := by
  by_cases lt : a.index < a.array.size
  · simp only [Yields, access, if_pos lt]
    refine (h lt).mono (fun _ q => q) fun f tame => ?_
    exact tame.imp_right fun out within => out fun b mem => within b (List.mem_cons_of_mem _ mem)
  · simp only [Yields, access, if_neg lt]
    exact .inr fun within => lt (within a (List.mem_singleton_self a))

end Traced

namespace Player

/-- A stack got a new count, and left its slot for ever when that is zero. -/
inductive Shrunk (p : Player) (slot : Nat) (it : Item) (count : Nat) : Player → Prop
  | kept (pos : count ≠ 0) : Shrunk p slot it count (p.recount it count)
  | destroyed {p' : Player} (zero : count = 0)
      (gone : ((p.setItem it.guid { it with count := count }).emptied slot
        { it with count := count }).setState it.guid .removed = .ok p') : Shrunk p slot it count p'

/-- A drop. -/
inductive Dropped (p : Player) (slot amount : Nat) : Player → Prop
  | refused : Dropped p slot amount p
  | shrunk {it : Item} {p' : Player} (at_ : p.itemAt slot = some it) (le : amount ≤ it.count)
      (s : p.Shrunk slot it (it.count - amount) p') : Dropped p slot amount p'

/-- The equipped item changed places with what it replaces. -/
def swapped (objmgr : ObjectMgr) (p : Player) (dest invslot : Nat) : Player :=
  match p.itemAt dest with
  | none => p
  | some it2 => (taken objmgr p dest it2).put invslot it2.guid { it2 with slot := nullSlot }

/-- The item of an inventory slot was put on, and its modifiers were applied. -/
def equipped (objmgr : ObjectMgr) (p : Player) (dest invslot : Nat) (it : Item) : Player :=
  let p := (swapped objmgr (taken objmgr p invslot it) dest invslot).put dest it.guid
    { it with slot := nullSlot }
  { p with
    unit := (applyItemModsFor objmgr p.unit
      { it with owner := p.guid, slot := dest, container := none } true).updateItemSet }

/-- An equip of the player. -/
inductive Equipped (objmgr : ObjectMgr) (p : Player) (invslot : Nat) : Player → Prop
  | refused : Equipped objmgr p invslot p
  | done {it : Item} {proto : ItemPrototype} {dest : Nat} (lt : invslot < playerSlotsCount)
      (at_ : p.itemAt invslot = some it)
      (known : objmgr.getItemPrototype it.entry = some proto) (pos : dest < equipmentSlotEnd)
      (type : slotOfInventoryType proto.inventoryType = some dest)
      (can : canEquipItem objmgr p (u8 proto.equipmentSlot) it true = .ok dest) :
      Equipped objmgr p invslot (equipped objmgr p dest invslot it)

/-- An unequip of the player. -/
inductive Unequipped (objmgr : ObjectMgr) (p : Player) (eqslot invslot : Nat) : Player → Prop
  | refused : Unequipped objmgr p eqslot invslot p
  | stays {it : Item} {f : InventoryChangeFailure} (at_ : p.itemAt eqslot = some it)
      (room : isInventoryPos invslot) (can : canStoreItem objmgr p it = .error f) :
      Unequipped objmgr p eqslot invslot { p with unit := p.unit.updateItemSet }
  | moved {it : Item} {dest : Nat} {p' : Player} (at_ : p.itemAt eqslot = some it)
      (room : isInventoryPos invslot) (can : canStoreItem objmgr p it = .ok dest)
      (stored : (taken objmgr p eqslot it).storeItem dest it.guid = .ok p') :
      Unequipped objmgr p eqslot invslot { p' with unit := p'.unit.updateItemSet }

/-- An item was consumed, for the player or one of its pets. -/
inductive Consumed (p : Player) (slot target amount : Nat) : Player → Prop
  | refused : Consumed p slot target amount p
  | shrunk {it : Item} {u : Option Unit} {p' : Player} (at_ : p.itemAt slot = some it)
      (s : (match u with
        | none => p
        | some u => p.setConsumer target u).Shrunk slot it (u32 (it.count + 2 ^ 32 - amount)) p') :
      Consumed p slot target amount p'

/-- The item a pet puts on changed places with what it replaces. -/
def petSwapped (objmgr : ObjectMgr) (p : Player) (i : Nat) (pet : Pet) (dest invslot : Nat) : Player :=
  match (pet.equip dest).bind p.heap with
  | none => p
  | some it2 =>
    (petTaken objmgr p i pet dest it2).put invslot it2.guid { it2 with slot := nullSlot }

/-- A pet has put on a floating object, and its modifiers were applied. -/
def petWorn (objmgr : ObjectMgr) (p : Player) (i : Nat) (pet : Pet) (dest : Nat) (it : Item) : Player :=
  (p.wear i pet dest it.guid it).setPet i
    { pet with
      unit := applyItemModsFor objmgr pet.unit
        { it with owner := p.guid, slot := dest, container := some pet.guid } true
      equip := Function.update pet.equip dest (some it.guid) }

/-- An equip of a pet. -/
inductive PetEquipped (objmgr : ObjectMgr) (p : Player) (i invslot : Nat) : Player → Prop
  | refused : PetEquipped objmgr p i invslot p
  | done {it : Item} {pet pet' : Pet} {dest : Nat} (lt : invslot < playerSlotsCount)
      (ipet : i < maxPetSlot) (at_ : p.itemAt invslot = some it) (epet : p.pets i = some pet)
      (pos : dest < equipmentSlotEnd)
      (epet' : (petSwapped objmgr (taken objmgr p invslot it) i pet dest invslot).pets i = some pet') :
      PetEquipped objmgr p i invslot
        (petWorn objmgr (petSwapped objmgr (taken objmgr p invslot it) i pet dest invslot) i pet' dest
          { it with slot := nullSlot })

/-- An unequip of a pet. -/
inductive PetUnequipped (objmgr : ObjectMgr) (p : Player) (i eqslot : Nat) : Player → Prop
  | refused : PetUnequipped objmgr p i eqslot p
  | moved {it : Item} {pet : Pet} {dest : Nat} {p' : Player} (epet : p.pets i = some pet)
      (at_ : (pet.equip eqslot).bind p.heap = some it) (can : canStoreItem objmgr p it = .ok dest)
      (stored : (petTaken objmgr p i pet eqslot it).storeItem dest it.guid = .ok p') :
      PetUnequipped objmgr p i eqslot p'

/-- The object that `StoreNewItem` creates, after the one `CanStoreNewItem` deleted again. -/
def newStack (p : Player) (itemid count : Nat) : Item :=
  ⟨p.hiItemGuid + 2, itemid, count, p.guid, 0, none⟩

/-- The player with that object, before it is stored. -/
def withNew (p : Player) (itemid count : Nat) : Player :=
  newObject { p with hiItemGuid := p.hiItemGuid + 2 } (p.newStack itemid count)

/-- New items of an entry: none, with a guid used up, or an object in a slot of its own or in a stack. -/
inductive Gained (objmgr : ObjectMgr) (p : Player) (itemid count : Nat) : Player → Prop
  | refused {f : InventoryChangeFailure} (can : canStoreNewItem objmgr p itemid count = .error f) :
      Gained objmgr p itemid count (afterCanStoreNewItem objmgr p itemid)
  | placed {proto : ItemPrototype} {dest : Nat}
      (can : canStoreNewItem objmgr p itemid count = .ok dest)
      (known : objmgr.getItemPrototype itemid = some proto) (lt : dest < playerSlotsCount)
      (free : p.items dest = none) :
      Gained objmgr p itemid count ((p.withNew itemid (createCount proto count)).put dest
        (p.hiItemGuid + 2) (p.newStack itemid (createCount proto count)))
  | stacked {proto : ItemPrototype} {dest : Nat} {it2 : Item}
      (can : canStoreNewItem objmgr p itemid count = .ok dest)
      (known : objmgr.getItemPrototype itemid = some proto)
      (at2 : p.itemAt dest = some it2) (same : it2.entry = itemid) :
      Gained objmgr p itemid count ((p.withNew itemid (createCount proto count)).absorbed
        (p.hiItemGuid + 2) it2.guid (p.newStack itemid (createCount proto count)) it2)

/-- A purchase. -/
inductive Bought (objmgr : ObjectMgr) (p : Player) (buy_count : Nat) : Player → Prop
  | refused : Bought objmgr p buy_count p
  | paid {proto : ItemPrototype} {p' : Player} (enough : buy_count ≤ p.gold)
      (gained : Gained objmgr
        { p with gold := applyModUInt32Value p.gold (u32 (proto.buyprice * buy_count)) false }
        (objmgr.getItemEntryByModelId proto.modelid).1 buy_count p') :
      Bought objmgr p buy_count p'

/-- A sale. -/
inductive Sold (objmgr : ObjectMgr) (p : Player) (slot sell_count : Nat) : Player → Prop
  | refused : Sold objmgr p slot sell_count p
  | kept {it : Item} {proto : ItemPrototype} (at_ : p.itemAt slot = some it)
      (known : objmgr.getItemPrototype it.entry = some proto) (lt : sell_count < it.count) :
      Sold objmgr p slot sell_count
        { p.recount it (it.count - sell_count) with
          gold := applyModUInt32Value p.gold (u32 (proto.sellprice * sell_count)) true }
  | emptied {it : Item} {proto : ItemPrototype} (at_ : p.itemAt slot = some it)
      (known : objmgr.getItemPrototype it.entry = some proto) (all : it.count = sell_count)
      (old : (p.marks it.guid).uState ≠ .new) :
      Sold objmgr p slot sell_count
        { taken objmgr ((p.setItem it.guid { it with count := 0 }).requeue it.guid
            { it with count := 0 } .removed) slot { it with count := 0 } with
          gold := applyModUInt32Value p.gold (u32 (proto.sellprice * sell_count)) true }

/-- Taking an item out of its slot reads the item. -/
lemma removeItem_deleted {objmgr : ObjectMgr} {p : Player} {slot g : Nat}
    (lt : slot < playerSlotsCount) (e : p.items slot = some g) (gone : p.heap g = none) :
    removeItem objmgr p slot = .error (.useAfterFree g) := by
  simp only [removeItem, getItemByPos, if_neg (Nat.not_le.mpr lt), e, deref, gone]
  rfl

section Handlers

variable {objmgr : ObjectMgr} {p : Player} (h : p.Stored objmgr)
include h

/-- A stack gets smaller, and is destroyed when nothing is left. -/
lemma Stored.shrink {slot count : Nat} {it : Item} (lt : slot < playerSlotsCount)
    (e : p.itemAt slot = some it) :
    Post (p.shrink slot it count) (p.Shrunk slot it count) QueueFault := by
  simp only [Player.shrink]
  split_ifs with zero
  · obtain ⟨st, e'⟩ := h.counted e count
    rw [st.destroyItem_eq lt e']
    cases r : ((p.setItem it.guid { it with count := count }).emptied slot
      { it with count := count }).setState it.guid .removed with
    | ok p' => exact .destroyed zero r
    | error f => exact (st.destroy e').of_error r
  · rw [setState_changed (setItem_heap_self ..)]
    exact .kept zero

/-- The effect of a drop. -/
lemma Stored.handleDrop (tmp_invslot amount : Nat) :
    (p.handleDrop tmp_invslot amount).Yields
      fun o => p.Dropped (inventorySlot tmp_invslot) amount o.player := by
  apply Traced.yields_access
  intro lt
  apply Traced.yields_run
  rw [h.getItemByPos_eq lt, post_bind, post_ok]
  cases e : p.itemAt (inventorySlot tmp_invslot) with
  | none => exact .refused
  | some it =>
    simp only
    split_ifs with few
    · exact .refused
    · rw [post_bind]
      refine (h.shrink lt e).mono ?_ fun _ f => f.tame
      exact fun p' s => .shrunk e (Nat.not_lt.mp few) s

/-- What an equipped item replaces is moved to the slot the item came from. -/
lemma Stored.swapOut {dest invslot : Nat} (ltd : dest < playerSlotsCount)
    (lti : invslot < playerSlotsCount) (free : p.items invslot = none) :
    Player.swapOut objmgr p dest invslot = .ok (Player.swapped objmgr p dest invslot) := by
  simp only [Player.swapOut, Player.swapped, h.getItemByPos_eq ltd]
  cases e2 : p.itemAt dest with
  | none => rfl
  | some it2 =>
    have free' : (Player.taken objmgr p dest it2).items invslot = none := by
      by_cases eq : invslot = dest
      · subst eq
        exact taken_free ..
      · exact (taken_items_ne objmgr p it2 eq).trans free
    have stored := (h.taken e2).1.storeItem_free lti (taken_live ..) free'
    simp only [bind, Except.bind, h.removeItem_eq ltd e2]
    exact stored

/-- A swap empties the destination and leaves the objects in no slot alone. -/
lemma Stored.swapped (dest : Nat) {invslot : Nat} (lti : invslot < playerSlotsCount)
    (free : p.items invslot = none) :
    (Player.swapped objmgr p dest invslot).Stored objmgr ∧
      (Player.swapped objmgr p dest invslot).items dest = none ∧
      ∀ g it, p.Movable objmgr g it →
        (Player.swapped objmgr p dest invslot).Movable objmgr g it := by
  cases e2 : p.itemAt dest with
  | none =>
    simp only [Player.swapped, e2]
    exact ⟨h, h.items_of_itemAt_none e2, fun g it mv => mv⟩
  | some it2 =>
    obtain ⟨at2, -⟩ := h.items_of_itemAt e2
    obtain ⟨st, mv2⟩ := h.taken e2
    simp only [Player.swapped, e2]
    have ne : dest ≠ invslot := fun eq => absurd (at2.symm.trans (eq ▸ free)) (by simp)
    refine ⟨st.put lti mv2, ?_, ?_⟩
    · exact (put_items_ne _ _ _ ne).trans (taken_free ..)
    · intro g it mv
      have neg : g ≠ it2.guid := fun eq => mv.floating (.slot dest) (eq ▸ at2)
      exact (mv.taken neg).put neg

/-- The effect of an equip of the player. -/
lemma Stored.handleEquip (tmp_invslot : Nat) :
    (handleEquip objmgr p tmp_invslot).Yields
      fun o => p.Equipped objmgr (inventorySlot tmp_invslot) o.player := by
  apply Traced.yields_access
  intro lt
  apply Traced.yields_run
  rw [h.getItemByPos_eq lt, post_bind, post_ok]
  cases e : p.itemAt (inventorySlot tmp_invslot) with
  | none => exact .refused
  | some it =>
    obtain ⟨at_, live, -, -, known⟩ := h.items_of_itemAt e
    obtain ⟨proto, ep⟩ := Option.isSome_iff_exists.mp known
    simp only [ep]
    split_ifs with pos
    · cases can : canEquipItem objmgr p (u8 proto.equipmentSlot) it true with
      | error f => exact .refused
      | ok dest =>
        obtain ⟨rfl, -, proto', ep', type, -⟩ := canWearItem_ok can
        obtain rfl : proto = proto' := Option.some.inj (ep.symm.trans ep')
        have ltd := slotOfInventoryType_lt type
        have ltd' : u8 proto.equipmentSlot < playerSlotsCount := ltd.trans (by decide)
        obtain ⟨st, mv⟩ := h.taken e
        obtain ⟨st2, free2, keep⟩ := st.swapped (u8 proto.equipmentSlot) lt (taken_free ..)
        have live2 := (keep _ _ mv).live
        simp only [post_bind, h.removeItem_eq lt e, st.swapOut ltd' lt (taken_free ..),
          st2.equipItem_free ltd' live2 free2, deref_eq (put_heap_self ..), post_ok, post_pure]
        exact .done lt e ep ltd type can
    · exact .refused

/-- The effect of an unequip of the player. -/
lemma Stored.handleUnequip (tmp_eqslot tmp_invslot : Nat) :
    (handleUnequip objmgr p tmp_eqslot tmp_invslot).Yields
      fun o => p.Unequipped objmgr (oneBelow tmp_eqslot) (inventorySlot tmp_invslot) o.player := by
  apply Traced.yields_access
  intro lt
  apply Traced.yields_run
  rw [h.getItemByPos_eq lt, post_bind, post_ok]
  cases e : p.itemAt (oneBelow tmp_eqslot) with
  | none => exact .refused
  | some it =>
    simp only
    split_ifs with _ room
    · exact .refused
    · rw [post_bind]
      cases can : canStoreItem objmgr p it with
      | error f =>
        simp only [storeUnequipped, can, post_ok]
        exact .stays e room can
      | ok dest =>
        obtain ⟨-, hi, -⟩ := canStoreItem_ok can
        obtain ⟨st, mv⟩ := h.taken e
        simp only [storeUnequipped, can, post_bind, h.removeItem_eq lt e, post_ok]
        have spec := st.storeItem (Nat.lt_trans hi (by decide)) mv
        cases r : (Player.taken objmgr p (oneBelow tmp_eqslot) it).storeItem dest it.guid with
        | error f => exact (spec.of_error r).tame
        | ok p' => exact .moved e room can r
    · exact .refused

omit h in

/-- Adding stats can only fail in a tame way. -/
lemma consumeStats_post (amount : Nat) (ss : List ItemStat) (u : Option Unit) :
    Post (p.consumeStats amount ss u) (fun _ => True) Fault.Tame := by
  induction ss generalizing u with
  | nil => trivial
  | cons s ss ih =>
    simp only [consumeStats, post_bind, consumeStat]
    split_ifs
    · cases u with
      | none => exact fun _ _ => Fault.noConfusion
      | some u =>
        simp only
        split_ifs <;> exact ih _
    · cases u with
      | none => exact fun _ _ => Fault.noConfusion
      | some u =>
        simp only
        split_ifs <;> exact ih _
    · exact ih u

/-- Changing a consumer moves no item. -/
lemma Stored.setConsumer (target : Nat) (u : Unit) : (p.setConsumer target u).Stored objmgr := by
  simp only [Player.setConsumer]
  split_ifs
  · exact h.withUnit u
  · cases e : p.pets (target - 1) with
    | none => exact h.release (target - 1)
    | some pet => exact h.petUnit e u

omit h in

/-- The places keep what they hold. -/
lemma holds_setConsumer (target : Nat) (u : Unit) (l : Loc) : (p.setConsumer target u).holds l = p.holds l := by
  rw [Player.setConsumer]
  split
  · cases l <;> rfl
  · cases epet : p.pets (target - 1) with
    | none =>
      have same : Function.update p.pets (target - 1) none = p.pets := by
        rw [← epet]
        exact Function.update_eq_self ..
      dsimp only [Option.map_none]
      rw [same]
    | some pet => exact holds_setPet epet (show Pet.equip { pet with unit := u } = pet.equip from rfl) l

/-- The effect of consuming. -/
lemma Stored.handleConsume (tmp_invslot amount target : Nat) :
    (handleConsume objmgr p tmp_invslot amount target).Yields
      fun o => p.Consumed (inventorySlot tmp_invslot) target amount o.player := by
  apply Traced.yields_access
  intro lt
  apply Traced.yields_run
  simp only [consumeInventoryItemFor, post_bind, h.getItemByPos_eq lt, post_ok]
  cases e : p.itemAt (inventorySlot tmp_invslot) with
  | none => exact .refused
  | some it =>
    obtain ⟨-, -, -, -, known⟩ := h.items_of_itemAt e
    obtain ⟨proto, ep⟩ := Option.isSome_iff_exists.mp known
    simp only [ep]
    split_ifs
    · exact .refused
    · exact .refused
    · exact .refused
    · simp only [post_bind]
      refine (consumeStats_post ..).mono ?_ fun _ f => f
      intro u _
      have st : (match u with
        | none => p
        | some u => p.setConsumer target u).Stored objmgr := by
        cases u with
        | none => exact h
        | some u => exact h.setConsumer target u
      have e' : (match u with
        | none => p
        | some u => p.setConsumer target u).itemAt (inventorySlot tmp_invslot) = some it := by
        cases u with
        | none => exact e
        | some u =>
          simp only [Player.setConsumer]
          split_ifs <;> exact e
      refine (st.shrink lt e').mono ?_ fun _ f => f.tame
      exact fun p' s => .shrunk e s

/-- What a pet's new item replaces is moved to the slot the item came from. -/
lemma Stored.petSwapOut {i dest invslot : Nat} {pet : Pet} (epet : p.pets i = some pet)
    (ltd : dest < equipmentSlotEnd) (lti : invslot < playerSlotsCount) (free : p.items invslot = none) :
    Player.petSwapOut objmgr p i dest invslot = .ok (Player.petSwapped objmgr p i pet dest invslot) := by
  simp only [Player.petSwapOut, getPet, epet, Player.petSwapped, h.getEquip_eq epet ltd, bind, Except.bind]
  cases e2 : (pet.equip dest).bind p.heap with
  | none => rfl
  | some it2 =>
    have stored := (h.petTaken epet e2).1.storeItem_free lti (petTaken_live ..) free
    simp only [h.petRemoveItem_eq epet ltd e2]
    exact stored

/-- A swap empties the pet's slot and leaves the objects in no slot alone. -/
lemma Stored.petSwapped {i invslot : Nat} {pet : Pet} (dest : Nat) (epet : p.pets i = some pet)
    (lti : invslot < playerSlotsCount) :
    (Player.petSwapped objmgr p i pet dest invslot).Stored objmgr ∧
      (∃ pet', (Player.petSwapped objmgr p i pet dest invslot).pets i = some pet' ∧
        pet'.equip dest = none) ∧
      ∀ g it, p.Movable objmgr g it →
        (Player.petSwapped objmgr p i pet dest invslot).Movable objmgr g it := by
  cases e2 : (pet.equip dest).bind p.heap with
  | none =>
    simp only [Player.petSwapped, e2]
    refine ⟨h, ⟨pet, epet, ?_⟩, fun g it mv => mv⟩
    cases eg : pet.equip dest with
    | none => rfl
    | some g =>
      have at_ : p.holds (.worn i dest) = some g := Option.bind_eq_some_iff.mpr ⟨pet, epet, eg⟩
      obtain ⟨it, live, -⟩ := h.live at_
      simp [eg, live] at e2
  | some it2 =>
    obtain ⟨g2, eg, live2⟩ := Option.bind_eq_some_iff.mp e2
    obtain rfl := (h.known live2).1
    have at2 : p.holds (.worn i dest) = some it2.guid := Option.bind_eq_some_iff.mpr ⟨pet, epet, eg⟩
    obtain ⟨st, mv2⟩ := h.petTaken epet e2
    simp only [Player.petSwapped, e2]
    refine ⟨st.put lti mv2, ?_, ?_⟩
    · refine ⟨_, (congrFun (put_pets ..) i).trans (setPet_pets_self p i _), ?_⟩
      exact Function.update_self ..
    · intro g it mv
      have neg : g ≠ it2.guid := fun eq => mv.floating _ (eq ▸ at2)
      exact (mv.petTaken epet neg).put neg

/-- The effect of an equip of a pet, once item and pet are known. -/
lemma Stored.petEquipFrom {i invslot : Nat} {pet : Pet} {it : Item} {notice : Notice}
    (epet : p.pets i = some pet) (ipet : i < maxPetSlot) (lt : invslot < playerSlotsCount)
    (e : p.itemAt invslot = some it) :
    Post (petEquipFrom objmgr p i pet invslot it notice)
      (fun o => p.PetEquipped objmgr i invslot o.player) Fault.Tame := by
  obtain ⟨-, -, -, -, known⟩ := h.items_of_itemAt e
  obtain ⟨proto, ep⟩ := Option.isSome_iff_exists.mp known
  simp only [Player.petEquipFrom, ep]
  split_ifs
  · cases can : canPetEquipItem objmgr p pet (u8 proto.equipmentSlot) it true with
    | error f => exact .refused
    | ok dest =>
      obtain ⟨rfl, -, proto', ep', type, -⟩ := canWearItem_ok can
      have ltd := slotOfInventoryType_lt type
      obtain ⟨st, mv⟩ := h.taken e
      obtain ⟨st2, ⟨pet', epet', free⟩, keep⟩ := st.petSwapped (u8 proto.equipmentSlot) epet lt
      have live2 := (keep _ _ mv).live
      simp only [post_bind, h.removeItem_eq lt e, post_ok]
      rw [st.petSwapOut epet ltd lt (taken_free ..), post_ok]
      simp only [getPet, epet', post_ok]
      rw [st2.petEquipItem_free epet' ltd live2 free, post_ok, deref_eq (wear_heap_self ..), post_ok,
        wear_pets_self]
      exact .done lt ipet e epet ltd epet'
  · exact .refused

/-- The effect of an equip of a pet. -/
lemma Stored.handlePetEquip (target tmp_invslot : Nat) :
    (handlePetEquip objmgr p target tmp_invslot).Yields
      fun o => p.PetEquipped objmgr (oneBelow target) (inventorySlot tmp_invslot) o.player := by
  apply Traced.yields_access
  intro lt
  rw [h.getItemByPos_eq lt]
  cases e : p.itemAt (inventorySlot tmp_invslot) with
  | none => exact Traced.yields_run .refused
  | some it =>
    simp only
    split_ifs
    · exact Traced.yields_run .refused
    · apply Traced.yields_access
      intro ipet
      cases epet : p.pets (oneBelow target) with
      | none => exact Traced.yields_run .refused
      | some pet => exact Traced.yields_run (h.petEquipFrom epet ipet lt e)

/-- The effect of an unequip of a pet. -/
lemma Stored.handlePetUnequip (target tmp_eqslot tmp_invslot : Nat) :
    (handlePetUnequip objmgr p target tmp_eqslot tmp_invslot).Yields
      fun o => p.PetUnequipped objmgr (oneBelow target) (oneBelow tmp_eqslot) o.player := by
  simp only [Player.handlePetUnequip]
  by_cases zero : target = 0
  · rw [if_pos zero]
    exact Traced.yields_run .refused
  · rw [if_neg zero]
    apply Traced.yields_access
    intro _
    cases epet : p.pets (oneBelow target) with
    | none => exact Traced.yields_run .refused
    | some pet =>
      apply Traced.yields_access
      intro lt
      apply Traced.yields_run
      rw [h.getEquip_eq epet lt, post_bind, post_ok]
      cases e : (pet.equip (oneBelow tmp_eqslot)).bind p.heap with
      | none => exact .refused
      | some it =>
        simp only
        split_ifs
        · exact .refused
        · rw [post_bind]
          cases can : canStoreItem objmgr p it with
          | error f =>
            simp only [storePetUnequipped, can, post_ok]
            exact .refused
          | ok dest =>
            obtain ⟨-, hi, -⟩ := canStoreItem_ok can
            obtain ⟨st, mv⟩ := h.petTaken epet e
            simp only [storePetUnequipped, can, post_bind, h.petRemoveItem_eq epet lt e, post_ok]
            have spec := st.storeItem (Nat.lt_trans hi (by decide)) mv
            cases r : (Player.petTaken objmgr p (oneBelow target) pet (oneBelow tmp_eqslot)
              it).storeItem dest it.guid with
            | error f => exact (spec.of_error r).tame
            | ok p' => exact .moved epet e can r
        · exact .refused

/-- A new object keeps the pointers sound, and floats. -/
lemma Stored.withNew (itemid count : Nat) :
    (p.withNew itemid count).Stored objmgr ∧ (p.withNew itemid count).Floating (p.hiItemGuid + 2) := by
  have st : Player.Stored objmgr { p with hiItemGuid := p.hiItemGuid + 2 } :=
    h.skipGuid (Nat.le_add_right ..)
  have fl : Player.Floating { p with hiItemGuid := p.hiItemGuid + 2 } (p.hiItemGuid + 2) :=
    h.floating_next (by omega)
  exact ⟨st.newObject fl (Nat.le_refl _) rfl, fl⟩

omit h in

/-- A new stack is live. -/
lemma withNew_live (p : Player) (itemid count : Nat) :
    (p.withNew itemid count).heap (p.hiItemGuid + 2) = some (p.newStack itemid count) :=
  Function.update_self ..

omit h in

/-- The other items stay as they are. -/
lemma withNew_heap_ne (p : Player) (itemid count : Nat) {g : Nat} (ne : g ≠ p.hiItemGuid + 2) :
    (p.withNew itemid count).heap g = p.heap g :=
  Function.update_of_ne ne ..

/-- A new stack is in no slot yet. -/
lemma Stored.withNew_itemAt (itemid count slot : Nat) :
    (p.withNew itemid count).itemAt slot = p.itemAt slot := by
  have items : (p.withNew itemid count).items = p.items := rfl
  cases e : p.items slot with
  | none => simp only [itemAt, items, e, Option.bind_none]
  | some g =>
    have ne : g ≠ p.hiItemGuid + 2 := by
      obtain ⟨it, e', rfl⟩ := h.itemAt_of_items e
      have le := (h.known (h.items_of_itemAt e').2.1).2.1
      omega
    simp only [itemAt, items, e, Option.bind_some, withNew_heap_ne p itemid count ne]

/-- The effect of `AddNewInventoryItem`, which does not fault. -/
lemma Stored.addNewInventoryItem (modelid count : Nat) :
    Sat (addNewInventoryItem objmgr p modelid count)
      (Gained objmgr p (objmgr.getItemEntryByModelId modelid).1 count) := by
  simp only [Player.addNewInventoryItem]
  generalize (objmgr.getItemEntryByModelId modelid).1 = itemid
  cases can : canStoreNewItem objmgr p itemid count with
  | error f => exact .refused can
  | ok dest =>
    cases ep : objmgr.getItemPrototype itemid with
    | none => simp [canStoreNewItem, createItem, ep] at can
    | some proto =>
      have can' := can
      simp only [canStoreNewItem, createItem, ep] at can'
      obtain ⟨-, hi, -, room⟩ := canStoreItem_ok can'
      have lt : dest < playerSlotsCount := Nat.lt_trans hi (by decide)
      obtain ⟨st, fl⟩ := h.withNew itemid (createCount proto count)
      have live := withNew_live p itemid (createCount proto count)
      have target : storeNewItem objmgr (afterCanStoreNewItem objmgr p itemid) dest itemid count =
          (p.withNew itemid (createCount proto count)).storeItem dest (p.hiItemGuid + 2) := by
        simp only [storeNewItem, createItem, afterCanStoreNewItem, ep, Option.isSome_some, if_true]
        rfl
      simp only [target]
      obtain free | ⟨it2, at2, same⟩ := room
      · rw [st.storeItem_free lt live free]
        exact .placed can ep lt free
      · have at2' := (h.withNew_itemAt itemid (createCount proto count) dest).trans at2
        obtain ⟨held2, live2, -⟩ := st.items_of_itemAt at2'
        have ne : p.hiItemGuid + 2 ≠ it2.guid := fun eq => fl (.slot dest) (eq ▸ held2)
        rw [st.storeItem_stack lt live at2', mergeInto_fresh live live2 ne (Function.update_self ..)]
        exact .stacked can ep at2 same

/-- The effect of a purchase, which does not fault. -/
lemma Stored.handleBuy (vendor : Option (List CreatureItem)) (vendor_slot buy_count : Nat) :
    Sat (handleBuy objmgr p vendor vendor_slot buy_count) (p.Bought objmgr buy_count) := by
  cases vendor with
  | none => exact .refused
  | some goods =>
    simp only [Player.handleBuy]
    cases getGoods goods vendor_slot with
    | none => exact .refused
    | some citem =>
      simp only
      cases objmgr.getItemPrototype citem.entry with
      | none => exact .refused
      | some proto =>
        simp only
        split_ifs with few
        · exact .refused
        · have lt : applyModUInt32Value p.gold (u32 (proto.buyprice * buy_count)) false < 2 ^ 32 :=
            applyModUInt32Value_lt ..
          refine ((h.withGold lt).addNewInventoryItem proto.modelid buy_count).mono ?_
          exact fun p' g => .paid (Nat.not_lt.mp few) g

section Sale

variable {player_slot sell_count : Nat} {it : Item} {proto : ItemPrototype}
  (lt : inventorySlot player_slot < playerSlotsCount)
  (e : p.itemAt (inventorySlot player_slot) = some it)
  (known : objmgr.getItemPrototype it.entry = some proto)
include lt

/-- Nothing is sold out of an empty slot. -/
lemma Stored.handleSell_none (e : p.itemAt (inventorySlot player_slot) = none) :
    (handleSell objmgr p player_slot sell_count).result = .ok p := by
  simp only [handleSell, Traced.access, SlotArray.size, if_pos lt, Traced.run, h.getItemByPos_eq lt, e]
  rfl

include e known

/-- Nothing is sold when the stack has too few pieces. -/
lemma Stored.handleSell_few (few : it.count < sell_count) :
    (handleSell objmgr p player_slot sell_count).result = .ok p := by
  simp only [handleSell, Traced.access, SlotArray.size, if_pos lt, Traced.run, h.getItemByPos_eq lt, e,
    bind, Except.bind, known, if_pos few]
  rfl

/-- The rest of a stack stays in its slot. -/
lemma Stored.handleSell_kept (less : sell_count < it.count) :
    (handleSell objmgr p player_slot sell_count).result = .ok { p.recount it (it.count - sell_count) with
      gold := applyModUInt32Value p.gold (u32 (proto.sellprice * sell_count)) true } := by
  simp only [handleSell, Traced.access, SlotArray.size, if_pos lt, Traced.run, h.getItemByPos_eq lt, e,
    bind, Except.bind, known, if_neg (Nat.not_lt.mpr less.le), if_neg (Nat.sub_ne_zero_of_lt less),
    setState_changed (setItem_heap_self ..), requeue_gold]
  rfl

/-- A stack that is sold as a whole leaves its slot. -/
lemma Stored.handleSell_emptied (all : it.count = sell_count) (old : (p.marks it.guid).uState ≠ .new) :
    (handleSell objmgr p player_slot sell_count).result = .ok
      { Player.taken objmgr ((p.setItem it.guid { it with count := 0 }).requeue it.guid
          { it with count := 0 } .removed) (inventorySlot player_slot) { it with count := 0 } with
        gold := applyModUInt32Value p.gold (u32 (proto.sellprice * sell_count)) true } := by
  obtain ⟨at_, -⟩ := h.items_of_itemAt e
  have zero : it.count - sell_count = 0 := by omega
  have at' : ((p.setItem it.guid { it with count := 0 }).requeue it.guid
      { it with count := 0 } .removed).items (inventorySlot player_slot) = some it.guid :=
    (congrFun (requeue_items ..) _).trans at_
  have live' : ((p.setItem it.guid { it with count := 0 }).requeue it.guid
      { it with count := 0 } .removed).heap it.guid = some { it with count := 0 } :=
    (congrFun (requeue_heap ..) _).trans (setItem_heap_self ..)
  simp only [handleSell, Traced.access, SlotArray.size, if_pos lt, Traced.run, h.getItemByPos_eq lt, e,
    bind, Except.bind, known, all, lt_self_iff_false, if_false, Nat.sub_self, if_true,
    setState_removed_old (setItem_heap_self ..) old, removeItem_live lt at' live', taken_gold,
    requeue_gold]
  rfl

/-- A new item that is sold whole is deleted, and is still in its slot when `RemoveItem` reads it. -/
lemma Stored.handleSell_new (all : it.count = sell_count) (new : (p.marks it.guid).uState = .new) :
    Post (handleSell objmgr p player_slot sell_count).result (fun _ => False) Fault.Tame := by
  obtain ⟨at_, -⟩ := h.items_of_itemAt e
  simp only [handleSell, Traced.access, SlotArray.size, if_pos lt, Traced.run, h.getItemByPos_eq lt,
    post_bind, post_ok, e, known, all, lt_self_iff_false, if_false, Nat.sub_self, if_true]
  rw [setState_removed_new (setItem_heap_self ..) new, post_bind]
  refine (removeFromUpdateQueueOf_post ..).mono ?_ fun _ f => f.tame
  rintro _ ⟨m, q, rfl, -⟩
  rw [post_ok, removeItem_deleted (p := Player.deleteItem { p.setItem it.guid
    { it with count := 0 } with marks := m, itemUpdateQueue := q } it.guid) lt at_
    (deleteItem_heap_self ..)]
  exact fun _ _ => Fault.noConfusion

end Sale

/-- The effect of a sale. -/
lemma Stored.handleSell (player_slot sell_count : Nat) :
    (handleSell objmgr p player_slot sell_count).Yields
      (p.Sold objmgr (inventorySlot player_slot) sell_count) := by
  by_cases lt : inventorySlot player_slot < playerSlotsCount
  · refine Post.mono (E := Fault.Tame) ?_ (fun _ q => q) fun _ f => .inl f
    cases e : p.itemAt (inventorySlot player_slot) with
    | none =>
      rw [h.handleSell_none lt e]
      exact .refused
    | some it =>
      obtain ⟨-, -, -, -, isSome⟩ := h.items_of_itemAt e
      obtain ⟨proto, known⟩ := Option.isSome_iff_exists.mp isSome
      obtain few | all | less := Nat.lt_trichotomy it.count sell_count
      · rw [h.handleSell_few lt e known few]
        exact .refused
      · by_cases new : (p.marks it.guid).uState = .new
        · exact (h.handleSell_new lt e known all new).mono (fun _ => False.elim) fun _ f => f
        · rw [h.handleSell_emptied lt e known all new]
          exact .emptied e known all new
      · rw [h.handleSell_kept lt e known less]
        exact .kept e known less
  · exact Traced.yields_access fun lt' => absurd lt' lt

end Handlers

end Player

end Legacy.Inventory
