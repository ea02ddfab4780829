import Legacy.Inventory.PetModifiers
import Legacy.Inventory.Reload
import Legacy.Inventory.Unequip

/-!
# The limit on similar items

A prototype limits how many pieces of its entry a player has (source `MaxCount`). `Player::CanTakeMoreSimilarItems`
compares the limit with the pieces that `GetItemCount` and `GetBankItemCount` find, which leave out what the pets wear,
and a row of the bank is loaded without the check. Moving an item never adds a piece, so `CarryRun.withinMaxCounts`
asks something of the pieces that come in alone.
-/

namespace Legacy.Inventory
open Legacy.Lib

namespace Player

/-- No entry with a limit is there more often than the limit allows. -/
def WithinMaxCounts (objmgr : ObjectMgr) (p : Player) : Prop :=
  ∀ entry proto, objmgr.getItemPrototype entry = some proto → 0 < proto.maxCount →
    p.heldCount entry ≤ proto.maxCount

/-- The pieces of an entry that the check counts. -/
def countedCount (p : Player) (entry : Nat) : Nat := total countedSlots fun i => weight entry (p.itemAt i)

/-- The places whose pieces the check does not count: the equipment of the pets, and slots beside equipment,
inventory and bank. -/
def uncounted : List Loc := Loc.all.filter fun l => l ∉ countedSlots.map Loc.slot

/-- The pieces of an entry that the check does not count. -/
def uncountedCount (p : Player) (entry : Nat) : Nat := total uncounted fun l => weight entry (p.itemIn l)

/-- The sum that the check compares does not wrap, and the pieces that it does not count have room in what the limit
leaves. -/
def RoomBeside (p : Player) (proto : ItemPrototype) (count : Nat) : Prop :=
  p.countedCount proto.itemId + count < 2 ^ 32 ∧
    p.uncountedCount proto.itemId ≤ proto.maxCount - (p.countedCount proto.itemId + count)

instance (p : Player) (proto : ItemPrototype) (count : Nat) : Decidable (p.RoomBeside proto count) :=
  inferInstanceAs (Decidable (_ ∧ _))

/-- The condition on new pieces of an entry: when they can be stored, there is room beside them. -/
def StoresOk (objmgr : ObjectMgr) (p : Player) (itemid count : Nat) : Prop :=
  ∀ proto dest, objmgr.getItemPrototype itemid = some proto → 0 < proto.maxCount →
    canStoreNewItem objmgr p itemid count = .ok dest → p.RoomBeside proto (createCount proto count)

/-- The entry whose pieces a row adds to: a row of the bank joins any stack that is in its slot. -/
def countsAs (p : Player) (row : LoginRow) (d : ItemData) : Nat :=
  if row.pet = 0 ∧ isBankPos row.slot then ((p.itemAt row.slot).map Item.entry).getD d.entry else d.entry

/-- The loader finds a place for the item of a row. -/
inductive Admits (objmgr : ObjectMgr) (p : Player) (row : LoginRow) (d : ItemData) : Prop
  | own {dest : Nat} (own : row.pet = 0)
      (goal : Destination objmgr (p.newObject (p.loadedItem row d)) row.slot (p.loadedItem row d) dest)
  | worn {i : Nat} {pet : Pet} (found : p.getPetByGuid row.pet = some i) (epet : p.pets i = some pet)
      (can : canPetEquipItem objmgr (p.newObject (p.loadedItem row d)) pet row.slot (p.loadedItem row d) false =
        .ok row.slot)

/-- The condition on a row that finds a place: there is room beside its pieces, and a row of the bank would pass the
check that it is loaded without. -/
def RowOk (objmgr : ObjectMgr) (p : Player) (row : LoginRow) : Prop :=
  ∀ d proto, row.data = some d → objmgr.getItemPrototype (p.countsAs row d) = some proto → 0 < proto.maxCount →
    Admits objmgr p row d →
      (row.pet = 0 → isBankPos row.slot →
        (p.newObject (p.loadedItem row d)).canTakeMoreSimilarItems proto (p.loadedItem row d) = true) ∧
      p.RoomBeside proto d.count

/-- The condition on the rows, each with the player that the rows before it leave. -/
def RowsOk (objmgr : ObjectMgr) : Player → Database → List LoginRow → Prop
  | _, _, [] => True
  | p, db, row :: rows =>
    RowOk objmgr p row ∧ ∀ r, loadRow objmgr p db row = .ok r → RowsOk objmgr r.1 r.2 rows

end Player

/-- What brings items in and moves them. The cache of models is shared with other players, so that a purchase and a
drop find it in any state. -/
inductive ItemEvent where
  | equip (tmp_invslot : Nat)
  | unequip (tmp_eqslot tmp_invslot : Nat)
  | petEquip (target tmp_invslot : Nat)
  | petUnequip (target tmp_eqslot tmp_invslot : Nat)
  | buy (cache : List (Nat × Nat)) (vendor : Option (List CreatureItem)) (vendor_slot buy_count : Nat)
  | drop (cache : List (Nat × Nat)) (modelid count : Nat)

namespace ItemEvent

open Player

/-- The player after an event. -/
def run (objmgr : ObjectMgr) (p : Player) : ItemEvent → Except Fault Player
  | equip tmp_invslot => (handleEquip objmgr p tmp_invslot).result.map Outcome.player
  | unequip tmp_eqslot tmp_invslot => (handleUnequip objmgr p tmp_eqslot tmp_invslot).result.map Outcome.player
  | petEquip target tmp_invslot => (handlePetEquip objmgr p target tmp_invslot).result.map Outcome.player
  | petUnequip target tmp_eqslot tmp_invslot =>
    (handlePetUnequip objmgr p target tmp_eqslot tmp_invslot).result.map Outcome.player
  | buy cache vendor vendor_slot buy_count =>
    handleBuy { objmgr with itemPrototypeList := cache } p vendor vendor_slot buy_count
  | drop cache modelid count => addNewInventoryItem { objmgr with itemPrototypeList := cache } p modelid count

/-- The condition on an event: only new pieces matter. -/
def Ok (objmgr : ObjectMgr) (p : Player) : ItemEvent → Prop
  | buy cache vendor vendor_slot buy_count =>
    ∀ goods citem proto, vendor = some goods → getGoods goods vendor_slot = some citem →
      objmgr.getItemPrototype citem.entry = some proto → buy_count ≤ p.gold →
        StoresOk objmgr p (({ objmgr with itemPrototypeList := cache }).getItemEntryByModelId proto.modelid).1
          buy_count
  | drop cache modelid count =>
    StoresOk objmgr p (({ objmgr with itemPrototypeList := cache }).getItemEntryByModelId modelid).1 count
  | _ => True

end ItemEvent

namespace Player

/-- The runs of a player: a load, whose rows meet a condition, and events that meet one. A relog is a load of the
tables that the last save left. -/
inductive CarryRun (objmgr : ObjectMgr) (start : Player → Database → List LoginRow → Prop)
    (ok : Player → ItemEvent → Prop) : Player → Prop
  | load {p : Player} {db : Database} {rows : List LoginRow} {r : Player × Database} (l : Session.Login p db rows)
      (good : start { p with itemUpdateQueueBlocked := true } db rows)
      (e : loadInventory objmgr p db rows = .ok r) : CarryRun objmgr start ok r.1
  | event {p p' : Player} {ev : ItemEvent} (run : CarryRun objmgr start ok p) (good : ok p ev)
      (e : ev.run objmgr p = .ok p') : CarryRun objmgr start ok p'

section Counts

variable {p p' : Player} {it it' : Item} {entry : Nat}

/-- The pieces of an item depend on its entry and its count. -/
lemma weight_congr (same : it'.entry = it.entry) (count : it'.count = it.count) :
    weight entry (some it') = weight entry (some it) := by
  simp only [weight, same, count]

/-- An empty place has no pieces. -/
lemma weight_none (entry : Nat) : weight entry none = 0 := rfl

/-- The slot of an item does not matter. -/
lemma weight_slot (it : Item) (entry slot : Nat) :
    weight entry (some { it with slot := slot }) = weight entry (some it) := rfl

/-- Every place is counted or not. -/
lemma heldCount_eq (p : Player) (entry : Nat) : p.heldCount entry = p.countedCount entry + p.uncountedCount entry := by
  have slots : Function.Injective Loc.slot := fun _ _ e => Loc.slot.inj e
  have perm : Loc.all.Perm (countedSlots.map Loc.slot ++ uncounted) := by
    refine (List.perm_ext_iff_of_nodup Loc.nodup_all ?_).mpr fun l => ?_
    · refine List.nodup_append.mpr ⟨countedSlots_nodup.map slots, Loc.nodup_all.filter _, ?_⟩
      rintro l mem k mem' rfl
      have out := (List.mem_filter.mp mem').2
      simp only [decide_eq_true_eq] at out
      exact out mem
    · rw [List.mem_append, uncounted, List.mem_filter, decide_eq_true_eq]
      constructor
      · intro mem
        by_cases counted : l ∈ countedSlots.map Loc.slot
        · exact .inl counted
        · exact .inr ⟨mem, counted⟩
      · rintro (counted | ⟨mem, -⟩)
        · obtain ⟨i, mem, rfl⟩ := List.mem_map.mp counted
          refine Loc.mem_all.mpr ?_
          obtain lt | ⟨-, lt⟩ := mem_countedSlots.mp mem
          · exact lt.trans (by decide)
          · exact lt.trans (by decide)
        · exact mem
  have sum := (perm.map fun l => weight entry (p.itemIn l)).sum_eq
  rw [List.map_append, List.sum_append, List.map_map] at sum
  exact sum

/-- Gold moves no item. -/
lemma itemIn_withGold (p : Player) (gold : Nat) (l : Loc) : itemIn { p with gold := gold } l = p.itemIn l := by
  cases l <;> rfl

/-- A save moves no item. -/
lemma heldCount_markUnchanged (p : Player) (g entry : Nat) : (p.markUnchanged g).heldCount entry = p.heldCount entry :=
  heldCount_congr (fun l => by cases l <;> rfl) entry

end Counts

section Moves

variable {objmgr : ObjectMgr} {p p' : Player} {l : Loc} {it : Item} {g pos : Nat}

/-- Taking an item leaves the other places alone. -/
lemma itemIn_takenFrom_ne (h : p.Stored objmgr) (at_ : p.itemIn l = some it) {k : Loc} (ne : k ≠ l) :
    (takenFrom objmgr p l it).itemIn k = p.itemIn k := by
  refine itemIn_congr ?_ fun g held => takenFrom_heap_ne at_ fun eq => ?_
  · rw [holds_takenFrom at_, if_neg ne]
  · exact ne (h.unique held (eq ▸ (guid_of_itemIn h at_).1))

/-- A place that is emptied takes its pieces away. -/
lemma heldCount_takenFrom (h : p.Stored objmgr) (at_ : p.itemIn l = some it) (entry : Nat) :
    (takenFrom objmgr p l it).heldCount entry + weight entry (some it) = p.heldCount entry := by
  have valid := h.valid (guid_of_itemIn h at_).1
  have off : ∀ k, k ≠ l → (takenFrom objmgr p l it).itemIn k = p.itemIn k :=
    fun k ne => itemIn_takenFrom_ne h at_ ne
  have change := heldCount_change valid off entry
  have none : (takenFrom objmgr p l it).itemIn l = none := by
    rw [itemIn, holds_takenFrom at_, if_pos rfl, Option.bind_none]
  rwa [none, at_, weight_none, Nat.add_zero] at change

/-- A free slot adds the pieces that are put there. -/
lemma heldCount_put (it : Item) (fl : p.Floating g) (lt : pos < playerSlotsCount) (free : p.items pos = none)
    (entry : Nat) : (p.put pos g it).heldCount entry = p.heldCount entry + weight entry (some it) := by
  have valid : Loc.Valid (.slot pos) := lt
  have off : ∀ k, k ≠ .slot pos → (p.put pos g it).itemIn k = p.itemIn k := fun k ne => itemIn_put_ne fl ne
  have change := heldCount_change valid off entry
  have none : p.itemIn (.slot pos) = none := by rw [itemIn_slot, itemAt, free, Option.bind_none]
  rw [none, itemIn_put_self, weight_none, Nat.add_zero] at change
  exact change.trans (congrArg _ (weight_congr rfl rfl))

/-- A free equipment slot of a pet adds the pieces that are put there. -/
lemma heldCount_wear {i : Nat} {pet : Pet} (it : Item) (fl : p.Floating g) (ipet : i < maxPetSlot)
    (lt : pos < equipmentSlotEnd) (epet : p.pets i = some pet) (free : pet.equip pos = none) (entry : Nat) :
    (p.wear i pet pos g it).heldCount entry = p.heldCount entry + weight entry (some it) := by
  have valid : Loc.Valid (.worn i pos) := ⟨ipet, lt⟩
  have off : ∀ k, k ≠ .worn i pos → (p.wear i pet pos g it).itemIn k = p.itemIn k := fun k ne =>
    itemIn_congr (holds_wear_ne epet ne) fun g' held => wear_heap_ne p i pet pos it fun eq => fl k (eq ▸ held)
  have change := heldCount_change valid off entry
  have none : p.itemIn (.worn i pos) = none := by
    rw [itemIn, holds, epet, Option.bind_some, free, Option.bind_none]
  have self : (p.wear i pet pos g it).itemIn (.worn i pos) =
      some { it with owner := p.guid, slot := pos, container := some pet.guid } := by
    rw [itemIn, holds, wear_pets_self, Option.bind_some]
    exact Option.bind_eq_some_iff.mpr ⟨g, Function.update_self .., wear_heap_self ..⟩
  rw [none, self, weight_none, Nat.add_zero] at change
  exact change.trans (congrArg _ (weight_congr rfl rfl))

/-- Storing adds at most the pieces of the object: those of a stack it joins may wrap. -/
lemma heldCount_storeItem_le (h : p.Stored objmgr) (lt : pos < playerSlotsCount) (mv : p.Movable objmgr g it)
    (same : ∀ it2, p.itemAt pos = some it2 → it2.entry = it.entry) (ok : p.storeItem pos g = .ok p') (entry : Nat) :
    p'.heldCount entry ≤ p.heldCount entry + weight entry (some it) := by
  obtain ⟨free, rfl⟩ | ⟨it2, at2, ne, merged⟩ := h.storeItem_cases lt mv ok
  · exact (heldCount_put it mv.floating lt free entry).le
  · obtain ⟨held2, live2, -⟩ := h.items_of_itemAt at2
    obtain ⟨m, q, hp, rfl, now, -, -, off⟩ := merged
    have valid : Loc.Valid (.slot pos) := lt
    have elsewhere : ∀ k, k ≠ .slot pos →
        ({ p with heap := hp, marks := m, itemUpdateQueue := q } : Player).itemIn k = p.itemIn k := by
      intro k nek
      refine itemIn_congr (by cases k <;> rfl) fun g' held => (off g' ?_ ?_).1
      · exact fun eq => mv.floating k (eq ▸ held)
      · exact fun eq => nek (h.unique held (k := .slot pos) (eq ▸ held2))
    have change := heldCount_change valid elsewhere entry
    have sum : ({ p with heap := hp, marks := m, itemUpdateQueue := q } : Player).itemIn (.slot pos) =
        some { it2 with count := u32 (it2.count + it.count) } :=
      Option.bind_eq_some_iff.mpr ⟨it2.guid, held2, now⟩
    have le : u32 (it2.count + it.count) ≤ it2.count + it.count := Nat.mod_le ..
    rw [sum, itemIn_slot, at2] at change
    simp only [weight, same it2 at2] at change ⊢
    -- the sum has 32 bits, so it may be less than both
    split_ifs at change ⊢ <;> omega

/-- Moving a worn item into the bag changes no count. -/
lemma heldCount_swapped {dest : Nat} (h : p.Stored objmgr) (lt : pos < playerSlotsCount) (free : p.items pos = none)
    (entry : Nat) : (swapped objmgr p dest pos).heldCount entry = p.heldCount entry := by
  rw [swapped]
  cases e2 : p.itemAt dest with
  | none => rfl
  | some it2 =>
    obtain ⟨-, mv⟩ := h.taken e2
    have free' : (taken objmgr p dest it2).items pos = none := by
      by_cases eq : pos = dest
      · rw [eq]
        exact taken_free ..
      · exact (taken_items_ne objmgr p it2 eq).trans free
    rw [heldCount_put _ mv.floating lt free', weight_slot]
    exact heldCount_takenFrom (l := .slot dest) h e2 entry

/-- The same for an item that a pet wears. -/
lemma heldCount_petSwapped {i dest : Nat} {pet : Pet} (h : p.Stored objmgr) (epet : p.pets i = some pet)
    (lt : pos < playerSlotsCount) (free : p.items pos = none) (entry : Nat) :
    (petSwapped objmgr p i pet dest pos).heldCount entry = p.heldCount entry := by
  rw [petSwapped]
  cases e2 : (pet.equip dest).bind p.heap with
  | none => rfl
  | some it2 =>
    have at2 : p.itemIn (.worn i dest) = some it2 := by rw [itemIn, holds, epet, Option.bind_some, e2]
    obtain ⟨-, mv⟩ := h.petTaken epet e2
    have emptied := heldCount_takenFrom h at2 entry
    rw [takenFrom, epet] at emptied
    rw [heldCount_put _ mv.floating lt free, weight_slot, emptied]

/-- An equip of the player moves pieces. -/
lemma Equipped.heldCount {invslot : Nat} (h : p.Stored objmgr) (d : p.Equipped objmgr invslot p') (entry : Nat) :
    p'.heldCount entry = p.heldCount entry := by
  cases d with
  | refused => rfl
  | @done it proto dest lt at_ known pos type can =>
    obtain ⟨st, mv⟩ := h.taken at_
    obtain ⟨st2, free2, keep⟩ := st.swapped dest lt (taken_free ..)
    have taken := heldCount_takenFrom (l := .slot invslot) h at_ entry
    have moved := heldCount_put { it with slot := nullSlot } (keep _ _ mv).floating (pos.trans (by decide)) free2 entry
    rw [heldCount_swapped st lt (taken_free ..), weight_slot] at moved
    exact moved.trans taken

/-- What is taken off is stored at most once. -/
lemma heldCount_storedAgain {dest : Nat} (h : p.Stored objmgr) (at_ : p.itemIn l = some it)
    (can : canStoreItem objmgr p it = .ok dest) (stored : (takenFrom objmgr p l it).storeItem dest it.guid = .ok p')
    (entry : Nat) : p'.heldCount entry ≤ p.heldCount entry := by
  obtain ⟨-, hi, -, target⟩ := canStoreItem_ok can
  obtain ⟨st, mv⟩ := h.takenFrom at_
  have emptied := heldCount_takenFrom h at_ entry
  have same : ∀ it2, (takenFrom objmgr p l it).itemAt dest = some it2 → it2.entry = it.entry := by
    intro it2 at2
    by_cases here : l = .slot dest
    · have gone : (takenFrom objmgr p l it).items dest = none :=
        (holds_takenFrom at_ (.slot dest)).trans (if_pos here.symm)
      rw [itemAt, gone] at at2
      cases at2
    · rw [itemAt_takenFrom h at_ here] at at2
      obtain free | ⟨it3, at3, same⟩ := target
      · rw [itemAt, free] at at2
        cases at2
      · cases at2.symm.trans at3
        exact same
  have le := heldCount_storeItem_le st (hi.trans (by decide)) mv same stored entry
  rw [weight_slot, emptied] at le
  exact le

/-- Taking equipment off does not raise a count. -/
lemma Unequipped.heldCount_le {eqslot invslot : Nat} (h : p.Stored objmgr) (d : p.Unequipped objmgr eqslot invslot p')
    (entry : Nat) : p'.heldCount entry ≤ p.heldCount entry := by
  cases d with
  | refused => exact le_refl _
  | stays => exact le_refl _
  | moved at_ room can stored => exact heldCount_storedAgain (l := .slot eqslot) h at_ can stored entry

/-- Neither does taking it off a pet. -/
lemma PetUnequipped.heldCount_le {i eqslot : Nat} (h : p.Stored objmgr) (d : p.PetUnequipped objmgr i eqslot p')
    (entry : Nat) : p'.heldCount entry ≤ p.heldCount entry := by
  cases d with
  | refused => exact le_refl _
  | @moved it pet dest p' epet at_ can stored =>
    have here : p.itemIn (.worn i eqslot) = some it := by rw [itemIn, holds, epet, Option.bind_some, at_]
    have stored' : (takenFrom objmgr p (.worn i eqslot) it).storeItem dest it.guid = .ok p' := by
      rw [takenFrom, epet]
      exact stored
    exact heldCount_storedAgain h here can stored' entry

/-- Applying what a pet has put on changes its modifiers alone. -/
lemma itemIn_petWorn (p : Player) {i dest : Nat} (pet : Pet) (it : Item) (k : Loc) :
    (petWorn objmgr p i pet dest it).itemIn k = (p.wear i pet dest it.guid it).itemIn k := by
  refine itemIn_congr ?_ fun _ _ => rfl
  rw [petWorn]
  refine holds_setPet (wear_pets_self ..) ?_ k
  rfl

/-- An equip of a pet moves pieces. -/
lemma PetEquipped.heldCount {i invslot : Nat} (h : p.Stored objmgr) (d : p.PetEquipped objmgr i invslot p')
    (entry : Nat) : p'.heldCount entry = p.heldCount entry := by
  cases d with
  | refused => rfl
  | @done it pet pet' dest lt ipet at_ epet pos epet' =>
    obtain ⟨st, mv⟩ := h.taken at_
    obtain ⟨st2, ⟨pet'', epet'', free⟩, keep⟩ := st.petSwapped dest epet lt
    cases epet'.symm.trans epet''
    rw [heldCount_congr (itemIn_petWorn _ pet' { it with slot := nullSlot }),
      heldCount_wear _ (keep _ _ mv).floating ipet pos epet' free, heldCount_petSwapped st epet lt (taken_free ..),
      weight_slot]
    exact heldCount_takenFrom (l := .slot invslot) h at_ entry

end Moves

section Gains

variable {objmgr : ObjectMgr} {p p' : Player} {it : Item} {proto : ItemPrototype} {itemid count : Nat}

/-- Room depends on the items alone. -/
lemma roomBeside_congr (same : ∀ l, p'.itemIn l = p.itemIn l) :
    p'.RoomBeside proto count ↔ p.RoomBeside proto count := by
  have slots : ∀ i, p'.itemAt i = p.itemAt i := fun i => same (.slot i)
  simp only [RoomBeside, countedCount, uncountedCount, same, slots]

/-- What passes the check is within the limit when there is room beside it. -/
lemma le_maxCount_of_check (apart : ∀ i it', p.itemAt i = some it' → it'.guid ≠ it.guid) (limited : 0 < proto.maxCount)
    (check : p.canTakeMoreSimilarItems proto it = true) (room : p.RoomBeside proto it.count) :
    p.heldCount proto.itemId + it.count ≤ proto.maxCount := by
  obtain ⟨small, beside⟩ := room
  obtain zero | counted := (canTakeMoreSimilarItems_iff apart).mp check
  · exact absurd zero limited.ne'
  · have counted : u32 (p.countedCount proto.itemId + it.count) ≤ proto.maxCount := counted
    rw [u32_of_lt small] at counted
    rw [heldCount_eq]
    omega

/-- New pieces with room beside them keep the limits. -/
lemma Gained.withinMax (h : p.Stored objmgr) (w : WithinMaxCounts objmgr p)
    (ok : StoresOk objmgr p itemid count) (g : Gained objmgr p itemid count p') : WithinMaxCounts objmgr p' := by
  obtain ⟨-, ⟨-, same⟩ | ⟨proto, dest, it', can, known, lt, off, at_, entry, change⟩⟩ := g.itemIn h
  · intro e proto known limited
    rw [heldCount_congr same]
    exact w e proto known limited
  · intro e proto' known' limited
    have valid : Loc.Valid (.slot dest) := lt
    have moved := heldCount_change valid off e
    rw [at_, itemIn_slot] at moved
    by_cases eq : itemid = e
    · subst eq
      cases known.symm.trans known'
      have named := ObjectMgr.itemId_of_getItemPrototype known
      have room := ok proto dest known limited can
      rw [canStoreNewItem, createItem, known] at can
      obtain ⟨proto', known', check, -⟩ := canStoreItem_ok_iff.mp can
      cases known.symm.trans known'
      have apart : ∀ i it2, p.itemAt i = some it2 → it2.guid ≠ p.hiItemGuid + 1 := by
        intro i it2 at2
        have le := (h.known (h.items_of_itemAt at2).2.1).2.1
        omega
      have le : p.heldCount proto.itemId + createCount proto count ≤ proto.maxCount :=
        le_maxCount_of_check apart limited check room
      rw [named] at le
      -- the pieces come to a free slot, or join a stack whose sum may wrap
      obtain ⟨free, pieces⟩ | ⟨it2, at2, entry2, pieces⟩ := change
      · simp only [free, weight, if_pos entry, pieces] at moved
        omega
      · simp only [at2, weight, if_pos entry, if_pos entry2, pieces] at moved
        have wrapped : u32 (it2.count + createCount proto count) ≤ it2.count + createCount proto count :=
          Nat.mod_le ..
        omega
    · have none : weight e (some it') = 0 := if_neg fun eq' => eq (entry.symm.trans eq')
      have before := w e proto' known' limited
      omega

/-- A purchase of goods whose store is allowed keeps the limits. -/
lemma handleBuy_withinMaxCounts {vendor : Option (List CreatureItem)} {vendor_slot buy_count : Nat}
    (h : p.Stored objmgr) (w : WithinMaxCounts objmgr p)
    (ok : ∀ goods citem proto, vendor = some goods → getGoods goods vendor_slot = some citem →
      objmgr.getItemPrototype citem.entry = some proto → buy_count ≤ p.gold →
        StoresOk objmgr p (objmgr.getItemEntryByModelId proto.modelid).1 buy_count)
    (e : handleBuy objmgr p vendor vendor_slot buy_count = .ok p') : WithinMaxCounts objmgr p' := by
  cases vendor with
  | none =>
    cases e
    exact w
  | some goods =>
    rw [handleBuy] at e
    cases found : getGoods goods vendor_slot with
    | none =>
      rw [found] at e
      cases e
      exact w
    | some citem =>
      simp only [found] at e
      cases known : objmgr.getItemPrototype citem.entry with
      | none =>
        rw [known] at e
        cases e
        exact w
      | some proto =>
        simp only [known] at e
        split_ifs at e with poor
        · cases e
          exact w
        · have stores := ok goods citem proto rfl found known (Nat.not_lt.mp poor)
          have lt : applyModUInt32Value p.gold (u32 (proto.buyprice * buy_count)) false < 2 ^ 32 :=
            applyModUInt32Value_lt ..
          have gained := (h.withGold lt).addNewInventoryItem proto.modelid buy_count
          rw [e, sat_ok] at gained
          refine gained.withinMax (h.withGold lt) ?_ ?_
          · intro entry proto known' limited
            rw [heldCount_congr (itemIn_withGold p _)]
            exact w entry proto known' limited
          · intro proto dest known' limited can
            rw [canStoreNewItem_gold] at can
            exact (roomBeside_congr (itemIn_withGold p _)).mpr (stores proto dest known' limited can)

end Gains

section Rows

variable {objmgr : ObjectMgr} {p p' : Player} {db db' : Database} {row : LoginRow} {d : ItemData}

/-- A new object is in no place. -/
lemma itemIn_newObject {it : Item} (fl : p.Floating it.guid) (l : Loc) : (p.newObject it).itemIn l = p.itemIn l :=
  itemIn_congr (by cases l <;> rfl) fun _ held => newObject_heap_ne p it fun eq => fl l (eq ▸ held)

/-- A row of the bank names no equipment and no inventory slot. -/
lemma countsAs_of_not_bank (off : ¬isBankPos row.slot = true) : p.countsAs row d = d.entry :=
  if_neg fun both => off both.2

/-- Equipment slots are not of the bank. -/
lemma not_isBankPos_of_lt {slot : Nat} (lt : slot < equipmentSlotEnd) : ¬isBankPos slot = true := by
  intro bank
  cases (not_isEquipmentPos_of_bank bank).symm.trans (isEquipmentPos_iff.mpr lt)

/-- Neither are bag slots. -/
lemma not_isBankPos_of_inventory {slot : Nat} (pos : isInventoryPos slot) : ¬isBankPos slot = true := by
  intro bank
  cases (not_isInventoryPos_of_bank bank).symm.trans pos

/-- A row that goes to a free place counts as its own entry. -/
lemma countsAs_of_free {dest : Nat} (free : p.items dest = none)
    (goal : Destination objmgr (p.newObject (p.loadedItem row d)) row.slot (p.loadedItem row d) dest) :
    p.countsAs row d = d.entry := by
  cases goal with
  | inventory pos => exact countsAs_of_not_bank (not_isBankPos_of_inventory pos)
  | equipment pos can =>
    rw [countsAs, itemAt, free]
    exact ite_self _
  | bank pos =>
    rw [countsAs, itemAt, free]
    exact ite_self _

/-- A row that joins a stack counts as the entry of the stack. -/
lemma countsAs_of_itemAt {dest : Nat} {it2 : Item} (own : row.pet = 0)
    (goal : Destination objmgr (p.newObject (p.loadedItem row d)) row.slot (p.loadedItem row d) dest)
    (at2 : p.itemAt dest = some it2) (at2' : (p.newObject (p.loadedItem row d)).itemAt dest = some it2) :
    p.countsAs row d = it2.entry := by
  obtain ⟨g, held, -⟩ := Option.bind_eq_some_iff.mp at2'
  cases goal with
  | inventory pos can =>
    rw [countsAs_of_not_bank (not_isBankPos_of_inventory pos)]
    obtain ⟨-, -, -, free | ⟨it3, at3, entry3⟩⟩ := canStoreItem_ok can
    · cases held.symm.trans free
    · cases at2'.symm.trans at3
      exact entry3.symm
  | equipment pos can =>
    obtain ⟨-, free, -⟩ := canWearItem_ok can
    cases held.symm.trans (free.resolve_left Bool.false_ne_true)
  | bank pos => rw [countsAs, if_pos ⟨own, pos⟩, at2, Option.map_some, Option.getD_some]

/-- Pieces of the entry that a row counts as are added, and no others. -/
lemma heldCount_le_of_put {entry own : Nat} (data : row.data = some d) (counts : p.countsAs row d = own)
    (put : p'.heldCount entry ≤ p.heldCount entry + if own = entry then d.count else 0) :
    p'.heldCount entry ≤ p.heldCount entry ∨
      ∃ d, row.data = some d ∧ p.countsAs row d = entry ∧ p'.heldCount entry ≤ p.heldCount entry + d.count := by
  by_cases same : own = entry
  · rw [if_pos same] at put
    exact .inr ⟨d, data, counts.trans same, put⟩
  · rw [if_neg same, Nat.add_zero] at put
    exact .inl put

/-- Loading a row adds at most its pieces, to the entry it counts as. -/
lemma Loaded.heldCount_le (h : p.Stored objmgr) (fl : p.Floating row.item) (le : row.item ≤ p.hiItemGuid)
    (l : p.Loaded objmgr db row p' db') (entry : Nat) :
    p'.heldCount entry ≤ p.heldCount entry ∨
      ∃ d, row.data = some d ∧ p.countsAs row d = entry ∧ p'.heldCount entry ≤ p.heldCount entry + d.count := by
  have new : ∀ d e, (p.newObject (p.loadedItem row d)).heldCount e = p.heldCount e := fun d => by
    have fl' : p.Floating (p.loadedItem row d).guid := fl
    exact heldCount_congr (itemIn_newObject fl')
  have float : ∀ d, (p.newObject (p.loadedItem row d)).Floating row.item := fun d l held => fl l (by
    cases l <;> exact held)
  cases l with
  | refused => exact .inl (le_refl _)
  | @rejected d => exact .inl (new d entry).le
  | @unplaced d =>
    rw [heldCount_markUnchanged, new]
    exact .inl (le_refl _)
  | @placed d dest data own goal lt free known =>
    have free' : (p.newObject (p.loadedItem row d)).items dest = none := free
    have put : _ = _ + if d.entry = entry then d.count else 0 :=
      heldCount_put (p.loadedItem row d) (float d) lt free' entry
    rw [new, ← heldCount_markUnchanged _ row.item] at put
    exact heldCount_le_of_put data (countsAs_of_free free goal) put.le
  | @stacked d dest it2 data own goal at2 =>
    have fl' : p.Floating (p.loadedItem row d).guid := fl
    have at2' := (newObject_itemAt fl' dest).trans at2
    have st := h.newObject fl' le rfl
    obtain ⟨held2, -⟩ := st.items_of_itemAt at2'
    have ne : it2.guid ≠ row.item := fun eq => float d (.slot dest) (eq ▸ held2)
    have here : (p.newObject (p.loadedItem row d)).holds (.slot dest) = some it2.guid := held2
    have valid : Loc.Valid (.slot dest) := st.valid here
    have off : ∀ k, k ≠ .slot dest → (((p.newObject (p.loadedItem row d)).absorbed row.item it2.guid
        (p.loadedItem row d) it2).markUnchanged it2.guid).itemIn k = (p.newObject (p.loadedItem row d)).itemIn k :=
      fun k nek => itemIn_absorbed_ne st (float d) here nek
    have sum : (((p.newObject (p.loadedItem row d)).absorbed row.item it2.guid (p.loadedItem row d) it2).markUnchanged
        it2.guid).itemIn (.slot dest) = some { it2 with count := u32 (it2.count + d.count) } :=
      Option.bind_eq_some_iff.mpr ⟨it2.guid, (holds_absorbed _ _ _ _ _ (.slot dest)).trans held2, absorbed_heap_self ne⟩
    have change := heldCount_change valid off entry
    rw [new, sum, itemIn_slot, at2'] at change
    have wrapped : u32 (it2.count + d.count) ≤ it2.count + d.count := Nat.mod_le ..
    refine heldCount_le_of_put data (countsAs_of_itemAt own goal at2 at2') ?_
    by_cases same : it2.entry = entry
    · simp only [weight, if_pos same] at change
      rw [if_pos same]
      omega
    · simp only [weight, if_neg same, Nat.add_zero] at change
      rw [if_neg same, Nat.add_zero]
      exact change.le
  | @worn d i pet data epet guid ipet lt free known =>
    have put : _ = _ + if d.entry = entry then d.count else 0 :=
      heldCount_wear (p.loadedItem row d) (float d) ipet lt epet free entry
    rw [new, ← heldCount_markUnchanged _ row.item] at put
    exact heldCount_le_of_put data (countsAs_of_not_bank (not_isBankPos_of_lt lt)) put.le

/-- An item without a destination is put nowhere. -/
lemma loadItem_of_closed {slot : Nat} {it : Item} (closed : ∀ dest, ¬Destination objmgr p slot it dest) :
    ∃ placed, loadItem objmgr p slot it = .ok (p, placed) ∧ ∀ g ∈ placed, g = it.guid := by
  rw [loadItem]
  split
  case isTrue pos =>
    cases can : canStoreItem objmgr p it with
    | ok dest => exact absurd (.inventory pos can) (closed dest)
    | error f => exact ⟨none, rfl, fun _ mem => by cases mem⟩
  split
  case isTrue pos =>
    cases can : canEquipItem objmgr p slot it false with
    | ok dest =>
      obtain ⟨rfl, -⟩ := canWearItem_ok can
      exact absurd (.equipment pos can) (closed dest)
    | error f => exact ⟨none, rfl, fun _ mem => by cases mem⟩
  split
  case isTrue pos => exact absurd (.bank pos) (closed slot)
  exact ⟨some it.guid, rfl, fun _ mem => (Option.some.inj mem).symm⟩

/-- An item that a pet may not wear is put nowhere. -/
lemma loadPetItem_of_refused {i slot : Nat} {pet : Pet} {it : Item} (epet : p.pets i = some pet)
    (refused : canPetEquipItem objmgr p pet slot it false ≠ .ok slot) :
    loadPetItem objmgr p i slot it = .ok (p, none) := by
  simp only [loadPetItem, epet, bind, Except.bind]
  split
  case isTrue =>
    cases can : canPetEquipItem objmgr p pet slot it false with
    | ok dest =>
      obtain ⟨rfl, -⟩ := canWearItem_ok can
      exact absurd can refused
    | error f => rfl
  case isFalse => rfl

/-- A row that finds no place changes no place. -/
lemma itemIn_of_not_admits {r : Player × Database} (fl : p.Floating row.item)
    (none : ∀ d, row.data = some d → ¬Admits objmgr p row d) (e : loadRow objmgr p db row = .ok r) (l : Loc) :
    r.1.itemIn l = p.itemIn l := by
  rw [loadRow] at e
  cases known : objmgr.getItemPrototype row.entry with
  | none =>
    rw [known] at e
    cases e
    rfl
  | some proto =>
    cases data : row.data with
    | none =>
      rw [known, data] at e
      cases e
      rfl
    | some d =>
      have refused := none d data
      have fl' : p.Floating (p.loadedItem row d).guid := fl
      have live := loadedItem_live p row d
      simp only [known, data] at e
      split at e
      case isTrue own =>
        obtain ⟨placed, loaded, guid⟩ := loadItem_of_closed fun dest goal => refused (.own own goal)
        rw [loaded] at e
        cases placed with
        | none =>
          cases e
          exact itemIn_newObject fl' l
        | some g =>
          obtain rfl := guid g rfl
          simp only [bind, Except.bind, finishRow, loadedItem_guid, setState_unchanged live, pure, Except.pure] at e
          cases e
          rw [markUnchanged]
          exact itemIn_newObject fl' l
      case isFalse =>
        cases found : p.getPetByGuid row.pet with
        | none =>
          rw [found] at e
          cases e
          rfl
        | some i =>
          obtain ⟨-, pet, epet, -⟩ := getPetByGuid_some found
          have loaded := loadPetItem_of_refused (p := p.newObject (p.loadedItem row d)) epet
            fun can => refused (.worn found epet can)
          simp only [found, loaded, bind, Except.bind, finishRow] at e
          cases e
          exact itemIn_newObject fl' l

/-- The pieces of a row that meets its condition are within the limit. -/
lemma RowOk.le_maxCount {proto : ItemPrototype} (ok : RowOk objmgr p row) (h : p.Stored objmgr)
    (fl : p.Floating row.item) (data : row.data = some d) (adm : Admits objmgr p row d)
    (known : objmgr.getItemPrototype (p.countsAs row d) = some proto) (limited : 0 < proto.maxCount) :
    p.heldCount (p.countsAs row d) + d.count ≤ proto.maxCount := by
  obtain ⟨bank, room⟩ := ok d proto data known limited adm
  have fl' : p.Floating (p.loadedItem row d).guid := fl
  have wearable : ∀ {u worn}, row.slot < equipmentSlotEnd → canWearItem objmgr (p.newObject (p.loadedItem row d)) u worn
      row.slot (p.loadedItem row d) false = .ok row.slot →
        (p.newObject (p.loadedItem row d)).canTakeMoreSimilarItems proto (p.loadedItem row d) = true := by
    intro u worn lt can
    obtain ⟨proto', known', check, -⟩ := canWearItem_iff.mp can
    rw [countsAs_of_not_bank (not_isBankPos_of_lt lt)] at known
    cases known.symm.trans known'
    exact check
  have check : (p.newObject (p.loadedItem row d)).canTakeMoreSimilarItems proto (p.loadedItem row d) = true := by
    cases adm with
    | own own goal =>
      cases goal with
      | inventory pos can =>
        obtain ⟨proto', known', check, -⟩ := canStoreItem_ok_iff.mp can
        rw [countsAs_of_not_bank (not_isBankPos_of_inventory pos)] at known
        cases known.symm.trans known'
        exact check
      | equipment pos can =>
        rw [isEquipmentPos, decide_eq_true_eq] at pos
        exact wearable pos can
      | bank pos => exact bank own pos
    | worn found epet can =>
      obtain ⟨-, -, proto', -, type, -⟩ := canWearItem_ok can
      exact wearable (slotOfInventoryType_lt type) can
  have apart : ∀ i it, (p.newObject (p.loadedItem row d)).itemAt i = some it →
      it.guid ≠ (p.loadedItem row d).guid := by
    intro i it at_ eq
    rw [newObject_itemAt fl'] at at_
    obtain ⟨held, -⟩ := h.items_of_itemAt at_
    exact fl (.slot i) (held.trans (congrArg some eq))
  have le := le_maxCount_of_check apart limited check ((roomBeside_congr (itemIn_newObject fl')).mpr room)
  rw [heldCount_congr (itemIn_newObject fl'), ObjectMgr.itemId_of_getItemPrototype known] at le
  exact le

/-- A row that meets its condition keeps the limits. -/
lemma RowOk.withinMax {r : Player × Database} (ok : RowOk objmgr p row) (h : p.Stored objmgr)
    (fl : p.Floating row.item) (le : row.item ≤ p.hiItemGuid) (w : WithinMaxCounts objmgr p)
    (l : p.Loaded objmgr db row r.1 r.2) (e : loadRow objmgr p db row = .ok r) : WithinMaxCounts objmgr r.1 := by
  intro entry proto known limited
  obtain same | ⟨d, data, rfl, grown⟩ := l.heldCount_le h fl le entry
  · exact same.trans (w entry proto known limited)
  · by_cases adm : Admits objmgr p row d
    · exact grown.trans (ok.le_maxCount h fl data adm known limited)
    -- a row that finds no place adds nothing
    · have kept : ∀ d, row.data = some d → ¬Admits objmgr p row d := by
        intro d' data'
        cases data.symm.trans data'
        exact adm
      rw [heldCount_congr (itemIn_of_not_admits fl kept e)]
      exact w _ proto known limited

/-- So do all rows. -/
lemma RowsOk.withinMax {rows : List LoginRow} {r : Player × Database} (ok : RowsOk objmgr p db rows)
    (h : p.Stored objmgr) (aw : p.Awaiting rows) (w : WithinMaxCounts objmgr p)
    (e : loadRows objmgr p db rows = .ok r) : WithinMaxCounts objmgr r.1 := by
  induction rows generalizing p db with
  | nil =>
    cases e
    exact w
  | cons row rows ih =>
    obtain ⟨q, db', first, loaded, stored, aw', rest⟩ := loadRows_cons h aw e
    have fl := aw.floating row List.mem_cons_self
    have le := aw.known row List.mem_cons_self
    have kept : WithinMaxCounts objmgr q := RowOk.withinMax (r := (q, db')) ok.1 h fl le w loaded first
    exact ih (ok.2 (q, db') first) stored aw' kept rest

end Rows

section Runs

variable {objmgr : ObjectMgr} {p p' : Player}

/-- Every event that meets its condition keeps the limits. -/
lemma ItemEvent.run_withinMaxCounts {ev : ItemEvent} (h : p.Stored objmgr) (w : WithinMaxCounts objmgr p)
    (ok : ev.Ok objmgr p) (e : ev.run objmgr p = .ok p') : p'.Stored objmgr ∧ WithinMaxCounts objmgr p' := by
  cases ev with
  | equip tmp_invslot =>
    obtain ⟨o, result, rfl⟩ := map_eq_ok.mp e
    have d := (h.handleEquip tmp_invslot).of_ok result
    refine ⟨d.stored h, fun entry proto known limited => ?_⟩
    rw [d.heldCount h]
    exact w entry proto known limited
  | unequip tmp_eqslot tmp_invslot =>
    obtain ⟨o, result, rfl⟩ := map_eq_ok.mp e
    have d := (h.handleUnequip tmp_eqslot tmp_invslot).of_ok result
    exact ⟨d.stored h, fun entry proto known limited => (d.heldCount_le h entry).trans (w entry proto known limited)⟩
  | petEquip target tmp_invslot =>
    obtain ⟨o, result, rfl⟩ := map_eq_ok.mp e
    have d := (h.handlePetEquip target tmp_invslot).of_ok result
    refine ⟨d.stored h, fun entry proto known limited => ?_⟩
    rw [d.heldCount h]
    exact w entry proto known limited
  | petUnequip target tmp_eqslot tmp_invslot =>
    obtain ⟨o, result, rfl⟩ := map_eq_ok.mp e
    have d := (h.handlePetUnequip target tmp_eqslot tmp_invslot).of_ok result
    exact ⟨d.stored h, fun entry proto known limited => (d.heldCount_le h entry).trans (w entry proto known limited)⟩
  | buy cache vendor vendor_slot buy_count =>
    have h' := (Session.stored_cache cache).mpr h
    have b := h'.handleBuy vendor vendor_slot buy_count
    rw [show handleBuy _ p vendor vendor_slot buy_count = .ok p' from e, sat_ok] at b
    have kept : WithinMaxCounts { objmgr with itemPrototypeList := cache } p' := handleBuy_withinMaxCounts h' w ok e
    exact ⟨(Session.stored_cache cache).mp (b.stored h'), kept⟩
  | drop cache modelid count =>
    have h' := (Session.stored_cache cache).mpr h
    have g := h'.addNewInventoryItem modelid count
    rw [show addNewInventoryItem _ p modelid count = .ok p' from e, sat_ok] at g
    have kept : WithinMaxCounts { objmgr with itemPrototypeList := cache } p' := g.withinMax h' w ok
    exact ⟨(Session.stored_cache cache).mp (g.stored h'), kept⟩

/-- A load whose rows meet their conditions keeps the limits. -/
lemma load_withinMaxCounts {db : Database} {rows : List LoginRow} {r : Player × Database} (l : Session.Login p db rows)
    (ok : RowsOk objmgr { p with itemUpdateQueueBlocked := true } db rows)
    (e : loadInventory objmgr p db rows = .ok r) : WithinMaxCounts objmgr r.1 := by
  obtain ⟨st, aw⟩ := l.ready objmgr
  obtain ⟨r', loaded, rfl⟩ := loadInventory_ok e
  have empty : ∀ entry, heldCount { p with itemUpdateQueueBlocked := true } entry = 0 := by
    intro entry
    refine total_eq_zero fun k _ => ?_
    have none : Player.itemIn { p with itemUpdateQueueBlocked := true } k = none := by
      rw [itemIn]
      refine Option.bind_eq_none_iff.mpr fun g held => ?_
      exact congrFun l.fresh.heap g
    rw [none, weight_none]
  have start : WithinMaxCounts objmgr { p with itemUpdateQueueBlocked := true } := by
    intro entry proto _ _
    rw [empty]
    exact Nat.zero_le _
  have w := ok.withinMax st aw start loaded
  intro entry proto known limited
  have same : ∀ k,
      (applyAllItemMods objmgr { r'.1 with itemUpdateQueueBlocked := false }).itemIn k = r'.1.itemIn k := by
    intro k
    refine itemIn_congr ?_ fun _ _ => rfl
    rw [holds_applyAllItemMods]
    cases k <;> rfl
  rw [heldCount_congr same]
  exact w entry proto known limited

/-- In every run whose rows and events meet their conditions the limits are kept. -/
theorem CarryRun.withinMaxCounts (run : CarryRun objmgr (RowsOk objmgr) (fun p ev => ev.Ok objmgr p) p) :
    WithinMaxCounts objmgr p := by
  have inv : p.Stored objmgr ∧ WithinMaxCounts objmgr p := by
    induction run with
    | load l good e =>
      have loaded := l.loads objmgr
      rw [e, sat_ok] at loaded
      exact ⟨loaded, load_withinMaxCounts l good e⟩
    | event _ good e ih => exact ItemEvent.run_withinMaxCounts ih.1 ih.2 good e
  exact inv.2

/-- A sword, one of which may be carried. -/
def relics : ObjectMgr := ⟨[⟨2, 2, "Weapon", 4, 0, 3, 0, 0, 1, 1, []⟩], []⟩

/-- The owner of a pet comes back to one in the first inventory slot. -/
def relicOwner : Player :=
  match loadInventory relics (Household.petOwner fun _ _ => 0) (Session.holding 1 (rowsOf [(10, 2)]))
    (rowsOf [(10, 2)]) with
  | .ok r => r.1
  | .error _ => Household.petOwner fun _ _ => 0

/-- The player after some events. -/
def after (p : Player) : List ItemEvent → Player
  | [] => p
  | ev :: evs =>
    match ev.run relics p with
    | .ok p' => p'.after evs
    | .error _ => p

/-- The owner of the relics logs in. -/
lemma relicOwner_login :
    Session.Login (Household.petOwner fun _ _ => 0) (Session.holding 1 (rowsOf [(10, 2)])) (rowsOf [(10, 2)]) :=
  Household.petOwner_login (fun _ _ => 0) (by decide) (by decide) (by decide) (by decide)

/-- Another sword is refused, and then the pet puts on the one there is and takes it off again. -/
theorem withinMaxCounts_relicOwner :
    WithinMaxCounts relics (relicOwner.after [.drop [] 2 1, .petEquip 1 1, .petUnequip 1 4 1]) := by
  have rows : RowsOk relics { (Household.petOwner fun _ _ => 0) with itemUpdateQueueBlocked := true }
      (Session.holding 1 (rowsOf [(10, 2)])) (rowsOf [(10, 2)]) := by
    refine ⟨?_, fun _ _ => trivial⟩
    intro d proto data known _ _
    cases data
    cases known
    refine ⟨fun _ bank => ?_, by decide +kernel⟩
    cases bank
  have stores : StoresOk relics relicOwner 2 1 := by
    intro proto dest _ _ can
    have refused : canStoreNewItem relics relicOwner 2 1 = .error .cantCarryMoreOfThis := by decide +kernel
    cases refused.symm.trans can
  have loaded : CarryRun relics (RowsOk relics) (fun p ev => ev.Ok relics p) relicOwner :=
    .load (r := (relicOwner, _)) relicOwner_login rows rfl
  have second : CarryRun relics (RowsOk relics) (fun p ev => ev.Ok relics p) (relicOwner.after [.drop [] 2 1]) :=
    .event loaded (show ItemEvent.Ok relics relicOwner (.drop [] 2 1) from stores) rfl
  have third : CarryRun relics (RowsOk relics) (fun p ev => ev.Ok relics p)
      (relicOwner.after [.drop [] 2 1, .petEquip 1 1]) :=
    .event second (show ItemEvent.Ok relics _ (.petEquip 1 1) from trivial) rfl
  exact CarryRun.withinMaxCounts (.event third (show ItemEvent.Ok relics _ (.petUnequip 1 4 1) from trivial) rfl)

/-- While the pet wears the sword, the player is given another one. -/
theorem not_withinMaxCounts_relicOwner :
    CarryRun relics (fun _ _ _ => True) (fun _ _ => True) (relicOwner.after [.petEquip 1 1, .drop [] 2 1]) ∧
      ¬ WithinMaxCounts relics (relicOwner.after [.petEquip 1 1, .drop [] 2 1]) := by
  have loaded : CarryRun relics (fun _ _ _ => True) (fun _ _ => True) relicOwner :=
    .load (r := (relicOwner, _)) relicOwner_login trivial rfl
  have second : CarryRun relics (fun _ _ _ => True) (fun _ _ => True) (relicOwner.after [.petEquip 1 1]) :=
    .event loaded trivial (show ItemEvent.run relics relicOwner (.petEquip 1 1) = .ok _ from rfl)
  refine ⟨.event second trivial (show ItemEvent.run relics _ (.drop [] 2 1) = .ok _ from rfl), fun within => ?_⟩
  exact absurd (within 2 _ rfl (by decide)) (by decide +kernel)

end Runs

end Player

end Legacy.Inventory
