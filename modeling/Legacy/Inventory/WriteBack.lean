import Legacy.Inventory.Tracking

/-!
# Writing the inventory back

A save writes the entries of the update queue. `Run.writtenBack` says that after every save the joined rows
of the character are exactly the items in its slots, in a run after a login that brought every row it kept to
its own place and in which the queue has at most 32767 entries at every step. The save is an induction over the
queue: an entry that was handled has nothing left to save (`Settled`), and one that was not waits in the queue.
-/

namespace Legacy.Inventory
open Legacy.Lib

namespace Queueing

open Database

/-- There is nothing left to save of an item. -/
def Settled (s : Queueing) (g : Nat) : Prop :=
  s.player.heap g = none ∨ (s.player.marks g).uState = .unchanged ∨ ¬s.called g

/-- What saving one entry leaves. -/
structure EntrySaved (s s' : Queueing) (g : Nat) : Prop where
  others : ∀ g', g' ≠ g → SameItem s s' g'
  holds : ∀ l, s'.player.holds l = s.player.holds l
  top : s'.player.hiItemGuid = s.player.hiItemGuid
  tracked : Tracked s' g
  settled : Settled s' g

/-- An entry of the queue is written. -/
lemma Tracked.saveEntry {objmgr : ObjectMgr} {s : Queueing} {g : Nat} {p : Player} {db : Database}
    (t : Tracked s g) (named : ∀ it, s.player.heap g = some it → it.guid = g) (called : s.called g)
    (e : s.player.saveEntry objmgr s.database g = .ok (p, db)) :
    EntrySaved s { s with player := p, database := db } g := by
  obtain ⟨it, live, saved⟩ := Player.saveEntry_saved e
  cases named it live
  have marks (g' : Nat) (ne : g' ≠ it.guid) : (s.player.markUnchanged it.guid).marks g' = s.player.marks g' :=
    Function.update_of_ne ne ..
  have self : (s.player.markUnchanged it.guid).marks it.guid = ⟨.unchanged, -1⟩ := Function.update_self ..
  have marked := congrArg Mark.uState self
  have others {q : Player} {db' : Database} (guid : q.guid = s.player.guid)
      (heap : ∀ g', g' ≠ it.guid → q.heap g' = s.player.heap g')
      (marks : ∀ g', g' ≠ it.guid → q.marks g' = s.player.marks g') (off : Off s.database db' it.guid) :
      ∀ g', g' ≠ it.guid → SameItem s { s with player := q, database := db' } g' :=
    fun g' ne => ⟨guid, heap g' ne, marks g' ne, rfl, (off g' ne).1, (off g' ne).2⟩
  cases t with
  | gone dead => cases dead.symm.trans live
  | new _ mark absent held =>
    simp only [Player.saveToDB, Player.saveRow, mark, Player.setState_unchanged live] at saved
    cases saved
    have off := off_inserted s.database it.guid (s.player.inventoryRow it) (Player.instanceRow it)
    refine ⟨others rfl (fun _ _ => rfl) marks off, fun l => by cases l <;> rfl, rfl, ?_, Or.inr (Or.inl marked)⟩
    refine Tracked.unchanged live marked ⟨?_, replaceInstance_self ..⟩ (held.mp called)
    refine (congrFun (replaceInstance_inventory ..) it.guid).trans ?_
    rw [insertInventory, absent]
    exact Function.update_self ..
  | changed _ mark rows _ held =>
    simp only [Player.saveToDB, Player.saveRow, mark, Player.setState_unchanged live] at saved
    cases saved
    have off := (off_updateInventory s.database it.guid (s.player.inventoryRow it)).trans
      (off_updateInstance _ it.guid (Player.instanceRow it))
    refine ⟨others rfl (fun _ _ => rfl) marks off, fun l => by cases l <;> rfl, rfl, ?_, Or.inr (Or.inl marked)⟩
    obtain ⟨⟨ci, inventory⟩, ii, inst⟩ := And.imp Option.isSome_iff_exists.mp Option.isSome_iff_exists.mp rows
    refine Tracked.unchanged live marked ⟨(Function.update_self ..).trans ?_, (Function.update_self ..).trans ?_⟩ held
    · rw [inventory]
      rfl
    · have inst' : (s.database.updateInventory it.guid (s.player.inventoryRow it)).itemInstance it.guid = some ii :=
        inst
      rw [inst']
      rfl
  | removed _ mark _ fl =>
    simp only [Player.saveToDB, Player.saveRow, mark] at saved
    cases saved
    have off := (off_deleteInventory s.database it.guid).trans (off_deleteInstance _ it.guid)
    have dead : (s.player.deleteItem it.guid).heap it.guid = none := Player.deleteItem_heap_self ..
    refine ⟨others rfl (fun _ ne => Player.deleteItem_heap_ne _ ne) (fun _ _ => rfl) off,
      fun l => by cases l <;> rfl, rfl, ?_, Or.inl dead⟩
    exact Tracked.gone dead (joined_of_absent (Function.update_self ..))
  | unchanged live' mark clean held =>
    simp only [Player.saveToDB, Player.saveRow, mark, Player.setState_unchanged live] at saved
    cases saved
    cases live.symm.trans live'
    refine ⟨others rfl (fun _ _ => rfl) marks (off_refl s.database it.guid), fun l => by cases l <;> rfl, rfl, ?_,
      Or.inr (Or.inl marked)⟩
    exact Tracked.unchanged live marked clean held

/-- The loop of a save, with the part of the queue that is still to come. -/
structure Saving (s : Queueing) (queue : List (Option Nat)) : Prop where
  named : ∀ g it, s.player.heap g = some it → it.guid = g
  beyond : ∀ g, s.player.hiItemGuid < g → s.player.heap g = none ∧ s.database.characterInventory g = none
  tracked : ∀ g, Tracked s g
  called : ∀ g, some g ∈ queue → s.called g
  settled : ∀ g, some g ∉ queue → Settled s g

/-- What is tracked stays settled. -/
lemma Settled.congr {s s' : Queueing} {g : Nat} (settled : Settled s g) (same : SameItem s s' g) : Settled s' g := by
  rw [Settled, same.heap, same.marks, same.called]
  exact settled

/-- The first entry of the rest of the queue is written. -/
lemma Saving.next {objmgr : ObjectMgr} {s : Queueing} {g : Nat} {queue : List (Option Nat)} {p : Player} {db : Database}
    (h : Saving s (some g :: queue)) (e : s.player.saveEntry objmgr s.database g = .ok (p, db)) :
    Saving { s with player := p, database := db } queue := by
  have entry := (h.tracked g).saveEntry (h.named g) (h.called g List.mem_cons_self) e
  have processed := processed_saveEntry h.named e
  obtain ⟨it, live, -⟩ := Player.saveEntry_saved e
  have same (g' : Nat) (ne : g' ≠ g) := entry.others g' ne
  have floating (g' : Nat) : p.Floating g' ↔ s.player.Floating g' := by
    refine forall_congr' fun l => ?_
    rw [show p.holds l = s.player.holds l from entry.holds l]
  refine ⟨fun g' it' live' => h.named g' it' (processed.heap g' it' live'), fun g' lt => ?_, fun g' => ?_,
    fun g' mem => h.called g' (List.mem_cons_of_mem _ mem), fun g' mem => ?_⟩
  · have old := h.beyond g' (entry.top ▸ lt)
    have ne : g' ≠ g := by
      intro same
      cases (same ▸ old.1).symm.trans live
    exact ⟨(same g' ne).heap.trans old.1, (same g' ne).inventory.trans old.2⟩
  · by_cases ne : g' = g
    · exact ne ▸ entry.tracked
    · exact (h.tracked g').congr (same g' ne) (floating g')
  · by_cases ne : g' = g
    · exact ne ▸ entry.settled
    · refine (h.settled g' fun mem' => ?_).congr (same g' ne)
      cases mem' with
      | head => exact ne rfl
      | tail _ later => exact mem later

/-- The whole queue is written. -/
lemma Saving.run {objmgr : ObjectMgr} {s : Queueing} {queue : List (Option Nat)} {p : Player} {db : Database}
    (h : Saving s queue) (e : s.player.saveQueue objmgr s.database queue = .ok (p, db)) :
    Saving { s with player := p, database := db } [] := by
  induction queue generalizing s with
  | nil =>
    cases e
    exact h
  | cons entry queue ih =>
    cases entry with
    | none =>
      refine ih ⟨h.named, h.beyond, h.tracked, fun g mem => h.called g (List.mem_cons_of_mem _ mem),
        fun g mem => h.settled g fun mem' => ?_⟩ e
      cases mem' with
      | tail _ later => exact mem later
    | some g =>
      obtain ⟨r, first, rest⟩ := Player.saveQueue_some_ok.mp e
      have saved := ih (h.next first) rest
      exact saved

/-- When a save begins, an item is in the queue or has nothing to save. -/
lemma Accounted.saving {s : Queueing} (acc : Accounted s [])
    (top : ∀ g it, s.player.heap g = some it → g ≤ s.player.hiItemGuid) : Saving s s.player.itemUpdateQueue := by
  have queued (g : Nat) {it : Item} (live : s.player.heap g = some it) (dirty : (s.player.marks g).uState ≠ .unchanged)
      (called : s.called g) : some g ∈ s.player.itemUpdateQueue := by
    obtain ⟨k, at_⟩ := acc.indexed.queued g ⟨it, live, acc.owned g it live⟩ dirty called
    exact List.mem_of_getElem? at_
  refine ⟨acc.indexed.named, fun g lt => ⟨?_, acc.beyond g lt⟩, fun g => acc.tracked g List.not_mem_nil, acc.marked,
    fun g mem => ?_⟩
  · cases live : s.player.heap g with
    | none => rfl
    | some it => exact absurd (top g it live) (Nat.not_le.mpr lt)
  · cases live : s.player.heap g with
    | none => exact Or.inl live
    | some it =>
      by_cases clean : (s.player.marks g).uState = .unchanged
      · exact Or.inr (Or.inl clean)
      · exact Or.inr (Or.inr fun called => mem (queued g live clean called))

/-- After a save every item is tracked, and nothing is left to save. -/
lemma Accounted.save {objmgr : ObjectMgr} {s : Queueing} {p : Player} {db : Database} (acc : Accounted s [])
    (top : ∀ g it, s.player.heap g = some it → g ≤ s.player.hiItemGuid)
    (e : s.player.saveInventory objmgr s.database = .ok (p, db)) :
    Accounted { s with player := p, database := db } [] ∧ ∀ g, Settled { s with player := p, database := db } g := by
  obtain ⟨r, ran, ⟨⟩⟩ := Player.saveInventory_ok e
  have saved := (acc.saving top).run ran
  have processed := processed_saveQueue acc.indexed.named ran
  have same (g : Nat) : SameItem { s with player := r.1, database := r.2 }
      { s with player := { r.1 with itemUpdateQueue := [] }, database := r.2 } g := ⟨rfl, rfl, rfl, rfl, rfl, rfl⟩
  refine ⟨⟨acc.indexed.save processed, processed.blocked.trans acc.free, fun g it live => ?_,
    fun g mem => absurd mem List.not_mem_nil, fun g lt => (saved.beyond g lt).2, fun g _ => ?_,
    fun g mem => absurd mem List.not_mem_nil⟩, fun g => (saved.settled g List.not_mem_nil).congr (same g)⟩
  · exact (acc.owned g it (processed.heap g it live)).trans processed.guid.symm
  · exact (saved.tracked g).congr (same g) (forall_congr' fun l => by cases l <;> rfl)

end Queueing

/-- A row of the login query comes from a row of each table. -/
lemma Database.joined_eq_some {db : Database} {guid item : Nat} {row : LoginRow} :
    db.joined guid item = some row ↔ ∃ ci ii, (db.characterInventory item = some ci ∧ db.itemInstance item = some ii ∧
      ci.guid = guid) ∧ row = ⟨ii.data, ci.pet, ci.slot, item, ci.entry⟩ := by
  rw [joined]
  constructor
  · intro e
    split at e
    · next ci ii inventory inst =>
      split at e
      · next own =>
        cases e
        exact ⟨ci, ii, ⟨inventory, inst, own⟩, rfl⟩
      · cases e
    · cases e
  · intro rows
    obtain ⟨ci, ii, ⟨inventory, inst, own⟩, eq⟩ := rows
    rw [inventory, inst, eq]
    exact if_pos own

/-- The pieces of an entry in the rows. -/
def LoginRow.pieces (rows : List LoginRow) (entry : Nat) : Nat :=
  total rows fun row => if row.entry = entry then row.count else 0

namespace Player

/-- The row of `character_inventory` for an item at a place. -/
def rowAt (p : Player) (l : Loc) (it : Item) : InventoryRow :=
  match l with
  | .slot i => ⟨p.guid, 0, i, it.entry⟩
  | .worn i e => ⟨p.guid, (p.pets i).elim 0 Pet.guid, e, it.entry⟩

/-- The joined rows of the character are those of the items at its places, and have as many pieces of every
entry. -/
structure WrittenBack (p : Player) (db : Database) : Prop where
  rows : ∀ g ci ii, (db.characterInventory g = some ci ∧ db.itemInstance g = some ii ∧ ci.guid = p.guid) ↔
    ∃ l it, p.itemIn l = some it ∧ it.guid = g ∧ ci = p.rowAt l it ∧ ii = ⟨p.guid, some ⟨it.entry, it.count⟩⟩
  totals : ∀ rows, db.LoginResult p.guid rows → ∀ entry, LoginRow.pieces rows entry = p.heldCount entry

variable {objmgr : ObjectMgr} {p : Player} {db : Database}

/-- An item's own fields name its place. -/
lemma Stored.inventoryRow_eq (h : p.Stored objmgr) {l : Loc} {it : Item} (at_ : p.itemIn l = some it) :
    p.inventoryRow it = p.rowAt l it ∧ instanceRow it = ⟨p.guid, some ⟨it.entry, it.count⟩⟩ := by
  obtain ⟨g, held, live⟩ := Option.bind_eq_some_iff.mp at_
  obtain ⟨it', live', res, -⟩ := h.live held
  cases live.symm.trans live'
  refine ⟨?_, by rw [instanceRow, (h.known live).2.2]⟩
  cases l with
  | slot i =>
    obtain ⟨rfl, free⟩ := res
    rw [inventoryRow, free]
    rfl
  | worn i e =>
    obtain ⟨rfl, worn⟩ := res
    rw [inventoryRow, worn, rowAt]
    cases p.pets i <;> rfl

/-- The row of the login query for an item at a place. -/
def loginRowAt (p : Player) (l : Loc) (it : Item) : LoginRow :=
  ⟨some ⟨it.entry, it.count⟩, (p.rowAt l it).pet, (p.rowAt l it).slot, it.guid, it.entry⟩

/-- The row of an item has its entry. -/
lemma rowAt_entry (l : Loc) (it : Item) : (p.rowAt l it).entry = it.entry := by
  cases l <;> rfl

/-- Rows that are those of the items have as many pieces. -/
lemma Stored.pieces_eq (h : p.Stored objmgr) {rows : List LoginRow} (result : db.LoginResult p.guid rows)
    (exact_ : ∀ g ci ii, (db.characterInventory g = some ci ∧ db.itemInstance g = some ii ∧ ci.guid = p.guid) ↔
      ∃ l it, p.itemIn l = some it ∧ it.guid = g ∧ ci = p.rowAt l it ∧ ii = ⟨p.guid, some ⟨it.entry, it.count⟩⟩)
    (entry : Nat) : LoginRow.pieces rows entry = p.heldCount entry := by
  have perm : rows.Perm (Loc.all.filterMap fun l => (p.itemIn l).map (p.loginRowAt l)) := by
    refine (List.perm_ext_iff_of_nodup (List.Nodup.of_map _ result.nodup) ?_).mpr fun row => ?_
    · refine List.Nodup.filterMap (fun l l' row mem mem' => ?_) Loc.nodup_all
      obtain ⟨it, at_, rfl⟩ := Option.map_eq_some_iff.mp mem
      obtain ⟨it', at', eq⟩ := Option.map_eq_some_iff.mp mem'
      obtain ⟨g, held, live⟩ := Option.bind_eq_some_iff.mp at_
      obtain ⟨g', held', live'⟩ := Option.bind_eq_some_iff.mp at'
      have same : g' = g :=
        (h.known live').1.symm.trans ((congrArg LoginRow.item eq).trans (h.known live).1)
      exact h.unique held (same ▸ held')
    · rw [result.mem row, Database.joined_eq_some, List.mem_filterMap]
      simp only [exact_]
      constructor
      · intro ⟨ci, ii, ⟨l, it, at_, guid, inventory, inst⟩, eq⟩
        obtain ⟨g, held, -⟩ := Option.bind_eq_some_iff.mp at_
        refine ⟨l, Loc.mem_all.mpr (h.valid held), Option.map_eq_some_iff.mpr ⟨it, at_, ?_⟩⟩
        rw [eq, loginRowAt, ← guid, inventory, inst, rowAt_entry]
      · intro ⟨l, _, e⟩
        obtain ⟨it, at_, rfl⟩ := Option.map_eq_some_iff.mp e
        exact ⟨_, _, ⟨l, it, at_, rfl, rfl, rfl⟩, by rw [loginRowAt, rowAt_entry]⟩
  rw [LoginRow.pieces, total, (perm.map _).sum_eq, ← total, total_filterMap, heldCount]
  refine total_congr fun l _ => ?_
  cases p.itemIn l with
  | none => rfl
  | some it => rfl

end Player

namespace Queueing

/-- What is tracked and has nothing left to save is in the tables as it is in memory. -/
lemma writtenBack_of_settled {objmgr : ObjectMgr} {s : Queueing} (h : s.player.Stored objmgr)
    (tracked : ∀ g, Tracked s g) (settled : ∀ g, Settled s g) : s.player.WrittenBack s.database := by
  have clean : ∀ g it, s.player.heap g = some it → ¬s.player.Floating g → Clean s g it := by
    intro g it live held
    have called_new (mark : (s.player.marks g).uState ≠ .unchanged) (called : s.called g) : False := by
      rcases settled g with dead | clean | uncalled
      · cases dead.symm.trans live
      · exact mark clean
      · exact uncalled called
    cases tracked g with
    | gone dead => cases dead.symm.trans live
    | new _ mark _ called =>
      refine (called_new ?_ (called.mpr held)).elim
      rw [mark]
      exact ItemUpdateState.noConfusion
    | changed _ mark _ called =>
      refine (called_new ?_ called).elim
      rw [mark]
      exact ItemUpdateState.noConfusion
    | removed _ _ _ fl => exact absurd fl held
    | unchanged live' _ clean =>
      cases live.symm.trans live'
      exact clean
  have rows : ∀ g ci ii, (s.database.characterInventory g = some ci ∧ s.database.itemInstance g = some ii ∧
      ci.guid = s.player.guid) ↔ ∃ l it, s.player.itemIn l = some it ∧ it.guid = g ∧ ci = s.player.rowAt l it ∧
        ii = ⟨s.player.guid, some ⟨it.entry, it.count⟩⟩ := by
    intro g ci ii
    constructor
    · intro joined
      have away : s.database.joined s.player.guid g ≠ none := by
        rw [Database.joined_eq_some.mpr ⟨ci, ii, joined, rfl⟩]
        exact Option.some_ne_none _
      have held : ¬s.player.Floating g := by
        intro fl
        cases tracked g with
        | gone _ none => exact away none
        | new _ _ absent => exact away (Database.joined_of_absent absent)
        | changed _ _ _ _ held => exact held fl
        | unchanged _ _ _ held => exact held fl
        | removed live mark called =>
          rcases settled g with dead | clean | uncalled
          · cases dead.symm.trans live
          · cases mark.symm.trans clean
          · exact uncalled called
      obtain ⟨l, held'⟩ := not_forall_not.mp held
      obtain ⟨it, live, -⟩ := h.live held'
      have at_ : s.player.itemIn l = some it := Option.bind_eq_some_iff.mpr ⟨g, held', live⟩
      obtain ⟨inventory, inst⟩ := clean g it live held
      obtain ⟨row, row'⟩ := h.inventoryRow_eq at_
      refine ⟨l, it, at_, (h.known live).1, ?_, ?_⟩
      · exact (Option.some.inj (joined.1.symm.trans inventory)).trans row
      · exact (Option.some.inj (joined.2.1.symm.trans inst)).trans row'
    · intro ⟨l, it, at_, guid, eq, eq'⟩
      obtain ⟨g', held, live⟩ := Option.bind_eq_some_iff.mp at_
      obtain rfl : g' = g := (h.known live).1.symm.trans guid
      obtain ⟨inventory, inst⟩ := clean g' it live (Player.not_floating held)
      obtain ⟨row, row'⟩ := h.inventoryRow_eq at_
      rw [inventory, inst, eq, eq', row, row']
      refine ⟨rfl, rfl, ?_⟩
      cases l <;> rfl
  exact ⟨rows, fun rs result entry => h.pieces_eq result rows entry⟩

end Queueing

/-- The inventory has no slot for the row. -/
structure NoRoom (proto : ItemPrototype) (before : List LoginRow) (row : LoginRow) : Prop where
  alone : 1 < proto.stackable → ∀ r ∈ before, r.pet = 0 → r.slot ∈ Player.inventorySlots → r.entry = row.entry →
    proto.stackable < u32 (r.count + row.count)
  filled : ∀ i ∈ Player.inventorySlots, ∃ r ∈ before, r.pet = 0 ∧ r.slot = i

/-- A row that the loader deletes. -/
inductive RowLost (objmgr : ObjectMgr) (p : Player) (before : List LoginRow) (row : LoginRow) : Prop
  | unknown (none : objmgr.getItemPrototype row.entry = none)
  | broken (none : row.data = none)
  | petless (worn : row.pet ≠ 0) (none : p.getPetByGuid row.pet = none)
  | bag {proto : ItemPrototype} (known : objmgr.getItemPrototype row.entry = some proto) (own : row.pet = 0)
      (pos : Player.isInventoryPos row.slot) (full : UnderLimit proto before row → NoRoom proto before row)
  | unworn {proto : ItemPrototype} (known : objmgr.getItemPrototype row.entry = some proto) (own : row.pet = 0)
      (pos : Player.isEquipmentPos row.slot)
      (refused : ¬(UnderLimit proto before row ∧ PlaceFree before row ∧ WearFits p.unit proto row))
  | petUnworn {proto : ItemPrototype} {i : Nat} {pet : Pet} (known : objmgr.getItemPrototype row.entry = some proto)
      (worn : row.pet ≠ 0) (found : p.getPetByGuid row.pet = some i) (epet : p.pets i = some pet)
      (refused : ¬(UnderLimit proto before row ∧ PlaceFree before row ∧ WearFits pet.unit proto row))

/-- The row's item is the character's in its other table. -/
def OwnerNamed (p : Player) (db : Database) (row : LoginRow) : Prop :=
  ∀ ii, db.itemInstance row.item = some ii → ii.owner_guid = p.guid

/-- Every row comes to its place after those that came to theirs, or is deleted. -/
def InPlace (objmgr : ObjectMgr) (p : Player) (db : Database) : List LoginRow → List LoginRow → Prop
  | _, [] => True
  | before, row :: rows =>
    RowFits objmgr p before row ∧ OwnerNamed p db row ∧ InPlace objmgr p db (before ++ [row]) rows ∨
      RowLost objmgr p before row ∧ InPlace objmgr p db before rows

namespace Player

variable {objmgr : ObjectMgr} {p q q' : Player} {before rows : List LoginRow} {row : LoginRow} {db db' : Database}

section Lost

variable {d : ItemData} (h : q.Stored objmgr) (re : Reloaded p q before) (fl : q.Floating row.item)
  (data : row.data = some d) (entry : d.entry = row.entry)

include h re fl data entry

/-- A full inventory takes no row. -/
lemma Reloaded.noRoom {proto : ItemPrototype} (known : objmgr.getItemPrototype row.entry = some proto)
    (full : UnderLimit proto before row → NoRoom proto before row) (dest : Nat) :
    canStoreItem objmgr (q.newObject (q.loadedItem row d)) (q.loadedItem row d) ≠ .ok dest := by
  intro can
  have same : ∀ i, (q.newObject (q.loadedItem row d)).itemAt i = q.itemAt i := newObject_itemAt fl
  obtain ⟨proto', known', limit, room⟩ := canStoreItem_ok_iff.mp can
  have ofEntry : (q.loadedItem row d).entry = row.entry := entry
  have count : (q.loadedItem row d).count = row.count := by
    rw [LoginRow.count, data]
    rfl
  rw [ofEntry] at known'
  cases known.symm.trans known'
  have noRoom := full ((re.limit_iff h fl data known).mp limit)
  rcases room with ⟨more, found⟩ | ⟨-, found⟩
  · obtain ⟨lo, hi, it2, at2, entry2, fits⟩ := findStack_some found
    rw [same] at at2
    obtain ⟨r, mem, own, slot, entry', count'⟩ := re.itemAt_some at2
    have inside : r.slot ∈ inventorySlots := slot ▸ mem_inventorySlots.mpr ⟨lo, hi⟩
    have exceeds := noRoom.alone more r mem own inside (entry'.symm.trans (entry2.trans ofEntry))
    rw [← count', ← count] at exceeds
    exact absurd exceeds (Nat.not_lt.mpr fits)
  · obtain ⟨lo, hi, free⟩ := findFree_some found
    obtain ⟨r, mem, own, slot⟩ := noRoom.filled dest (mem_inventorySlots.mpr ⟨lo, hi⟩)
    obtain ⟨it, at_, -⟩ := re.itemAt_row mem own
    rw [slot, itemAt, show q.items dest = none from free] at at_
    cases at_

/-- Nobody wears a row that is not for him. -/
lemma Reloaded.notWorn {proto : ItemPrototype} {u : Unit} {worn : Nat → Option Nat}
    (known : objmgr.getItemPrototype row.entry = some proto) (free : worn row.slot = none → PlaceFree before row)
    (refused : ¬(UnderLimit proto before row ∧ PlaceFree before row ∧ WearFits u proto row)) (dest : Nat) :
    canWearItem objmgr (q.newObject (q.loadedItem row d)) u worn row.slot (q.loadedItem row d) false ≠ .ok dest := by
  intro can
  obtain ⟨rfl, -⟩ := canWearItem_ok can
  obtain ⟨proto', known', limit, empty, fits⟩ := (re.wear_iff h fl data entry).mp can
  cases known.symm.trans known'
  exact refused ⟨limit, free empty, fits⟩

end Lost

/-- A row that is lost is deleted, and its object may stay behind. -/
lemma Reloaded.lost (h : q.Stored objmgr) (re : Reloaded p q before) (fl : q.Floating row.item)
    (coherent : ∀ d, row.data = some d → d.entry = row.entry) (lost : RowLost objmgr p before row) (db : Database) :
    Player.loadRow objmgr q db row = .ok (q, (db.deleteInventory row.item).deleteInstance row.item) ∨
      ∃ d, row.data = some d ∧
        Player.loadRow objmgr q db row = .ok (q.newObject (q.loadedItem row d), db.deleteInventory row.item) := by
  cases known : objmgr.getItemPrototype row.entry with
  | none =>
    rw [Player.loadRow, known]
    exact Or.inl rfl
  | some proto =>
    cases data : row.data with
    | none =>
      rw [Player.loadRow, known, data]
      exact Or.inl rfl
    | some d =>
      have entry := coherent d data
      have guid : (q.loadedItem row d).guid = row.item := rfl
      cases lost with
      -- the rows without object are deleted with their instance, the others only leave the inventory
      | unknown none => cases none.symm.trans known
      | broken none => cases none.symm.trans data
      | petless worn none =>
        rw [← re.getPetByGuid] at none
        exact Or.inl (loadRow_petless db known data worn none)
      | bag known' own pos full =>
        refine Or.inr ⟨d, rfl, ?_⟩
        rw [loadRow_own db known data own, loadItem, if_pos pos]
        split
        · next dest can => exact absurd can (re.noRoom h fl data entry known' full dest)
        · rfl
      | unworn known' own pos refused =>
        have place := place_own (p := p) own
        have bag := Bool.eq_false_iff.mp (not_isInventoryPos_of_equipment pos)
        refine Or.inr ⟨d, rfl, ?_⟩
        rw [loadRow_own db known data own, loadItem, if_neg bag, if_pos pos]
        split
        · next dest can =>
          refine absurd can (re.notWorn h fl data entry known' (fun empty => (re.free_iff place).mp empty) ?_ dest)
          exact fun fits => refused ⟨fits.1, fits.2.1, re.unit ▸ fits.2.2⟩
        · rfl
      | @petUnworn _ i pet known' worn found epet refused =>
        have found' := (re.getPetByGuid row.pet).trans found
        obtain ⟨pet', epet', -, unit⟩ := re.pet epet
        have epet'' : (q.newObject (q.loadedItem row d)).pets i = some pet' := epet'
        have place := place_worn worn found
        refine Or.inr ⟨d, rfl, ?_⟩
        rw [loadRow_pet db known data worn found', loadPetItem, epet'']
        simp only [bind, Except.bind]
        by_cases pos : isEquipmentPos row.slot = true
        · rw [if_pos pos]
          cases can : canPetEquipItem objmgr (q.newObject (q.loadedItem row d)) pet' row.slot (q.loadedItem row d)
            false with
          | ok dest =>
            refine absurd can (re.notWorn h fl data entry known' (fun empty => (re.free_iff place).mp ?_) ?_ dest)
            · rw [holds, epet']
              exact empty
            · exact fun fits => refused ⟨fits.1, fits.2.1, unit ▸ fits.2.2⟩
          | error f => rfl
        · rw [if_neg pos]
          rfl

/-- Nothing but one item has changed. -/
structure Aside (q q' : Player) (g : Nat) : Prop where
  guid : q'.guid = q.guid
  top : q'.hiItemGuid = q.hiItemGuid
  blocked : q'.itemUpdateQueueBlocked = q.itemUpdateQueueBlocked
  queue : q'.itemUpdateQueue = q.itemUpdateQueue
  heap : ∀ g', g' ≠ g → q'.heap g' = q.heap g'
  marks : ∀ g', g' ≠ g → q'.marks g' = q.marks g'
  floating : ∀ g', g' ≠ g → (q'.Floating g' ↔ q.Floating g')
  outside : ∀ it, q'.heap g = some it → (q'.marks g).uQueuePos = -1

/-- A new object leaves everything else as it was. -/
lemma aside_newObject (q : Player) (it : Item) : Aside q (q.newObject it) it.guid := by
  refine ⟨rfl, rfl, rfl, rfl, fun g ne => Function.update_of_ne ne .., fun g ne => Function.update_of_ne ne ..,
    fun g _ => forall_congr' fun l => by cases l <;> rfl, fun _ _ => ?_⟩
  exact congrArg Mark.uQueuePos (show (q.newObject it).marks it.guid = .fresh from Function.update_self ..)

/-- A blocked queue stays as it is when an item is marked. -/
lemma aside_marked {g : Nat} {it : Item} {l : Loc} {q₁ : Player} {it' : Item} (blocked : q.itemUpdateQueueBlocked)
    (guid : q₁.guid = q.guid) (top : q₁.hiItemGuid = q.hiItemGuid)
    (stuck : q₁.itemUpdateQueueBlocked = q.itemUpdateQueueBlocked) (queue : q₁.itemUpdateQueue = q.itemUpdateQueue)
    (marks : q₁.marks = (q.newObject it).marks) (own : it.guid = g)
    (heap : ∀ g', g' ≠ g → q₁.heap g' = q.heap g') (off : ∀ l', l' ≠ l → q₁.holds l' = q.holds l')
    (free : q.holds l = none) (held : q₁.holds l = some g) :
    Aside q ((q₁.requeue g it' .changed).markUnchanged g) g := by
  have eq := @requeue_eq_remark q₁ g it' .changed (Or.inr (stuck.trans blocked))
  refine ⟨(requeue_guid ..).trans guid, (requeue_hiItemGuid ..).trans top, (requeue_blocked ..).trans stuck,
    ?queue, fun g' ne => (congrFun (requeue_heap ..) g').trans (heap g' ne), fun g' ne => ?marks,
    fun g' ne => ?floating, fun _ _ => ?outside⟩
  case queue =>
    show (q₁.requeue g it' .changed).itemUpdateQueue = _
    rw [eq]
    exact queue
  case marks =>
    refine (Function.update_of_ne ne ..).trans ((requeue_marks_ne _ _ _ ne).trans ?_)
    rw [marks]
    subst own
    exact Function.update_of_ne ne ..
  case floating =>
    have holds : ∀ l', ((q₁.requeue g it' .changed).markUnchanged g).holds l' = q₁.holds l' := by
      intro l'
      rw [← holds_requeue q₁ g it' .changed l']
      cases l' <;> rfl
    refine floating_congr (l := l) (fun l' ne' => (holds l').trans (off l' ne')) ?_ ?_
    · rw [free]
      exact (Option.some_ne_none g').symm
    · rw [holds, held]
      exact fun same => ne (Option.some.inj same).symm
  case outside =>
    have self : ((q₁.requeue g it' .changed).markUnchanged g).marks g = ⟨.unchanged, -1⟩ := Function.update_self ..
    exact congrArg Mark.uQueuePos self

/-- An item that came to a place is marked as unchanged, and its rows stay. -/
lemma Loaded.came {l : Loc} (loaded : q.Loaded objmgr db row q' db') (blocked : q.itemUpdateQueueBlocked)
    (fl : q.Floating row.item) (held : q'.holds l = some row.item) :
    db' = db ∧ (q'.marks row.item).uState = .unchanged ∧ Aside q q' row.item := by
  have away := fl l
  cases loaded with
  | refused | rejected | unplaced => exact absurd held away
  | stacked => exact absurd ((holds_absorbed ..).symm.trans held) away
  | @placed d dest data own goal lt free known =>
    have self : (((q.newObject (q.loadedItem row d)).put dest row.item (q.loadedItem row d)).markUnchanged
        row.item).marks row.item = ⟨.unchanged, -1⟩ := Function.update_self ..
    refine ⟨rfl, congrArg Mark.uState self, ?_⟩
    refine aside_marked (l := .slot dest) blocked rfl rfl rfl rfl rfl (loadedItem_guid q row d) (fun g ne => ?_)
      (fun l' ne => ?_) free (setSlot_items_self ..)
    · exact (place_heap_ne _ _ _ ne).trans (newObject_heap_ne q _ ne)
    · cases l' with
      | slot j => exact setSlot_items_ne _ _ fun same => ne (congrArg Loc.slot same)
      | worn j e => rfl
  | @worn d i pet data epet guid ipet lt free known =>
    have self : (((q.newObject (q.loadedItem row d)).wear i pet row.slot row.item (q.loadedItem row d)).markUnchanged
        row.item).marks row.item = ⟨.unchanged, -1⟩ := Function.update_self ..
    have epet' : (q.newObject (q.loadedItem row d)).pets i = some pet := epet
    refine ⟨rfl, congrArg Mark.uState self, ?_⟩
    refine aside_marked (l := .worn i row.slot) blocked rfl rfl rfl rfl rfl (loadedItem_guid q row d) (fun g ne => ?_)
      (fun l' ne => ?_) ?_ ?_
    · exact (dressed_heap_ne _ _ _ _ _ ne).trans (newObject_heap_ne q _ ne)
    · refine (holds_requeue ..).symm.trans ((holds_wear_ne epet' ne).trans ?_)
      cases l' <;> rfl
    · show ((q.pets i).bind fun pet => pet.equip row.slot) = none
      rw [epet]
      exact free
    · exact Option.bind_eq_some_iff.mpr ⟨_, dressed_pets_self .., Function.update_self ..⟩

/-- An object that is in no slot adds nothing to what was loaded. -/
lemma Reloaded.newObject (re : Reloaded p q before) {it : Item} (fl : q.Floating it.guid) :
    Reloaded p (q.newObject it) before := by
  have itemIn (l : Loc) : (q.newObject it).itemIn l = q.itemIn l := by
    refine itemIn_congr (by cases l <;> rfl) fun g held => newObject_heap_ne q it fun same => ?_
    exact fl l (same ▸ held)
  refine ⟨re.unit, re.pets, fun row mem => ?_, fun l g held => ?_, fun entry => ?_, re.coherent⟩
  · obtain ⟨l, it', at_, here, facts⟩ := re.restored row mem
    exact ⟨l, it', at_, (itemIn l).trans here, facts⟩
  · refine re.only l g ?_
    cases l <;> exact held
  · rw [← re.counted entry]
    exact total_congr fun i _ => congrArg (weight entry) (itemIn (.slot i))

/-- A place that a row came to has the row's columns. -/
lemma Reloaded.rowAt_eq (re : Reloaded p q before) (guid : q.guid = p.guid) {l : Loc} {it : Item}
    (at_ : row.place p = some l) (entry : it.entry = row.entry) :
    q.rowAt l it = ⟨p.guid, row.pet, row.slot, row.entry⟩ := by
  rw [LoginRow.place] at at_
  split at at_
  · next own =>
    cases at_
    rw [rowAt, guid, own, entry]
  · obtain ⟨i, found, eq⟩ := Option.map_eq_some_iff.mp at_
    cases eq
    obtain ⟨-, pet, epet, same⟩ := getPetByGuid_some found
    obtain ⟨pet', epet', guid', -⟩ := re.pet epet
    rw [rowAt, guid, epet', entry, ← same, ← guid']
    rfl

open Queueing Database

/-- The loop over the rows of a login, with the rows that came to their places and those still to come. -/
structure Reading (objmgr : ObjectMgr) (p : Player) (start : Database) (q : Player) (db : Database)
    (before rows : List LoginRow) : Prop where
  reloaded : Reloaded p q before
  stored : q.Stored objmgr
  awaiting : q.Awaiting rows
  guid : q.guid = p.guid
  blocked : q.itemUpdateQueueBlocked = true
  queue : q.itemUpdateQueue = []
  outside : ∀ g it, q.heap g = some it → (q.marks g).uQueuePos = -1
  beyond : ∀ g, q.hiItemGuid < g → db.characterInventory g = none
  tracked : ∀ g, (∀ row ∈ rows, row.item ≠ g) → Tracked ⟨q, db, fun _ => false⟩ g
  waiting : ∀ row ∈ rows, q.heap row.item = none ∧ db.joined p.guid row.item = some row ∧
    db.itemInstance row.item = start.itemInstance row.item

namespace Reading

variable {start : Database}

/-- A row has been handled, which is tracked now. -/
lemma next {before' : List LoginRow} (rd : Reading objmgr p start q db before (row :: rows))
    (reloaded : Reloaded p q' before') (stored : q'.Stored objmgr) (awaiting : q'.Awaiting rows)
    (aside : Aside q q' row.item) (off : Off db db' row.item)
    (absent : db.characterInventory row.item = none → db'.characterInventory row.item = none)
    (here : Tracked ⟨q', db', fun _ => false⟩ row.item) : Reading objmgr p start q' db' before' rows := by
  have apart : ∀ r ∈ rows, r.item ≠ row.item := by
    intro r mem same
    exact (List.nodup_cons.mp rd.awaiting.nodup).1 (List.mem_map.mpr ⟨r, mem, same⟩)
  have same (g : Nat) (ne : g ≠ row.item) : SameItem ⟨q, db, fun _ => false⟩ ⟨q', db', fun _ => false⟩ g :=
    ⟨aside.guid, aside.heap g ne, aside.marks g ne, rfl, (off g ne).1, (off g ne).2⟩
  refine ⟨reloaded, stored, awaiting, aside.guid.trans rd.guid, aside.blocked.trans rd.blocked,
    aside.queue.trans rd.queue, fun g it live => ?outside, fun g lt => ?beyond, fun g notMem => ?tracked,
    fun r mem => ?waiting⟩
  case outside =>
    by_cases ne : g = row.item
    · subst ne
      exact aside.outside it live
    · exact (congrArg Mark.uQueuePos (aside.marks g ne)).trans (rd.outside g it ((aside.heap g ne).symm.trans live))
  case beyond =>
    have old := rd.beyond g (aside.top ▸ lt)
    by_cases ne : g = row.item
    · subst ne
      exact absent old
    · exact (off g ne).1.trans old
  case tracked =>
    by_cases ne : g = row.item
    · exact ne ▸ here
    · refine (rd.tracked g fun r mem => ?_).congr (same g ne) (aside.floating g ne)
      cases mem with
      | head => exact Ne.symm ne
      | tail _ later => exact notMem r later
  case waiting =>
    obtain ⟨dead, joined, inst⟩ := rd.waiting r (List.mem_cons_of_mem _ mem)
    have old := same r.item (apart r mem)
    refine ⟨old.heap.trans dead, ?_, old.inst.trans inst⟩
    rw [Database.joined, old.inventory, old.inst]
    exact joined

/-- A row that fits is tracked with its rows as they are. -/
lemma fits (rd : Reading objmgr p start q db before (row :: rows)) (fits : RowFits objmgr p before row)
    (owner : OwnerNamed p start row) (loaded : q.Loaded objmgr db row q' db')
    (e : Player.loadRow objmgr q db row = .ok (q', db')) (stored : q'.Stored objmgr) (awaiting : q'.Awaiting rows) :
    Reading objmgr p start q' db' (before ++ [row]) rows := by
  have fl := rd.awaiting.floating row List.mem_cons_self
  have coherent := rd.awaiting.coherent row List.mem_cons_self
  obtain ⟨q₁, e₁, reloaded⟩ : ∃ q₁, Player.loadRow objmgr q db row = .ok (q₁, db) ∧ Reloaded p q₁ (before ++ [row]) :=
    rd.reloaded.next rd.stored fl (rd.awaiting.known row List.mem_cons_self) coherent fits
  cases e.symm.trans e₁
  obtain ⟨l, it, at_, there, guid, data⟩ := reloaded.restored row (List.mem_append_right _ List.mem_cons_self)
  obtain ⟨g, held, live⟩ := Option.bind_eq_some_iff.mp there
  obtain rfl : g = row.item := (stored.known live).1.symm.trans guid
  obtain ⟨-, mark, aside⟩ := loaded.came rd.blocked fl held
  obtain ⟨inventory, inst⟩ := stored.inventoryRow_eq there
  have entry : it.entry = row.entry := coherent _ data
  have guid' := aside.guid.trans rd.guid
  refine rd.next reloaded stored awaiting aside (off_refl db row.item) id ?_
  obtain ⟨-, joined, same⟩ := rd.waiting row List.mem_cons_self
  obtain ⟨ci, ii, ⟨eci, eii, own⟩, eq⟩ := joined_eq_some.mp joined
  refine Tracked.unchanged live mark ⟨eci.trans ?_, eii.trans ?_⟩ (not_floating held)
  · rw [inventory, reloaded.rowAt_eq guid' at_ entry, eq, ← own]
  · have named := owner ii (same.symm.trans eii)
    have pieces : ii.data = some ⟨it.entry, it.count⟩ := (congrArg LoginRow.data eq).symm.trans data
    rw [inst, guid', ← named, ← pieces]

/-- A row that is lost leaves no row and no held item. -/
lemma lost (rd : Reading objmgr p start q db before (row :: rows)) (lost : RowLost objmgr p before row)
    (e : Player.loadRow objmgr q db row = .ok (q', db')) (stored : q'.Stored objmgr) (awaiting : q'.Awaiting rows) :
    Reading objmgr p start q' db' before rows := by
  have fl := rd.awaiting.floating row List.mem_cons_self
  have coherent := rd.awaiting.coherent row List.mem_cons_self
  obtain ⟨dead, -⟩ := rd.waiting row List.mem_cons_self
  have gone : ∀ db : Database, (db.deleteInventory row.item).characterInventory row.item = none :=
    fun db => Function.update_self ..
  rcases rd.reloaded.lost rd.stored fl coherent lost db with refused | ⟨d, data, rejected⟩
  · cases e.symm.trans refused
    have aside : Aside q q row.item :=
      ⟨rfl, rfl, rfl, rfl, fun _ _ => rfl, fun _ _ => rfl, fun _ _ => Iff.rfl,
        fun it live => by cases dead.symm.trans live⟩
    refine rd.next rd.reloaded stored awaiting aside
      ((off_deleteInventory db row.item).trans (off_deleteInstance _ row.item)) (fun _ => gone db) ?_
    exact Tracked.gone dead (joined_of_absent (gone db))
  · cases e.symm.trans rejected
    have live := newObject_live q (q.loadedItem row d)
    have mark : (q.newObject (q.loadedItem row d)).marks row.item = .fresh := Function.update_self ..
    refine rd.next (rd.reloaded.newObject fl) stored awaiting (aside_newObject q (q.loadedItem row d))
      (off_deleteInventory db row.item) (fun _ => gone db) ?_
    refine Tracked.new live (congrArg Mark.uState mark) (gone db) (iff_of_false Bool.false_ne_true fun held => ?_)
    refine held fun l held' => fl l ?_
    cases l <;> exact held'

/-- The loop reads every row. -/
lemma run {r : Player × Database} (rd : Reading objmgr p start q db before rows)
    (kept : InPlace objmgr p start before rows) (e : Player.loadRows objmgr q db rows = .ok r) :
    ∃ all, Reading objmgr p start r.1 r.2 all [] := by
  induction rows generalizing q db before with
  | nil =>
    cases e
    exact ⟨before, rd⟩
  | cons row rows ih =>
    obtain ⟨q', db', first, loaded, stored, awaiting, e'⟩ := loadRows_cons rd.stored rd.awaiting e
    rcases kept with ⟨fits, owner, kept⟩ | ⟨lost, kept⟩
    · exact ih (rd.fits fits owner loaded first stored awaiting) kept e'
    · exact ih (rd.lost lost first stored awaiting) kept e'

/-- The loop begins with all rows. -/
lemma start_login (l : Session.Login p db rows) :
    Reading objmgr p db { p with itemUpdateQueueBlocked := true } db [] rows := by
  obtain ⟨stored, awaiting⟩ := l.ready objmgr
  have dead (g : Nat) : p.heap g = none := congrFun l.fresh.heap g
  refine ⟨reloaded_start l, stored, awaiting, rfl, rfl, l.fresh.queue, fun g it live => ?_, l.beyond,
    fun g notMem => ?_, fun row mem => ⟨dead row.item, (l.result.mem row).mp mem, rfl⟩⟩
  · cases (dead g).symm.trans live
  · refine Tracked.gone (dead g) ?_
    cases joined : db.joined p.guid g with
    | none => rfl
    | some row =>
      obtain ⟨ci, ii, -, eq⟩ := joined_eq_some.mp joined
      have item : row.item = g := congrArg LoginRow.item eq
      exact absurd item (notMem row ((l.result.mem row).mpr (item ▸ joined)))

end Reading

end Player

namespace Session

open Queueing Player

variable {objmgr : ObjectMgr}

/-- After a login that brought every row it kept to its place, all items are tracked. -/
lemma Login.accounted {p : Player} {db : Database} {rows : List LoginRow} {r : Player × Database} (l : Login p db rows)
    (kept : InPlace objmgr p db [] rows) (e : Player.loadInventory objmgr p db rows = .ok r) :
    Accounted ⟨r.1, r.2, fun _ => false⟩ [] := by
  obtain ⟨r', loaded, rfl⟩ := Player.loadInventory_ok e
  obtain ⟨all, rd⟩ := (Reading.start_login l).run kept loaded
  have holds (l : Loc) : (Player.applyAllItemMods objmgr { r'.1 with itemUpdateQueueBlocked := false }).holds l =
      r'.1.holds l := by
    rw [holds_applyAllItemMods]
    cases l <;> rfl
  have nowhere (k g : Nat) : ¬r'.1.QueuedAt k g := by
    intro at_
    rw [QueuedAt, rd.queue] at at_
    cases at_
  have outside (g : Nat) (own : r'.1.Owns g) : (r'.1.marks g).uQueuePos = -1 := by
    obtain ⟨it, live, -⟩ := own
    exact rd.outside g it live
  refine ⟨⟨fun g it live => (rd.stored.known live).1, fun stuck => ?_, ?_, fun k g at_ => absurd at_ (nowhere k g),
    fun g own pos => absurd (outside g own) pos, fun g _ _ called => ?_⟩, rfl,
    fun g it live => (rd.stored.known live).2.2, fun g mem => ?_, rd.beyond, fun g _ => ?_,
    fun g mem => absurd mem List.not_mem_nil⟩
  · cases stuck
  · show r'.1.itemUpdateQueue.length ≤ 32767
    rw [rd.queue]
    exact Nat.zero_le _
  · cases called
  · have mem' : some g ∈ r'.1.itemUpdateQueue := mem
    rw [rd.queue] at mem'
    cases mem'
  · refine (rd.tracked g fun _ mem => absurd mem List.not_mem_nil).congr ⟨rfl, rfl, rfl, rfl, rfl, rfl⟩ ?_
    exact forall_congr' fun l => by rw [holds l]

/-- The states that packets and saves lead to, while the queue has at most 32767 entries and a pet that leaves
wears nothing. -/
inductive Run (objmgr : ObjectMgr) (start : Session) : Session → Prop
  | refl : Run objmgr start start
  | step {s s' : Session} (run : Run objmgr start s) (short : s.player.itemUpdateQueue.length ≤ 32767)
      (bare : ∀ i pet, s.player.pets i = some pet → s'.player.pets i = none → pet.equip = fun _ => none)
      (e : Step objmgr s s') : Run objmgr start s'

/-- Every state of such a run has its items tracked. -/
lemma Run.ledger {start s : Session} (run : Run objmgr start s) (stored : start.player.Stored objmgr)
    (ledger : Ledger start.player start.db []) : s.player.Stored objmgr ∧ Ledger s.player s.db [] := by
  induction run with
  | refl => exact ⟨stored, ledger⟩
  | step _ short bare e ih =>
    obtain ⟨st, h⟩ := ih
    refine ⟨e.stored st, ?_⟩
    rcases e.ledger h st bare with kept | ⟨r, saved, rfl⟩
    · exact kept
    · obtain ⟨called, acc⟩ := h short
      have after := acc.save (fun g it live => (st.known live).2.1) saved
      exact fun _ => ⟨called, after.1⟩

/-- After every save of a run the joined rows of the character are its items, when its login brought every row
it kept to its own place. -/
theorem Run.writtenBack {p : Player} {db : Database} {rows : List LoginRow} {r : Player × Database} {s : Session}
    {r' : Player × Database} (l : Login p db rows) (kept : InPlace objmgr p db [] rows)
    (load : Player.loadInventory objmgr p db rows = .ok r) (run : Run objmgr ⟨r.1, r.2⟩ s)
    (short : s.player.itemUpdateQueue.length ≤ 32767) (save : s.player.saveInventory objmgr s.db = .ok r') :
    r'.1.WrittenBack r'.2 := by
  have stored := (Reachable.login l load).stored
  have accounted := l.accounted kept load
  obtain ⟨st, h⟩ := run.ledger stored fun _ => ⟨_, accounted⟩
  obtain ⟨called, acc⟩ := h short
  obtain ⟨after, settled⟩ := acc.save (fun g it live => (st.known live).2.1) save
  have st' : r'.1.Stored objmgr := st.saveInventory save
  exact writtenBack_of_settled st' (fun g => after.tracked g List.not_mem_nil) settled

/-- Rows that fit come to their places. -/
lemma inPlace_of_fitting {p : Player} {db : Database} {before rows : List LoginRow}
    (fitting : Fitting objmgr p before rows) (owners : ∀ row ∈ rows, OwnerNamed p db row) :
    InPlace objmgr p db before rows := by
  induction rows generalizing before with
  | nil => trivial
  | cons row rows ih =>
    refine Or.inl ⟨fitting.1, owners row List.mem_cons_self, ih fitting.2 fun r mem => ?_⟩
    exact owners r (List.mem_cons_of_mem _ mem)

/-- The character's own tables name it as the owner. -/
lemma ownerNamed_holding (p : Player) (rows : List LoginRow) (row : LoginRow) :
    OwnerNamed p (holding p.guid rows) row := by
  intro ii inst
  obtain ⟨r, -, rfl⟩ := Option.map_eq_some_iff.mp inst
  rfl

/-- A character with a request handled. -/
def used (s : Session) (req : Wire.UseItemRequest) : Session :=
  match (s.player.handleUseItem wares req).result with
  | .ok o => { s with player := o.player }
  | .error _ => s

/-- What a save makes of a character. -/
def savedBy (s : Session) : Player × Database :=
  match s.player.saveInventory wares s.db with
  | .ok r => r
  | .error _ => (s.player, s.db)

/-- A character that came back to three potions and a sword, and dropped a potion. -/
def lighter : Session := used ⟨(unpacked packedRows).1, (unpacked packedRows).2⟩ (.drop 1 1)

/-- The two potions that are left and the sword are written back. -/
theorem writtenBack_lighter : (savedBy lighter).1.WrittenBack (savedBy lighter).2 := by
  have login : Login (returned 1 10 4) (holding 1 packedRows) packedRows :=
    login_holding (by decide) (by decide) (by decide) (by decide) (by decide)
  have loaded : Player.loadInventory wares (returned 1 10 4) (holding 1 packedRows) packedRows =
      .ok (unpacked packedRows) := rfl
  have dropped : Step wares ⟨(unpacked packedRows).1, (unpacked packedRows).2⟩ lighter :=
    .useItem (show (handleUseItem wares _ (.drop 1 1)).result = .ok _ from rfl)
  have kept : InPlace wares (returned 1 10 4) (holding 1 packedRows) [] packedRows :=
    inPlace_of_fitting fitting_packed fun row _ => ownerNamed_holding (returned 1 10 4) packedRows row
  have run : Run wares ⟨(unpacked packedRows).1, (unpacked packedRows).2⟩ lighter :=
    .step .refl (by decide) (fun _ _ epet => by cases epet) dropped
  exact Run.writtenBack login kept loaded run (by decide) rfl

/-- A character with potions of a model. -/
def collect (s : Session) (count : Nat) : Session :=
  match addNewInventoryItem wares s.player 7 count with
  | .ok p => { s with player := p }
  | .error _ => s

/-- Two potions in the first slot and one in the second. -/
def splitStacks : Session := used (collect (collect (created 1 10) 50) 1) (.drop 1 48)

/-- Their rows. -/
def splitRows : List LoginRow := [⟨some ⟨1, 2⟩, 0, 10, 2, 1⟩, ⟨some ⟨1, 1⟩, 0, 11, 4, 1⟩]

open Database in

/-- The rows after the saves of the split stacks. -/
lemma savedBy_splitStacks : (savedBy splitStacks).2 = holding 1 splitRows := by
  have saved : (savedBy splitStacks).2 = ((((((created 1 10).db.insertInventory 2 ⟨1, 0, 10, 1⟩).deleteInstance
      2).insertInstance 2 ⟨1, some ⟨1, 2⟩⟩).insertInventory 4 ⟨1, 0, 11, 1⟩).deleteInstance 4).insertInstance 4
        ⟨1, some ⟨1, 1⟩⟩ := rfl
  apply eq_holding
  · intro row mem
    rcases List.mem_pair.mp mem with rfl | rfl
    · exact ⟨rfl, rfl⟩
    · exact ⟨rfl, rfl⟩
  · intro g out
    have ne2 : g ≠ 2 := fun eq => out (eq ▸ List.mem_cons_self)
    have ne4 : g ≠ 4 := fun eq => out (eq ▸ List.mem_cons_of_mem _ List.mem_cons_self)
    obtain ⟨inventory, inst⟩ := off_inserted (created 1 10).db 2 ⟨1, 0, 10, 1⟩ ⟨1, some ⟨1, 2⟩⟩ g ne2
    obtain ⟨inventory', inst'⟩ := off_inserted _ 4 ⟨1, 0, 11, 1⟩ ⟨1, some ⟨1, 1⟩⟩ g ne4
    rw [saved]
    exact ⟨inventory'.trans inventory, inst'.trans inst⟩

/-- The character that came back to them, and dropped a potion. -/
def rejoined : Session := used ⟨(unpacked splitRows).1, (unpacked splitRows).2⟩ (.drop 1 1)

/-- A relog joins the stacks in memory, and the next save leaves the row of the second one behind. -/
theorem not_writtenBack_splitStacks :
    Reachable wares splitStacks ∧ splitStacks.player.saveInventory wares splitStacks.db = .ok (savedBy splitStacks) ∧
      Login (returned 1 10 4) (savedBy splitStacks).2 splitRows ∧
        ∃ r, Player.loadInventory wares (returned 1 10 4) (savedBy splitStacks).2 splitRows = .ok r ∧
          ∃ s, Run wares ⟨r.1, r.2⟩ s ∧ s.player.itemUpdateQueue.length ≤ 32767 ∧
            ∃ r', s.player.saveInventory wares s.db = .ok r' ∧ ¬r'.1.WrittenBack r'.2 := by
  have first : Step wares (created 1 10) (collect (created 1 10) 50) :=
    .gain (show addNewInventoryItem { wares with itemPrototypeList := [] } _ 7 50 = .ok _ from rfl)
  have second : Step wares (collect (created 1 10) 50) (collect (collect (created 1 10) 50) 1) :=
    .gain (show addNewInventoryItem { wares with itemPrototypeList := [] } _ 7 1 = .ok _ from rfl)
  have third : Step wares (collect (collect (created 1 10) 50) 1) splitStacks :=
    .useItem (show (handleUseItem wares _ (.drop 1 48)).result = .ok _ from rfl)
  have reachable := ((Reachable.step (created_reachable wares (by decide)) first).step second).step third
  refine ⟨reachable, rfl, ?_⟩
  rw [savedBy_splitStacks]
  have login : Login (returned 1 10 4) (holding 1 splitRows) splitRows :=
    login_holding (by decide) (by decide) (by decide) (by decide) (by decide)
  have loaded : Player.loadInventory wares (returned 1 10 4) (holding 1 splitRows) splitRows =
      .ok (unpacked splitRows) := rfl
  have dropped : Step wares ⟨(unpacked splitRows).1, (unpacked splitRows).2⟩ rejoined :=
    .useItem (show (handleUseItem wares _ (.drop 1 1)).result = .ok _ from rfl)
  have save : rejoined.player.saveInventory wares rejoined.db = .ok (savedBy rejoined) := rfl
  have stored : (savedBy rejoined).1.Stored wares :=
    ((Reachable.login login loaded).step dropped).stored.saveInventory save
  refine ⟨login, unpacked splitRows, loaded, rejoined, .step .refl (by decide) (fun _ _ epet => by cases epet) dropped,
    by decide, savedBy rejoined, save, fun written => ?_⟩
  obtain ⟨l, it, at_, guid, -⟩ := (written.rows 4 ⟨1, 0, 11, 1⟩ ⟨1, some ⟨1, 1⟩⟩).mp ⟨rfl, rfl, rfl⟩
  obtain ⟨g, -, live⟩ := Option.bind_eq_some_iff.mp at_
  have dead : (savedBy rejoined).1.heap 4 = none := rfl
  obtain rfl : g = 4 := (stored.known live).1.symm.trans guid
  cases dead.symm.trans live

end Session

end Legacy.Inventory
