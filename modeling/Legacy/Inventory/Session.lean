import Legacy.Inventory.Loading
import Mathlib.Data.List.Nodup

/-!
# Sessions

A session starts with a login, which loads the inventory of a character, and goes on with packets and
saves in any order. `Step` lists what may happen, `Reachable` the states that come of it. Every step
keeps the pointers sound (`Step.stored`), so they are sound in every reachable state
(`Reachable.stored`).
-/

namespace Legacy.Inventory
open Legacy.Lib

namespace Player

variable {objmgr : ObjectMgr} {p p' : Player}

section Effects

/-- A smaller stack keeps the player stored. -/
lemma Shrunk.stored {slot count : Nat} {it : Item} (h : p.Stored objmgr) (e : p.itemAt slot = some it)
    (s : p.Shrunk slot it count p') : p'.Stored objmgr := by
  cases s with
  | kept => exact h.recount e count
  | destroyed _ gone =>
    obtain ⟨st, e'⟩ := h.counted e count
    exact (st.destroy e').of_ok gone

/-- Dropping an item keeps the player stored. -/
lemma Dropped.stored {slot amount : Nat} (h : p.Stored objmgr) (d : p.Dropped slot amount p') :
    p'.Stored objmgr := by
  cases d with
  | refused => exact h
  | shrunk at_ _ s => exact s.stored h at_

/-- Using an item up keeps the player stored. -/
lemma Consumed.stored {slot target amount : Nat} (h : p.Stored objmgr)
    (c : p.Consumed slot target amount p') : p'.Stored objmgr := by
  cases c with
  | refused => exact h
  | @shrunk it u _ at_ s =>
    cases u with
    | none => exact s.stored h at_
    | some u =>
      have at' : (p.setConsumer target u).itemAt slot = some it := by
        simp only [setConsumer]
        split_ifs <;> exact at_
      exact s.stored (h.setConsumer target u) at'

/-- Putting equipment on keeps the player stored. -/
lemma Equipped.stored {invslot : Nat} (h : p.Stored objmgr) (d : p.Equipped objmgr invslot p') :
    p'.Stored objmgr := by
  cases d with
  | refused => exact h
  | done lt at_ known pos =>
    obtain ⟨st, mv⟩ := h.taken at_
    obtain ⟨st2, -, keep⟩ := st.swapped _ lt (taken_free ..)
    exact (st2.put (pos.trans (by decide)) (keep _ _ mv)).withUnit _

/-- Taking equipment off keeps the player stored. -/
lemma Unequipped.stored {eqslot invslot : Nat} (h : p.Stored objmgr)
    (d : p.Unequipped objmgr eqslot invslot p') : p'.Stored objmgr := by
  cases d with
  | refused => exact h
  | stays => exact h.withUnit _
  | moved at_ _ can stored =>
    obtain ⟨-, hi, -⟩ := canStoreItem_ok can
    obtain ⟨st, mv⟩ := h.taken at_
    have spec := st.storeItem (Nat.lt_trans hi (by decide)) mv
    exact (spec.of_ok stored).withUnit _

/-- Putting equipment on a pet keeps the player stored. -/
lemma PetEquipped.stored {i invslot : Nat} (h : p.Stored objmgr)
    (d : p.PetEquipped objmgr i invslot p') : p'.Stored objmgr := by
  cases d with
  | refused => exact h
  | @done it pet pet' dest lt ipet at_ epet pos epet' =>
    obtain ⟨st, mv⟩ := h.taken at_
    obtain ⟨st2, -, keep⟩ := st.petSwapped dest epet lt
    exact (st2.wear epet' ipet pos (keep _ _ mv)).petUnit (wear_pets_self ..) _

/-- Taking equipment off a pet keeps the player stored. -/
lemma PetUnequipped.stored {i eqslot : Nat} (h : p.Stored objmgr)
    (d : p.PetUnequipped objmgr i eqslot p') : p'.Stored objmgr := by
  cases d with
  | refused => exact h
  | moved epet at_ can stored =>
    obtain ⟨-, hi, -⟩ := canStoreItem_ok can
    obtain ⟨st, mv⟩ := h.petTaken epet at_
    have spec := st.storeItem (Nat.lt_trans hi (by decide)) mv
    exact spec.of_ok stored

/-- Joining a floating new object to a stack keeps the pointers sound. -/
lemma Stored.absorbed {g g2 : Nat} {it it2 : Item} (h : p.Stored objmgr) (fl : p.Floating g)
    (live : p.heap g = some it) (live2 : p.heap g2 = some it2) (ne : g ≠ g2)
    (new : p.marks g = .fresh) : (p.absorbed g g2 it it2).Stored objmgr := by
  have merged := mergeInto_post live live2 ne
  rw [mergeInto_fresh live live2 ne new] at merged
  exact h.merged live live2 fl merged

/-- Gaining goods keeps the player stored. -/
lemma Gained.stored {itemid count : Nat} (h : p.Stored objmgr) (g : Gained objmgr p itemid count p') :
    p'.Stored objmgr := by
  cases g with
  | refused =>
    simp only [afterCanStoreNewItem]
    split_ifs
    · exact h.skipGuid (Nat.le_succ _)
    · exact h
  | @placed proto dest can known lt free =>
    obtain ⟨st, fl⟩ := h.withNew itemid (createCount proto count)
    have mark : ((p.withNew itemid (createCount proto count)).marks (p.hiItemGuid + 2)).uState ≠
        .removed := by
      simp only [withNew, newObject, newStack, Function.update_self]
      exact fun c => ItemUpdateState.noConfusion c
    exact st.put lt ⟨fl, withNew_live .., mark, Option.isSome_of_eq_some known⟩
  | @stacked proto dest it2 can known at2 same =>
    obtain ⟨st, fl⟩ := h.withNew itemid (createCount proto count)
    have at2' := (h.withNew_itemAt itemid (createCount proto count) dest).trans at2
    obtain ⟨held2, live2, -⟩ := st.items_of_itemAt at2'
    have ne : p.hiItemGuid + 2 ≠ it2.guid := fun eq => fl (.slot dest) (eq ▸ held2)
    exact st.absorbed fl (withNew_live ..) live2 ne (Function.update_self ..)

/-- Buying keeps the player stored. -/
lemma Bought.stored {buy_count : Nat} (h : p.Stored objmgr) (b : p.Bought objmgr buy_count p') :
    p'.Stored objmgr := by
  cases b with
  | refused => exact h
  | paid _ gained => exact gained.stored (h.withGold (applyModUInt32Value_lt ..))

/-- Selling keeps the player stored, also when the item is gone with the sale. -/
lemma Sold.stored {slot sell_count : Nat} (h : p.Stored objmgr) (s : p.Sold objmgr slot sell_count p') :
    p'.Stored objmgr := by
  cases s with
  | refused => exact h
  | kept at_ => exact (h.recount at_ _).withGold (applyModUInt32Value_lt ..)
  | @emptied it _ at_ _ _ _ =>
    obtain ⟨st, at'⟩ := h.counted at_ 0
    obtain ⟨st2, mv⟩ := st.taken at'
    obtain ⟨m, q, eq⟩ := requeue_eq (p.setItem it.guid { it with count := 0 }) it.guid
      { it with count := 0 } .removed
    have marks : m = (Player.requeue _ it.guid _ .removed).marks := congrArg Player.marks eq.symm
    have st3 : Player.Stored objmgr { taken objmgr (p.setItem it.guid { it with count := 0 }) slot
        { it with count := 0 } with marks := m, itemUpdateQueue := q } := by
      refine st2.remark q fun l g held' => ?_
      have ne : g ≠ it.guid := fun eq => mv.floating l (eq ▸ held')
      rw [marks, requeue_marks_ne _ _ _ ne]
      exact st2.kept held'
    rw [eq]
    exact st3.withGold (applyModUInt32Value_lt ..)

end Effects

section Tables

/-- Loading a row takes no new guid. -/
lemma Loaded.hiItemGuid {db db' : Database} {row : LoginRow} (l : p.Loaded objmgr db row p' db') :
    p'.hiItemGuid = p.hiItemGuid := by
  cases l with
  | refused | rejected | unplaced => rfl
  | placed => exact requeue_hiItemGuid ..
  | stacked => exact requeue_hiItemGuid ..
  | worn => exact requeue_hiItemGuid ..

/-- Loading a row puts no other item into a slot. -/
lemma Loaded.holds {db db' : Database} {row : LoginRow} (l : p.Loaded objmgr db row p' db') {loc : Loc}
    {g : Nat} (held : p'.holds loc = some g) : g = row.item ∨ p.holds loc = some g := by
  cases l with
  | refused | rejected | unplaced => exact .inr held
  | @placed d dest =>
    have held' : ((p.newObject (p.loadedItem row d)).put dest row.item
        (p.loadedItem row d)).holds loc = some g := held
    exact (holds_put held').imp_left And.right
  | @stacked d dest it2 =>
    have held' : ((p.newObject (p.loadedItem row d)).absorbed row.item it2.guid (p.loadedItem row d)
        it2).holds loc = some g := held
    rw [holds_absorbed] at held'
    exact .inr held'
  | @worn d i pet data epet =>
    have held' : ((p.newObject (p.loadedItem row d)).wear i pet row.slot row.item
        (p.loadedItem row d)).holds loc = some g := held
    have epet' : (p.newObject (p.loadedItem row d)).pets i = some pet := epet
    exact (holds_wear epet' held').imp_left And.right

/-- Loading a row keeps the pointers sound. -/
lemma Loaded.stored {db db' : Database} {row : LoginRow} (h : p.Stored objmgr)
    (fl : p.Floating row.item) (le : row.item ≤ p.hiItemGuid) (l : p.Loaded objmgr db row p' db') :
    p'.Stored objmgr := by
  have new : ∀ d, (p.newObject (p.loadedItem row d)).Stored objmgr := fun d => by
    have fl' : p.Floating (p.loadedItem row d).guid := fl
    exact h.newObject fl' le rfl
  have live : ∀ d, (p.newObject (p.loadedItem row d)).heap row.item = some (p.loadedItem row d) :=
    loadedItem_live p row
  have mark : ∀ d, ((p.newObject (p.loadedItem row d)).marks row.item).uState ≠ .removed := by
    intro d
    simp only [newObject, loadedItem, Function.update_self]
    exact fun c => ItemUpdateState.noConfusion c
  cases l with
  | refused => exact h
  | @rejected d => exact new d
  | @unplaced d => exact (new d).setMark _ fun c => ItemUpdateState.noConfusion c
  | @placed d dest data own goal lt free known =>
    exact ((new d).put lt ⟨fl, live d, mark d, known⟩).setMark _ fun c => ItemUpdateState.noConfusion c
  | @stacked d dest it2 data own goal at2 =>
    have fl' : p.Floating (p.loadedItem row d).guid := fl
    have at2' := (newObject_itemAt fl' dest).trans at2
    obtain ⟨held2, live2, -⟩ := (new d).items_of_itemAt at2'
    have ne : row.item ≠ it2.guid := fun eq => fl (.slot dest) (eq ▸ held2)
    exact ((new d).absorbed fl (live d) live2 ne (Function.update_self ..)).setMark _
      fun c => ItemUpdateState.noConfusion c
  | @worn d i pet data epet guid ipet lt free known =>
    exact ((new d).wear epet ipet lt ⟨fl, live d, mark d, known⟩).setMark _
      fun c => ItemUpdateState.noConfusion c

/-- The rows that are still to be loaded name items that are in no slot. -/
structure Awaiting (p : Player) (rows : List LoginRow) : Prop where
  nodup : (rows.map LoginRow.item).Nodup
  floating : ∀ row ∈ rows, p.Floating row.item
  known : ∀ row ∈ rows, row.item ≤ p.hiItemGuid
  coherent : ∀ row ∈ rows, ∀ d, row.data = some d → d.entry = row.entry

/-- The other rows wait still. -/
lemma Awaiting.next {db db' : Database} {row : LoginRow} {rows : List LoginRow}
    (w : p.Awaiting (row :: rows)) (l : p.Loaded objmgr db row p' db') : p'.Awaiting rows := by
  obtain ⟨notin, nodup⟩ := List.nodup_cons.mp w.nodup
  refine ⟨nodup, ?_, ?_, fun r mem => w.coherent r (List.mem_cons_of_mem _ mem)⟩
  · intro r mem loc held
    obtain eq | old := l.holds held
    · exact notin (List.mem_map.mpr ⟨r, mem, eq⟩)
    · exact w.floating r (List.mem_cons_of_mem _ mem) loc old
  · intro r mem
    rw [l.hiItemGuid]
    exact w.known r (List.mem_cons_of_mem _ mem)

/-- What each row keeps, the loop keeps. -/
lemma loadRows_induct (Inv : Player → Database → List LoginRow → Prop) (db : Database)
    (rows : List LoginRow) (h : p.Stored objmgr) (w : p.Awaiting rows) (start : Inv p db rows)
    (step : ∀ p db row rows p' db', Player.Stored objmgr p → p.Awaiting (row :: rows) →
      Inv p db (row :: rows) → p.Loaded objmgr db row p' db' → Inv p' db' rows) :
    Sat (loadRows objmgr p db rows) fun r => r.1.Stored objmgr ∧ Inv r.1 r.2 [] := by
  induction rows generalizing p db with
  | nil => exact ⟨h, start⟩
  | cons row rows ih =>
    have fl := w.floating row (List.mem_cons_self ..)
    have le := w.known row (List.mem_cons_self ..)
    simp only [loadRows, sat_bind]
    refine (h.loadRow db fl le (w.coherent row (List.mem_cons_self ..))).mono ?_
    rintro ⟨p', db'⟩ l
    exact ih db' (l.stored h fl le) (w.next l) (step p db row rows p' db' h w start l)

/-- The object after its save: gone, or as the database has it. -/
def afterSave (p : Player) (g : Nat) : Player :=
  if (p.marks g).uState = .removed then p.deleteItem g else p.markUnchanged g

/-- What a save does with one entry of the update queue. -/
lemma saveEntry_ok {db : Database} {g : Nat} {r : Player × Database} (h : p.Stored objmgr)
    (e : saveEntry objmgr p db g = .ok r) :
    ∃ it, p.heap g = some it ∧ r.1 = p.afterSave g := by
  obtain ⟨it, live, saved⟩ := saveEntry_saved e
  obtain ⟨rfl, -⟩ := h.known live
  refine ⟨it, live, ?_⟩
  simp only [saveToDB, setState_unchanged live, bind, Except.bind, pure, Except.pure] at saved
  cases state : (p.marks it.guid).uState with
  | new | changed | unchanged =>
    simp only [state, Except.ok.injEq] at saved
    rw [← saved, afterSave, if_neg (by simp [state])]
  | removed =>
    simp only [state, Except.ok.injEq] at saved
    rw [← saved, afterSave, if_pos state]

/-- A saved item keeps the player stored. -/
lemma Stored.afterSave (h : p.Stored objmgr) (g : Nat) : (p.afterSave g).Stored objmgr := by
  simp only [Player.afterSave]
  split_ifs with removed
  · exact h.deleteItem fun l held => h.kept held removed
  · exact h.setMark g fun c => ItemUpdateState.noConfusion c

/-- So does a saved queue. -/
lemma Stored.saveQueue {db : Database} {queue : List (Option Nat)} {r : Player × Database}
    (h : p.Stored objmgr) (e : saveQueue objmgr p db queue = .ok r) : r.1.Stored objmgr := by
  induction queue generalizing p db with
  | nil =>
    obtain rfl := Except.ok.inj e
    exact h
  | cons entry queue ih =>
    cases entry with
    | none => exact ih h e
    | some g =>
      obtain ⟨r', first, rest⟩ := saveQueue_some_ok.mp e
      obtain ⟨it, -, eq⟩ := saveEntry_ok h first
      exact ih (eq ▸ h.afterSave g) rest

/-- A save keeps the pointers sound. -/
lemma Stored.saveInventory {db : Database} {r : Player × Database} (h : p.Stored objmgr)
    (e : saveInventory objmgr p db = .ok r) : r.1.Stored objmgr := by
  obtain ⟨r', saved, rfl⟩ := saveInventory_ok e
  have st := h.saveQueue saved
  exact ⟨st.valid, st.live, st.kept, st.known, st.pets, st.gold⟩

/-- The modifiers of a login move no item. -/
lemma holds_applyAllItemMods (objmgr : ObjectMgr) (p : Player) (l : Loc) :
    (applyAllItemMods objmgr p).holds l = p.holds l := by
  cases l with
  | slot i => rfl
  | worn i e =>
    rw [holds, holds, applyAllItemMods]
    dsimp only
    cases p.pets i with
    | none => rfl
    | some pet =>
      rw [Option.map_some, Option.bind_some, Option.bind_some]
      split
      · rfl
      · rfl

/-- Applying the equipment changes units only. -/
lemma Stored.applyAllItemMods (h : p.Stored objmgr) : (applyAllItemMods objmgr p).Stored objmgr := by
  have pets : ∀ i, (Player.applyAllItemMods objmgr p).pets i = (p.pets i).map fun pet =>
      if i < maxPetSlot then
        { pet with unit := applyWorn objmgr pet.unit (p.wornItems pet.equip) }
      else pet := fun _ => rfl
  apply h.transfer (q := Player.applyAllItemMods objmgr p) rfl (Nat.le_refl _) h.gold
  · intro i
    rw [pets]
    cases p.pets i with
    | none => rfl
    | some pet =>
      simp only [Option.map_some]
      split_ifs <;> rfl
  · intro l g held
    rw [holds_applyAllItemMods] at held
    exact .inl ⟨held, id, fun it live => ⟨it, live, rfl, rfl, rfl⟩⟩
  · exact fun g it live => .inl ⟨it, live, rfl, rfl⟩

end Tables

/-- A character before its inventory is loaded: no item objects, and pets without equipment. -/
structure Fresh (p : Player) : Prop where
  items : p.items = fun _ => none
  heap : p.heap = fun _ => none
  bare : ∀ i pet, p.pets i = some pet → pet.equip = fun _ => none
  pets : ∀ i j a b, p.pets i = some a → p.pets j = some b → a.guid = b.guid → i = j
  gold : p.gold < 2 ^ 32
  queue : p.itemUpdateQueue = []
  mods : p.unit.mods = fun _ => 0
  itemSet : p.unit.itemSet = 0
  itemSetApplied : p.unit.itemSetApplied = false

/-- A fresh player holds nothing. -/
lemma Fresh.floating (f : p.Fresh) (g : Nat) : p.Floating g := by
  intro l held
  cases l with
  | slot i => simp [holds, f.items] at held
  | worn i e =>
    obtain ⟨pet, epet, eequip⟩ := Option.bind_eq_some_iff.mp held
    simp [f.bare i pet epet] at eequip

/-- A fresh player is stored. -/
lemma Fresh.stored (f : p.Fresh) : p.Stored objmgr where
  valid held := absurd held (f.floating _ _)
  live held := absurd held (f.floating _ _)
  kept held := absurd held (f.floating _ _)
  known live := by simp [f.heap] at live
  pets := f.pets _ _ _ _
  gold := f.gold

end Player

/-- A character in the world, with the tables of its inventory. -/
structure Session where
  player : Player
  db : Database

namespace Session

/-- A login: the rows are a result of the login query, their data agree with their entry columns, and
the guid counter is beyond every item of the database. -/
structure Login (p : Player) (db : Database) (rows : List LoginRow) : Prop where
  fresh : p.Fresh
  result : db.LoginResult p.guid rows
  coherent : ∀ row ∈ rows, ∀ d, row.data = some d → d.entry = row.entry
  beyond : ∀ g, p.hiItemGuid < g → db.characterInventory g = none

/-- What may happen in a session. The cache of models is shared with other players, so that a purchase
finds it in any state. -/
inductive Step (objmgr : ObjectMgr) : Session → Session → Prop
  | useItem {s : Session} {req : Wire.UseItemRequest} {o : Outcome}
      (e : (s.player.handleUseItem objmgr req).result = .ok o) : Step objmgr s { s with player := o.player }
  | buy {s : Session} {p' : Player} {cache : List (Nat × Nat)} {vendor : Option (List CreatureItem)}
      {vendor_slot buy_count : Nat}
      (e : s.player.handleBuy { objmgr with itemPrototypeList := cache } vendor vendor_slot buy_count =
        .ok p') : Step objmgr s { s with player := p' }
  | sell {s : Session} {p' : Player} {player_slot sell_count : Nat}
      (e : (s.player.handleSell objmgr player_slot sell_count).result = .ok p') :
      Step objmgr s { s with player := p' }
  | gain {s : Session} {p' : Player} {cache : List (Nat × Nat)} {modelid count : Nat}
      (e : s.player.addNewInventoryItem { objmgr with itemPrototypeList := cache } modelid count =
        .ok p') : Step objmgr s { s with player := p' }
  | petRelease {s : Session} {p' : Player} {subcmd petslot : Nat}
      (e : (s.player.handlePetRelease subcmd petslot).result = .ok p') :
      Step objmgr s { s with player := p' }
  /-- Quests, battles and level-ups change gold and units. -/
  | progress {s : Session} {gold : Nat} {u : Unit} (lt : gold < 2 ^ 32) :
      Step objmgr s { s with player := { s.player with gold := gold, unit := u } }
  | petProgress {s : Session} {i : Nat} {pet : Pet} {u : Unit} (epet : s.player.pets i = some pet) :
      Step objmgr s { s with player := s.player.setPet i { pet with unit := u } }
  /-- A new pet comes without equipment, under a guid of its own. -/
  | summon {s : Session} {i : Nat} {pet : Pet} (free : s.player.pets i = none)
      (bare : pet.equip = fun _ => none)
      (own : ∀ j pet', s.player.pets j = some pet' → pet'.guid ≠ pet.guid) :
      Step objmgr s { s with player := s.player.setPet i pet }
  | save {s : Session} {r : Player × Database} (e : s.player.saveInventory objmgr s.db = .ok r) :
      Step objmgr s ⟨r.1, r.2⟩

/-- The states of all sessions. -/
inductive Reachable (objmgr : ObjectMgr) : Session → Prop
  | login {p : Player} {db : Database} {rows : List LoginRow} {r : Player × Database}
      (l : Login p db rows) (e : Player.loadInventory objmgr p db rows = .ok r) :
      Reachable objmgr ⟨r.1, r.2⟩
  | step {s s' : Session} (r : Reachable objmgr s) (e : Step objmgr s s') : Reachable objmgr s'

section Invariant

variable {objmgr : ObjectMgr}

/-- The rows of a login name items that are known and not in memory yet. -/
lemma Login.awaiting {p : Player} {db : Database} {rows : List LoginRow} (l : Login p db rows) :
    p.Awaiting rows := by
  refine ⟨l.result.nodup, fun row _ => l.fresh.floating row.item, ?_, l.coherent⟩
  intro row mem
  by_contra gt
  have none := l.beyond row.item (Nat.not_le.mp gt)
  have joined := (l.result.mem row).mp mem
  simp [Database.joined, none] at joined

/-- A login starts with sound pointers, and none to an item of the rows. -/
lemma Login.ready (objmgr : ObjectMgr) {p : Player} {db : Database} {rows : List LoginRow}
    (l : Login p db rows) :
    Player.Stored objmgr { p with itemUpdateQueueBlocked := true } ∧
      Player.Awaiting { p with itemUpdateQueueBlocked := true } rows := by
  have st : p.Stored objmgr := l.fresh.stored
  have w := l.awaiting
  exact ⟨⟨st.valid, st.live, st.kept, st.known, st.pets, st.gold⟩,
    ⟨w.nodup, w.floating, w.known, w.coherent⟩⟩

/-- The end of a load keeps the pointers sound. -/
lemma applied_stored {p : Player} (h : p.Stored objmgr) :
    (Player.applyAllItemMods objmgr { p with itemUpdateQueueBlocked := false }).Stored objmgr := by
  have st : Player.Stored objmgr { p with itemUpdateQueueBlocked := false } :=
    ⟨h.valid, h.live, h.kept, h.known, h.pets, h.gold⟩
  exact st.applyAllItemMods

/-- A login does not fault. -/
lemma Login.loads (objmgr : ObjectMgr) {p : Player} {db : Database} {rows : List LoginRow}
    (l : Login p db rows) :
    Sat (Player.loadInventory objmgr p db rows) fun r => r.1.Stored objmgr := by
  obtain ⟨st, w⟩ := l.ready objmgr
  have loaded := Player.loadRows_induct (fun _ _ _ => True) db rows st w trivial
    fun _ _ _ _ _ _ _ _ _ _ => trivial
  simp only [Player.loadInventory, sat_bind, sat_pure]
  exact loaded.mono fun r st => applied_stored st.1

/-- The handlers of item use keep the pointers sound. -/
lemma useItem_stored {p : Player} {req : Wire.UseItemRequest} (h : p.Stored objmgr) :
    (p.handleUseItem objmgr req).Yields fun o => o.player.Stored objmgr := by
  cases req with
  | take => exact h
  | drop tmp_invslot amount =>
    exact (h.handleDrop tmp_invslot amount).mono (fun _ d => d.stored h) fun _ f => f
  | equip tmp_invslot => exact (h.handleEquip tmp_invslot).mono (fun _ d => d.stored h) fun _ f => f
  | unequip tmp_eqslot tmp_invslot =>
    exact (h.handleUnequip tmp_eqslot tmp_invslot).mono (fun _ d => d.stored h) fun _ f => f
  | consume tmp_invslot amount target invslot =>
    exact (h.handleConsume tmp_invslot amount target).mono (fun _ d => d.stored h) fun _ f => f
  | petEquip target tmp_invslot =>
    exact (h.handlePetEquip target tmp_invslot).mono (fun _ d => d.stored h) fun _ f => f
  | petUnequip target tmp_eqslot tmp_invslot =>
    exact (h.handlePetUnequip target tmp_eqslot tmp_invslot).mono (fun _ d => d.stored h) fun _ f => f
  | other => exact h

/-- The invariant does not depend on the cache of models. -/
lemma stored_cache {p : Player} (cache : List (Nat × Nat)) :
    p.Stored { objmgr with itemPrototypeList := cache } ↔ p.Stored objmgr :=
  ⟨fun h => ⟨h.valid, h.live, h.kept, h.known, h.pets, h.gold⟩,
    fun h => ⟨h.valid, h.live, h.kept, h.known, h.pets, h.gold⟩⟩

/-- Every step keeps the pointers sound. -/
lemma Step.stored {s s' : Session} (h : s.player.Stored objmgr) (e : Step objmgr s s') :
    s'.player.Stored objmgr := by
  cases e with
  | useItem e => exact (useItem_stored h).of_ok e
  | @buy p' cache vendor vendor_slot buy_count e =>
    have h' := (stored_cache cache).mpr h
    obtain ⟨p'', ok, b⟩ := sat_iff.mp (h'.handleBuy _ _ _)
    obtain rfl := Except.ok.inj (ok.symm.trans e)
    exact (stored_cache cache).mp (b.stored h')
  | sell e => exact ((h.handleSell ..).of_ok e).stored h
  | @gain p' cache modelid count e =>
    have h' := (stored_cache cache).mpr h
    obtain ⟨p'', ok, g⟩ := sat_iff.mp (h'.addNewInventoryItem _ _)
    obtain rfl := Except.ok.inj (ok.symm.trans e)
    exact (stored_cache cache).mp (g.stored h')
  | @petRelease p' subcmd petslot e =>
    simp only [Player.handlePetRelease, Traced.run, Traced.access] at e
    split_ifs at e
    · obtain rfl := Except.ok.inj e
      exact h
    · obtain rfl := Except.ok.inj e
      exact h.release _
    · obtain rfl := Except.ok.inj e
      exact h
  | @progress gold u lt => exact (h.withGold lt).withUnit u
  | petProgress epet => exact h.petUnit epet _
  | @summon i pet free bare own =>
    have old : ∀ j pet', Function.update s.player.pets i (some pet) j = some pet' →
        s.player.pets j = some pet' ∨ (j = i ∧ pet' = pet) := by
      intro j pet' epet
      by_cases eq : j = i
      · subst eq
        rw [Function.update_self] at epet
        exact .inr ⟨rfl, (Option.some.inj epet).symm⟩
      · rw [Function.update_of_ne eq] at epet
        exact .inl epet
    refine h.withPets ?_ ?_
    · intro j pet' epet
      obtain same | ⟨-, rfl⟩ := old j pet' epet
      · exact .inl same
      · exact .inr bare
    · intro j k a b ea eb eq
      obtain ea' | ⟨rfl, rfl⟩ := old j a ea
      · obtain eb' | ⟨rfl, rfl⟩ := old k b eb
        · exact h.pets ea' eb' eq
        · exact absurd eq (own j a ea')
      · obtain eb' | ⟨rfl, -⟩ := old k b eb
        · exact absurd eq.symm (own k b eb')
        · rfl
  | save e => exact h.saveInventory e

/-- In every reachable state the pointers are sound. -/
theorem Reachable.stored {s : Session} (r : Reachable objmgr s) : s.player.Stored objmgr := by
  induction r with
  | login l e =>
    obtain ⟨r, ok, st⟩ := sat_iff.mp (l.loads objmgr)
    obtain rfl := Except.ok.inj (ok.symm.trans e)
    exact st
  | step _ e ih => exact e.stored ih

end Invariant

/-- A character as it is created: a guid, some gold, no item and no pet. -/
def created (guid gold : Nat) : Session where
  player :=
    { guid, gold
      unit := ⟨1, 1, 94, 66, 0, 0, fun _ => 0, 0, false⟩
      items := fun _ => none
      pets := fun _ => none
      heap := fun _ => none
      marks := fun _ => .fresh
      hiItemGuid := 0
      itemUpdateQueue := []
      itemUpdateQueueBlocked := false }
  db := ⟨fun _ => none, fun _ => none⟩

/-- The first login of a character leaves it as it was created. -/
lemma created_reachable (objmgr : ObjectMgr) {guid gold : Nat} (lt : gold < 2 ^ 32) :
    Reachable objmgr (created guid gold) := by
  have result : (created guid gold).db.LoginResult guid [] :=
    ⟨List.nodup_nil, .nil, fun r => by simp [created, Database.joined]⟩
  have fresh : (created guid gold).player.Fresh :=
    ⟨rfl, rfl, fun _ _ e => by simp [created] at e, fun _ _ _ _ e => by simp [created] at e, lt, rfl, rfl,
      rfl, rfl⟩
  exact .login (r := ((created guid gold).player, (created guid gold).db))
    ⟨fresh, result, fun _ mem => absurd mem (List.not_mem_nil), fun _ _ => rfl⟩ rfl

/-- Tables with the rows of one character. -/
def holding (guid : Nat) (rows : List LoginRow) : Database where
  characterInventory item :=
    (rows.find? fun row => row.item = item).map fun row => ⟨guid, row.pet, row.slot, row.entry⟩
  itemInstance item := (rows.find? fun row => row.item = item).map fun row => ⟨guid, row.data⟩

/-- The tables have no other items. -/
lemma holding_absent (guid : Nat) {rows : List LoginRow} {g : Nat} (out : g ∉ rows.map LoginRow.item) :
    (holding guid rows).characterInventory g = none ∧ (holding guid rows).itemInstance g = none := by
  have absent : rows.find? (fun row => row.item = g) = none := by
    rw [List.find?_eq_none]
    intro row mem same
    exact out (of_decide_eq_true same ▸ List.mem_map_of_mem mem)
  simp only [holding, absent, Option.map_none, and_self]

/-- Tables that hold these rows and nothing else. -/
lemma eq_holding {guid : Nat} {db : Database} {rows : List LoginRow}
    (named : ∀ row ∈ rows, db.characterInventory row.item = (holding guid rows).characterInventory row.item ∧
      db.itemInstance row.item = (holding guid rows).itemInstance row.item)
    (others : ∀ g, g ∉ rows.map LoginRow.item → db.characterInventory g = none ∧ db.itemInstance g = none) :
    db = holding guid rows := by
  have agree : ∀ g, db.characterInventory g = (holding guid rows).characterInventory g ∧
      db.itemInstance g = (holding guid rows).itemInstance g := by
    intro g
    by_cases mem : g ∈ rows.map LoginRow.item
    · obtain ⟨row, here, rfl⟩ := List.mem_map.mp mem
      exact named row here
    · obtain ⟨inventory, inst⟩ := others g mem
      obtain ⟨inventory', inst'⟩ := holding_absent guid mem
      exact ⟨inventory.trans inventory'.symm, inst.trans inst'.symm⟩
  exact congrArg₂ Database.mk (funext fun g => (agree g).1) (funext fun g => (agree g).2)

/-- A character that comes back, when `top` items are known to the server. -/
def returned (guid gold top : Nat) : Player := { (created guid gold).player with hiItemGuid := top }

/-- A character comes back to its rows. -/
lemma login_holding {guid gold top : Nat} {rows : List LoginRow} (lt : gold < 2 ^ 32)
    (nodup : (rows.map LoginRow.item).Nodup) (sorted : rows.Pairwise fun r r' => r.slot ≤ r'.slot)
    (coherent : ∀ row ∈ rows, ∀ d, row.data = some d → d.entry = row.entry)
    (known : ∀ row ∈ rows, row.item ≤ top) : Login (returned guid gold top) (holding guid rows) rows := by
  have found : ∀ r ∈ rows, rows.find? (fun row => row.item = r.item) = some r := by
    intro r mem
    cases e : rows.find? fun row => row.item = r.item with
    | none =>
      have other := List.find?_eq_none.mp e r mem
      simp at other
    | some r' =>
      have same : r'.item = r.item := by simpa using List.find?_some e
      rw [List.inj_on_of_nodup_map nodup (List.mem_of_find?_eq_some e) mem same]
  refine ⟨⟨rfl, rfl, fun _ _ e => absurd e (by simp [returned, created]),
    fun _ _ _ _ e => absurd e (by simp [returned, created]), lt, rfl, rfl, rfl, rfl⟩, ⟨nodup, sorted, ?_⟩,
    coherent, ?_⟩
  · intro r
    constructor
    · intro mem
      simp only [Database.joined, holding, found r mem, Option.map_some]
      exact if_pos rfl
    · intro joined
      cases e : rows.find? fun row => row.item = r.item with
      | none => simp [Database.joined, holding, e] at joined
      | some r' =>
        have same : r'.item = r.item := by simpa using List.find?_some e
        simp only [Database.joined, holding, e, Option.map_some] at joined
        have eq := Option.some.inj ((if_pos rfl).symm.trans joined)
        rw [← same] at eq
        exact eq ▸ List.mem_of_find?_eq_some e
  · intro g lt
    refine (holding_absent guid fun mem => ?_).1
    obtain ⟨row, here, rfl⟩ := List.mem_map.mp mem
    exact Nat.not_lt.mpr (known row here) lt

end Session

end Legacy.Inventory
