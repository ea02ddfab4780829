import Legacy.Inventory.EquipRun
import Legacy.Pets.Survival

/-!
# The modifiers of pets

The modifiers of a pet change by differences, as those of a player do, and they are among the values that are
saved. A household goes through logins, pet equips, pet unequips and saves in any order. `Carried` is its invariant:
a modifier is what the pet was loaded with, plus what it wears and the bonus of its set.
-/

namespace Legacy.Inventory
open Legacy.Lib

/-- The index of a modifier among the values (source `UNIT_FIELD_INT_MOD` and the following). -/
def StatMod.field : StatMod → Nat
  | .intMod => 44
  | .atkMod => 46
  | .defMod => 48
  | .agiMod => 50
  | .hpxMod => 52
  | .spxMod => 54

/-- The fields of the modifiers lie between 44 and 54. -/
lemma StatMod.field_range (flag : StatMod) : 44 ≤ flag.field ∧ flag.field ≤ 54 := by
  cases flag <;> decide

/-- The word of a modifier (source `Object::SetInt32Value`). -/
def word (x : Int) : Nat := (x % 2 ^ 32).toNat

/-- The item columns are `smallint` (`src/sql/legacydb.sql`), and an item has ten modifiers. -/
def ObjectMgr.StatColumns (objmgr : ObjectMgr) : Prop :=
  ∀ proto ∈ objmgr.itemStorage, proto.itemState.length ≤ 10 ∧
    ∀ s ∈ proto.itemState, -2 ^ 15 ≤ s.itemStatValue ∧ s.itemStatValue < 2 ^ 15

namespace Player

/-- The entry of an item object. -/
def entryOf (p : Player) (g : Nat) : Option Nat := (p.heap g).map Item.entry

/-- The entry that a pet wears in a slot. -/
def petEntryAt (p : Player) (pet : Pet) (e : Nat) : Option Nat := (pet.equip e).bind p.entryOf

/-- The pets were read from their rows: the six modifiers are as they were written. -/
def ReadsPets (p : Player) (petData : Nat → StatMod → Nat) : Prop :=
  ∀ i pet, p.pets i = some pet →
    pet.unit.mods = (fun flag => i32 (petData pet.guid flag)) ∧ pet.unit.itemSet = 0 ∧
      pet.unit.itemSetApplied = false

/-- The modifiers of a pet. -/
def petMods (p : Player) (i : Nat) (flag : StatMod) : Int := (p.pets i).elim 0 fun pet => pet.unit.mods flag

end Player

/-- A character with its pets and their rows: `petData` is the modifiers in the column `data` of `character_pet`,
`changed` says which pets are to be saved, and `read` is the modifiers that the pets were loaded with. -/
structure Household where
  player : Player
  db : Database
  petData : Nat → StatMod → Nat
  changed : Nat → Bool
  read : Nat → StatMod → Int

namespace Household

/-- The rows of the pets after `Player::_SavePets`. -/
def savePets (h : Household) (guid : Nat) : StatMod → Nat :=
  match h.player.getPetByGuid guid with
  | some i => if h.changed i then fun flag => word (h.player.petMods i flag) else h.petData guid
  | none => h.petData guid

/-- A login, which finds the tables in some state. -/
inductive LoggedIn (objmgr : ObjectMgr) (db : Database) (petData : Nat → StatMod → Nat) : Household → Prop
  | load {p : Player} {rows : List LoginRow} {r : Player × Database} (l : Session.Login p db rows)
      (reads : p.ReadsPets petData) (e : Player.loadInventory objmgr p db rows = .ok r) :
      LoggedIn objmgr db petData ⟨r.1, r.2, petData, fun _ => false, p.petMods⟩

/-- What may happen to a household. -/
inductive Step (objmgr : ObjectMgr) (h : Household) : Household → Prop
  | relog {h' : Household} (l : LoggedIn objmgr h.db h.petData h') : Step objmgr h h'
  /-- case `0x11` -/
  | petEquip {target tmp_invslot : Nat} {o : Outcome}
      (e : (h.player.handlePetEquip objmgr target tmp_invslot).result = .ok o) :
      Step objmgr h { h with player := o.player }
  /-- case `0x12` -/
  | petUnequip {target tmp_eqslot tmp_invslot : Nat} {o : Outcome}
      (e : (h.player.handlePetUnequip objmgr target tmp_eqslot tmp_invslot).result = .ok o) :
      Step objmgr h { h with player := o.player }
  /-- source `SetState(PET_CHANGED)`, which an equip does not call -/
  | petChanged (i : Nat) : Step objmgr h { h with changed := Function.update h.changed i true }
  | save {r : Player × Database} (e : h.player.saveInventory objmgr h.db = .ok r) :
      Step objmgr h { h with player := r.1, db := r.2, petData := h.savePets, changed := fun _ => false }

/-- The states of a household: it logs in, and then anything may happen. -/
inductive Reachable (objmgr : ObjectMgr) : Household → Prop
  | login {db : Database} {petData : Nat → StatMod → Nat} {h : Household} (l : LoggedIn objmgr db petData h) :
      Reachable objmgr h
  | step {h h' : Household} (r : Reachable objmgr h) (s : h.Step objmgr h') : Reachable objmgr h'

/-- Every modifier of every pet is the sum of what it wears and of the bonus of its set, which is there when it is
applied. -/
def Exact (objmgr : ObjectMgr) (h : Household) : Prop :=
  ∀ i pet, h.player.pets i = some pet → ∀ flag, pet.unit.mods flag =
    kitSum objmgr pet.unit.element kitSlots (h.player.petEntryAt pet) flag + pet.unit.bonus flag

end Household

/-- A modifier is a base, what the entries in some slots contribute, and the bonus of the set. -/
def Carried (objmgr : ObjectMgr) (base : StatMod → Int) (u : Unit) (slots : List Nat) (w : Nat → Option Nat) : Prop :=
  ∀ flag, u.mods flag = i32 (base flag + kitSum objmgr u.element slots w flag + u.bonus flag)

namespace Unit

/-- Counting up the item set changes neither the element nor the flag of the set. -/
lemma incItemSet_iterate_rest (n : Nat) (u : Unit) :
    (incItemSet^[n] u).element = u.element ∧ (incItemSet^[n] u).itemSetApplied = u.itemSetApplied := by
  induction n generalizing u with
  | zero => exact ⟨rfl, rfl⟩
  | succ n ih =>
    obtain ⟨element, applied⟩ := ih u.incItemSet
    rw [Function.iterate_succ_apply]
    exact ⟨element, applied⟩

/-- Counting down the item set changes neither the element nor the flag of the set. -/
lemma decItemSet_iterate_rest (n : Nat) (u : Unit) :
    (decItemSet^[n] u).element = u.element ∧ (decItemSet^[n] u).itemSetApplied = u.itemSetApplied := by
  induction n generalizing u with
  | zero => exact ⟨rfl, rfl⟩
  | succ n ih =>
    obtain ⟨element, applied⟩ := ih u.decItemSet
    rw [Function.iterate_succ_apply]
    exact ⟨element, applied⟩

/-- Applying the modifiers of an item changes neither the element nor the flag of the set. -/
lemma applyItemMods_rest (u : Unit) (proto : ItemPrototype) (apply : Bool) :
    (u.applyItemMods proto apply).element = u.element ∧
      (u.applyItemMods proto apply).itemSetApplied = u.itemSetApplied := by
  cases apply with
  | true => exact incItemSet_iterate_rest ..
  | false => exact decItemSet_iterate_rest ..

end Unit

namespace Carried

variable {objmgr : ObjectMgr} {base : StatMod → Int} {u : Unit} {slots slots' : List Nat}
  {w w' : Nat → Option Nat} {proto : ItemPrototype}

/-- What is carried depends on the entries in the slots only. -/
lemma congr (c : Carried objmgr base u slots w) (same : ∀ e ∈ slots, w' e = w e) : Carried objmgr base u slots w' := by
  intro flag
  rw [c flag, kitSum_congr objmgr u.element same]

/-- An item is put on. -/
lemma applied (c : Carried objmgr base u slots w)
    (sum : ∀ flag, kitSum objmgr u.element slots' w' flag =
      kitSum objmgr u.element slots w flag + proto.contribution u.element flag) :
    Carried objmgr base (u.applyItemMods proto true) slots' w' := by
  obtain ⟨element, applied⟩ := u.applyItemMods_rest proto true
  intro flag
  rw [Unit.applyItemMods_mods proto true (c flag), if_pos rfl, element, sum flag, Unit.bonus, Unit.bonus, applied]
  congr 1
  ring

/-- An item is taken off. -/
lemma unapplied (c : Carried objmgr base u slots w)
    (sum : ∀ flag, kitSum objmgr u.element slots' w' flag + proto.contribution u.element flag =
      kitSum objmgr u.element slots w flag) :
    Carried objmgr base (u.applyItemMods proto false) slots' w' := by
  obtain ⟨element, applied⟩ := u.applyItemMods_rest proto false
  intro flag
  rw [Unit.applyItemMods_mods proto false (c flag), if_neg (by decide), element, ← sum flag, Unit.bonus, Unit.bonus,
    applied]
  congr 1
  ring

/-- The check of the set adds the bonus once, when there was none before. -/
lemma checked (c : Carried objmgr base u slots w) (off : u.itemSetApplied = false) :
    Carried objmgr base u.updateItemSet slots w := by
  by_cases full : u.itemSet = 5
  · have update : u.updateItemSet = { u with
        itemSetApplied := true
        mods := fun flag => if Unit.inSetBonus flag then i32 (u.mods flag + 5) else u.mods flag } := by
      simp only [Unit.updateItemSet, full, Unit.applyItemSetMods, decide_true, Bool.not_true, Bool.false_and,
        Bool.false_eq_true, if_false, if_true]
    rw [update]
    intro flag
    have before := c flag
    simp only [Unit.bonus, off, Bool.false_and, Bool.false_eq_true, if_false, add_zero] at before
    simp only [Unit.bonus, Bool.true_and, before]
    split_ifs
    · rw [i32_i32_add]
    · rw [add_zero]
  · have update : u.updateItemSet = u := by
      simp only [Unit.updateItemSet, full, Unit.applyItemSetMods, decide_false, off, Bool.not_false, Bool.and_self,
        if_true]
    rw [update]
    exact c

end Carried

namespace Player

section Frames

variable {objmgr : ObjectMgr} {p p' : Player} {g : Nat} {it : Item}

/-- The entry of a guid is the one of its live item. -/
lemma entryOf_eq (live : p.heap g = some it) : p.entryOf g = some it.entry := congrArg (Option.map Item.entry) live

/-- Taking an item out of a slot keeps every entry. -/
lemma taken_entryOf {slot : Nat} (live : p.heap it.guid = some it) : (taken objmgr p slot it).entryOf = p.entryOf :=
  funext (setItem_entry (p := p) { it with slot := nullSlot } live rfl)

/-- Taking an item off a pet keeps every entry. -/
lemma petTaken_entryOf {i slot : Nat} {pet : Pet} (live : p.heap it.guid = some it) :
    (petTaken objmgr p i pet slot it).entryOf = p.entryOf :=
  funext (setItem_entry (p := p) { it with slot := nullSlot } live rfl)

/-- Putting an item into a slot keeps every entry. -/
lemma put_entryOf {pos : Nat} (live : p.heap g = some it) : (p.put pos g it).entryOf = p.entryOf := by
  funext g'
  rw [entryOf, put, requeue_heap]
  exact setItem_entry (p := p) { it with owner := p.guid, slot := pos, container := none } live rfl g'

/-- Putting an item on a pet keeps every entry. -/
lemma wear_entryOf {i pos : Nat} {pet : Pet} (live : p.heap g = some it) :
    (p.wear i pet pos g it).entryOf = p.entryOf := by
  funext g'
  rw [entryOf, wear, requeue_heap]
  exact setItem_entry (p := p) { it with owner := p.guid, slot := pos, container := some pet.guid } live rfl g'

/-- The entries on a pet depend on those of the guids that it wears. -/
lemma petEntryAt_congr {pet : Pet} (entries : ∀ e g, pet.equip e = some g → p'.entryOf g = p.entryOf g) (e : Nat) :
    p'.petEntryAt pet e = p.petEntryAt pet e := by
  rw [petEntryAt, petEntryAt]
  cases held : pet.equip e with
  | none => rfl
  | some g => exact entries e g held

/-- Storing an object leaves the pets and what they wear alone. -/
lemma Stored.storeItem_pets {pos : Nat} (h : p.Stored objmgr) (lt : pos < playerSlotsCount)
    (mv : p.Movable objmgr g it) (ok : p.storeItem pos g = .ok p') :
    p'.pets = p.pets ∧ ∀ l g', p.holds l = some g' → p'.entryOf g' = p.entryOf g' := by
  obtain ⟨-, rfl⟩ | ⟨it2, at2, -, merged⟩ := h.storeItem_cases lt mv ok
  · exact ⟨put_pets .., fun _ g' _ => congrFun (put_entryOf mv.live) g'⟩
  · obtain ⟨-, live2, -⟩ := h.items_of_itemAt at2
    obtain ⟨m, q, hp, rfl, here, -, -, off⟩ := merged
    refine ⟨rfl, fun l g' held => ?_⟩
    have away : g' ≠ g := fun eq => mv.floating l (eq ▸ held)
    by_cases eq : g' = it2.guid
    · subst eq
      rw [entryOf_eq live2]
      exact congrArg (Option.map Item.entry) here
    · exact congrArg (Option.map Item.entry) (off g' away eq).1

end Frames

/-- The invariant of the pets of a player. -/
def PetsCarry (objmgr : ObjectMgr) (read : Nat → StatMod → Int) (p : Player) : Prop :=
  ∀ i pet, p.pets i = some pet → Carried objmgr (read i) pet.unit kitSlots (p.petEntryAt pet)

section Steps

variable {objmgr : ObjectMgr} {p p' : Player} {read : Nat → StatMod → Int} {i slot : Nat} {pet : Pet} {it : Item}
  {proto : ItemPrototype}

/-- Nothing happens to the pets and to what they wear. -/
lemma PetsCarry.congr (c : PetsCarry objmgr read p) (pets : p'.pets = p.pets)
    (entries : ∀ l g, p.holds l = some g → p'.entryOf g = p.entryOf g) : PetsCarry objmgr read p' := by
  intro i pet here
  rw [pets] at here
  refine (c i pet here).congr fun e _ => petEntryAt_congr (fun e g held => ?_) e
  exact entries (.worn i e) g (Option.bind_eq_some_iff.mpr ⟨pet, here, held⟩)

/-- Only one pet changes. -/
lemma PetsCarry.setPet (c : PetsCarry objmgr read p) {pet' : Pet}
    (pets : p'.pets = Function.update p.pets i (some pet'))
    (entries : p'.entryOf = p.entryOf)
    (here : Carried objmgr (read i) pet'.unit kitSlots (p.petEntryAt pet')) : PetsCarry objmgr read p' := by
  have same : ∀ pet, p'.petEntryAt pet = p.petEntryAt pet := fun pet => by
    funext e
    rw [petEntryAt, petEntryAt, entries]
  intro j pet at_
  rw [same]
  rw [pets] at at_
  by_cases eq : j = i
  · subst eq
    rw [Function.update_self] at at_
    obtain rfl := Option.some.inj at_
    exact here
  · rw [Function.update_of_ne eq] at at_
    exact c j pet at_

/-- An item that is worn has its modifiers applied as they are. -/
lemma applyItemModsFor_container {u : Unit} (it : Item) (worn : it.container.isSome)
    (known : objmgr.getItemPrototype it.entry = some proto) (apply : Bool) :
    applyItemModsFor objmgr u it apply = u.applyItemMods proto apply := by
  simp only [applyItemModsFor, isEquipped, worn, Bool.true_or, if_true, known]

/-- What a pet wears is known. -/
lemma Stored.worn_facts (h : p.Stored objmgr) (epet : p.pets i = some pet)
    (e : (pet.equip slot).bind p.heap = some it) :
    i < maxPetSlot ∧ slot < equipmentSlotEnd ∧ p.heap it.guid = some it ∧ it.container.isSome ∧
      p.petEntryAt pet slot = some it.entry ∧ ∃ proto, objmgr.getItemPrototype it.entry = some proto := by
  obtain ⟨g, held, live⟩ := Option.bind_eq_some_iff.mp e
  have at_ : p.holds (.worn i slot) = some g := Option.bind_eq_some_iff.mpr ⟨pet, epet, held⟩
  obtain ⟨it', live', res, known⟩ := h.live at_
  obtain rfl := Option.some.inj (live.symm.trans live')
  obtain rfl := (h.known live).1
  have container : it.container = some pet.guid := by
    rw [res.2, epet]
    rfl
  refine ⟨(h.valid at_).1, (h.valid at_).2, live, by rw [container]; rfl, ?_, Option.isSome_iff_exists.mp known⟩
  rw [petEntryAt, held]
  exact entryOf_eq live

/-- New values of a pet leave the entries on it as they were. -/
lemma petEntryAt_update {u : Unit} {v : Option Nat} :
    p.petEntryAt { pet with unit := u, equip := Function.update pet.equip slot v } =
      Function.update (p.petEntryAt pet) slot (v.bind p.entryOf) := by
  funext e
  by_cases eq : e = slot
  · subst eq
    simp only [petEntryAt, Function.update_self]
  · simp only [petEntryAt, Function.update_of_ne eq]

/-- Taking an item off a pet takes its contribution away. -/
lemma PetsCarry.petTaken (c : PetsCarry objmgr read p) (h : p.Stored objmgr) (epet : p.pets i = some pet)
    (e : (pet.equip slot).bind p.heap = some it) :
    PetsCarry objmgr read (Player.petTaken objmgr p i pet slot it) := by
  obtain ⟨-, lt, live, worn, entry, proto, known⟩ := h.worn_facts epet e
  refine c.setPet (i := i) rfl (petTaken_entryOf live) ?_
  have unit : (if slot < equipmentSlotEnd then applyItemModsFor objmgr pet.unit it false else pet.unit) =
      pet.unit.applyItemMods proto false := by
    rw [if_pos lt, applyItemModsFor_container it worn known]
  rw [unit, petEntryAt_update]
  refine (c i pet epet).unapplied fun flag => ?_
  have sum := kitSum_update objmgr pet.unit.element (p.petEntryAt pet) lt none flag
  rwa [entry, ObjectMgr.contributionOf_some known, ObjectMgr.contributionOf_none, add_zero] at sum

/-- Putting an item on a pet adds its contribution. -/
lemma PetsCarry.petWorn (c : PetsCarry objmgr read p) (epet : p.pets i = some pet) (lt : slot < equipmentSlotEnd)
    (free : pet.equip slot = none) (live : p.heap it.guid = some it)
    (known : objmgr.getItemPrototype it.entry = some proto) :
    PetsCarry objmgr read (Player.petWorn objmgr p i pet slot it) := by
  have entries : (p.wear i pet slot it.guid it).entryOf = p.entryOf := wear_entryOf live
  have pets : (Player.petWorn objmgr p i pet slot it).pets = Function.update p.pets i (some
      { pet with
        unit := pet.unit.applyItemMods proto true
        equip := Function.update pet.equip slot (some it.guid) }) := by
    have unit := applyItemModsFor_container (u := pet.unit)
      { it with owner := p.guid, slot := slot, container := some pet.guid } rfl known true
    rw [Player.petWorn, unit, Player.setPet, wear, requeue_pets]
    exact Function.update_idem ..
  refine c.setPet pets entries ?_
  rw [petEntryAt_update]
  refine (c i pet epet).applied fun flag => ?_
  have none_ : p.petEntryAt pet slot = none := by
    rw [petEntryAt, free]
    rfl
  have sum := kitSum_update objmgr pet.unit.element (p.petEntryAt pet) lt (some it.entry) flag
  rw [none_, ObjectMgr.contributionOf_some known, ObjectMgr.contributionOf_none, add_zero] at sum
  rw [Option.bind_some, entryOf_eq live]
  exact sum

/-- An equip of a pet keeps the modifiers. -/
lemma PetEquipped.petsCarry {invslot : Nat} (h : p.Stored objmgr) (c : PetsCarry objmgr read p)
    (d : p.PetEquipped objmgr i invslot p') : PetsCarry objmgr read p' := by
  cases d with
  | refused => exact c
  | @done it pet pet' dest lt ipet at_ epet pos epet' =>
    obtain ⟨-, live, -, -, known⟩ := h.items_of_itemAt at_
    obtain ⟨proto, known⟩ := Option.isSome_iff_exists.mp known
    obtain ⟨st, mv⟩ := h.taken at_
    obtain ⟨st2, ⟨pet2, epet2, free⟩, keep⟩ := st.petSwapped dest epet lt
    obtain rfl := Option.some.inj (epet'.symm.trans epet2)
    have c1 : PetsCarry objmgr read (taken objmgr p invslot it) :=
      c.congr rfl fun _ g _ => congrFun (taken_entryOf live) g
    have c2 : PetsCarry objmgr read (petSwapped objmgr (taken objmgr p invslot it) i pet dest invslot) := by
      cases e2 : (pet.equip dest).bind (taken objmgr p invslot it).heap with
      | none =>
        simp only [petSwapped, e2]
        exact c1
      | some it2 =>
        simp only [petSwapped, e2]
        refine (c1.petTaken st epet e2).congr (put_pets ..) fun _ g _ => ?_
        exact congrFun (put_entryOf (petTaken_live ..)) g
    exact c2.petWorn epet' pos free (keep _ _ mv).live known

/-- An unequip of a pet keeps the modifiers. -/
lemma PetUnequipped.petsCarry {eqslot : Nat} (h : p.Stored objmgr) (c : PetsCarry objmgr read p)
    (d : p.PetUnequipped objmgr i eqslot p') : PetsCarry objmgr read p' := by
  cases d with
  | refused => exact c
  | moved epet at_ can stored =>
    obtain ⟨-, hi, -⟩ := canStoreItem_ok can
    obtain ⟨st, mv⟩ := h.petTaken epet at_
    obtain ⟨pets, entries⟩ := st.storeItem_pets (Nat.lt_trans hi (by decide)) mv stored
    exact (c.petTaken h epet at_).congr pets entries

end Steps

section Load

variable {objmgr : ObjectMgr} {p p' : Player}

/-- A pet beyond the slots of the source wears nothing. -/
lemma Stored.petEntryAt_eq_none (h : p.Stored objmgr) {i e : Nat} {pet : Pet} (epet : p.pets i = some pet)
    (out : ¬ i < maxPetSlot) : p.petEntryAt pet e = none := by
  rw [petEntryAt]
  cases held : pet.equip e with
  | none => rfl
  | some g =>
    have at_ : p.holds (.worn i e) = some g := Option.bind_eq_some_iff.mpr ⟨pet, epet, held⟩
    exact absurd (h.valid at_).1 out

/-- Loading a row changes no pet but its equipment. -/
lemma Loaded.units {db db' : Database} {row : LoginRow} (l : p.Loaded objmgr db row p' db') (i : Nat) :
    (p'.pets i).map Pet.unit = (p.pets i).map Pet.unit := by
  cases l with
  | refused | rejected | unplaced => rfl
  | placed => exact congrArg (Option.map Pet.unit) (congrFun (put_pets ..) i)
  | stacked => exact congrArg (Option.map Pet.unit) (congrFun (requeue_pets ..) i)
  | @worn d j pet data epet =>
    by_cases eq : i = j
    · subst eq
      have self := wear_pets_self (p.newObject (p.loadedItem row d)) i pet row.slot row.item (p.loadedItem row d)
      rw [epet]
      exact (congrArg (Option.map Pet.unit) self).trans rfl
    · refine congrArg (Option.map Pet.unit) ((congrFun (requeue_pets ..) i).trans ?_)
      exact setPet_pets_ne (p.newObject (p.loadedItem row d)) _ eq

/-- Applying the items of some slots of a pet, one after the other. -/
lemma Stored.applied_carried {base : StatMod → Int} {i : Nat} {pet : Pet} (h : p.Stored objmgr)
    (epet : p.pets i = some pet) {u : Unit} (done rest : List Nat)
    (c : Carried objmgr base u done (p.petEntryAt pet)) :
    let u' := (rest.filterMap fun e => (pet.equip e).bind p.heap).foldl
      (fun u it => applyItemModsFor objmgr u it true) u
    Carried objmgr base u' (done ++ rest) (p.petEntryAt pet) ∧ u'.itemSetApplied = u.itemSetApplied := by
  induction rest generalizing done u with
  | nil =>
    rw [List.append_nil]
    exact ⟨c, rfl⟩
  | cons e rest ih =>
    have assoc : done ++ e :: rest = (done ++ [e]) ++ rest := by simp
    have sum : ∀ flag, kitSum objmgr u.element (done ++ [e]) (p.petEntryAt pet) flag =
        kitSum objmgr u.element done (p.petEntryAt pet) flag +
          objmgr.contributionOf u.element flag (p.petEntryAt pet e) := fun flag => by
      rw [kitSum, total_append, total_singleton, kitSum]
    rw [assoc]
    cases found : (pet.equip e).bind p.heap with
    | none =>
      have entry : p.petEntryAt pet e = none := by
        rw [petEntryAt]
        cases held : pet.equip e with
        | none => rfl
        | some g =>
          rw [held, Option.bind_some] at found
          rw [Option.bind_some, entryOf, found]
          rfl
      have c' : Carried objmgr base u (done ++ [e]) (p.petEntryAt pet) := by
        intro flag
        rw [sum, entry, ObjectMgr.contributionOf_none, add_zero, c flag]
      simp only [List.filterMap_cons, found]
      exact ih (done ++ [e]) c'
    | some it =>
      obtain ⟨-, -, -, worn, entry, proto, known⟩ := h.worn_facts epet found
      have c' : Carried objmgr base (u.applyItemMods proto true) (done ++ [e]) (p.petEntryAt pet) := by
        refine c.applied fun flag => ?_
        rw [sum, entry, ObjectMgr.contributionOf_some known]
      obtain ⟨c'', applied⟩ := ih (done ++ [e]) c'
      simp only [List.filterMap_cons, found, List.foldl_cons, applyItemModsFor_container it worn known]
      exact ⟨c'', applied.trans (u.applyItemMods_rest proto true).2⟩

/-- A load applies what the pets wear to the modifiers that they were read with. -/
lemma load_petsCarry {db : Database} {petData : Nat → StatMod → Nat} {rows : List LoginRow} {r : Player × Database}
    (l : Session.Login p db rows) (reads : p.ReadsPets petData) (e : loadInventory objmgr p db rows = .ok r) :
    r.1.Stored objmgr ∧ PetsCarry objmgr p.petMods r.1 := by
  obtain ⟨st, w⟩ := l.ready objmgr
  have loaded := loadRows_induct (fun q _ _ => ∀ i, (q.pets i).map Pet.unit = (p.pets i).map Pet.unit) db rows st w
    (fun _ => rfl) fun q _ row _ _ _ _ _ inv l i => (l.units i).trans (inv i)
  obtain ⟨r', ran, rfl⟩ := loadInventory_ok e
  rw [ran, sat_ok] at loaded
  obtain ⟨h, units⟩ := loaded
  refine ⟨Session.applied_stored h, fun i pet here => ?_⟩
  obtain ⟨pet', here', rfl⟩ := Option.map_eq_some_iff.mp here
  have unit := units i
  rw [here', Option.map_some] at unit
  obtain ⟨pet0, here0, same⟩ := Option.map_eq_some_iff.mp unit.symm
  obtain ⟨-, -, off⟩ := reads i pet0 here0
  rw [same] at off
  have range : ∀ flag, i32 (p.petMods i flag) = pet'.unit.mods flag := by
    intro flag
    have mods : pet0.unit.mods flag = i32 (petData pet0.guid flag) := congrFun (reads i pet0 here0).1 flag
    rw [petMods, here0, Option.elim_some, ← same, mods, i32_i32]
  have bare : Carried objmgr (p.petMods i) pet'.unit [] (r'.1.petEntryAt pet') := by
    intro flag
    have nothing : kitSum objmgr pet'.unit.element [] (r'.1.petEntryAt pet') flag = 0 := rfl
    rw [nothing, Unit.bonus, off, Bool.false_and, if_neg Bool.false_ne_true, add_zero, add_zero, range]
  split_ifs with ipet
  · obtain ⟨carried, applied⟩ := h.applied_carried here' [] kitSlots bare
    exact carried.checked (applied.trans off)
  · -- a pet beyond the slots of the loop wears nothing
    intro flag
    have nothing : kitSum objmgr pet'.unit.element kitSlots (r'.1.petEntryAt pet') flag = 0 := by
      refine total_eq_zero fun e _ => ?_
      rw [h.petEntryAt_eq_none here' ipet, ObjectMgr.contributionOf_none]
    have bare' : pet'.unit.mods flag = i32 (p.petMods i flag + 0 + pet'.unit.bonus flag) := bare flag
    rwa [← nothing] at bare'

end Load

section Save

variable {objmgr : ObjectMgr} {p : Player} {read : Nat → StatMod → Int}

/-- A saved item leaves what the pets carry. -/
lemma PetsCarry.afterSave (h : p.Stored objmgr) (c : PetsCarry objmgr read p) (g : Nat) :
    PetsCarry objmgr read (p.afterSave g) := by
  by_cases removed : (p.marks g).uState = .removed
  · rw [Player.afterSave, if_pos removed]
    refine c.congr rfl fun l g' held => ?_
    have ne : g' ≠ g := fun eq => h.kept held (eq ▸ removed)
    exact congrArg (Option.map Item.entry) (deleteItem_heap_ne p ne)
  · rw [Player.afterSave, if_neg removed]
    exact c.congr rfl fun _ _ _ => rfl

/-- A saved queue leaves what the pets carry. -/
lemma Stored.saveQueue_petsCarry {db : Database} {queue : List (Option Nat)} {r : Player × Database}
    (h : p.Stored objmgr) (c : PetsCarry objmgr read p) (e : Player.saveQueue objmgr p db queue = .ok r) :
    PetsCarry objmgr read r.1 := by
  induction queue generalizing p db with
  | nil =>
    obtain rfl := Except.ok.inj e
    exact c
  | cons entry queue ih =>
    cases entry with
    | none => exact ih h c e
    | some g =>
      obtain ⟨r', first, rest⟩ := saveQueue_some_ok.mp e
      obtain ⟨it, -, eq⟩ := saveEntry_ok h first
      exact ih (eq ▸ h.afterSave g) (eq ▸ c.afterSave h g) rest

/-- A save keeps the modifiers. -/
lemma Stored.saveInventory_petsCarry {db : Database} {r : Player × Database} (h : p.Stored objmgr)
    (c : PetsCarry objmgr read p) (e : Player.saveInventory objmgr p db = .ok r) : PetsCarry objmgr read r.1 := by
  obtain ⟨r', saved, rfl⟩ := saveInventory_ok e
  exact (h.saveQueue_petsCarry c saved).congr rfl fun _ _ _ => rfl

end Save

end Player

section Records

open Legacy.Pets Legacy.Spells

variable {templates : Nat → Option SpellInfo}

/-- Fields outside the modifiers keep them. -/
lemma set_modifier (p : Legacy.Pets.Pet templates) {fields : List (Nat × Nat)}
    (out : ∀ f ∈ fields, f.1 < 44 ∨ 54 < f.1) (flag : StatMod) :
    (p.set fields).values flag.field = p.values flag.field := by
  refine setValues_of_notMem fun f mem eq => ?_
  have range := flag.field_range
  have away := out f mem
  omega

/-- A field outside the modifiers keeps them. -/
lemma set_one_modifier (p : Legacy.Pets.Pet templates) {index value : Nat} (out : index < 44 ∨ 54 < index)
    (flag : StatMod) : (p.set [(index, value)]).values flag.field = p.values flag.field := by
  refine set_modifier p (fun f mem => ?_) flag
  obtain rfl := List.mem_singleton.mp mem
  exact out

/-- The two fields of a guid below the modifiers keep them. -/
lemma set_guid_modifier (p : Legacy.Pets.Pet templates) {index low high : Nat} (out : index + 1 < 44) (flag : StatMod) :
    (p.set (guidFields index low high)).values flag.field = p.values flag.field := by
  refine set_modifier p (fun f mem => ?_) flag
  obtain rfl | mem := List.mem_cons.mp mem
  · exact .inl (Nat.lt_of_succ_lt out)
  · obtain rfl := List.mem_singleton.mp mem
    exact .inl out

/-- A pet that is loaded has the modifiers of its row. -/
lemma loadPet_modifier {root : Nat → Nat} {creatures : Nat → Option CreatureInfo} {owner guid : Nat} {f : PetRow}
    {p : Legacy.Pets.Pet templates} (e : Legacy.Pets.Pet.loadPet root creatures owner guid f = some p)
    (flag : StatMod) : p.values flag.field = f.data.getD flag.field 0 := by
  rw [Legacy.Pets.Pet.loadPet] at e
  split_ifs at e
  obtain ⟨p1, loaded, rfl⟩ := Option.map_eq_some_iff.mp e
  rw [Legacy.Pets.Pet.loadPetFromDB] at loaded
  split_ifs at loaded
  obtain ⟨petProto, -, rfl⟩ := Option.map_eq_some_iff.mp loaded
  have created : ∀ (q : Legacy.Pets.Pet templates) entry cinfo,
      (q.create guid entry cinfo).values flag.field = q.values flag.field := by
    intro q entry cinfo
    refine (set_modifier _ ?_ flag).trans (set_modifier _ ?_ flag)
    · simp [Legacy.Pets.Pet.createFields]
      decide
    · simp [guidFields]
      decide
  have columns : ∀ q : Legacy.Pets.Pet templates,
      (q.readColumns root owner guid petProto f).values flag.field = q.values flag.field := by
    intro q
    refine (set_one_modifier _ (by decide) flag).trans ((set_one_modifier _ (by decide) flag).trans ?_)
    refine (set_one_modifier _ (by decide) flag).trans ((set_guid_modifier _ (by decide) flag).trans ?_)
    exact (set_guid_modifier _ (by decide) flag).trans (set_guid_modifier q (by decide) flag)
  have placed : ∀ q : Legacy.Pets.Pet templates,
      ((q.visualize (u8 f.petslot) owner).setState .unchanged).values flag.field = q.values flag.field := by
    intro q
    have state : ∀ (q : Legacy.Pets.Pet templates) s, (q.setState s).values = q.values := by
      intro q s
      rw [Legacy.Pets.Pet.setState]
      split_ifs <;> rfl
    rw [state, Legacy.Pets.Pet.visualize, state]
    refine set_modifier _ ?_ flag
    simp [guidFields]
    decide
  rw [placed, columns, created]
  rfl

/-- A save writes the modifiers of a pet, unless it finds it unchanged. -/
lemma saveToDB_modifier {r r' : PetRecord templates} {order : List (Sigma fun _ : Nat => Spell)} {f : PetRow}
    (e : r.saveToDB order = some r') (row : r'.row = some f) (flag : StatMod) :
    if r.pet.uState = .unchanged then r.row = some f
    else f.data.getD flag.field 0 = r.pet.values flag.field := by
  have written := Legacy.Pets.Pet.getD_data r.pet (i := flag.field) (by
    have range := flag.field_range
    simp only [playerEnd]
    omega)
  rw [PetRecord.saveToDB] at e
  cases state : r.pet.uState with
  | new =>
    simp only [state, Option.some.injEq] at e
    subst e
    obtain rfl := Option.some.inj row
    exact written
  | changed =>
    simp only [state, Option.some.injEq] at e
    subst e
    obtain ⟨old, -, rfl⟩ := Option.map_eq_some_iff.mp row
    exact written
  | removed => simp [state] at e
  | unchanged =>
    simp only [state, Option.some.injEq] at e
    subst e
    exact row

end Records

/-- What a loop over `n` modifiers has collected, when their values are small. -/
structure ItemMods.Small (n : Nat) (m : ItemMods) : Prop where
  values : ∀ flag v, m.itemMods flag = some v → -2 ^ 15 ≤ v ∧ v < 2 ^ 15
  element : -(n * 2 ^ 15 : Int) ≤ m.el_value ∧ m.el_value ≤ n * 2 ^ 15

/-- One more of ten stats stays in range. -/
lemma ItemMods.Small.add {n element : Nat} {m : ItemMods} {s : ItemStat} (small : m.Small n) (few : n < 10)
    (range : -2 ^ 15 ≤ s.itemStatValue ∧ s.itemStatValue < 2 ^ 15) : (m.add element s).Small (n + 1) := by
  have wider : -((n + 1 : Nat) * 2 ^ 15 : Int) ≤ m.el_value ∧ m.el_value ≤ (n + 1 : Nat) * 2 ^ 15 := by
    have old := small.element
    push_cast
    omega
  rw [ItemMods.add]
  cases elementOf s.itemStatType with
  | some e =>
    dsimp only
    split_ifs
    · refine ⟨small.values, ?_⟩
      have old := small.element
      have sum : i32 (m.el_value + s.itemStatValue) = m.el_value + s.itemStatValue := by
        apply i32_of_range <;> omega
      rw [sum]
      push_cast
      omega
    · exact ⟨small.values, wider⟩
  | none =>
    dsimp only
    cases statModOf s.itemStatType with
    | none => exact ⟨small.values, wider⟩
    | some flag =>
      dsimp only
      split_ifs
      · exact ⟨small.values, wider⟩
      · refine ⟨fun flag' v eq => ?_, wider⟩
        dsimp only at eq
        by_cases same : flag' = flag
        · subst same
          rw [Function.update_self] at eq
          obtain rfl := Option.some.inj eq
          exact range
        · rw [Function.update_of_ne same] at eq
          exact small.values flag' v eq

/-- A list of at most ten stats stays in range. -/
lemma ItemMods.Small.foldl {n element : Nat} {m : ItemMods} (ss : List ItemStat) (small : m.Small n)
    (few : n + ss.length ≤ 10) (range : ∀ s ∈ ss, -2 ^ 15 ≤ s.itemStatValue ∧ s.itemStatValue < 2 ^ 15) :
    (ss.foldl (ItemMods.add element) m).Small (n + ss.length) := by
  induction ss generalizing n m with
  | nil => exact small
  | cons s ss ih =>
    rw [List.length_cons] at few ⊢
    have added : (m.add element s).Small (n + 1) := small.add (by omega) (range s List.mem_cons_self)
    have next := ih added (by omega) fun s mem => range s (List.mem_cons_of_mem _ mem)
    rwa [show n + (ss.length + 1) = n + 1 + ss.length by omega]

section Range

variable {objmgr : ObjectMgr} (columns : objmgr.StatColumns)
include columns

/-- What one item adds stays in range, by the columns of its prototype. -/
lemma ObjectMgr.StatColumns.contributionOf_range (element : Nat) (flag : StatMod) (entry : Option Nat) :
    -(11 * 2 ^ 15) ≤ objmgr.contributionOf element flag entry ∧
      objmgr.contributionOf element flag entry ≤ 11 * 2 ^ 15 := by
  rw [ObjectMgr.contributionOf]
  cases found : entry.bind objmgr.getItemPrototype with
  | none =>
    dsimp only
    omega
  | some proto =>
    obtain ⟨id, -, found⟩ := Option.bind_eq_some_iff.mp found
    obtain ⟨few, range⟩ := columns proto (ObjectMgr.mem_of_getItemPrototype found)
    have start : ItemMods.Small 0 ⟨fun _ => none, false, 0, 0⟩ := ⟨fun _ _ eq => absurd eq (by simp), by simp⟩
    have small : (proto.itemMods element).Small (0 + proto.itemState.length) :=
      start.foldl proto.itemState (by omega) range
    dsimp only
    rw [ItemPrototype.contribution]
    cases mod : (proto.itemMods element).itemMods flag with
    | none =>
      dsimp only
      omega
    | some v =>
      have value := small.values flag v mod
      have el := small.element
      dsimp only
      split_ifs
      · have sum : i32 (v + (proto.itemMods element).el_value) = v + (proto.itemMods element).el_value := by
          apply i32_of_range <;> omega
        omega
      · omega

/-- What a whole kit adds stays in range. -/
lemma ObjectMgr.StatColumns.kitSum_range (element : Nat) (w : Nat → Option Nat) (flag : StatMod) :
    -(66 * 2 ^ 15) ≤ kitSum objmgr element kitSlots w flag ∧ kitSum objmgr element kitSlots w flag ≤ 66 * 2 ^ 15 := by
  have each := columns.contributionOf_range element flag
  have six : kitSum objmgr element kitSlots w flag =
      objmgr.contributionOf element flag (w 0) + (objmgr.contributionOf element flag (w 1) +
        (objmgr.contributionOf element flag (w 2) + (objmgr.contributionOf element flag (w 3) +
          (objmgr.contributionOf element flag (w 4) + (objmgr.contributionOf element flag (w 5) + 0))))) := rfl
  have e0 := each (w 0)
  have e1 := each (w 1)
  have e2 := each (w 2)
  have e3 := each (w 3)
  have e4 := each (w 4)
  have e5 := each (w 5)
  omega

end Range

namespace Household

variable {objmgr : ObjectMgr} {h h' : Household}

/-- The invariant of a household. -/
structure Kept (objmgr : ObjectMgr) (h : Household) : Prop where
  stored : h.player.Stored objmgr
  carry : h.player.PetsCarry objmgr h.read
  range : ∀ i flag, -2 ^ 31 ≤ h.read i flag ∧ h.read i flag < 2 ^ 31

/-- After a login the household is kept. -/
lemma LoggedIn.kept {db : Database} {petData : Nat → StatMod → Nat} (l : LoggedIn objmgr db petData h) :
    h.Kept objmgr := by
  cases l with
  | @load p rows r l reads e =>
    obtain ⟨stored, carry⟩ := Player.load_petsCarry l reads e
    refine ⟨stored, carry, fun i flag => ?_⟩
    show -2 ^ 31 ≤ p.petMods i flag ∧ p.petMods i flag < 2 ^ 31
    cases here : p.pets i with
    | none =>
      rw [Player.petMods, here, Option.elim_none]
      omega
    | some pet =>
      have mods : pet.unit.mods flag = i32 (petData pet.guid flag) := congrFun (reads i pet here).1 flag
      rw [Player.petMods, here, Option.elim_some, mods, i32]
      omega

/-- Every step keeps the invariant. -/
lemma Step.kept (k : h.Kept objmgr) (s : h.Step objmgr h') : h'.Kept objmgr := by
  cases s with
  | relog l => exact l.kept
  | petEquip e =>
    have d := (k.stored.handlePetEquip ..).of_ok e
    exact ⟨d.stored k.stored, d.petsCarry k.stored k.carry, k.range⟩
  | petUnequip e =>
    have d := (k.stored.handlePetUnequip ..).of_ok e
    exact ⟨d.stored k.stored, d.petsCarry k.stored k.carry, k.range⟩
  | petChanged => exact ⟨k.stored, k.carry, k.range⟩
  | save e => exact ⟨k.stored.saveInventory e, k.stored.saveInventory_petsCarry k.carry e, k.range⟩

/-- Every reachable household is kept. -/
lemma Reachable.kept (r : Reachable objmgr h) : h.Kept objmgr := by
  induction r with
  | login l => exact l.kept
  | step _ s ih => exact s.kept ih

/-- In every reachable state the modifiers of the pets are exact when the last load read none. -/
theorem exact_iff (columns : objmgr.StatColumns) (r : Reachable objmgr h) :
    h.Exact objmgr ↔ ∀ i pet, h.player.pets i = some pet → ∀ flag, h.read i flag = 0 := by
  have k := r.kept
  -- what is worn and the bonus are far from the ends of an `int32`
  have each : ∀ i pet, h.player.pets i = some pet → ∀ flag,
      (pet.unit.mods flag = kitSum objmgr pet.unit.element kitSlots (h.player.petEntryAt pet) flag +
        pet.unit.bonus flag ↔ h.read i flag = 0) := by
    intro i pet here flag
    have sum := columns.kitSum_range pet.unit.element (h.player.petEntryAt pet) flag
    have bonus : 0 ≤ pet.unit.bonus flag ∧ pet.unit.bonus flag ≤ 5 := by
      rw [Unit.bonus]
      split_ifs <;> simp
    have range := k.range i flag
    rw [k.carry i pet here flag, i32]
    omega
  constructor
  · intro exact i pet here flag
    exact (each i pet here flag).mp (exact i pet here flag)
  · intro none i pet here flag
    exact (each i pet here flag).mpr (none i pet here flag)

/-- A character with a pet whose row has these modifiers. -/
def petOwner (petData : Nat → StatMod → Nat) : Player :=
  { Session.returned 1 0 2 with
    pets := fun i =>
      if i = 0 then some ⟨7, ⟨1, 1, 94, 66, 0, 0, fun flag => i32 (petData 7 flag), 0, false⟩, fun _ => none⟩
      else none }

/-- It logs in to these rows. -/
def entered (petData : Nat → StatMod → Nat) (rows : List LoginRow) : Household :=
  match Player.loadInventory Player.armoury (petOwner petData) (Session.holding 1 rows) rows with
  | .ok r => ⟨r.1, r.2, petData, fun _ => false, (petOwner petData).petMods⟩
  | .error _ => ⟨petOwner petData, Session.holding 1 rows, petData, fun _ => false, (petOwner petData).petMods⟩

/-- It puts the item of the first inventory slot on its pet. -/
def petArmed : Household :=
  let h := entered (fun _ _ => 0) (Player.rowsOf [(10, 2)])
  match (h.player.handlePetEquip Player.armoury 1 1).result with
  | .ok o => { h with player := o.player }
  | .error _ => h

/-- The player of the examples has one pet, without equipment. -/
lemma petOwner_pets {petData : Nat → StatMod → Nat} {i : Nat} {pet : Pet} (e : (petOwner petData).pets i = some pet) :
    i = 0 ∧ pet = ⟨7, ⟨1, 1, 94, 66, 0, 0, fun flag => i32 (petData 7 flag), 0, false⟩, fun _ => none⟩ := by
  simp only [petOwner] at e
  split_ifs at e with zero
  exact ⟨zero, (Option.some.inj e).symm⟩

/-- Rows with distinct items in the order of their slots are those of a login. -/
lemma petOwner_login (petData : Nat → StatMod → Nat) {rows : List LoginRow} (nodup : (rows.map LoginRow.item).Nodup)
    (sorted : rows.Pairwise fun r r' => r.slot ≤ r'.slot)
    (coherent : ∀ row ∈ rows, ∀ d, row.data = some d → d.entry = row.entry) (known : ∀ row ∈ rows, row.item ≤ 2) :
    Session.Login (petOwner petData) (Session.holding 1 rows) rows := by
  have l : Session.Login (Session.returned 1 0 2) (Session.holding 1 rows) rows :=
    Session.login_holding (by decide) nodup sorted coherent known
  refine ⟨⟨rfl, rfl, ?_, ?_, l.fresh.gold, rfl, rfl, rfl, rfl⟩, l.result, l.coherent, l.beyond⟩
  · intro i pet here
    rw [(petOwner_pets here).2]
  · intro i j a b ea eb _
    rw [(petOwner_pets ea).1, (petOwner_pets eb).1]

/-- The load of such rows is a login. -/
lemma login_petOwner (petData : Nat → StatMod → Nat) {rows : List LoginRow} {r : Player × Database}
    (nodup : (rows.map LoginRow.item).Nodup) (sorted : rows.Pairwise fun r r' => r.slot ≤ r'.slot)
    (coherent : ∀ row ∈ rows, ∀ d, row.data = some d → d.entry = row.entry) (known : ∀ row ∈ rows, row.item ≤ 2)
    (e : Player.loadInventory Player.armoury (petOwner petData) (Session.holding 1 rows) rows = .ok r) :
    LoggedIn Player.armoury (Session.holding 1 rows) petData
      ⟨r.1, r.2, petData, fun _ => false, (petOwner petData).petMods⟩ := by
  refine .load (petOwner_login petData nodup sorted coherent known) ?_ e
  intro i pet here
  rw [(petOwner_pets here).2]
  exact ⟨rfl, rfl, rfl⟩

/-- The pet is saved with its sword on. -/
def petSaved : Household :=
  let h := { petArmed with changed := Function.update petArmed.changed 0 true }
  match h.player.saveInventory Player.armoury h.db with
  | .ok r => { h with player := r.1, db := r.2, petData := h.savePets, changed := fun _ => false }
  | .error _ => h

/-- The rows after the save: the sword is on the pet. -/
def swordOnPet : List LoginRow := [⟨some ⟨2, 1⟩, 7, 3, 1, 2⟩]

/-- The state of the armed pet is reachable. -/
lemma petArmed_reachable : Reachable Player.armoury petArmed := by
  have login : LoggedIn Player.armoury (Session.holding 1 (Player.rowsOf [(10, 2)])) (fun _ _ => 0)
      (entered (fun _ _ => 0) (Player.rowsOf [(10, 2)])) :=
    login_petOwner (fun _ _ => 0) (by decide) (by decide) (by decide) (by decide) rfl
  exact .step (.login login) (.petEquip (show (Player.handlePetEquip _ _ 1 1).result = .ok _ from rfl))

/-- The prototypes of the examples have their stats in the range of their columns. -/
lemma armoury_statColumns : Player.armoury.StatColumns := by
  rw [ObjectMgr.StatColumns]
  decide

/-- A pet puts on a sword. -/
theorem exact_petArmed : petArmed.Exact Player.armoury := by
  refine (exact_iff armoury_statColumns petArmed_reachable).mpr fun i pet _ flag => ?_
  show (petOwner fun _ _ => 0).petMods i flag = 0
  rw [Player.petMods]
  cases here : (petOwner fun _ _ => 0).pets i with
  | none => rfl
  | some pet =>
    obtain ⟨-, rfl⟩ := petOwner_pets here
    rfl

/-- The state of the saved pet is reachable. -/
lemma petSaved_reachable : Reachable Player.armoury petSaved :=
  .step (.step petArmed_reachable (.petChanged 0)) (.save rfl)

/-- The database of the saved pet has the sword on the pet. -/
lemma petSaved_db : petSaved.db = Session.holding 1 swordOnPet := by
  have saved : petSaved.db = ((Session.holding 1 (Player.rowsOf [(10, 2)])).updateInventory 1
      ⟨1, 7, 3, 2⟩).updateInstance 1 ⟨1, some ⟨2, 1⟩⟩ := rfl
  apply Session.eq_holding
  · intro row mem
    rw [List.mem_singleton.mp mem]
    exact ⟨rfl, rfl⟩
  · intro g out
    have off := (Database.off_updateInventory (Session.holding 1 (Player.rowsOf [(10, 2)])) 1 ⟨1, 7, 3, 2⟩).trans
      (Database.off_updateInstance _ 1 ⟨1, some ⟨2, 1⟩⟩)
    obtain ⟨inventory, inst⟩ := off g (List.ne_of_not_mem_cons out)
    have other : g ∉ (Player.rowsOf [(10, 2)]).map LoginRow.item := out
    obtain ⟨inventory', inst'⟩ := Session.holding_absent 1 other
    rw [saved]
    exact ⟨inventory.trans inventory', inst.trans inst'⟩

/-- The sword that a pet was saved with counts twice after the next login. -/
theorem not_exact_relogged :
    Reachable Player.armoury (entered petSaved.petData swordOnPet) ∧
      ¬ (entered petSaved.petData swordOnPet).Exact Player.armoury := by
  have login : LoggedIn Player.armoury petSaved.db petSaved.petData (entered petSaved.petData swordOnPet) := by
    rw [petSaved_db]
    exact login_petOwner petSaved.petData (by decide) (by decide) (by decide) (by decide) rfl
  refine ⟨.step petSaved_reachable (.relog login), fun exact => ?_⟩
  exact absurd (exact 0 _ rfl .atkMod) (by decide +kernel)

end Household

end Legacy.Inventory
