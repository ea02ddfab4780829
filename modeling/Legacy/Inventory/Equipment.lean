import Legacy.Inventory.Session
import Legacy.Lib.Tally

/-!
# The modifiers of the equipment

The modifiers of a player are kept up to date by differences: an item adds its contribution when it is put
on and takes it away when it is taken off, and the bonus of a full set comes and goes. `Tallies` says that
the differences have added up to what the worn entries are worth; putting on, taking off and checking the
set keep it. The rest of the module says which entries are in the slots after each storage operation.
-/

namespace Legacy.Inventory
open Legacy.Lib

namespace ObjectMgr

/-- What a worn entry adds to a modifier. -/
def contributionOf (objmgr : ObjectMgr) (element : Nat) (flag : StatMod) (entry : Option Nat) : Int :=
  match entry.bind objmgr.getItemPrototype with
  | some proto => proto.contribution element flag
  | none => 0

/-- How many marks of the element a worn entry carries. -/
def marksOf (objmgr : ObjectMgr) (element : Nat) (entry : Option Nat) : Nat :=
  match entry.bind objmgr.getItemPrototype with
  | some proto => proto.elementMarks element
  | none => 0

/-- An empty slot adds nothing. -/
lemma contributionOf_none (objmgr : ObjectMgr) (element : Nat) (flag : StatMod) :
    objmgr.contributionOf element flag none = 0 := rfl

/-- An empty slot has no marks. -/
lemma marksOf_none (objmgr : ObjectMgr) (element : Nat) : objmgr.marksOf element none = 0 := rfl

section Known

variable {objmgr : ObjectMgr} {entry : Nat} {proto : ItemPrototype}
  (known : objmgr.getItemPrototype entry = some proto) (element : Nat)
include known

/-- A prototype adds what its modifiers say. -/
lemma contributionOf_some (flag : StatMod) :
    objmgr.contributionOf element flag (some entry) = proto.contribution element flag := by
  simp only [contributionOf, Option.bind_some, known]

/-- A prototype has the marks of its element. -/
lemma marksOf_some : objmgr.marksOf element (some entry) = proto.elementMarks element := by
  simp only [marksOf, Option.bind_some, known]

end Known

end ObjectMgr

section Kits

variable (objmgr : ObjectMgr) (element : Nat) (slots : List Nat)

/-- The equipment slots. -/
def kitSlots : List Nat := List.range equipmentSlotEnd

/-- The summed contributions of the entries worn in some slots. -/
def kitSum (w : Nat → Option Nat) (flag : StatMod) : Int :=
  total slots fun e => objmgr.contributionOf element flag (w e)

/-- The element marks of the entries worn in some slots. -/
def kitMarks (w : Nat → Option Nat) : Nat := total slots fun e => objmgr.marksOf element (w e)

variable {w w' : Nat → Option Nat} {slots}

/-- The sum of a kit depends on its slots. -/
lemma kitSum_congr (same : ∀ e ∈ slots, w' e = w e) (flag : StatMod) :
    kitSum objmgr element slots w' flag = kitSum objmgr element slots w flag :=
  total_congr fun e mem => congrArg (objmgr.contributionOf element flag) (same e mem)

/-- So do its marks. -/
lemma kitMarks_congr (same : ∀ e ∈ slots, w' e = w e) :
    kitMarks objmgr element slots w' = kitMarks objmgr element slots w :=
  total_congr fun e mem => congrArg (objmgr.marksOf element) (same e mem)

end Kits

namespace Unit

/-- What the applied set bonus adds to a modifier. -/
def bonus (u : Unit) (flag : StatMod) : Int := if u.itemSetApplied && inSetBonus flag then 5 else 0

/-- The counter of the set is incremented up to five. -/
lemma incItemSet_iterate (n : Nat) (u : Unit) (le : u.itemSet + n ≤ 5) :
    incItemSet^[n] u = { u with itemSet := u.itemSet + n } := by
  induction n generalizing u with
  | zero => rfl
  | succ n ih =>
    have lt : u.itemSet < 5 := by omega
    have inc : u.incItemSet = { u with itemSet := u.itemSet + 1 } := by
      simp only [incItemSet, if_pos lt]
    have le' : u.incItemSet.itemSet + n ≤ 5 := by
      rw [inc]
      simp only
      omega
    rw [Function.iterate_succ_apply, ih _ le', inc]
    simp only [Nat.add_assoc, Nat.add_comm 1]

/-- The counter of the set is decremented down to zero. -/
lemma decItemSet_iterate (n : Nat) (u : Unit) :
    decItemSet^[n] u = { u with itemSet := u.itemSet - n } := by
  induction n generalizing u with
  | zero => rfl
  | succ n ih =>
    have dec : u.decItemSet = { u with itemSet := u.itemSet - 1 } := by
      simp only [decItemSet]
      split_ifs with pos
      · rfl
      · rw [Nat.eq_zero_of_not_pos pos]
    rw [Function.iterate_succ_apply, ih, dec]
    simp only [Nat.sub_sub, Nat.add_comm 1]

/-- A modifier changes by the contribution, which is nothing where the prototype has no such modifier. -/
lemma applyItemMods_mods {u : Unit} {flag : StatMod} {x : Int} (proto : ItemPrototype) (apply : Bool)
    (e : u.mods flag = i32 x) :
    (u.applyItemMods proto apply).mods flag =
      i32 (if apply then x + proto.contribution u.element flag
        else x - proto.contribution u.element flag) := by
  cases mod : (proto.itemMods u.element).itemMods flag with
  | none =>
    have zero : proto.contribution u.element flag = 0 := by
      simp only [ItemPrototype.contribution, mod]
    simp [applyItemMods, mod, zero, e]
  | some v =>
    simp only [applyItemMods, mod, Option.isSome_some, if_true, e]
    split_ifs
    · rw [i32_i32_add]
    · rw [i32_i32_sub]

end Unit

/-- The modifiers and the set counter of a unit are what the entries in some slots are worth. -/
structure Tallies (objmgr : ObjectMgr) (u : Unit) (slots : List Nat) (w : Nat → Option Nat) : Prop where
  mods : ∀ flag, u.mods flag = i32 (kitSum objmgr u.element slots w flag + u.bonus flag)
  set : u.itemSet = kitMarks objmgr u.element slots w

namespace Tallies

variable {objmgr : ObjectMgr} {u : Unit} {slots slots' : List Nat} {w w' : Nat → Option Nat}
  {proto : ItemPrototype}

/-- An item is put on while the marks fit into the counter. -/
lemma applied (t : Tallies objmgr u slots w)
    (sum : ∀ flag, kitSum objmgr u.element slots' w' flag =
      kitSum objmgr u.element slots w flag + proto.contribution u.element flag)
    (marks : kitMarks objmgr u.element slots' w' =
      kitMarks objmgr u.element slots w + proto.elementMarks u.element)
    (le : kitMarks objmgr u.element slots' w' ≤ 5) :
    Tallies objmgr (u.applyItemMods proto true) slots' w' ∧
      (u.applyItemMods proto true).element = u.element ∧
      (u.applyItemMods proto true).itemSetApplied = u.itemSetApplied := by
  have inc := Unit.incItemSet_iterate (proto.elementMarks u.element) u (by
    rw [t.set]
    omega)
  have element : (u.applyItemMods proto true).element = u.element := by
    simp only [Unit.applyItemMods, if_true, inc]
  have applied : (u.applyItemMods proto true).itemSetApplied = u.itemSetApplied := by
    simp only [Unit.applyItemMods, if_true, inc]
  refine ⟨⟨fun flag => ?_, ?_⟩, element, applied⟩
  · rw [Unit.applyItemMods_mods proto true (t.mods flag), if_pos rfl, element, sum flag, Unit.bonus,
      Unit.bonus, applied]
    congr 1
    ring
  · rw [element, marks, ← t.set]
    simp only [Unit.applyItemMods, if_true, inc]

/-- An item is taken off. -/
lemma unapplied (t : Tallies objmgr u slots w)
    (sum : ∀ flag, kitSum objmgr u.element slots' w' flag + proto.contribution u.element flag =
      kitSum objmgr u.element slots w flag)
    (marks : kitMarks objmgr u.element slots' w' + proto.elementMarks u.element =
      kitMarks objmgr u.element slots w) :
    Tallies objmgr (u.applyItemMods proto false) slots' w' ∧
      (u.applyItemMods proto false).element = u.element ∧
      (u.applyItemMods proto false).itemSetApplied = u.itemSetApplied := by
  have dec := Unit.decItemSet_iterate (proto.elementMarks u.element) u
  have element : (u.applyItemMods proto false).element = u.element := by
    simp only [Unit.applyItemMods, Bool.false_eq_true, if_false, dec]
  have applied : (u.applyItemMods proto false).itemSetApplied = u.itemSetApplied := by
    simp only [Unit.applyItemMods, Bool.false_eq_true, if_false, dec]
  refine ⟨⟨fun flag => ?_, ?_⟩, element, applied⟩
  · rw [Unit.applyItemMods_mods proto false (t.mods flag), if_neg (by decide), element, ← sum flag,
      Unit.bonus, Unit.bonus, applied]
    congr 1
    ring
  · have set := t.set
    simp only [Unit.applyItemMods, Bool.false_eq_true, if_false, dec]
    omega

/-- The check of the set adds the bonus once, unless it was there before. -/
lemma checked (t : Tallies objmgr u slots w)
    (once : kitMarks objmgr u.element slots w = 5 → u.itemSetApplied = false) :
    Tallies objmgr u.updateItemSet slots w ∧ u.updateItemSet.element = u.element ∧
      (u.updateItemSet.itemSetApplied = true ↔ kitMarks objmgr u.element slots w = 5) := by
  by_cases full : u.itemSet = 5
  · have off := once (t.set.symm.trans full)
    have update : u.updateItemSet = { u with
        itemSetApplied := true
        mods := fun flag => if Unit.inSetBonus flag then i32 (u.mods flag + 5) else u.mods flag } := by
      simp only [Unit.updateItemSet, full, Unit.applyItemSetMods, decide_true, Bool.not_true,
        Bool.false_and, Bool.false_eq_true, if_false, if_true]
    rw [update]
    refine ⟨⟨fun flag => ?_, t.set⟩, rfl, iff_of_true rfl (t.set.symm.trans full)⟩
    have before := t.mods flag
    simp only [Unit.bonus, off, Bool.false_and, Bool.false_eq_true, if_false, add_zero] at before
    simp only [Unit.bonus, Bool.true_and, before]
    split_ifs
    · rw [i32_i32_add]
    · rw [add_zero]
  · have notFull : kitMarks objmgr u.element slots w ≠ 5 := fun eq => full (t.set.trans eq)
    cases on : u.itemSetApplied with
    | false =>
      have update : u.updateItemSet = u := by
        simp only [Unit.updateItemSet, full, Unit.applyItemSetMods, decide_false, on, Bool.not_false,
          Bool.and_self, if_true]
      rw [update]
      exact ⟨t, rfl, iff_of_false (by simp [on]) notFull⟩
    | true =>
      have update : u.updateItemSet = { u with
          itemSetApplied := false
          mods := fun flag => if Unit.inSetBonus flag then i32 (u.mods flag + -5) else u.mods flag } := by
        simp only [Unit.updateItemSet, full, Unit.applyItemSetMods, decide_false, on, Bool.not_false,
          Bool.not_true, Bool.and_false, Bool.false_eq_true, if_false]
      rw [update]
      refine ⟨⟨fun flag => ?_, t.set⟩, rfl, iff_of_false (by simp) notFull⟩
      have before := t.mods flag
      simp only [Unit.bonus, on, Bool.true_and] at before
      simp only [Unit.bonus, Bool.false_and, Bool.false_eq_true, if_false, add_zero, before]
      split_ifs
      · rw [i32_i32_add, add_assoc]
        simp
      · rw [add_zero]

/-- Only the slots count. -/
lemma congr (t : Tallies objmgr u slots w) (same : ∀ e ∈ slots, w' e = w e) :
    Tallies objmgr u slots w' := by
  refine ⟨fun flag => ?_, ?_⟩
  · rw [t.mods flag, kitSum_congr objmgr u.element same]
  · rw [t.set, kitMarks_congr objmgr u.element same]

end Tallies

section Kits

variable (objmgr : ObjectMgr) (element : Nat) (w : Nat → Option Nat) {e : Nat}

/-- The kit has each slot once. -/
lemma kitSlots_nodup : kitSlots.Nodup := List.nodup_range

/-- The kit has the slots before the end of the equipment. -/
lemma mem_kitSlots : e ∈ kitSlots ↔ e < equipmentSlotEnd := List.mem_range

/-- A slot of the kit is exchanged in the sum. -/
lemma kitSum_update (lt : e < equipmentSlotEnd) (v : Option Nat) (flag : StatMod) :
    kitSum objmgr element kitSlots (Function.update w e v) flag + objmgr.contributionOf element flag (w e) =
      kitSum objmgr element kitSlots w flag + objmgr.contributionOf element flag v :=
  total_update kitSlots_nodup (mem_kitSlots.mpr lt) w v _

/-- The same for the marks. -/
lemma kitMarks_update (lt : e < equipmentSlotEnd) (v : Option Nat) :
    kitMarks objmgr element kitSlots (Function.update w e v) + objmgr.marksOf element (w e) =
      kitMarks objmgr element kitSlots w + objmgr.marksOf element v :=
  total_update kitSlots_nodup (mem_kitSlots.mpr lt) w v _

end Kits

namespace Player

/-- The entry of the item in a slot. -/
def entryAt (p : Player) (slot : Nat) : Option Nat := (p.itemAt slot).map Item.entry

section Entries

variable {objmgr : ObjectMgr} {p p' : Player} {slot g : Nat} {it : Item}

/-- The entry in a slot depends on the slot and its item. -/
lemma entryAt_congr (items : p'.items slot = p.items slot)
    (heap : ∀ g, p.items slot = some g → (p'.heap g).map Item.entry = (p.heap g).map Item.entry) :
    p'.entryAt slot = p.entryAt slot := by
  simp only [entryAt, itemAt, items]
  cases e : p.items slot with
  | none => rfl
  | some g => exact heap g e

/-- An item that is written with its entry. -/
lemma setItem_entry (it' : Item) (live : p.heap g = some it) (same : it'.entry = it.entry) (g' : Nat) :
    ((p.setItem g it').heap g').map Item.entry = (p.heap g').map Item.entry := by
  by_cases eq : g' = g
  · rw [eq, setItem_heap_self, live, Option.map_some, Option.map_some, same]
  · rw [setItem_heap_ne p it' eq]

/-- A stack that is counted anew keeps its entry. -/
lemma entryAt_recount (live : p.heap it.guid = some it) (count slot : Nat) :
    (p.recount it count).entryAt slot = p.entryAt slot := by
  refine entryAt_congr (congrFun (requeue_items ..) slot) fun g _ => ?_
  rw [recount, requeue_heap]
  exact setItem_entry { it with count := count } live rfl g

/-- A slot is emptied. -/
lemma entryAt_setSlot_none (slot' : Nat) :
    (p.setSlot slot none).entryAt slot' = Function.update p.entryAt slot none slot' := by
  by_cases eq : slot' = slot
  · subst eq
    simp only [entryAt, itemAt, setSlot_items_self, Option.bind_none, Option.map_none,
      Function.update_self]
  · rw [Function.update_of_ne eq]
    exact entryAt_congr (setSlot_items_ne p none eq) fun _ _ => rfl

/-- A slot is emptied, and its item marked. -/
lemma entryAt_emptied (live : p.heap it.guid = some it) (slot' : Nat) :
    (p.emptied slot it).entryAt slot' = Function.update p.entryAt slot none slot' := by
  rw [← entryAt_setSlot_none]
  exact entryAt_congr rfl fun g _ => 
    setItem_entry (p := p.setSlot slot none) { it with slot := nullSlot } live rfl g

/-- An item is taken out of its slot. -/
lemma entryAt_taken (live : p.heap it.guid = some it) (slot' : Nat) :
    (taken objmgr p slot it).entryAt slot' = Function.update p.entryAt slot none slot' :=
  entryAt_emptied live slot'

/-- An item is put into a slot. -/
lemma entryAt_put (fl : p.Floating g) (slot' : Nat) :
    (p.put slot g it).entryAt slot' = Function.update p.entryAt slot (some it.entry) slot' := by
  by_cases eq : slot' = slot
  · subst eq
    simp only [entryAt, itemAt, put_items_self, Option.bind_some, put_heap_self, Option.map_some,
      Function.update_self]
  · rw [Function.update_of_ne eq]
    refine entryAt_congr (put_items_ne p g it eq) fun g' held => ?_
    have ne : g' ≠ g := fun eq => fl (.slot slot') (eq ▸ held)
    rw [put_heap_ne p slot it ne]

/-- Discarding an item that is in no slot changes no entry. -/
lemma Discarded.entryAt (fl : p.Floating g) (d : Discarded g p p') (slot : Nat) :
    p'.entryAt slot = p.entryAt slot := by
  obtain ⟨m, q, hp, rfl, -, off⟩ := d
  refine entryAt_congr rfl fun g' held => ?_
  rw [← (off g' fun eq => fl (.slot slot) (eq ▸ held)).1]

/-- Merging an item that is in no slot changes no entry. -/
lemma Merged.entryAt {g2 : Nat} {it2 : Item} (fl : p.Floating g) (live2 : p.heap g2 = some it2)
    (d : Merged g g2 it it2 p p') (slot : Nat) : p'.entryAt slot = p.entryAt slot := by
  obtain ⟨m, q, hp, rfl, at2, -, -, off⟩ := d
  refine entryAt_congr rfl fun g' held => ?_
  by_cases eq : g' = g2
  · subst eq
    simp only [live2, at2, Option.map_some]
  · rw [← (off g' (fun eq => fl (.slot slot) (eq ▸ held)) eq).1]

/-- Storing an object changes at most the slot it goes to. -/
lemma Stored.storeItem_entryAt {pos : Nat} (h : p.Stored objmgr) (lt : pos < playerSlotsCount)
    (mv : p.Movable objmgr g it) (ok : p.storeItem pos g = .ok p') :
    p'.unit = p.unit ∧ ∀ slot, slot ≠ pos → p'.entryAt slot = p.entryAt slot := by
  obtain ⟨-, rfl⟩ | ⟨it2, at2, -, merged⟩ := h.storeItem_cases lt mv ok
  · refine ⟨put_unit .., fun slot ne => ?_⟩
    rw [entryAt_put mv.floating, Function.update_of_ne ne]
  · obtain ⟨-, live2, -⟩ := h.items_of_itemAt at2
    refine ⟨?_, fun slot _ => merged.entryAt mv.floating live2 slot⟩
    obtain ⟨m, q, hp, rfl, -⟩ := merged
    rfl

/-- A stack that gets smaller keeps its entry while something is left of it. -/
lemma Shrunk.entryAt {count : Nat} (h : p.Stored objmgr) (e : p.itemAt slot = some it)
    (s : p.Shrunk slot it count p') :
    p'.unit = p.unit ∧ ∀ slot', p'.entryAt slot' =
      if count = 0 then Function.update p.entryAt slot none slot' else p.entryAt slot' := by
  obtain ⟨-, live, -⟩ := h.items_of_itemAt e
  cases s with
  | kept pos =>
    refine ⟨requeue_unit .., fun slot' => ?_⟩
    rw [if_neg pos, entryAt_recount live]
  | destroyed zero gone =>
    obtain ⟨st, e'⟩ := h.counted e count
    obtain ⟨-, fl⟩ := st.emptied e'
    have d := (setState_removed_post (setItem_heap_self ..)).of_ok gone
    refine ⟨?_, fun slot' => ?_⟩
    · obtain ⟨m, q, hp, rfl, -⟩ := d
      rfl
    · have same : ∀ i, (p.setItem it.guid { it with count := count }).entryAt i = p.entryAt i :=
        fun i => entryAt_congr rfl fun g _ => setItem_entry { it with count := count } live rfl g
      have live' : (p.setItem it.guid { it with count := count }).heap it.guid =
          some { it with count := count } := setItem_heap_self ..
      have emptied : ((p.setItem it.guid { it with count := count }).emptied slot
          { it with count := count }).entryAt slot' =
          Function.update (p.setItem it.guid { it with count := count }).entryAt slot none slot' :=
        entryAt_emptied live' slot'
      rw [if_pos zero, d.entryAt fl, emptied]
      simp only [Function.update_apply, same]

end Entries

end Player

end Legacy.Inventory
