import Legacy.Inventory.Equipment

/-!
# Equipment over whole runs

A run loads an inventory and then equips, unequips, drops and sells in any order. `Kitted` is its
invariant: the modifiers and the set counter are what the worn items are worth, the set bonus is flagged
when the marks are five, and every worn item sits in the slot of its type. `EquipOp.Ok` is the condition on
a packet, for the player before it, under which the invariant is kept.
-/

namespace Legacy.Inventory
open Legacy.Lib

namespace Player

/-- Every worn entry is in the slot of its type. -/
def Suited (objmgr : ObjectMgr) (w : Nat → Option Nat) : Prop :=
  ∀ e < equipmentSlotEnd, ∀ entry, w e = some entry →
    ∃ proto, objmgr.getItemPrototype entry = some proto ∧
      slotOfInventoryType proto.inventoryType = some e

/-- The marks of the worn entries. -/
def wornMarks (objmgr : ObjectMgr) (p : Player) (w : Nat → Option Nat) : Nat :=
  kitMarks objmgr p.unit.element kitSlots w

/-- The invariant of the equipment. -/
structure Kitted (objmgr : ObjectMgr) (p : Player) : Prop where
  suited : Suited objmgr p.entryAt
  tallies : Tallies objmgr p.unit kitSlots p.entryAt
  flagged : p.unit.itemSetApplied = true ↔ wornMarks objmgr p p.entryAt = 5

/-- Every modifier is the sum of what the worn items contribute and of the set bonus, which is there when
it is flagged; and it is flagged when the worn items carry five marks. -/
def Exact (objmgr : ObjectMgr) (p : Player) : Prop :=
  (∀ flag, p.unit.mods flag =
    kitSum objmgr p.unit.element kitSlots p.entryAt flag + p.unit.bonus flag) ∧
  (p.unit.itemSetApplied = true ↔ wornMarks objmgr p p.entryAt = 5)

/-- What a modifier is worth with these entries. -/
def worth (objmgr : ObjectMgr) (p : Player) (w : Nat → Option Nat) (flag : StatMod) : Int :=
  kitSum objmgr p.unit.element kitSlots w flag +
    if wornMarks objmgr p w = 5 ∧ Unit.inSetBonus flag then 5 else 0

/-- Worn entries that carry at most five marks and whose modifiers fit into an `int32`. -/
def Modest (objmgr : ObjectMgr) (p : Player) (w : Nat → Option Nat) : Prop :=
  wornMarks objmgr p w ≤ 5 ∧ ∀ flag, -2 ^ 31 ≤ worth objmgr p w flag ∧ worth objmgr p w flag < 2 ^ 31

/-- Worn entries that are checked for a full set: it must not have been full before. -/
def Refits (objmgr : ObjectMgr) (p : Player) (w : Nat → Option Nat) : Prop :=
  Modest objmgr p w ∧ (wornMarks objmgr p p.entryAt = 5 → wornMarks objmgr p w ≠ 5)

/-- Wearing the entry or not makes no difference. -/
def Idle (objmgr : ObjectMgr) (p : Player) (entry : Option Nat) : Prop :=
  objmgr.marksOf p.unit.element entry = 0 ∧ ∀ flag, objmgr.contributionOf p.unit.element flag entry = 0

/-- The packets that change the equipment. -/
inductive EquipOp where
  | equip (tmp_invslot : Nat)
  | unequip (tmp_eqslot tmp_invslot : Nat)
  | drop (tmp_invslot amount : Nat)
  | sell (player_slot sell_count : Nat)

namespace EquipOp

/-- The player after a packet. -/
def run (objmgr : ObjectMgr) (p : Player) : EquipOp → Except Fault Player
  | equip tmp_invslot => (handleEquip objmgr p tmp_invslot).result.map Outcome.player
  | unequip tmp_eqslot tmp_invslot =>
    (handleUnequip objmgr p tmp_eqslot tmp_invslot).result.map Outcome.player
  | drop tmp_invslot amount => (p.handleDrop tmp_invslot amount).result.map Outcome.player
  | sell player_slot sell_count => (handleSell objmgr p player_slot sell_count).result

/-- The condition on a packet. -/
def Ok (objmgr : ObjectMgr) (p : Player) : EquipOp → Prop
  | equip tmp_invslot => ∀ it proto dest, p.itemAt (inventorySlot tmp_invslot) = some it →
      objmgr.getItemPrototype it.entry = some proto →
      canEquipItem objmgr p (u8 proto.equipmentSlot) it true = .ok dest →
        Refits objmgr p (Function.update p.entryAt dest (some it.entry))
  | unequip tmp_eqslot tmp_invslot => ∀ it, p.itemAt (oneBelow tmp_eqslot) = some it →
      isInventoryPos (inventorySlot tmp_invslot) →
        match canStoreItem objmgr p it with
        | .ok _ => Refits objmgr p (Function.update p.entryAt (oneBelow tmp_eqslot) none)
        | .error _ => wornMarks objmgr p p.entryAt ≠ 5
  | drop tmp_invslot amount => ∀ it, p.itemAt (inventorySlot tmp_invslot) = some it →
      it.count = amount → inventorySlot tmp_invslot < equipmentSlotEnd →
        Idle objmgr p (some it.entry)
  | sell player_slot sell_count => ∀ it, p.itemAt (inventorySlot player_slot) = some it →
      it.count = sell_count → inventorySlot player_slot < equipmentSlotEnd →
        Modest objmgr p (Function.update p.entryAt (inventorySlot player_slot) none) ∧
          (wornMarks objmgr p p.entryAt = 5 → objmgr.marksOf p.unit.element (some it.entry) = 0)

end EquipOp

/-- The runs of a player: a load, where the equipment it found meets a condition before it is applied,
and packets that meet a condition. -/
inductive EquipRun (objmgr : ObjectMgr) (start : Player → Prop) (ok : Player → EquipOp → Prop) :
    Player → Prop
  | load {p : Player} {db : Database} {rows : List LoginRow} {r : Player × Database}
      (l : Session.Login p db rows)
      (e : loadRows objmgr { p with itemUpdateQueueBlocked := true } db rows = .ok r)
      (found : start r.1) :
      EquipRun objmgr start ok (applyAllItemMods objmgr { r.1 with itemUpdateQueueBlocked := false })
  | packet {p p' : Player} {op : EquipOp} (run : EquipRun objmgr start ok p) (good : ok p op)
      (e : op.run objmgr p = .ok p') : EquipRun objmgr start ok p'

section Steps

variable {objmgr : ObjectMgr} {p p' : Player} {w w' : Nat → Option Nat} {slot : Nat} {it : Item}
  {proto : ItemPrototype}

/-- Whether a kit suits depends on its slots. -/
lemma Suited.congr (s : Suited objmgr w) (same : ∀ e < equipmentSlotEnd, w' e = w e) :
    Suited objmgr w' :=
  fun e lt entry eq => s e lt entry ((same e lt).symm.trans eq)

/-- A kit with a slot less. -/
lemma Suited.removed (s : Suited objmgr w) (slot : Nat) : Suited objmgr (Function.update w slot none) := by
  intro e lt entry eq
  by_cases eqs : e = slot
  · rw [eqs, Function.update_self] at eq
    exact absurd eq (by simp)
  · rw [Function.update_of_ne eqs] at eq
    exact s e lt entry eq

/-- A kit with a prototype in its own slot. -/
lemma Suited.added (s : Suited objmgr w) {entry : Nat} (known : objmgr.getItemPrototype entry = some proto)
    (type : slotOfInventoryType proto.inventoryType = some slot) :
    Suited objmgr (Function.update w slot (some entry)) := by
  intro e lt entry' eq
  by_cases eqs : e = slot
  · subst eqs
    rw [Function.update_self] at eq
    obtain rfl := Option.some.inj eq
    exact ⟨proto, known, type⟩
  · rw [Function.update_of_ne eqs] at eq
    exact s e lt entry' eq

/-- The marks depend on what the slots hold. -/
lemma wornMarks_congr (same : ∀ e < equipmentSlotEnd, w' e = w e) :
    wornMarks objmgr p w' = wornMarks objmgr p w :=
  kitMarks_congr _ _ fun e mem => same e (mem_kitSlots.mp mem)

/-- So does the number of them. -/
lemma Modest.congr (m : Modest objmgr p w) (same : ∀ e < equipmentSlotEnd, w' e = w e)
    (element : p'.unit.element = p.unit.element) : Modest objmgr p' w' := by
  have marks : wornMarks objmgr p' w' = wornMarks objmgr p w := by
    rw [wornMarks, wornMarks, element]
    exact kitMarks_congr _ _ fun e mem => same e (mem_kitSlots.mp mem)
  have worths : ∀ flag, worth objmgr p' w' flag = worth objmgr p w flag := by
    intro flag
    rw [worth, worth, marks, element, kitSum_congr _ _ fun e mem => same e (mem_kitSlots.mp mem)]
  refine ⟨marks.trans_le m.1, fun flag => ?_⟩
  rw [worths flag]
  exact m.2 flag

/-- The invariant gives the exact modifiers while they fit. -/
lemma Kitted.exact_of_modest (k : p.Kitted objmgr) (m : Modest objmgr p p.entryAt) : Exact objmgr p := by
  refine ⟨fun flag => ?_, k.flagged⟩
  have bonus : p.unit.bonus flag =
      if wornMarks objmgr p p.entryAt = 5 ∧ Unit.inSetBonus flag then 5 else 0 := by
    simp only [Unit.bonus, Bool.and_eq_true, k.flagged]
  have fits := m.2 flag
  rw [worth, ← bonus] at fits
  rw [k.tallies.mods flag, i32_of_range fits.1 fits.2]

/-- An item in a slot of the kit counts with its prototype. -/
lemma applyItemModsFor_worn {u : Unit} (it : Item) (worn : it.slot < equipmentSlotEnd)
    (known : objmgr.getItemPrototype it.entry = some proto) (apply : Bool) :
    applyItemModsFor objmgr u it apply = u.applyItemMods proto apply := by
  simp only [applyItemModsFor, isEquipped, worn, decide_true, Bool.or_true, if_true, known]

/-- Taking an item out of a slot takes its contribution away when the slot is an equipment slot. -/
lemma taken_tallies (it : Item) (place : it.slot = slot) (known : objmgr.getItemPrototype it.entry = some proto)
    (at_ : p.entryAt slot = some it.entry) (t : Tallies objmgr p.unit kitSlots p.entryAt) :
    Tallies objmgr (taken objmgr p slot it).unit kitSlots (Function.update p.entryAt slot none) ∧
      (taken objmgr p slot it).unit.element = p.unit.element ∧
      (taken objmgr p slot it).unit.itemSetApplied = p.unit.itemSetApplied := by
  by_cases worn : slot < equipmentSlotEnd
  · have unit : (taken objmgr p slot it).unit = p.unit.applyItemMods proto false :=
      (if_pos worn).trans (applyItemModsFor_worn it (place ▸ worn) known false)
    rw [unit]
    refine t.unapplied (fun flag => ?_) ?_
    · have sum := kitSum_update objmgr p.unit.element p.entryAt worn none
        flag
      rwa [at_, ObjectMgr.contributionOf_some known, ObjectMgr.contributionOf_none, add_zero] at sum
    · have marks := kitMarks_update objmgr p.unit.element p.entryAt worn
        none
      rwa [at_, ObjectMgr.marksOf_some known, ObjectMgr.marksOf_none, add_zero] at marks
  · have unit : (taken objmgr p slot it).unit = p.unit := if_neg worn
    rw [unit]
    refine ⟨t.congr fun e mem => ?_, rfl, rfl⟩
    have ne : e ≠ slot := fun eq => worn (eq ▸ mem_kitSlots.mp mem)
    rw [Function.update_of_ne ne]

/-- Putting an item on adds its contribution. -/
lemma worn_tallies {u : Unit} {entry : Nat} (lt : slot < equipmentSlotEnd) (free : w slot = none)
    (known : objmgr.getItemPrototype entry = some proto) (t : Tallies objmgr u kitSlots w)
    (le : kitMarks objmgr u.element kitSlots (Function.update w slot (some entry)) ≤ 5) :
    Tallies objmgr (u.applyItemMods proto true) kitSlots (Function.update w slot (some entry)) ∧
      (u.applyItemMods proto true).element = u.element ∧
      (u.applyItemMods proto true).itemSetApplied = u.itemSetApplied := by
  refine t.applied (fun flag => ?_) ?_ le
  · have sum := kitSum_update objmgr u.element w lt (some entry) flag
    rwa [free, ObjectMgr.contributionOf_some known, ObjectMgr.contributionOf_none, add_zero] at sum
  · have marks := kitMarks_update objmgr u.element w lt (some entry)
    rwa [free, ObjectMgr.marksOf_some known, ObjectMgr.marksOf_none, add_zero] at marks

/-- What is known of an item in a slot. -/
lemma Stored.entry_facts (h : p.Stored objmgr) (e : p.itemAt slot = some it) :
    it.slot = slot ∧ p.heap it.guid = some it ∧ p.entryAt slot = some it.entry ∧
      ∃ proto, objmgr.getItemPrototype it.entry = some proto := by
  obtain ⟨-, live, place, -, known⟩ := h.items_of_itemAt e
  exact ⟨place, live, congrArg (Option.map Item.entry) e, Option.isSome_iff_exists.mp known⟩

/-- A slot without an item has no entry. -/
lemma entryAt_eq_none (e : p.itemAt slot = none) : p.entryAt slot = none :=
  congrArg (Option.map Item.entry) e

/-- A swap takes off what the destination holds, unless it would be put on again elsewhere. -/
lemma Stored.swapped_tallies {dest invslot : Nat} (h : p.Stored objmgr)
    (out : invslot < equipmentSlotEnd → invslot = dest) (free : p.items invslot = none)
    (t : Tallies objmgr p.unit kitSlots p.entryAt) :
    Tallies objmgr (Player.swapped objmgr p dest invslot).unit kitSlots
        (Function.update p.entryAt dest none) ∧
      (Player.swapped objmgr p dest invslot).unit.element = p.unit.element ∧
      (Player.swapped objmgr p dest invslot).unit.itemSetApplied = p.unit.itemSetApplied ∧
      ∀ e < equipmentSlotEnd, (Player.swapped objmgr p dest invslot).entryAt e =
        Function.update p.entryAt dest none e := by
  cases e2 : p.itemAt dest with
  | none =>
    have same : Function.update p.entryAt dest none = p.entryAt :=
      Function.update_eq_self_iff.mpr (entryAt_eq_none e2).symm
    have stays : Player.swapped objmgr p dest invslot = p := by simp only [Player.swapped, e2]
    rw [stays, same]
    exact ⟨t, rfl, rfl, fun _ _ => rfl⟩
  | some it2 =>
    obtain ⟨place, live, at_, proto, known⟩ := h.entry_facts e2
    obtain ⟨t', element, applied⟩ := taken_tallies it2 place known at_ t
    have fl := (h.taken e2).2.floating
    simp only [Player.swapped, e2, put_unit]
    refine ⟨t', element, applied, fun e lt => ?_⟩
    have ne : e ≠ invslot := by
      rintro rfl
      have at2 := (h.items_of_itemAt e2).1
      rw [← out lt, free] at at2
      exact absurd at2 (by simp)
    rw [entryAt_put fl, Function.update_of_ne ne, entryAt_taken live]

/-- The check of the set ends a change of the equipment. -/
lemma kitted_of_checked {u : Unit} (s : Suited objmgr w) (t : Tallies objmgr u kitSlots w)
    (element : u.element = p.unit.element) (m : Modest objmgr p w)
    (once : wornMarks objmgr p w = 5 → u.itemSetApplied = false)
    (unit : p'.unit = u.updateItemSet) (same : ∀ e < equipmentSlotEnd, p'.entryAt e = w e) :
    p'.Kitted objmgr ∧ Modest objmgr p' p'.entryAt := by
  have once' : kitMarks objmgr u.element kitSlots w = 5 → u.itemSetApplied = false := element ▸ once
  obtain ⟨t', el, flagged⟩ := t.checked once'
  have element' : p'.unit.element = u.element := (congrArg Unit.element unit).trans el
  refine ⟨⟨s.congr same, ?_, ?_⟩, m.congr same (element'.trans element)⟩
  · rw [unit]
    exact t'.congr fun e mem => same e (mem_kitSlots.mp mem)
  · rw [wornMarks_congr same, unit, flagged, wornMarks, unit, el]

/-- An equip keeps the invariant. -/
lemma Equipped.kitted {invslot : Nat} (h : p.Stored objmgr) (k : p.Kitted objmgr)
    (m : Modest objmgr p p.entryAt) (d : p.Equipped objmgr invslot p')
    (ok : ∀ it proto dest, p.itemAt invslot = some it → objmgr.getItemPrototype it.entry = some proto →
      canEquipItem objmgr p (u8 proto.equipmentSlot) it true = .ok dest →
        Refits objmgr p (Function.update p.entryAt dest (some it.entry))) :
    p'.Kitted objmgr ∧ Modest objmgr p' p'.entryAt := by
  cases d with
  | refused => exact ⟨k, m⟩
  | @done it proto dest lt at_ known pos type can =>
    obtain ⟨modest, once⟩ := ok it proto dest at_ known can
    obtain ⟨place, live, entry, -⟩ := h.entry_facts at_
    obtain ⟨st, mv⟩ := h.taken at_
    obtain ⟨st2, -, keep⟩ := st.swapped dest lt (taken_free ..)
    -- a worn item is equipped to the slot it comes from
    have out : invslot < equipmentSlotEnd → invslot = dest := by
      intro worn
      obtain ⟨proto', known', type'⟩ := k.suited invslot worn it.entry entry
      obtain rfl := Option.some.inj (known.symm.trans known')
      exact Option.some.inj (type'.symm.trans type)
    have entries1 : ∀ e, (taken objmgr p invslot it).entryAt e = Function.update p.entryAt invslot none e :=
      entryAt_taken live
    obtain ⟨t1, el1, ap1⟩ := taken_tallies it place known entry k.tallies
    obtain ⟨t2, el2, ap2, entries2⟩ := st.swapped_tallies out (taken_free ..)
      (t1.congr fun e _ => entries1 e)
    have other : ∀ e < equipmentSlotEnd, e ≠ dest → Function.update p.entryAt invslot none e = p.entryAt e :=
      fun e lt ne => Function.update_of_ne (fun eq => ne (eq.trans (out (eq ▸ lt)))) ..
    have same : ∀ e < equipmentSlotEnd,
        Function.update (Function.update (taken objmgr p invslot it).entryAt dest none) dest
          (some it.entry) e = Function.update p.entryAt dest (some it.entry) e := by
      intro e lt
      by_cases eq : e = dest
      · rw [eq, Function.update_self, Function.update_self]
      · rw [Function.update_of_ne eq, Function.update_of_ne eq, Function.update_of_ne eq, entries1,
          other e lt eq]
    have element := el2.trans el1
    have le : kitMarks objmgr (swapped objmgr (taken objmgr p invslot it) dest invslot).unit.element
        kitSlots (Function.update (Function.update (taken objmgr p invslot it).entryAt dest none) dest
          (some it.entry)) ≤ 5 := by
      rw [element]
      exact (wornMarks_congr same).trans_le modest.1
    obtain ⟨t3, el3, ap3⟩ := worn_tallies pos (Function.update_self ..) known t2 le
    refine kitted_of_checked (k.suited.added known type)
      (t3.congr fun e mem => (same e (mem_kitSlots.mp mem)).symm) (el3.trans element) modest ?_ ?_ ?_
    · intro full
      rw [ap3, ap2, ap1, Bool.eq_false_iff, ne_eq, k.flagged]
      exact fun before => once before full
    · simp only [equipped, put_unit]
      refine congrArg Unit.updateItemSet ?_
      exact applyItemModsFor_worn { it with owner := _, slot := dest, container := none } pos known true
    · intro e lt
      refine Eq.trans (entryAt_put (keep _ _ mv).floating e) (Eq.trans ?_ (same e lt))
      by_cases eq : e = dest
      · rw [eq, Function.update_self, Function.update_self]
      · rw [Function.update_of_ne eq, Function.update_of_ne eq, entries2 e lt]

/-- An unequip keeps the invariant. -/
lemma Unequipped.kitted {eqslot invslot : Nat} (h : p.Stored objmgr) (k : p.Kitted objmgr)
    (m : Modest objmgr p p.entryAt) (d : p.Unequipped objmgr eqslot invslot p')
    (ok : ∀ it, p.itemAt eqslot = some it → isInventoryPos invslot →
      match canStoreItem objmgr p it with
      | .ok _ => Refits objmgr p (Function.update p.entryAt eqslot none)
      | .error _ => wornMarks objmgr p p.entryAt ≠ 5) :
    p'.Kitted objmgr ∧ Modest objmgr p' p'.entryAt := by
  cases d with
  | refused => exact ⟨k, m⟩
  | @stays it f at_ room can =>
    have notFull := ok it at_ room
    rw [can] at notFull
    exact kitted_of_checked k.suited k.tallies rfl m (fun full => absurd full notFull) rfl fun _ _ => rfl
  | @moved it dest p'' at_ room can stored =>
    have refits := ok it at_ room
    rw [can] at refits
    obtain ⟨modest, once⟩ := refits
    obtain ⟨place, live, entry, proto, known⟩ := h.entry_facts at_
    obtain ⟨lo, hi, -⟩ := canStoreItem_ok can
    obtain ⟨st, mv⟩ := h.taken at_
    obtain ⟨unit, entries⟩ := st.storeItem_entryAt (Nat.lt_trans hi (by decide)) mv stored
    obtain ⟨t1, el1, ap1⟩ := taken_tallies it place known entry k.tallies
    refine kitted_of_checked (k.suited.removed eqslot) t1 el1 modest ?_
      (congrArg Unit.updateItemSet unit) ?_
    · intro full
      rw [ap1, Bool.eq_false_iff, ne_eq, k.flagged]
      exact fun before => once before full
    · intro e lt
      have ne : e ≠ dest := by
        rintro rfl
        exact absurd (lt.trans_le ((by decide : equipmentSlotEnd ≤ inventorySlotItemStart).trans lo))
          (lt_irrefl e)
      exact (entries e ne).trans (entryAt_taken live e)

/-- An item that makes no difference may leave its slot unnoticed. -/
lemma Kitted.idle (k : p.Kitted objmgr) (slot : Nat) (m : Modest objmgr p p.entryAt)
    (idle : slot < equipmentSlotEnd → Idle objmgr p (p.entryAt slot)) (unit : p'.unit = p.unit)
    (same : ∀ e, p'.entryAt e = Function.update p.entryAt slot none e) :
    p'.Kitted objmgr ∧ Modest objmgr p' p'.entryAt := by
  have sum : ∀ flag, kitSum objmgr p.unit.element kitSlots (Function.update p.entryAt slot none) flag =
      kitSum objmgr p.unit.element kitSlots p.entryAt flag := by
    intro flag
    by_cases lt : slot < equipmentSlotEnd
    · have sum := kitSum_update objmgr p.unit.element p.entryAt lt none flag
      rwa [(idle lt).2 flag, ObjectMgr.contributionOf_none, add_zero, add_zero] at sum
    · exact total_update_of_notMem (fun mem => lt (mem_kitSlots.mp mem)) _ _ _
  have marks : wornMarks objmgr p (Function.update p.entryAt slot none) = wornMarks objmgr p p.entryAt := by
    by_cases lt : slot < equipmentSlotEnd
    · have marks := kitMarks_update objmgr p.unit.element p.entryAt lt none
      rwa [(idle lt).1, ObjectMgr.marksOf_none, add_zero, add_zero] at marks
    · exact total_update_of_notMem (fun mem => lt (mem_kitSlots.mp mem)) _ _ _
  have modest : Modest objmgr p (Function.update p.entryAt slot none) := by
    refine ⟨marks.trans_le m.1, fun flag => ?_⟩
    rw [worth, sum, marks]
    exact m.2 flag
  refine ⟨⟨(k.suited.removed slot).congr fun e _ => same e, ⟨fun flag => ?_, ?_⟩, ?_⟩,
    modest.congr (fun e _ => same e) (congrArg Unit.element unit)⟩
  · rw [unit, funext same, sum]
    exact k.tallies.mods flag
  · rw [unit, funext same]
    exact k.tallies.set.trans marks.symm
  · rw [unit, funext same, k.flagged, wornMarks, wornMarks, unit]
    exact Eq.congr_left marks.symm

/-- A change that leaves the equipment alone. -/
lemma Kitted.congr (k : p.Kitted objmgr) (m : Modest objmgr p p.entryAt) (unit : p'.unit = p.unit)
    (same : ∀ e, p'.entryAt e = p.entryAt e) : p'.Kitted objmgr ∧ Modest objmgr p' p'.entryAt := by
  refine ⟨⟨k.suited.congr fun e _ => same e, ?_, ?_⟩,
    m.congr (fun e _ => same e) (congrArg Unit.element unit)⟩
  · rw [unit]
    exact k.tallies.congr fun e _ => same e
  · rw [unit, funext same, k.flagged, wornMarks, wornMarks, unit]

/-- Gold changes no kit. -/
lemma Kitted.withGold (k : p.Kitted objmgr ∧ Modest objmgr p p.entryAt) (gold : Nat) :
    Kitted objmgr { p with gold := gold } ∧
      Modest objmgr { p with gold := gold } (entryAt { p with gold := gold }) :=
  ⟨⟨k.1.suited, k.1.tallies, k.1.flagged⟩, k.2⟩

/-- A drop keeps the invariant. -/
lemma Dropped.kitted {amount : Nat} (h : p.Stored objmgr) (k : p.Kitted objmgr)
    (m : Modest objmgr p p.entryAt) (d : p.Dropped slot amount p')
    (ok : ∀ it, p.itemAt slot = some it → it.count = amount → slot < equipmentSlotEnd →
      Idle objmgr p (some it.entry)) :
    p'.Kitted objmgr ∧ Modest objmgr p' p'.entryAt := by
  cases d with
  | refused => exact ⟨k, m⟩
  | @shrunk it p' at_ le s =>
    obtain ⟨-, -, entry, -⟩ := h.entry_facts at_
    obtain ⟨unit, entries⟩ := s.entryAt h at_
    by_cases zero : it.count - amount = 0
    · refine k.idle slot m (fun lt => entry ▸ ok it at_ (by omega) lt) unit fun e => ?_
      rw [entries e, if_pos zero]
    · refine k.congr m unit fun e => ?_
      rw [entries e, if_neg zero]

/-- A sale keeps the invariant. -/
lemma Sold.kitted {sell_count : Nat} (h : p.Stored objmgr) (k : p.Kitted objmgr)
    (m : Modest objmgr p p.entryAt) (d : p.Sold objmgr slot sell_count p')
    (ok : ∀ it, p.itemAt slot = some it → it.count = sell_count → slot < equipmentSlotEnd →
      Modest objmgr p (Function.update p.entryAt slot none) ∧
        (wornMarks objmgr p p.entryAt = 5 → objmgr.marksOf p.unit.element (some it.entry) = 0)) :
    p'.Kitted objmgr ∧ Modest objmgr p' p'.entryAt := by
  cases d with
  | refused => exact ⟨k, m⟩
  | @kept it proto at_ known lt =>
    obtain ⟨-, live, -⟩ := h.entry_facts at_
    have unit : (p.recount it (it.count - sell_count)).unit = p.unit := requeue_unit ..
    exact Kitted.withGold (k.congr m unit (entryAt_recount live _)) _
  | @emptied it proto at_ known all old =>
    obtain ⟨place, live, entry, -⟩ := h.entry_facts at_
    apply Kitted.withGold
    generalize eq : (p.setItem it.guid { it with count := 0 }).requeue it.guid { it with count := 0 }
      .removed = q
    have unit : q.unit = p.unit := by
      rw [← eq]
      exact requeue_unit ..
    have heap : q.heap = (p.setItem it.guid { it with count := 0 }).heap := by
      rw [← eq, requeue_heap]
    have entries : q.entryAt = p.entryAt := by
      funext e
      refine entryAt_congr (by rw [← eq, requeue_items]; rfl) fun g _ => ?_
      rw [heap]
      exact setItem_entry { it with count := 0 } live rfl g
    have live' : q.heap it.guid = some { it with count := 0 } := by rw [heap, setItem_heap_self]
    have entries' : ∀ e, (taken objmgr q slot { it with count := 0 }).entryAt e =
        Function.update p.entryAt slot none e := by
      rw [← entries]
      exact entryAt_taken live'
    by_cases lt : slot < equipmentSlotEnd
    · obtain ⟨modest, still⟩ := ok it at_ all lt
      have tallied : Tallies objmgr q.unit kitSlots q.entryAt := unit ▸ entries ▸ k.tallies
      have entry' : q.entryAt slot = some ({ it with count := 0 } : Item).entry :=
        (congrFun entries slot).trans entry
      obtain ⟨t, el, ap⟩ := taken_tallies { it with count := 0 } place known entry' tallied
      have element : (taken objmgr q slot { it with count := 0 }).unit.element = p.unit.element :=
        el.trans (congrArg Unit.element unit)
      have same := funext entries'
      refine ⟨⟨(k.suited.removed slot).congr fun e _ => entries' e, ?_, ?_⟩,
        modest.congr (fun e _ => entries' e) element⟩
      · rwa [same, ← entries]
      · -- no mark may go while the set is full
        have marks := kitMarks_update objmgr p.unit.element p.entryAt lt none
        rw [entry, ObjectMgr.marksOf_none, add_zero] at marks
        have le := m.1
        have flagged := k.flagged
        simp only [wornMarks] at le flagged still
        rw [ap, unit, flagged, same, wornMarks, element]
        refine ⟨fun full => ?_, fun full => ?_⟩
        · rwa [still full, add_zero, full] at marks
        · omega
    · have unit' : (taken objmgr q slot { it with count := 0 }).unit = q.unit := if_neg lt
      exact k.idle slot m (fun lt' => absurd lt' lt) (unit'.trans unit) entries'

end Steps

section Load

variable {objmgr : ObjectMgr} {p p' : Player}

/-- A new object is in no slot. -/
lemma entryAt_newObject (it : Item) (fl : p.Floating it.guid) (slot : Nat) :
    (p.newObject it).entryAt slot = p.entryAt slot := by
  rw [entryAt, newObject_itemAt fl, entryAt]

/-- Slots outside the kit do not matter. -/
lemma Suited.beyond {w : Nat → Option Nat} (s : Suited objmgr w) {slot : Nat} (out : equipmentSlotEnd ≤ slot)
    (v : Option Nat) : Suited objmgr (Function.update w slot v) :=
  s.congr fun _ lt => Function.update_of_ne (lt.trans_le out).ne ..

/-- A row goes to a slot of its type, when it goes to the equipment. -/
lemma Loaded.suited {db db' : Database} {row : LoginRow} (h : p.Stored objmgr) (fl : p.Floating row.item)
    (le : row.item ≤ p.hiItemGuid) (l : p.Loaded objmgr db row p' db') (s : Suited objmgr p.entryAt) :
    p'.unit = p.unit ∧ Suited objmgr p'.entryAt := by
  have entries : ∀ d, (p.newObject (p.loadedItem row d)).entryAt = p.entryAt := fun d =>
    funext (entryAt_newObject (p.loadedItem row d) fl)
  have floating : ∀ d, (p.newObject (p.loadedItem row d)).Floating row.item := fun _ => fl
  cases l with
  | refused => exact ⟨rfl, s⟩
  | @rejected d => exact ⟨rfl, s.congr fun e _ => congrFun (entries d) e⟩
  | @unplaced d => exact ⟨rfl, s.congr fun e _ => congrFun (entries d) e⟩
  | @placed d dest data own goal lt free known =>
    refine ⟨put_unit .., ?_⟩
    have put : ∀ e, ((p.newObject (p.loadedItem row d)).put dest row.item (p.loadedItem row d)).entryAt e =
        Function.update p.entryAt dest (some d.entry) e := fun e => by
      rw [entryAt_put (floating d), entries]
      rfl
    apply Suited.congr (w := Function.update p.entryAt dest (some d.entry)) ?_ fun e _ => put e
    cases goal with
    | inventory pos can =>
      obtain ⟨lo, -⟩ := canStoreItem_ok can
      exact s.beyond ((by decide : equipmentSlotEnd ≤ inventorySlotItemStart).trans lo) _
    | equipment pos can =>
      obtain ⟨-, -, proto, known, type, -⟩ := canWearItem_ok can
      exact s.added known type
    | bank pos =>
      exact s.beyond ((by decide : equipmentSlotEnd ≤ bankSlotItemStart).trans (isBankPos_iff.mp pos).1) _
  | @stacked d dest it2 data own goal at2 =>
    have fl' : p.Floating (p.loadedItem row d).guid := fl
    have st := h.newObject fl' le rfl
    have at2' := (newObject_itemAt fl' dest).trans at2
    obtain ⟨held2, live2, -⟩ := st.items_of_itemAt at2'
    have ne : row.item ≠ it2.guid := fun eq => fl (.slot dest) (eq ▸ held2)
    have live := loadedItem_live p row d
    have merged := mergeInto_post live live2 ne
    rw [mergeInto_fresh live live2 ne (Function.update_self ..), post_ok] at merged
    refine ⟨requeue_unit .., s.congr fun e _ => ?_⟩
    exact (merged.entryAt (floating d) live2 e).trans (congrFun (entries d) e)
  | @worn d i pet data epet guid ipet lt free known =>
    refine ⟨requeue_unit .., s.congr fun e _ => Eq.trans ?_ (congrFun (entries d) e)⟩
    refine entryAt_congr (p := p.newObject (p.loadedItem row d)) (congrFun (requeue_items ..) e) ?_
    intro g held
    have ne : g ≠ row.item := fun eq => floating d (.slot e) (eq ▸ held)
    exact congrArg (Option.map Item.entry) (wear_heap_ne _ i pet row.slot _ ne)

/-- Applying the items of some slots one after the other. -/
lemma Stored.applied_tallies (h : p.Stored objmgr) {u : Unit} (done rest : List Nat)
    (worn : ∀ e ∈ rest, e < equipmentSlotEnd) (t : Tallies objmgr u done p.entryAt)
    (le : kitMarks objmgr u.element (done ++ rest) p.entryAt ≤ 5) :
    let u' := (rest.filterMap fun i => (p.items i).bind p.heap).foldl
      (fun u it => applyItemModsFor objmgr u it true) u
    Tallies objmgr u' (done ++ rest) p.entryAt ∧ u'.element = u.element ∧
      u'.itemSetApplied = u.itemSetApplied := by
  induction rest generalizing done u with
  | nil =>
    rw [List.append_nil]
    exact ⟨t, rfl, rfl⟩
  | cons e rest ih =>
    have worn' : ∀ e ∈ rest, e < equipmentSlotEnd := fun e mem => worn e (List.mem_cons_of_mem _ mem)
    have assoc : done ++ e :: rest = (done ++ [e]) ++ rest := by simp
    have sum : ∀ flag, kitSum objmgr u.element (done ++ [e]) p.entryAt flag =
        kitSum objmgr u.element done p.entryAt flag +
          objmgr.contributionOf u.element flag (p.entryAt e) := fun flag => by
      rw [kitSum, total_append, total_singleton, kitSum]
    have marks : kitMarks objmgr u.element (done ++ [e]) p.entryAt =
        kitMarks objmgr u.element done p.entryAt + objmgr.marksOf u.element (p.entryAt e) := by
      rw [kitMarks, total_append, total_singleton, kitMarks]
    rw [assoc] at le ⊢
    cases found : p.itemAt e with
    | none =>
      have skip : (p.items e).bind p.heap = none := found
      have entry := entryAt_eq_none found
      have t' : Tallies objmgr u (done ++ [e]) p.entryAt := by
        refine ⟨fun flag => ?_, ?_⟩
        · rw [sum, entry, ObjectMgr.contributionOf_none, add_zero, t.mods]
        · rw [marks, entry, ObjectMgr.marksOf_none, add_zero, t.set]
      simp only [List.filterMap_cons, skip]
      exact ih (done ++ [e]) worn' t' le
    | some it =>
      have here : (p.items e).bind p.heap = some it := found
      obtain ⟨place, -, entry, proto, known⟩ := h.entry_facts found
      have isWorn : it.slot < equipmentSlotEnd := place ▸ worn e (List.mem_cons_self ..)
      have part : kitMarks objmgr u.element (done ++ [e]) p.entryAt ≤ 5 := by
        have whole : kitMarks objmgr u.element (done ++ [e] ++ rest) p.entryAt =
            kitMarks objmgr u.element (done ++ [e]) p.entryAt +
              kitMarks objmgr u.element rest p.entryAt := total_append ..
        omega
      have sum' : ∀ flag, kitSum objmgr u.element (done ++ [e]) p.entryAt flag =
          kitSum objmgr u.element done p.entryAt flag + proto.contribution u.element flag := by
        intro flag
        rw [sum, entry, ObjectMgr.contributionOf_some known]
      have marks' : kitMarks objmgr u.element (done ++ [e]) p.entryAt =
          kitMarks objmgr u.element done p.entryAt + proto.elementMarks u.element := by
        rw [marks, entry, ObjectMgr.marksOf_some known]
      obtain ⟨t', el, ap⟩ := t.applied sum' marks' part
      obtain ⟨t'', el', ap'⟩ := ih (done ++ [e]) worn' t' (by rwa [el])
      simp only [List.filterMap_cons, here, List.foldl_cons, applyItemModsFor_worn _ isWorn known]
      exact ⟨t'', el'.trans el, ap'.trans ap⟩

/-- A load starts the invariant. -/
lemma load_kitted {db : Database} {rows : List LoginRow} {r : Player × Database}
    (l : Session.Login p db rows)
    (e : loadRows objmgr { p with itemUpdateQueueBlocked := true } db rows = .ok r)
    (found : Modest objmgr r.1 r.1.entryAt) :
    let p' := applyAllItemMods objmgr { r.1 with itemUpdateQueueBlocked := false }
    p'.Stored objmgr ∧ p'.Kitted objmgr ∧ Modest objmgr p' p'.entryAt := by
  obtain ⟨st, w⟩ := l.ready objmgr
  have bare : ∀ e, entryAt { p with itemUpdateQueueBlocked := true } e = none := by
    intro e
    simp only [entryAt, itemAt, l.fresh.items, Option.bind_none, Option.map_none]
  have start : Suited objmgr (entryAt { p with itemUpdateQueueBlocked := true }) :=
    fun e _ entry eq => absurd ((bare e).symm.trans eq) (by simp)
  have loaded := loadRows_induct (fun q _ _ => q.unit = p.unit ∧ Suited objmgr q.entryAt) db rows st w
    ⟨rfl, start⟩ fun q _ row _ _ _ h w inv l => by
      obtain ⟨unit, suited⟩ := l.suited h (w.floating row (List.mem_cons_self ..))
        (w.known row (List.mem_cons_self ..)) inv.2
      exact ⟨unit.trans inv.1, suited⟩
  rw [e, sat_ok] at loaded
  obtain ⟨h, unit, suited⟩ := loaded
  have t : Tallies objmgr r.1.unit [] r.1.entryAt := by
    refine ⟨fun flag => ?_, ?_⟩
    · rw [unit, l.fresh.mods, Unit.bonus, l.fresh.itemSetApplied]
      rfl
    · rw [unit, l.fresh.itemSet]
      rfl
  obtain ⟨t', el, ap⟩ := h.applied_tallies [] kitSlots (fun e mem => mem_kitSlots.mp mem) t found.1
  refine ⟨Session.applied_stored h, ?_⟩
  refine kitted_of_checked suited t' el found (fun _ => ?_) rfl fun _ _ => rfl
  rw [ap, unit, l.fresh.itemSetApplied]

end Load

section Runs

variable {objmgr : ObjectMgr} {p p' : Player}

/-- A packet that meets its condition keeps the invariant. -/
lemma EquipOp.run_kitted {op : EquipOp} (h : p.Stored objmgr) (k : p.Kitted objmgr)
    (m : Modest objmgr p p.entryAt) (good : op.Ok objmgr p) (e : op.run objmgr p = .ok p') :
    p'.Stored objmgr ∧ p'.Kitted objmgr ∧ Modest objmgr p' p'.entryAt := by
  cases op with
  | equip tmp_invslot =>
    obtain ⟨o, e', rfl⟩ := map_eq_ok.mp e
    have d := (h.handleEquip tmp_invslot).of_ok e'
    exact ⟨d.stored h, d.kitted h k m good⟩
  | unequip tmp_eqslot tmp_invslot =>
    obtain ⟨o, e', rfl⟩ := map_eq_ok.mp e
    have d := (h.handleUnequip tmp_eqslot tmp_invslot).of_ok e'
    exact ⟨d.stored h, d.kitted h k m good⟩
  | drop tmp_invslot amount =>
    obtain ⟨o, e', rfl⟩ := map_eq_ok.mp e
    have d := (h.handleDrop tmp_invslot amount).of_ok e'
    exact ⟨d.stored h, d.kitted h k m good⟩
  | sell player_slot sell_count =>
    have d := (h.handleSell player_slot sell_count).of_ok e
    exact ⟨d.stored h, d.kitted h k m good⟩

/-- In every run whose load and packets meet their conditions the modifiers are exact. -/
theorem EquipRun.exact
    (run : EquipRun objmgr (fun p => Modest objmgr p p.entryAt) (fun p op => op.Ok objmgr p) p) :
    Exact objmgr p := by
  have inv : p.Stored objmgr ∧ p.Kitted objmgr ∧ Modest objmgr p p.entryAt := by
    induction run with
    | load l e found => exact load_kitted l e found
    | packet _ good e ih => exact EquipOp.run_kitted ih.1 ih.2.1 ih.2.2 good e
  exact inv.2.1.exact_of_modest inv.2.2

/-- A helmet with the five marks of earth, and a sword of ten. -/
def armoury : ObjectMgr :=
  ⟨[⟨1, 1, "Helmet", 1, 0, 0, 0, 0, 0, 1, List.replicate 5 ⟨10, 0⟩⟩,
    ⟨2, 2, "Weapon", 4, 0, 3, 0, 0, 0, 1, [⟨4, 10⟩]⟩], []⟩

/-- Rows of single items, by slot and entry. -/
def rowsOf (items : List (Nat × Nat)) : List LoginRow :=
  items.mapIdx fun i x => ⟨some ⟨x.2, 1⟩, 0, x.1, i + 1, x.2⟩

/-- A character that comes back to these rows, before the equipment is applied. -/
def found (items : List (Nat × Nat)) : Player × Database :=
  match loadRows armoury { Session.returned 1 0 2 with itemUpdateQueueBlocked := true }
    (Session.holding 1 (rowsOf items)) (rowsOf items) with
  | .ok r => r
  | .error _ => (Session.returned 1 0 2, Session.holding 1 (rowsOf items))

/-- It equips the item of the first inventory slot. -/
def armed (items : List (Nat × Nat)) : Player :=
  match EquipOp.run armoury (applyAllItemMods armoury
    { (found items).1 with itemUpdateQueueBlocked := false }) (.equip 1) with
  | .ok p => p
  | .error _ => Session.returned 1 0 2

/-- A sword is put on. -/
theorem exact_armed : Exact armoury (armed [(10, 2)]) := by
  have login : Session.Login (Session.returned 1 0 2) (Session.holding 1 (rowsOf [(10, 2)]))
      (rowsOf [(10, 2)]) :=
    Session.login_holding (by decide) (by decide) (by decide) (by decide) (by decide)
  have modest : Modest armoury (found [(10, 2)]).1 (found [(10, 2)]).1.entryAt :=
    ⟨by decide +kernel, fun flag => by cases flag <;> decide +kernel⟩
  refine EquipRun.exact (.packet (.load login (r := found [(10, 2)]) rfl modest) ?_
    (show EquipOp.run armoury _ (.equip 1) = .ok _ from rfl))
  have sword : itemAt (applyAllItemMods armoury
      { (found [(10, 2)]).1 with itemUpdateQueueBlocked := false }) 10 = some ⟨1, 2, 1, 1, 10, none⟩ := by
    decide +kernel
  intro it proto dest at_ known can
  obtain rfl := Option.some.inj (sword.symm.trans at_)
  cases known
  have weapon : dest = 3 := by
    obtain ⟨rfl, -⟩ := canWearItem_ok can
    decide
  subst weapon
  refine ⟨⟨by decide +kernel, fun flag => by cases flag <;> decide +kernel⟩, by decide +kernel⟩

/-- Putting on a sword beside a full set adds the bonus of the set again. -/
theorem not_exact_armed :
    EquipRun armoury (fun _ => True) (fun _ _ => True) (armed [(0, 1), (10, 2)]) ∧
      ¬ Exact armoury (armed [(0, 1), (10, 2)]) := by
  have login : Session.Login (Session.returned 1 0 2) (Session.holding 1 (rowsOf [(0, 1), (10, 2)]))
      (rowsOf [(0, 1), (10, 2)]) :=
    Session.login_holding (by decide) (by decide) (by decide) (by decide) (by decide)
  refine ⟨.packet (.load login (r := found [(0, 1), (10, 2)]) rfl trivial) trivial
    (show EquipOp.run armoury _ (.equip 1) = .ok _ from rfl), ?_⟩
  intro exact
  exact absurd (exact.1 .atkMod) (by decide +kernel)

end Runs

end Player

end Legacy.Inventory
