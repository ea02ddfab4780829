import Legacy.Inventory.Session

/-!
# Slots that clients choose

Which packets keep their slot numbers inside the player's arrays. `SlotPacket` is a packet with slot
bytes, `Confined` says of a run that every access lies inside its array and that the slot of an inventory
byte is an inventory slot. `confined_iff` gives the exact condition, on the bytes and the player, under
which a packet is confined in a reachable state.
-/

namespace Legacy.Inventory
open Legacy.Lib

namespace Traced

variable {α β : Type}

/-- The same run with another result. -/
def map (f : α → β) (t : Traced α) : Traced β := ⟨t.accesses, t.result.map f⟩

/-- An access that lies inside its array; an inventory byte names an inventory slot. -/
def AccessOk (a : Access) : Prop :=
  a.index < a.array.size ∧
    (a.origin = .inventoryByte → inventorySlotItemStart ≤ a.index ∧ a.index < inventorySlotItemEnd)

/-- No access of the run lies outside of its array, and inventory bytes reach inventory slots only. -/
def Confined (t : Traced α) : Prop :=
  (∀ a ∈ t.accesses, AccessOk a) ∧ ∀ a i, t.result ≠ .error (.outOfBounds a i)

/-- A function of the result accesses nothing. -/
lemma confined_map (f : α → β) (t : Traced α) : (t.map f).Confined ↔ t.Confined := by
  cases t with
  | mk accesses result => cases result <;> simp [Confined, map, Except.map]

/-- Every client-chosen access is in order. -/
def AccessesOk (t : Traced α) : Prop := ∀ a ∈ t.accesses, AccessOk a

/-- A run that leaves the arrays only through its client-chosen accesses is confined when these are. -/
lemma Yields.confined {t : Traced α} {Q : α → Prop} (y : t.Yields Q) :
    t.Confined ↔ t.AccessesOk := by
  refine ⟨And.left, fun ok => ⟨ok, fun a i e => ?_⟩⟩
  obtain tame | out := y.of_error e
  · exact tame a i rfl
  · exact out fun b mem => (ok b mem).1

/-- A function without slot accesses has no bad ones. -/
@[simp]
lemma accessesOk_run (r : Except Fault α) : (run r).AccessesOk := fun _ mem =>
  absurd mem List.not_mem_nil

/-- An access in order lies inside its array, so that the run goes on. -/
lemma accessesOk_access (a : Access) (next : Traced α) :
    (access a next).AccessesOk ↔ AccessOk a ∧ next.AccessesOk := by
  simp only [access]
  split_ifs with lt
  · simp [AccessesOk]
  · have bad : ¬ AccessOk a := fun ok => lt ok.1
    simp [AccessesOk, bad]

end Traced

/-- A packet with slot numbers (source `HandleUseItemOpcodes`, `HandlePlayerTransacItemOpcodes`,
`HandlePlayerSpellAddOpcodes` and `HandlePetReleaseOpcode`). -/
inductive SlotPacket where
  | useItem (req : Wire.UseItemRequest)
  | buy (vendor : Option (List CreatureItem)) (vendor_slot buy_count : Nat)
  | sell (player_slot sell_count : Nat)
  | spellAdd (target petslot : Nat)
  | petRelease (subcmd petslot : Nat)

namespace SlotPacket

/-- The run of a packet's handler. -/
def handle (objmgr : ObjectMgr) (p : Player) : SlotPacket → Traced PUnit
  | useItem req => (p.handleUseItem objmgr req).map fun _ => ⟨⟩
  | buy vendor vendor_slot buy_count =>
    (Traced.run (p.handleBuy objmgr vendor vendor_slot buy_count)).map fun _ => ⟨⟩
  | sell player_slot sell_count => (p.handleSell objmgr player_slot sell_count).map fun _ => ⟨⟩
  | spellAdd target petslot => (p.spellAddUnit target petslot).map fun _ => ⟨⟩
  | petRelease subcmd petslot => (p.handlePetRelease subcmd petslot).map fun _ => ⟨⟩

/-- The slot numbers of the packet are bytes. -/
def Bytes : SlotPacket → Prop
  | useItem (.drop invslot _) => invslot < 2 ^ 8
  | useItem (.equip invslot) => invslot < 2 ^ 8
  | useItem (.unequip eqslot invslot) => eqslot < 2 ^ 8 ∧ invslot < 2 ^ 8
  | useItem (.consume invslot _ target _) => invslot < 2 ^ 8 ∧ target < 2 ^ 8
  | useItem (.petEquip target invslot) => target < 2 ^ 8 ∧ invslot < 2 ^ 8
  | useItem (.petUnequip target eqslot invslot) => target < 2 ^ 8 ∧ eqslot < 2 ^ 8 ∧ invslot < 2 ^ 8
  | useItem (.take ..) | useItem .other | buy .. => True
  | sell player_slot _ => player_slot < 2 ^ 8
  | spellAdd target petslot => target < 2 ^ 8 ∧ petslot < 2 ^ 8
  | petRelease subcmd petslot => subcmd < 2 ^ 8 ∧ petslot < 2 ^ 8

/-- A byte that names an inventory slot. -/
def InventoryByte (b : Nat) : Prop := 1 ≤ b ∧ b ≤ 25

/-- A byte that names a pet. -/
def PetByte (b : Nat) : Prop := 1 ≤ b ∧ b ≤ maxPetSlot

/-- The condition on a packet, for a player. -/
def SlotsOk (p : Player) : SlotPacket → Prop
  | useItem (.drop invslot _) => InventoryByte invslot
  | useItem (.equip invslot) => InventoryByte invslot
  | useItem (.unequip eqslot _) => 1 ≤ eqslot ∧ eqslot ≤ playerSlotsCount
  | useItem (.consume invslot _ _ _) => InventoryByte invslot
  | useItem (.petEquip target invslot) =>
    InventoryByte invslot ∧
      (p.itemAt (inventorySlot invslot) = none ∨ target = 0 ∨ target ≤ maxPetSlot)
  | useItem (.petUnequip target eqslot _) =>
    target = 0 ∨ (PetByte target ∧
      (p.pets (oneBelow target) = none ∨ (1 ≤ eqslot ∧ eqslot ≤ equipmentSlotEnd)))
  | useItem (.take ..) | useItem .other | buy .. => True
  | sell player_slot _ => InventoryByte player_slot
  | spellAdd target petslot => target = 2 → PetByte petslot
  | petRelease .. => True

section Confinement

open Traced

/-- A bag slot of a packet is inside when its byte is. -/
lemma accessOk_inventory {b : Nat} (lt : b < 2 ^ 8) :
    AccessOk ⟨.items, inventorySlot b, .inventoryByte⟩ ↔ InventoryByte b := by
  simp only [AccessOk, SlotArray.size, inventorySlot, u8, InventoryByte, forall_const, playerSlotsCount,
    inventorySlotItemStart, inventorySlotItemEnd]
  omega

/-- A slot of a packet counts from one. -/
lemma accessOk_oneBelow {b n : Nat} {array : SlotArray} {origin : Origin} (lt : b < 2 ^ 8)
    (size : array.size = n) (le : n < 2 ^ 8) (other : origin ≠ .inventoryByte) :
    AccessOk ⟨array, oneBelow b, origin⟩ ↔ 1 ≤ b ∧ b ≤ n := by
  simp only [AccessOk, oneBelow, u8, size, other, false_implies, and_true]
  omega

variable {objmgr : ObjectMgr} {p : Player} (h : p.Stored objmgr)
include h

/-- The bytes with which equipment for a pet stays inside the arrays. -/
lemma handlePetEquip_ok {target invslot : Nat} (bytes : target < 2 ^ 8 ∧ invslot < 2 ^ 8) :
    (p.handlePetEquip objmgr target invslot).AccessesOk ↔
      InventoryByte invslot ∧
        (p.itemAt (inventorySlot invslot) = none ∨ target = 0 ∨ target ≤ maxPetSlot) := by
  rw [Player.handlePetEquip, accessesOk_access, accessOk_inventory bytes.2]
  refine and_congr_right fun inv => ?_
  have lt : inventorySlot invslot < playerSlotsCount := ((accessOk_inventory bytes.2).mpr inv).1
  rw [h.getItemByPos_eq lt]
  cases e : p.itemAt (inventorySlot invslot) with
  | none => simp
  | some it =>
    simp only [reduceCtorEq, false_or]
    split_ifs with zero
    · simp [zero]
    · rw [accessesOk_access, accessOk_oneBelow (n := maxPetSlot) bytes.1 rfl (by decide) (by decide)]
      have rest : ∀ o, Traced.AccessesOk (match o with
        | none => run (.ok (Outcome.stop p))
        | some pet => run (Player.petEquipFrom objmgr p (oneBelow target) pet (inventorySlot invslot) it
            (.petEquipped target invslot))) := fun o => by cases o <;> exact accessesOk_run _
      refine (and_iff_left (rest _)).trans ?_
      omega

omit h in

/-- The bytes with which taking it off does. -/
lemma handlePetUnequip_ok {target eqslot invslot : Nat}
    (bytes : target < 2 ^ 8 ∧ eqslot < 2 ^ 8 ∧ invslot < 2 ^ 8) :
    (p.handlePetUnequip objmgr target eqslot invslot).AccessesOk ↔
      target = 0 ∨ (PetByte target ∧
        (p.pets (oneBelow target) = none ∨ (1 ≤ eqslot ∧ eqslot ≤ equipmentSlotEnd))) := by
  simp only [Player.handlePetUnequip]
  by_cases zero : target = 0
  · simp [zero]
  · rw [if_neg zero, accessesOk_access,
      accessOk_oneBelow (n := maxPetSlot) bytes.1 rfl (by decide) (by decide)]
    simp only [zero, false_or]
    refine and_congr_right fun _ => ?_
    cases p.pets (oneBelow target) with
    | none => simp
    | some pet =>
      rw [accessesOk_access,
        accessOk_oneBelow (n := equipmentSlotEnd) bytes.2.1 rfl (by decide) (by decide)]
      simp

/-- A packet is confined exactly when its slot bytes are in range. -/
lemma confined_iff_of_stored (pkt : SlotPacket) (bytes : pkt.Bytes) :
    (pkt.handle objmgr p).Confined ↔ pkt.SlotsOk p := by
  cases pkt with
  | useItem req =>
    rw [handle, confined_map, (Session.useItem_stored h).confined]
    cases req with
    | take | other => exact iff_of_true (accessesOk_run _) trivial
    | drop invslot amount =>
      exact (accessesOk_access ..).trans ((and_iff_left (accessesOk_run _)).trans (accessOk_inventory bytes))
    | equip invslot =>
      exact (accessesOk_access ..).trans ((and_iff_left (accessesOk_run _)).trans (accessOk_inventory bytes))
    | unequip eqslot invslot =>
      refine (accessesOk_access ..).trans ((and_iff_left (accessesOk_run _)).trans ?_)
      exact accessOk_oneBelow bytes.1 rfl (by decide) (by decide)
    | consume invslot amount target unk1 =>
      exact (accessesOk_access ..).trans
        ((and_iff_left (accessesOk_run _)).trans (accessOk_inventory bytes.1))
    | petEquip target invslot => exact handlePetEquip_ok h bytes
    | petUnequip target eqslot invslot => exact handlePetUnequip_ok bytes
  | buy vendor vendor_slot buy_count =>
    have y : (run (p.handleBuy objmgr vendor vendor_slot buy_count)).Yields fun _ => True := by
      obtain ⟨p', ok, -⟩ := sat_iff.mp (h.handleBuy vendor vendor_slot buy_count)
      rw [ok]
      exact yields_run trivial
    rw [handle, confined_map, y.confined]
    exact iff_of_true (accessesOk_run _) trivial
  | sell player_slot sell_count =>
    rw [handle, confined_map, (h.handleSell ..).confined]
    exact (accessesOk_access ..).trans ((and_iff_left (accessesOk_run _)).trans (accessOk_inventory bytes))
  | spellAdd target petslot =>
    have y : (p.spellAddUnit target petslot).Yields fun _ => True := by
      simp only [Player.spellAddUnit]
      split_ifs
      · exact yields_run trivial
      · exact yields_access fun _ => yields_run trivial
      · exact yields_run trivial
    rw [handle, confined_map, y.confined]
    simp only [Player.spellAddUnit, SlotsOk]
    split_ifs with player pet
    · simp [player]
    · rw [accessesOk_access, accessOk_oneBelow (n := maxPetSlot) bytes.2 rfl (by decide) (by decide)]
      simp [pet, PetByte]
    · simp [pet]
  | petRelease subcmd petslot =>
    have y : (p.handlePetRelease subcmd petslot).Yields fun _ => True := by
      simp only [Player.handlePetRelease]
      split_ifs
      · exact yields_run trivial
      · exact yields_access fun _ => yields_run trivial
      · exact yields_run trivial
    rw [handle, confined_map, y.confined]
    simp only [Player.handlePetRelease, SlotsOk, iff_true]
    split_ifs with range
    · exact accessesOk_run _
    · rw [accessesOk_access, accessOk_oneBelow (n := maxPetSlot) bytes.2 rfl (by decide) (by decide)]
      exact ⟨by omega, accessesOk_run _⟩
    · exact accessesOk_run _

end Confinement

/-- In every reachable state a packet with slot bytes stays inside the arrays, and reaches inventory
slots only through its inventory bytes, exactly when these bytes are in range. -/
theorem confined_iff {objmgr : ObjectMgr} {s : Session} (r : Session.Reachable objmgr s)
    (pkt : SlotPacket) (bytes : pkt.Bytes) :
    (pkt.handle objmgr s.player).Confined ↔ pkt.SlotsOk s.player :=
  confined_iff_of_stored r.stored pkt bytes

/-- A confined drop from the first inventory slot. -/
theorem confined_drop :
    (handle ⟨[], []⟩ (Session.created 1 0).player (useItem (.drop 1 1))).Confined := by
  have bytes : (useItem (.drop 1 1)).Bytes := show 1 < 2 ^ 8 by decide
  exact (confined_iff (Session.created_reachable ⟨[], []⟩ (by decide)) _ bytes).mpr
    (show 1 ≤ 1 ∧ 1 ≤ 25 by decide)

/-- The slot byte 200 stands for slot 209 of 145. -/
theorem not_confined_drop :
    Session.Reachable ⟨[], []⟩ (Session.created 1 0) ∧ (useItem (.drop 200 1)).Bytes ∧
      ¬ (handle ⟨[], []⟩ (Session.created 1 0).player (useItem (.drop 200 1))).Confined :=
  ⟨Session.created_reachable ⟨[], []⟩ (by decide), show 200 < 2 ^ 8 by decide,
    fun confined => confined.2 .items 209 rfl⟩

end SlotPacket

end Legacy.Inventory
