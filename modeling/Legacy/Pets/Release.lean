import Legacy.Pets.BattlePet
import Legacy.Inventory.PetModifiers

/-!
# Releasing a pet

`Player::ReleasePet` (`src/src/game/Player.cpp`) frees the pet in its own save, with what else refers to a pet: the
items that it wears or wore, and the cells of the battle. `releasePet_clean_iff` says when nothing is left to refer to
the freed pet: it wears nothing, no item that it took off is yet to be deleted, and it stands in no battle.
-/

namespace Legacy.Pets
open Legacy.Lib

namespace PetOwner

variable {creatures : Nat → Option PetTemplate} {s s' : PetOwner} {slot g : Nat}

/-- What a release leaves of the pet in the slot. -/
structure Freed (s : PetOwner) (g : Nat) : Prop where
  object : s.heap g = none
  slots : ∀ i, s.m_pets i ≠ some g
  battlePet : s.m_battlePet ≠ some g
  queue : some g ∉ s.m_petUpdateQueue

/-- A pet that is released is freed. -/
lemma Kept.releasePet_freed (k : s.Kept creatures) (held : s.m_pets slot = some g)
    (run : s.releasePet slot = .ok s') : s'.Freed g := by
  obtain ⟨s₁, run₁, settled, -, slots, pointer, flag⟩ := k.releasePet held
  cases run.symm.trans run₁
  refine ⟨?_, fun i at' => ?_, ?_, ?_⟩
  · cases live : s'.heap g with
    | none => rfl
    | some pet =>
      have gone := congrFun flag g
      rw [Function.update_self, settled.kept.flag live] at gone
      cases gone
  · rw [slots] at at'
    by_cases eq : i = slot
    · rw [eq, Function.update_self] at at'
      cases at'
    · rw [Function.update_of_ne eq] at at'
      obtain ⟨pet, live, rfl⟩ := k.alive held
      obtain ⟨pet', live', rfl⟩ := k.alive at'
      cases live.symm.trans live'
      exact eq rfl
  · rw [pointer]
    split
    · nofun
    · next other => exact other
  · rw [settled.empty]
    exact List.not_mem_nil

/-- A release that returns leaves the pets kept and the slot empty. -/
lemma Kept.releasePet_kept (k : s.Kept creatures) (run : s.releasePet slot = .ok s') :
    s'.Kept creatures ∧ s'.m_pets = Function.update s.m_pets slot none := by
  cases held : s.m_pets slot with
  | none =>
    have bank : slot ≠ maxPetSlot := by
      rintro rfl
      cases run
    rw [releasePet_empty (fun _ => held) bank] at run
    cases run
    exact ⟨k, (Function.update_eq_self_iff.mpr held.symm).symm⟩
  | some g =>
    obtain ⟨s₁, run₁, settled, -, slots, -⟩ := k.releasePet held
    cases run.symm.trans run₁
    exact ⟨settled.kept, slots⟩

end PetOwner

/-- A player whose slot is empty; its items stay as they are. -/
def emptied (p : Inventory.Player) (slot : Nat) : Inventory.Player :=
  { p with pets := Function.update p.pets slot none }

/-- The release of a slot from the client. -/
lemma handlePetRelease_emptied (p : Inventory.Player) {slot : Nat} (lt : slot < maxPetSlot) :
    (p.handlePetRelease 0x02 (slot + 1)).result = .ok (emptied p slot) := by
  simp only [maxPetSlot] at lt
  have below : Inventory.oneBelow (slot + 1) = slot := by
    rw [Inventory.oneBelow, u8]
    omega
  have named : ¬(slot + 1 = 0 ∨ Inventory.maxPetSlot < slot + 1) := by
    simp only [Inventory.maxPetSlot]
    omega
  rw [Inventory.Player.handlePetRelease, if_neg named, if_pos rfl, below, Inventory.Traced.access]
  exact congrArg Inventory.Traced.result (if_pos lt)

/-- A battle after its player lost a pet: the cells of the grid are not touched. -/
def withoutPet (b : Battle.Engine) (player pet : Nat) : Battle.Engine :=
  b.setUnit player { b.units player with
    pets := (b.units player).pets.filter (· ≠ pet)
    battlePet := if (b.units player).battlePet = some pet then none else (b.units player).battlePet }

/-- An empty slot is one in both records of the pets. -/
lemma linked_release {pets : Nat → Option Inventory.Pet} {m_pets : Nat → Option Nat}
    (linked : ∀ i, (pets i).map Inventory.Pet.guid = m_pets i) (slot i : Nat) :
    (Function.update pets slot none i).map Inventory.Pet.guid = Function.update m_pets slot none i := by
  by_cases eq : i = slot
  · rw [eq, Function.update_self, Function.update_self]
    rfl
  · rw [Function.update_of_ne eq, Function.update_of_ne eq]
    exact linked i

/-- A player with its pets, its items and its battle, if it is in one. The names of the pets' units in the battle are
given by `petUnit`. -/
structure Holdings (creatures : Nat → Option PetTemplate) (objmgr : Inventory.ObjectMgr) where
  owner : PetOwner
  player : Inventory.Player
  db : Inventory.Database
  battle : Option Battle.Engine
  unit : Nat
  petUnit : Nat → Nat
  kept : owner.Kept creatures
  stored : player.Stored objmgr
  linked : ∀ i, (player.pets i).map Inventory.Pet.guid = owner.m_pets i

namespace Holdings

variable {creatures : Nat → Option PetTemplate} {objmgr : Inventory.ObjectMgr} (h : Holdings creatures objmgr)

/-- Source `Player::ReleasePet`: no item and no cell of a battle is written. -/
def releasePet (slot : Nat) : Except PetFault (Holdings creatures objmgr) :=
  match run : h.owner.releasePet slot with
  | .error fault => .error fault
  | .ok owner => .ok { h with
    owner := owner
    player := emptied h.player slot
    battle := match h.owner.m_pets slot with
      | none => h.battle
      | some g => h.battle.map fun b => withoutPet b h.unit (h.petUnit g)
    kept := (h.kept.releasePet_kept run).1
    stored := h.stored.release slot
    linked := fun i => (linked_release h.linked slot i).trans (congrFun (h.kept.releasePet_kept run).2.symm i) }

/-- Nothing refers to a pet that was freed. -/
structure Clean (h h' : Holdings creatures objmgr) (g : Nat) : Prop where
  freed : h'.owner.Freed g
  containers : ∀ item it, h'.player.heap item = some it → it.container ≠ some g
  grid : ∀ b ∈ h'.battle, ∀ col row, b.battleUnit col row ≠ some (h.petUnit g)
  /-- What it wore is held, or it has no rows. -/
  worn : ∀ i pet e item, h.player.pets i = some pet → pet.guid = g → pet.equip e = some item →
    (∃ l, h'.player.holds l = some item) ∨ h'.db.characterInventory item = none ∧ h'.db.itemInstance item = none

/-- A pet wears nothing, and nothing that it took off is still in memory in no slot. -/
def Bare (g : Nat) : Prop :=
  (∀ i pet, h.player.pets i = some pet → pet.guid = g → ∀ e, pet.equip e = none) ∧
    ∀ item it, h.player.Floating item → h.player.heap item = some it → it.container ≠ some g

/-- A pet stands in no battle. -/
def OutOfBattle (g : Nat) : Prop := ∀ b ∈ h.battle, ∀ col row, b.battleUnit col row ≠ some (h.petUnit g)

variable {h} {h' : Holdings creatures objmgr} {slot g : Nat}

/-- The items that name a pet are those that it wears, and those that it took off. -/
lemma bare_iff : h.Bare g ↔ ∀ item it, h.player.heap item = some it → it.container ≠ some g := by
  constructor
  · rintro ⟨bare, off⟩ item it live named
    by_cases floating : h.player.Floating item
    · exact off item it floating live named
    · obtain ⟨l, held⟩ := not_forall_not.mp floating
      obtain ⟨it', live', resides, -⟩ := h.stored.live held
      cases live.symm.trans live'
      cases l with
      | slot i => cases resides.2.symm.trans named
      | worn i e =>
        obtain ⟨pet, at', worn⟩ := Option.bind_eq_some_iff.mp held
        have guid : (h.player.pets i).map Inventory.Pet.guid = some g := resides.2.symm.trans named
        rw [at', Option.map_some, Option.some.injEq] at guid
        cases (bare i pet at' guid e).symm.trans worn
  · intro clear
    refine ⟨fun i pet at' guid e => ?_, fun item it _ live => clear item it live⟩
    cases worn : pet.equip e with
    | none => rfl
    | some item =>
      have held : h.player.holds (.worn i e) = some item := Option.bind_eq_some_iff.mpr ⟨pet, at', worn⟩
      obtain ⟨it, live, resides, -⟩ := h.stored.live held
      refine absurd (resides.2.trans ?_) (clear item it live)
      rw [at', Option.map_some, guid]

/-- The pets' side of a release always returns in an existing slot. -/
lemma releasePet_run (lt : slot < maxPetSlot) : ∃ owner, h.owner.releasePet slot = .ok owner := by
  cases held : h.owner.m_pets slot with
  | none => exact ⟨_, PetOwner.releasePet_empty (fun _ => held) lt.ne⟩
  | some g =>
    obtain ⟨owner, run, -⟩ := h.kept.releasePet held
    exact ⟨owner, run⟩

/-- A release writes no item and no cell of a battle. -/
lemma releasePet_spec (lt : slot < maxPetSlot) : ∃ h', h.releasePet slot = .ok h' ∧
    h.owner.releasePet slot = .ok h'.owner ∧ h'.player = emptied h.player slot ∧ h'.db = h.db ∧
    ∀ c r u, (∃ b ∈ h'.battle, b.battleUnit c r = some u) ↔ ∃ b ∈ h.battle, b.battleUnit c r = some u := by
  obtain ⟨owner, run⟩ := releasePet_run (h := h) lt
  rw [releasePet]
  split
  · next failed => cases failed.symm.trans run
  · next owner' ok =>
    refine ⟨_, rfl, ok, rfl, rfl, fun c r u => ?_⟩
    simp only
    cases h.owner.m_pets slot with
    | none => exact Iff.rfl
    | some g =>
      simp only [Option.mem_def, Option.map_eq_some_iff]
      constructor
      · rintro ⟨b, ⟨b', at', rfl⟩, cell⟩
        exact ⟨b', at', cell⟩
      · rintro ⟨b, at', cell⟩
        exact ⟨_, ⟨b, at', rfl⟩, cell⟩

/-- A release leaves nothing that refers to the freed pet exactly if it wears nothing, nothing that it took off is yet
to be deleted, and it stands in no battle. -/
theorem releasePet_clean_iff (h : Holdings creatures objmgr) {slot : Nat} (lt : slot < maxPetSlot) :
    Sat (h.releasePet slot) (fun h' => ∀ g, h.owner.m_pets slot = some g → h.Clean h' g) ↔
      ∀ g, h.owner.m_pets slot = some g → h.Bare g ∧ h.OutOfBattle g := by
  obtain ⟨h', run, released, player, -, grid⟩ := releasePet_spec (h := h) lt
  have heap : h'.player.heap = h.player.heap := by
    rw [player]
    rfl
  rw [run, sat_ok]
  refine forall₂_congr fun g held => ?_
  constructor
  · intro clean
    refine ⟨bare_iff.mpr fun item it live => clean.containers item it (heap ▸ live), fun b at' col row cell => ?_⟩
    obtain ⟨b', at', cell⟩ := (grid col row _).mpr ⟨b, at', cell⟩
    exact clean.grid b' at' col row cell
  · rintro ⟨bare, out⟩
    refine ⟨h.kept.releasePet_freed held released, fun item it live => bare_iff.mp bare item it (heap ▸ live),
      fun b at' col row cell => ?_, fun i pet e item at' guid worn => ?_⟩
    · obtain ⟨b', at', cell⟩ := (grid col row _).mp ⟨b, at', cell⟩
      exact out b' at' col row cell
    · cases (bare.1 i pet at' guid e).symm.trans worn

/-- A cub is caught as pet 7. -/
def caught : PetOwner :=
  match (PetOwner.newcomer 1 (fun _ => none) 6).capture PetOwner.cubs 7 0 with
  | .ok s => s
  | .error _ => PetOwner.newcomer 1 (fun _ => none) 6

/-- The player of the example has its pets kept. -/
lemma caught_kept : caught.Kept PetOwner.cubs := by
  have ruled : (PetOwner.newcomer 1 (fun _ => none) 6).Ruled PetOwner.cubs := PetOwner.newcomer_ruled nofun
  obtain ⟨s, run, kept⟩ := ruled.capture 7 0 ⟨fun _ => by decide, by decide⟩
  rw [caught, run]
  exact kept.toKept

/-- A player with this pet, whose unit is the second one of a battle. -/
def withCub (battle : Option Battle.Engine) (player : Inventory.Player) (db : Inventory.Database)
    (stored : player.Stored Inventory.Player.armoury)
    (linked : ∀ i, (player.pets i).map Inventory.Pet.guid = caught.m_pets i) :
    Holdings PetOwner.cubs Inventory.Player.armoury :=
  ⟨caught, player, db, battle, 1, fun _ => 2, caught_kept, stored, linked⟩

/-- The player of the example logs in without items. -/
lemma empty_login : Inventory.Session.Login (Inventory.Household.petOwner fun _ _ => 0)
    (Inventory.Session.holding 1 []) [] :=
  Inventory.Household.petOwner_login (fun _ _ => 0) List.nodup_nil .nil nofun nofun

/-- The pet wears nothing. -/
def unarmed (battle : Battle.Engine) : Holdings PetOwner.cubs Inventory.Player.armoury :=
  withCub (some battle) (Inventory.Household.petOwner fun _ _ => 0) (Inventory.Session.holding 1 [])
    empty_login.fresh.stored fun i => by
      cases i with
      | zero => rfl
      | succ i => rfl

/-- The pet wears a sword, and there is no battle. -/
def armed : Holdings PetOwner.cubs Inventory.Player.armoury :=
  withCub none Inventory.Household.petArmed.player Inventory.Household.petArmed.db
    Inventory.Household.petArmed_reachable.kept.stored fun i => by
      cases i with
      | zero => rfl
      | succ i => rfl

/-- The pet has no place in the duel. -/
lemma unarmed_outOfBattle (g : Nat) : (unarmed Battle.Engine.duel).OutOfBattle g := by
  intro b at' col row cell
  cases at'
  change (if _ then some 1 else if _ then some 10 else none) = some 2 at cell
  split_ifs at cell <;> cases cell

/-- A pet that wears nothing is released while its player fights, and leaves nothing behind when it is not in the
battle itself; when it is, its cell still names it. -/
theorem clean_unarmed : 0 < maxPetSlot ∧
    Sat ((unarmed Battle.Engine.duel).releasePet 0) (fun h' =>
      ∀ g, (unarmed Battle.Engine.duel).owner.m_pets 0 = some g → (unarmed Battle.Engine.duel).Clean h' g) ∧
    ¬Sat ((unarmed Battle.Combat.petDuel).releasePet 0) (fun h' =>
      ∀ g, (unarmed Battle.Combat.petDuel).owner.m_pets 0 = some g → (unarmed Battle.Combat.petDuel).Clean h' g) := by
  refine ⟨by decide, (releasePet_clean_iff (unarmed _) (by decide)).mpr fun g held => ⟨⟨fun i pet at' _ e => ?_, ?_⟩,
    unarmed_outOfBattle g⟩, fun clean => ?_⟩
  · have pets : (Inventory.Household.petOwner fun _ _ => 0).pets i = some pet := at'
    rw [(Inventory.Household.petOwner_pets pets).2]
  · intro item it _ live
    cases live
  · obtain ⟨-, out⟩ := (releasePet_clean_iff (unarmed Battle.Combat.petDuel) (by decide)).mp clean 7 rfl
    exact out _ rfl 2 2 rfl

/-- The sword of a pet that is released names it still, and the next save of the items reads it. -/
theorem not_clean_armed :
    Inventory.Household.Reachable Inventory.Player.armoury Inventory.Household.petArmed ∧
      armed.player = Inventory.Household.petArmed.player ∧
      ¬Sat (armed.releasePet 0) (fun h' => ∀ g, armed.owner.m_pets 0 = some g → armed.Clean h' g) ∧
      Sat (armed.releasePet 0) fun h' =>
        h'.player.saveInventory Inventory.Player.armoury h'.db = .error (.stalePet 7) := by
  have bank : 0 < maxPetSlot := by decide
  obtain ⟨h', run, -, player, db, -⟩ := releasePet_spec (h := armed) bank
  rw [run, sat_ok, sat_ok, player, db]
  refine ⟨Inventory.Household.petArmed_reachable, rfl, fun clean => ?_, rfl⟩
  have sword : h'.player.heap 1 = some ⟨1, 2, 1, 1, 3, some 7⟩ := by
    rw [player]
    rfl
  exact (clean 7 rfl).containers 1 _ sword rfl

end Holdings

end Legacy.Pets
