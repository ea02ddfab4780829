import Legacy.Pets.Login
import Legacy.Lib.Reach

/-!
# The battle pet

The flag of a pet, the pointer of its owner and the stored column name the battle pet three times
(`src/src/game/Player.cpp`, `SetBattlePet`, `_LoadPets` and `_SavePets`). `oneBattlePet_of_reaches` says that they agree
in every run in which no captured pet finds the flag in the memory of its object, which `Pet::Pet` does not write.
-/

namespace Legacy.Pets
open Legacy.Lib
open Legacy.Battle (petSlotEnd)

/-- What can happen to the pets of a player. -/
inductive PetEvent where
  | battle (petModelId : Nat)
  | rest
  /-- A capture, with the byte that the memory of the new object holds for its battle mode. -/
  | capture (entry memory : Nat)
  | release (slot : Nat)
  | save
  /-- A login from the rows that are stored, after a logout or without one. -/
  | relog (rows : List (Nat × Nat))
  /-- Others save, release and number their pets. -/
  | others (character_pet : Nat → Option StoredPet) (number : Nat)

namespace PetOwner

/-- A character without pets. -/
def newcomer (guid : Nat) (character_pet : Nat → Option StoredPet) (number : Nat) : PetOwner :=
  ⟨guid, fun _ => none, none, [], false, fun _ => none, character_pet, number⟩

/-- An event; there is no next state after a fault. -/
def step (creatures : Nat → Option PetTemplate) (s : PetOwner) : PetEvent → Option PetOwner
  | .battle petModelId => (s.handlePetCommand 0x01 petModelId).toOption
  | .rest => (s.handlePetCommand 0x02 0).toOption
  | .capture entry memory => (s.capture creatures entry memory).toOption
  | .release slot => (s.releasePet slot).toOption
  | .save => s.savePets.toOption
  | .relog rows => (s.loadPets creatures rows).toOption
  | .others character_pet number => some { s with character_pet := character_pet, m_hiPetNumber := number }

/-- What others do leaves the rows of the player and of its pets, and numbers are not given out twice. -/
structure Apart (s : PetOwner) (character_pet : Nat → Option StoredPet) (number : Nat) : Prop where
  own : ∀ g row, row.owner_guid = s.guid → (character_pet g = some row ↔ s.character_pet g = some row)
  pets : ∀ g, (s.heap g).isSome → character_pet g = s.character_pet g
  le : s.m_hiPetNumber ≤ number
  below : ∀ g, number < g → character_pet g = none

/-- The database and the other players do their part of an event. -/
def Possible (s : PetOwner) : PetEvent → Prop
  | .relog rows => s.LoginRows rows
  | .others character_pet number => s.Apart character_pet number
  | _ => True

/-- The condition on an event: a pet that is captured does not find the flag in its memory, and its number is not one
of those that the counter of 32 bits has given out before. -/
def Unmarked (creatures : Nat → Option PetTemplate) (s : PetOwner) : PetEvent → Prop
  | .capture entry memory => (s.Summons creatures entry → u8 memory ≠ 1) ∧ s.m_hiPetNumber + 1 < 2 ^ 32
  | _ => True

/-- The battle pet is the one pet with the flag. -/
def OneBattlePet (s : PetOwner) : Prop :=
  ∀ g, s.m_battlePet = some g ↔ ∃ slot pet, s.m_pets slot = some g ∧ s.heap g = some pet ∧ pet.isBattle = true

/-- The rows of the player's battle pets. -/
def BattleRow (s : PetOwner) (g : Nat) : Prop :=
  ∃ row, s.character_pet g = some row ∧ row.owner_guid = s.guid ∧ row.mode_battle = 1

/-- The row of the battle pet is the one that says so. -/
def OneBattleRow (s : PetOwner) : Prop := ∀ g, s.BattleRow g ↔ s.m_battlePet = some g

variable {creatures : Nat → Option PetTemplate} {s s' : PetOwner} {g : Nat}

/-- A pet is flagged for the battle exactly when it is held and fights. -/
lemma Kept.flag_iff (k : s.Kept creatures) : s.flag g = some true ↔
    ∃ slot pet, s.m_pets slot = some g ∧ s.heap g = some pet ∧ pet.isBattle = true := by
  constructor
  · intro flag
    cases live : s.heap g with
    | none =>
      rw [PetOwner.flag, live] at flag
      cases flag
    | some pet =>
      rw [k.flag live, Option.some.injEq] at flag
      exact ⟨pet.slot, pet, k.housed live, rfl, flag⟩
  · rintro ⟨slot, pet, -, live, battle⟩
    rw [k.flag live, battle]

/-- The rows of pets that are settled are those of their flags. -/
lemma Settled.battleRow_iff (h : s.Settled creatures) : s.BattleRow g ↔ s.flag g = some true := by
  have k := h.kept
  have mode {pet : PetObject} : pet.row.mode_battle = 1 ↔ pet.isBattle = true := by
    rw [PetObject.row]
    simp only
    split
    · next battle => exact iff_of_true rfl battle
    · next rests => exact iff_of_false Nat.zero_ne_one rests
  rw [k.flag_iff]
  constructor
  · rintro ⟨row, stored, own, battle⟩
    obtain ⟨pet, live⟩ := Option.isSome_iff_exists.mp (h.rows stored own)
    cases (h.saved live List.not_mem_nil).2.symm.trans stored
    exact ⟨pet.slot, pet, k.housed live, live, mode.mp battle⟩
  · rintro ⟨slot, pet, -, live, battle⟩
    exact ⟨pet.row, (h.saved live List.not_mem_nil).2, (h.pet live).owner, mode.mpr battle⟩

/-- The invariant of a run. -/
structure Ruled (creatures : Nat → Option PetTemplate) (s : PetOwner) : Prop extends Kept creatures s where
  pointer : ∀ g, s.m_battlePet = some g ↔ s.flag g = some true
  unique : ∀ g g', s.BattleRow g → s.BattleRow g' → g' = g

/-- Where the pets are ruled, one fights at most. -/
lemma Ruled.oneBattlePet (r : s.Ruled creatures) : s.OneBattlePet := fun g => (r.pointer g).trans r.toKept.flag_iff

/-- Where all pets are settled only the flags count. -/
lemma Settled.ruled (h : s.Settled creatures) (pointer : ∀ g, s.m_battlePet = some g ↔ s.flag g = some true) :
    s.Ruled creatures where
  toKept := h.kept
  pointer := pointer
  unique g g' row row' := by
    have fights := (pointer g).mpr (h.battleRow_iff.mp row)
    have fights' := (pointer g').mpr (h.battleRow_iff.mp row')
    exact Option.some.inj (fights'.symm.trans fights)

/-- The guid, the rows and the pointer decide. -/
lemma Ruled.congr (r : s.Ruled creatures) (k : s'.Kept creatures) (guid : s'.guid = s.guid)
    (rows : s'.character_pet = s.character_pet) (pointer : ∀ g, s'.m_battlePet = some g ↔ s'.flag g = some true) :
    s'.Ruled creatures where
  toKept := k
  pointer := pointer
  unique g g' row row' := by
    rw [BattleRow, rows, guid] at row row'
    exact r.unique g g' row row'

/-- A new player without rows of its own is ruled. -/
lemma newcomer_ruled {guid number : Nat} {character_pet : Nat → Option StoredPet}
    (foreign : ∀ g row, character_pet g = some row → row.owner_guid ≠ guid ∧ g ≤ number) :
    (newcomer guid character_pet number).Ruled creatures := by
  refine ⟨⟨⟨List.nodup_nil, nofun, nofun, fun {g} lt => ⟨rfl, ?_⟩, fun {g row} stored own => ?_, nofun, nofun, nofun⟩,
    rfl, nofun⟩, fun g => iff_of_false nofun nofun, ?_⟩
  · cases stored : character_pet g with
    | none => exact stored
    | some row => exact absurd (foreign g row stored).2 (Nat.not_le.mpr lt)
  · exact absurd own (foreign g row stored).1
  · rintro g g' ⟨row, stored, own, -⟩
    exact absurd own (foreign g row stored).1

/-- A command points to a pet of the player, or to none. -/
lemma Ruled.setBattlePet (r : s.Ruled creatures) (fighter : Option Nat)
    (held : ∀ g, fighter = some g → ∃ i, s.m_pets i = some g) :
    ∃ s', s.setBattlePet fighter = .ok s' ∧ s'.Ruled creatures ∧ s'.m_pets = s.m_pets := by
  obtain ⟨s', run, k, commanded, fights, flag⟩ := r.toKept.setBattlePet fighter held
  refine ⟨s', run, r.congr k commanded.guid commanded.rows fun g => ?_, commanded.m_pets⟩
  rw [fights, flag]
  by_cases new : fighter = some g
  · rw [if_pos new]
    exact iff_of_true new rfl
  · rw [if_neg new]
    refine iff_of_false new ?_
    by_cases old : s.m_battlePet = some g
    · rw [if_pos old]
      nofun
    · rw [if_neg old]
      exact fun battle => old ((r.pointer g).mpr battle)

/-- A pet command runs through and keeps the pets ruled. -/
lemma Ruled.handlePetCommand (r : s.Ruled creatures) (command petModelId : Nat) :
    ∃ s', s.handlePetCommand command petModelId = .ok s' ∧ s'.Ruled creatures := by
  rw [PetOwner.handlePetCommand]
  by_cases battle : command = 0x01
  · obtain ⟨found, search, held⟩ := r.toKept.getPetByModelId petModelId
    rw [if_pos battle, search, ok_bind]
    cases found with
    | none => exact ⟨s, rfl, r⟩
    | some g =>
      obtain ⟨s₁, run₁, r₁, same⟩ := r.setBattlePet none nofun
      obtain ⟨s₂, run₂, r₂, -⟩ := r₁.setBattlePet (some g) (same ▸ held)
      refine ⟨s₂, ?_, r₂⟩
      simp only
      rw [run₁, ok_bind, run₂]
  · rw [if_neg battle]
    by_cases rest : command = 0x02
    · obtain ⟨s₁, run₁, r₁, -⟩ := r.setBattlePet none nofun
      rw [if_pos rest]
      exact ⟨s₁, run₁, r₁⟩
    · rw [if_neg rest]
      exact ⟨s, rfl, r⟩

/-- A capture runs through and keeps the pets ruled, when the memory is unmarked. -/
lemma Ruled.capture (r : s.Ruled creatures) (entry memory : Nat)
    (unmarked : s.Unmarked creatures (.capture entry memory)) :
    ∃ s', s.capture creatures entry memory = .ok s' ∧ s'.Ruled creatures := by
  obtain ⟨s', run, k, guid, rows, fights, brought⟩ := r.toKept.capture unmarked.2 entry memory
  refine ⟨s', run, r.congr k guid rows fun g => ?_⟩
  rw [fights]
  obtain ⟨summons, flag⟩ | ⟨-, flag⟩ := brought
  · rw [flag, Function.update_apply]
    split
    · next eq =>
      subst eq
      -- the flag of the new pet is what its memory held
      have clear := decide_eq_false (unmarked.1 summons)
      rw [clear]
      refine iff_of_false (fun fights => ?_) nofun
      obtain ⟨i, held⟩ := r.fighter fights
      obtain ⟨pet, live, -⟩ := r.toKept.alive held
      cases (r.below (Nat.lt_succ_self _)).1.symm.trans live
    · exact r.pointer g
  · rw [flag]
    exact r.pointer g

/-- A release runs through and keeps the pets ruled. -/
lemma Ruled.releasePet (r : s.Ruled creatures) {slot : Nat} (bank : slot ≠ maxPetSlot) :
    ∃ s', s.releasePet slot = .ok s' ∧ s'.Ruled creatures := by
  cases held : s.m_pets slot with
  | none => exact ⟨s, releasePet_empty (fun _ => held) bank, r⟩
  | some g =>
    obtain ⟨s', run, settled, -, -, fights, flag⟩ := r.toKept.releasePet held
    refine ⟨s', run, settled.ruled fun g' => ?_⟩
    rw [fights, flag, Function.update_apply]
    by_cases eq : g' = g
    · subst eq
      rw [if_pos rfl]
      refine iff_of_false ?_ nofun
      split
      · nofun
      · next other => exact other
    · rw [if_neg eq, ← r.pointer g']
      split
      · next fights =>
        rw [fights]
        exact iff_of_false nofun fun eq' => eq (Option.some.inj eq').symm
      · exact Iff.rfl

/-- A save leaves the row of the battle pet as the only one. -/
lemma Ruled.savePets (r : s.Ruled creatures) :
    ∃ s', s.savePets = .ok s' ∧ s'.Ruled creatures ∧ s'.OneBattleRow := by
  obtain ⟨s', run, settled, saved⟩ := r.toSaving.savePets r.free
  have pointer (g : Nat) : s'.m_battlePet = some g ↔ s'.flag g = some true := by
    rw [saved.m_battlePet, saved.flag]
    exact r.pointer g
  exact ⟨s', run, settled.ruled pointer, fun g => settled.battleRow_iff.trans (pointer g).symm⟩

/-- A login finds the battle pet in the one row that says so. -/
lemma Ruled.loadPets (r : s.Ruled creatures) {rows : List (Nat × Nat)} (login : s.LoginRows rows) :
    ∃ s', s.loadPets creatures rows = .ok s' ∧ s'.Ruled creatures := by
  obtain ⟨s', run, settled, guid, same, fighter, flagged⟩ := r.toKept.loadPets login
  refine ⟨s', run, settled.ruled fun g => ⟨fighter g, fun battle => ?_⟩⟩
  obtain ⟨g', fights⟩ := Option.isSome_iff_exists.mp (flagged g battle)
  -- two pets with the flag would have two rows that say so
  have row := settled.battleRow_iff.mpr battle
  have row' := settled.battleRow_iff.mpr (fighter g' fights)
  rw [BattleRow, same, guid] at row row'
  rw [fights, r.unique g g' row row']

/-- What others do does not matter. -/
lemma Ruled.others (r : s.Ruled creatures) {character_pet : Nat → Option StoredPet} {number : Nat}
    (apart : s.Apart character_pet number) :
    ({ s with character_pet := character_pet, m_hiPetNumber := number } : PetOwner).Ruled creatures := by
  have k := r.toKept
  refine ⟨⟨⟨k.nodup, fun {g pet} live => ?_, k.slot, fun {g} lt => ?_, fun {g row} stored own => ?_, k.fighter,
    k.waiting, fun {g pet} live notMem => ?_⟩, k.free, k.entries⟩, r.pointer, ?_⟩
  · exact (k.pet live).congr rfl rfl (apart.pets g (live ▸ rfl))
  · exact ⟨(k.below (Nat.lt_of_le_of_lt apart.le lt)).1, apart.below g lt⟩
  · exact k.rows ((apart.own g row own).mp stored) own
  · refine ⟨(k.saved live notMem).1, ?_⟩
    exact (apart.pets g (live ▸ rfl)).trans (k.saved live notMem).2
  · rintro g g' ⟨row, stored, own, mode⟩ ⟨row', stored', own', mode'⟩
    exact r.unique g g' ⟨row, (apart.own g row own).mp stored, own, mode⟩
      ⟨row', (apart.own g' row' own').mp stored', own', mode'⟩

/-- An event keeps the invariant. Its call returns, but for a release of a slot past the end of the array. -/
lemma Ruled.next (r : s.Ruled creatures) {e : PetEvent} (possible : s.Possible e) (unmarked : s.Unmarked creatures e)
    (bank : e ≠ .release maxPetSlot) : ∃ s', s.step creatures e = some s' ∧ s'.Ruled creatures := by
  have returned {m : Except PetFault PetOwner} (ran : ∃ s', m = .ok s' ∧ s'.Ruled creatures) :
      ∃ s', m.toOption = some s' ∧ s'.Ruled creatures := by
    obtain ⟨s', rfl, r'⟩ := ran
    exact ⟨s', rfl, r'⟩
  cases e with
  | battle petModelId => exact returned (r.handlePetCommand 0x01 petModelId)
  | rest => exact returned (r.handlePetCommand 0x02 0)
  | capture entry memory => exact returned (r.capture entry memory unmarked)
  | release slot =>
    refine returned (r.releasePet ?_)
    rintro rfl
    exact bank rfl
  | save =>
    obtain ⟨s', run, r', -⟩ := r.savePets
    exact returned ⟨s', run, r'⟩
  | relog rows => exact returned (r.loadPets possible)
  | others character_pet number => exact ⟨_, rfl, r.others possible⟩

/-- Every possible step on unmarked memory keeps the pets ruled. -/
lemma Ruled.step (r : s.Ruled creatures) {e : PetEvent} (possible : s.Possible e) (unmarked : s.Unmarked creatures e)
    (next : s.step creatures e = some s') : s'.Ruled creatures := by
  have bank : e ≠ .release maxPetSlot := by
    rintro rfl
    cases next
  obtain ⟨s₁, run, r₁⟩ := r.next possible unmarked bank
  cases next.symm.trans run
  exact r₁

/-- In a run in which no captured pet finds the flag in its memory, the battle pet is the one pet with the flag, and a
save leaves its row as the only one. -/
theorem oneBattlePet_of_reaches {guid number : Nat} {character_pet : Nat → Option StoredPet}
    (foreign : ∀ g row, character_pet g = some row → row.owner_guid ≠ guid ∧ g ≤ number)
    (run : Lib.Reaches (step creatures) (fun s e => s.Possible e ∧ s.Unmarked creatures e)
      (newcomer guid character_pet number) s) :
    s.OneBattlePet ∧ Sat s.savePets OneBattleRow := by
  have ruled : s.Ruled creatures :=
    run.invariant (newcomer_ruled foreign) fun r allowed next => r.step allowed.1 allowed.2 next
  obtain ⟨s', saved, -, row⟩ := ruled.savePets
  exact ⟨ruled.oneBattlePet, sat_iff.mpr ⟨s', saved, row⟩⟩

/-- One kind of pet. -/
def cubs (entry : Nat) : Option PetTemplate := if entry = 7 then some ⟨⟨"cub", 1, 1, 0⟩, 40⟩ else none

/-- A cub is caught, sent to battle and saved. -/
def campaign : List PetEvent := [.capture 7 0, .battle 40, .save]

/-- The one row that the campaign leaves. -/
lemma campaign_rows (reached : exec (step cubs) (newcomer 1 (fun _ => none) 1) campaign = some s) :
    s.LoginRows [(2, 0)] := by
  cases Option.some.inj reached
  refine ⟨by decide, by decide, fun g slot => ?_⟩
  show (g, slot) ∈ [(2, 0)] ↔ ∃ row, Function.update (fun _ => none) 2 (some (StoredPet.mk 1 (some ⟨7, 40⟩) 0 1)) g =
    some row ∧ row.owner_guid = 1 ∧ row.petslot = slot
  rw [List.mem_singleton, Prod.mk.injEq]
  by_cases eq : g = 2
  · subst eq
    simp only [Function.update_self, Option.some.injEq, exists_eq_left', true_and]
    exact eq_comm
  · simp only [Function.update_of_ne eq, reduceCtorEq, false_and, exists_false, eq]

/-- The cub is the battle pet after its owner logged in again. -/
theorem oneBattlePet_campaign :
    ∃ s, exec (step cubs) (newcomer 1 (fun _ => none) 1) (campaign ++ [.relog [(2, 0)]]) = some s ∧
      s.m_battlePet = some 2 ∧ s.OneBattlePet ∧ Sat s.savePets OneBattleRow := by
  have along : Along (step cubs) (fun s e => s.Possible e ∧ s.Unmarked cubs e) (newcomer 1 (fun _ => none) 1)
      (campaign ++ [.relog [(2, 0)]]) := by
    refine ⟨⟨trivial, fun _ => by decide, by decide⟩, fun s₁ caught => ⟨⟨trivial, trivial⟩, fun s₂ fights =>
      ⟨⟨trivial, trivial⟩, fun s₃ saved => ⟨⟨campaign_rows ?_, trivial⟩, fun _ _ => trivial⟩⟩⟩⟩
    rw [campaign, exec, Option.mem_def.mp caught, Option.bind_some, exec, Option.mem_def.mp fights, Option.bind_some,
      exec, Option.mem_def.mp saved]
    rfl
  exact ⟨_, rfl, rfl, @oneBattlePet_of_reaches cubs _ 1 1 (fun _ => none) nofun (reaches_of_exec _ along rfl)⟩

/-- A cub that is caught has the flag, and it is not the battle pet. -/
theorem not_oneBattlePet :
    ∃ s, Lib.Reaches (step cubs) Possible (newcomer 1 (fun _ => none) 1) s ∧ ¬s.OneBattlePet := by
  refine ⟨_, Lib.Reaches.tail (e := .capture 7 1) Lib.Reaches.refl trivial rfl, fun one => ?_⟩
  have flagged := (one 2).mpr ⟨0, _, rfl, rfl, rfl⟩
  cases flagged

end PetOwner

end Legacy.Pets
