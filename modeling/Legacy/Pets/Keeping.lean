import Legacy.Pets.Record
import Legacy.Battle.Capture

/-!
# The pets of a player

Model of the pets that a player holds (`src/src/game/Player.cpp`, `_LoadPets`, `_SavePets`, `SetBattlePet` and
`CreatePet` to `ReleasePet`), of their update states and queue (`Pet.cpp`), of the commands for the battle pet
(`PetHandler.cpp`) and of the rows of `character_pet`. A pet object is named by its low guid, and `heap` holds the
objects that are alive. Reading a pet that was deleted or an array beyond its end is a `PetFault`, after which the C++
program has no defined behaviour.
-/

namespace Legacy.Pets
open Legacy.Lib
open Legacy.Battle (PetSlots PetChangeFailure petSlotEnd petSlotBankEnd nullPetSlot)

/-- The fields of a row of `creature_template` that a pet is created from. -/
structure PetTemplate where
  info : Battle.CreatureInfo
  modelid : Nat
  deriving DecidableEq, Repr

/-- A pet object (source `class Pet`): `modelid` is its `UNIT_FIELD_DISPLAYID`, and `owner` its `GetOwnerGUID`. -/
structure PetObject where
  owner : Nat
  entry : Nat
  modelid : Nat
  info : Battle.CreatureInfo
  slot : Nat
  battle : Nat
  uState : PetUpdateState
  uQueuePos : Int
  deriving DecidableEq

/-- What a load reads of the values of a stored pet. -/
structure PetValues where
  entry : Nat
  modelid : Nat
  deriving DecidableEq, Repr

/-- A row of `character_pet`; `data` is none where `LoadValues` refuses it. -/
structure StoredPet where
  owner_guid : Nat
  data : Option PetValues
  petslot : Nat
  mode_battle : Nat
  deriving DecidableEq, Repr

/-- Undefined behaviour of the program. -/
inductive PetFault where
  /-- A pet that was deleted is read. -/
  | useAfterFree (guid : Nat)
  /-- `m_pets` is indexed beyond its end. -/
  | outOfBounds (index : Nat)
  /-- The update queue is indexed outside of its bounds. -/
  | queueIndex (pos : Int)
  deriving DecidableEq, Repr

/-- A player in play with its pets, the table of the stored pets, and the counter of the server. -/
structure PetOwner where
  guid : Nat
  m_pets : Nat → Option Nat
  m_battlePet : Option Nat
  m_petUpdateQueue : List (Option Nat)
  m_petUpdateQueueBlocked : Bool
  heap : Nat → Option PetObject
  character_pet : Nat → Option StoredPet
  /-- source `ObjectMgr::m_hiPetNumber` -/
  m_hiPetNumber : Nat

namespace PetObject

/-- source `Pet::isBattle` -/
def isBattle (pet : PetObject) : Bool := pet.battle = 1

/-- The row that `Pet::SaveToDB` inserts for a new pet. -/
def row (pet : PetObject) : StoredPet :=
  ⟨pet.owner, some ⟨pet.entry, pet.modelid⟩, pet.slot, if pet.isBattle then 1 else 0⟩

/-- The update of a row in `Pet::SaveToDB`: the slot is not written. -/
def updateRow (pet : PetObject) (row : StoredPet) : StoredPet := { pet.row with petslot := row.petslot }

/-- The object in another state: a new pet stays new until it is saved. -/
def withState (pet : PetObject) (state : PetUpdateState) : PetObject :=
  if pet.uState ≠ .new then { pet with uState := state } else pet

end PetObject

namespace PetOwner

variable (creatures : Nat → Option PetTemplate) (s : PetOwner)

/-- The pet object behind a pointer. -/
def deref (g : Nat) : Except PetFault PetObject :=
  match s.heap g with
  | some pet => .ok pet
  | none => .error (.useAfterFree g)

/-- source `Player::GetPet` -/
def getPet (slot : Nat) : Except PetFault (Option Nat) :=
  if slot < maxPetSlot then .ok (s.m_pets slot) else .error (.outOfBounds slot)

/-- Overwrites fields of a pet object. -/
def setPet (g : Nat) (pet : PetObject) : PetOwner := { s with heap := Function.update s.heap g (some pet) }

/-- Deletes a pet object (source `delete this`). -/
def deletePet (g : Nat) : PetOwner := { s with heap := Function.update s.heap g none }

/-- Replaces a row of `character_pet`, or deletes it. -/
def setRow (g : Nat) (row : Option StoredPet) : PetOwner :=
  { s with character_pet := Function.update s.character_pet g row }

/-- source `Pet::AddToUpdateQueueOf`; the position has 16 bits -/
def addToUpdateQueueOf (g : Nat) (pet : PetObject) : PetOwner :=
  if pet.uQueuePos ≠ -1 then s
  else if pet.owner ≠ s.guid then s
  else if s.m_petUpdateQueueBlocked then s
  else
    { s.setPet g { pet with uQueuePos := i16 s.m_petUpdateQueue.length } with
      m_petUpdateQueue := s.m_petUpdateQueue ++ [some g] }

/-- source `Pet::RemoveFromUpdateQueueOf` -/
def removeFromUpdateQueueOf (g : Nat) (pet : PetObject) : Except PetFault PetOwner :=
  if pet.uQueuePos = -1 then .ok s
  else if pet.owner ≠ s.guid then .ok s
  else if s.m_petUpdateQueueBlocked then .ok s
  else if 0 ≤ pet.uQueuePos ∧ pet.uQueuePos < s.m_petUpdateQueue.length then
    .ok { s.setPet g { pet with uQueuePos := -1 } with
      m_petUpdateQueue := s.m_petUpdateQueue.set pet.uQueuePos.toNat none }
  else .error (.queueIndex pet.uQueuePos)

/-- source `Pet::SetState`, of a pet of this player -/
def setState (g : Nat) (state : PetUpdateState) : Except PetFault PetOwner := do
  let pet ← s.deref g
  if pet.uState = .new ∧ state = .removed then
    -- the source pretends that the pet never existed
    return (← s.removeFromUpdateQueueOf g pet).deletePet g
  else if state ≠ .unchanged then
    return (s.setPet g (pet.withState state)).addToUpdateQueueOf g (pet.withState state)
  else return s.setPet g { pet with uState := .unchanged, uQueuePos := -1 }

/-- source `Pet::SaveToDB` -/
def saveToDB (g : Nat) : Except PetFault PetOwner := do
  let pet ← s.deref g
  match pet.uState with
  | .new => (s.setRow g (some pet.row)).setState g .unchanged
  | .changed => (s.setRow g ((s.character_pet g).map pet.updateRow)).setState g .unchanged
  | .removed => return (s.setRow g none).deletePet g
  | .unchanged => s.setState g .unchanged

/-- source `Player::_SavePets`; entries that were taken out of the queue are skipped -/
def savePets : Except PetFault PetOwner :=
  if s.m_petUpdateQueue = [] then .ok s
  else do
    let s ← (s.m_petUpdateQueue.filterMap id).foldlM saveToDB s
    return { s with m_petUpdateQueue := [] }

/-- Source `Pet::SetBattle` and `Pet::SetState` after it, of a pet that is not null. -/
def setBattle (pet : Option Nat) (mode : Nat) : Except PetFault PetOwner :=
  match pet with
  | none => .ok s
  | some g => do
    let pet ← s.deref g
    (s.setPet g { pet with battle := mode }).setState g .changed

/-- source `Player::SetBattlePet` -/
def setBattlePet (pet : Option Nat) : Except PetFault PetOwner := do
  let s ← s.setBattle s.m_battlePet 0
  { s with m_battlePet := pet }.setBattle pet 1

/-- source `Player::GetPetByModelId` -/
def getPetByModelId (modelid : Nat) : Except PetFault (Option Nat) :=
  (List.range maxPetSlot).findSomeM? fun slot => do
    match s.m_pets slot with
    | none => return none
    | some g =>
      let pet ← s.deref g
      return if u16 pet.modelid = modelid then some g else none

/-- source `WorldSession::HandlePetCommandOpcodes`, as far as it is about the pets of the player -/
def handlePetCommand (command petModelId : Nat) : Except PetFault PetOwner := do
  if command = 0x01 then
    match ← s.getPetByModelId petModelId with
    | none => return s
    | some pet => (← s.setBattlePet none).setBattlePet (some pet)
  else if command = 0x02 then s.setBattlePet none
  else return s

/-- source `Player::VisualizePet` -/
def visualizePet (pos g : Nat) : Except PetFault PetOwner := do
  let pet ← s.deref g
  ({ s with m_pets := Function.update s.m_pets pos (some g) }.setPet g
    { pet with owner := s.guid, slot := pos }).setState g .changed

/-- source `Player::SummonPet`; the field that `Pet::SetOwnerGUID` writes is not the one of `GetOwnerGUID` -/
def summonPet (pos g : Nat) : Except PetFault PetOwner := do
  match ← s.getPet pos with
  | none => s.visualizePet pos g
  -- the slot is taken: the new pet goes, and the one there is written again
  | some pPet2 => (← s.setState g .removed).setState pPet2 .changed

/-- What the slots hold, for the search of a slot. -/
def petSlots : PetSlots := fun slot => (s.m_pets slot).bind fun g => (s.heap g).map fun pet => ⟨g, pet.info⟩

/-- The pet in a slot resembles the new one. -/
def isSimilar (pPet : PetObject) (slot : Nat) : Except PetFault Bool := do
  match s.m_pets slot with
  | none => return false
  | some g =>
    let pet ← s.deref g
    return pPet.info.resembles pet.info

/-- Source `Player::CanSummonPet`: the pets are read up to the first that resembles the new one. -/
def canSummonPet (slot : Nat) (pPet : PetObject) (swap : Bool) : Except PetFault (PetChangeFailure × Nat) := do
  let _ ← (List.range petSlotBankEnd).anyM (s.isSimilar pPet)
  return s.petSlots.canSummonPet slot (some pPet.info) swap

/-- The object that `Player::CreatePet` makes: it is new and in no queue. Its slot is written before it is read; its
battle mode is what the memory held. -/
def newPet (entry : Nat) (proto : PetTemplate) (memory : Nat) : PetObject :=
  ⟨s.guid, entry, proto.modelid, proto.info, 0, u8 memory, .new, -1⟩

/-- The owner after `Player::CreatePet`: the number is given out, and the object is in memory. -/
def createPet (number : Nat) (pet : PetObject) : PetOwner := { s.setPet number pet with m_hiPetNumber := number }

/-- The case `SPELL_CATCH` of `BattleSystem::BuildUpdateBlockAction`, after the dice: source `Player::CreatePet`,
`Player::CanSummonPet` and `Player::SummonPet`. -/
def capture (entry memory : Nat) : Except PetFault PetOwner := do
  match creatures entry with
  | none => return s
  | some proto =>
    let g := u32 (s.m_hiPetNumber + 1)
    let pet := s.newPet entry proto memory
    let s := s.createPet g pet
    match ← s.canSummonPet nullPetSlot pet false with
    | (.ok, dest) => s.summonPet dest g
    -- there is no slot for it; its number is not given out again
    | _ => return s.deletePet g

/-- source `Player::ReleasePet` -/
def releasePet (slot : Nat) : Except PetFault PetOwner := do
  if maxPetSlot < slot then return s
  else
    match ← s.getPet slot with
    | none => return s
    | some g =>
      let s ← (if s.m_battlePet = some g then s.setBattlePet none else .ok s : Except PetFault PetOwner)
      let s ← s.setState g .removed
      -- the object lives on as a removed one until this save
      { s with m_pets := Function.update s.m_pets slot none }.savePets

/-- source `Pet::LoadPetFromDB` -/
def loadPetFromDB (petguid : Nat) : Option PetObject :=
  match s.character_pet petguid with
  | none => none
  | some row =>
    if row.owner_guid ≠ s.guid then none
    else
      match row.data with
      | none => none
      | some data => (creatures data.entry).map fun petProto =>
        ⟨s.guid, data.entry, data.modelid, petProto.info, 0, u8 row.mode_battle, .new, -1⟩

/-- The loop of `Player::_LoadPets` over the rows (guid and slot) that are still to come. -/
def loadRows : List (Nat × Nat) → Nat → PetOwner → Except PetFault PetOwner
  | [], _, s => .ok s
  | (petguid, petslot) :: rows, count, s =>
    let slot := u8 petslot
    if maxPetSlot < slot then loadRows rows count s
    else
      match s.loadPetFromDB creatures petguid with
      | none => loadRows rows count s
      | some pet => do
        let count := u8 (count + 1)
        let s ← (s.setPet petguid pet).summonPet slot petguid
        let pet ← s.deref petguid
        let s := if pet.isBattle then { s with m_battlePet := some petguid } else s
        let s ← s.setState petguid .unchanged
        if maxPetSlot < count then return s else loadRows rows count s

/-- A player object before its pets are loaded: the objects of an earlier session are out of reach. -/
def offline : PetOwner :=
  { s with m_pets := fun _ => none, m_battlePet := none, m_petUpdateQueue := [], m_petUpdateQueueBlocked := false,
           heap := fun _ => none }

/-- source `Player::_LoadPets` at a login, with the rows that the database returns -/
def loadPets (rows : List (Nat × Nat)) : Except PetFault PetOwner := do
  let s ← loadRows creatures rows 0 { s.offline with m_petUpdateQueueBlocked := true }
  return { s with m_petUpdateQueueBlocked := false }

/-- An answer to `SELECT guid, petslot FROM character_pet WHERE owner_guid = '%u' ORDER BY petslot`. -/
structure LoginRows (rows : List (Nat × Nat)) : Prop where
  nodup : (rows.map Prod.fst).Nodup
  sorted : rows.Pairwise fun a b => a.2 ≤ b.2
  stored : ∀ g slot, (g, slot) ∈ rows ↔
    ∃ row, s.character_pet g = some row ∧ row.owner_guid = s.guid ∧ row.petslot = slot

end PetOwner

section Records

open Legacy.Spells

variable {templates : Nat → Option SpellInfo} {s s' : PetOwner} {g : Nat}

/-- The columns of a row that the calls of the owner depend on. -/
def PetRow.brief (f : PetRow) : StoredPet where
  owner_guid := f.owner_guid
  data := if f.data.length = playerEnd then
      some ⟨f.data.getD objectFieldEntry 0, f.data.getD unitFieldDisplayid 0⟩
    else none
  petslot := f.petslot
  mode_battle := f.mode_battle

/-- The fields of a pet that the calls of the owner depend on, with its template and its position in the queue. -/
def Pet.brief (p : Pet templates) (info : Battle.CreatureInfo) (pos : Int) : PetObject where
  owner := p.values unitFieldSummonedby
  entry := p.values objectFieldEntry
  modelid := p.values unitFieldDisplayid
  info := info
  slot := p.slot
  battle := p.battle
  uState := p.uState
  uQueuePos := pos

/-- The row of a pet is the one of its fields. -/
lemma Pet.brief_row (p : Pet templates) (info : Battle.CreatureInfo) (pos : Int) (name : String) (loyalty slot : Nat)
    (levels : List Nat) :
    PetRow.brief ⟨p.values unitFieldSummonedby, name, p.data, loyalty, levels, slot, if p.isBattle then 1 else 0⟩ =
      { (p.brief info pos).row with petslot := slot } := by
  have length : p.data.length = playerEnd := by
    rw [Pet.data, List.length_map, List.length_range]
  simp only [PetRow.brief, length, if_true, p.getD_data (i := objectFieldEntry) (by decide),
    p.getD_data (i := unitFieldDisplayid) (by decide)]
  rfl

/-- A save writes the row of a pet as the save of its whole record does. -/
theorem saveToDB_brief {r : PetRecord templates} {info : Battle.CreatureInfo} {pos : Int}
    (live : s.heap g = some (r.pet.brief info pos)) (row : s.character_pet g = r.row.map PetRow.brief)
    (order : List (Sigma fun _ : Nat => Spell)) (run : s.saveToDB g = .ok s') :
    s'.character_pet g = (r.saveToDB order).bind fun r' => r'.row.map PetRow.brief := by
  have unchanged {t : PetOwner} {pet : PetObject} (live : t.heap g = some pet)
      (run : t.setState g .unchanged = .ok s') : s'.character_pet = t.character_pet := by
    rw [PetOwner.setState, PetOwner.deref, live, ok_bind] at run
    simp only [reduceCtorEq, and_false, if_false, ne_eq, not_true] at run
    cases run
    rfl
  rw [PetOwner.saveToDB, PetOwner.deref, live, ok_bind] at run
  rw [PetRecord.saveToDB]
  have state : (r.pet.brief info pos).uState = r.pet.uState := rfl
  rw [state] at run
  cases uState : r.pet.uState with
  | new =>
    rw [uState] at run
    rw [unchanged (t := s.setRow g (some (r.pet.brief info pos).row)) live run]
    simp only [Option.bind_some, Option.map_some]
    rw [Pet.brief_row r.pet info pos]
    exact Function.update_self ..
  | changed =>
    rw [uState] at run
    rw [unchanged (t := s.setRow g ((s.character_pet g).map (r.pet.brief info pos).updateRow)) live run]
    simp only [Option.bind_some, Option.map_map]
    refine (Function.update_self ..).trans ?_
    rw [row, Option.map_map]
    refine congrArg (fun f => r.row.map f) (funext fun f => ?_)
    exact (Pet.brief_row r.pet info pos f.name f.loyalty f.petslot (Pet.spellLevels order)).symm
  | removed =>
    rw [uState] at run
    cases run
    exact Function.update_self ..
  | unchanged =>
    rw [uState] at run
    rw [unchanged live run]
    exact row

/-- The fields of a pet that was read from its row. -/
lemma Pet.readColumns_brief (root : Nat → Nat) (owner guid : Nat) (petProto : CreatureInfo) (f : PetRow)
    (info : Battle.CreatureInfo) {p : Pet templates} (read : p = readValues f) :
    ((p.create guid (p.values objectFieldEntry) (cinfo p.values petProto)).readColumns root owner guid petProto
        f).brief info (-1) =
      ⟨owner, f.data.getD objectFieldEntry 0, f.data.getD unitFieldDisplayid 0, info, 0, u8 f.mode_battle, .new,
        -1⟩ := by
  subst read
  simp [Pet.brief, Pet.readColumns, Pet.create, Pet.createFields, Pet.cinfo, Pet.set, setValues, guidFields,
    Pet.withSpells, Function.update, Pet.readValues, Pet.init]
  exact ⟨rfl, rfl⟩

/-- A load reads the row of a pet as the load of its whole record does. -/
theorem loadPetFromDB_brief {f : PetRow} (root : Nat → Nat) (creatures : Nat → Option CreatureInfo)
    (template : CreatureInfo → PetTemplate) (stored : s.character_pet g = some f.brief) {p : Pet templates}
    (load : Pet.loadPetFromDB root creatures s.guid g f = some p) :
    ∃ info, s.loadPetFromDB (fun entry => (creatures entry).map template) g = some (p.brief info (-1)) := by
  rw [Pet.loadPetFromDB] at load
  split at load
  · cases load
  next own =>
  split at load
  · cases load
  next length =>
  obtain ⟨petProto, known, rfl⟩ := Option.map_eq_some_iff.mp load
  refine ⟨(template petProto).info, ?_⟩
  rw [Pet.readColumns_brief _ _ _ _ _ _ rfl, PetOwner.loadPetFromDB, stored]
  simp only [PetRow.brief, not_not.mp own, not_not.mp length, ne_eq, not_true_eq_false, if_false, if_true]
  rw [show creatures (f.data.getD objectFieldEntry 0) = some petProto from known]
  rfl

end Records

end Legacy.Pets
