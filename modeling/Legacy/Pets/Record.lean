import Legacy.Spells.WriteBack

/-!
# Saving and loading a pet

Model of `Pet::Create`, `Pet::LoadPetFromDB` and `Pet::SaveToDB` (`src/src/game/Pet.cpp`) with the row of
`character_pet`, and of the part of `Player::_LoadPets` that puts a loaded pet into its slot. The values of a
pet are an array of words, which is written and read as a whole.
-/

namespace Legacy.Pets
open Legacy.Lib Legacy.Spells

/-! The indices of the values (source `UpdateFields.h`). -/

/-- source `OBJECT_FIELD_GUID` -/
abbrev objectFieldGuid : Nat := 0

/-- source `OBJECT_FIELD_TYPE` -/
abbrev objectFieldType : Nat := 2

/-- source `OBJECT_FIELD_ENTRY` -/
abbrev objectFieldEntry : Nat := 3

/-- source `UNIT_FIELD_SUMMON` -/
abbrev unitFieldSummon : Nat := 6

/-- source `UNIT_FIELD_SUMMONEDBY` -/
abbrev unitFieldSummonedby : Nat := 8

/-- source `UNIT_FIELD_ELEMENT` -/
abbrev unitFieldElement : Nat := 11

/-- source `UNIT_FIELD_HP` -/
abbrev unitFieldHp : Nat := 24

/-- source `UNIT_FIELD_SP` -/
abbrev unitFieldSp : Nat := 26

/-- source `UNIT_FIELD_HP_MAX` -/
abbrev unitFieldHpMax : Nat := 28

/-- source `UNIT_FIELD_SP_MAX` -/
abbrev unitFieldSpMax : Nat := 30

/-- source `UNIT_FIELD_INT` -/
abbrev unitFieldInt : Nat := 32

/-- source `UNIT_FIELD_ATK` -/
abbrev unitFieldAtk : Nat := 34

/-- source `UNIT_FIELD_DEF` -/
abbrev unitFieldDef : Nat := 36

/-- source `UNIT_FIELD_AGI` -/
abbrev unitFieldAgi : Nat := 38

/-- source `UNIT_FIELD_HPX` -/
abbrev unitFieldHpx : Nat := 40

/-- source `UNIT_FIELD_SPX` -/
abbrev unitFieldSpx : Nat := 42

/-- source `UNIT_FIELD_HPX_MOD` -/
abbrev unitFieldHpxMod : Nat := 52

/-- source `UNIT_FIELD_LEVEL` -/
abbrev unitFieldLevel : Nat := 56

/-- source `UNIT_FIELD_XP` -/
abbrev unitFieldXp : Nat := 57

/-- source `UNIT_FIELD_NEXT_LEVEL_XP` -/
abbrev unitFieldNextLevelXp : Nat := 61

/-- source `UNIT_NPC_FLAGS` -/
abbrev unitNpcFlags : Nat := 67

/-- source `UNIT_FIELD_DISPLAYID` -/
abbrev unitFieldDisplayid : Nat := 68

/-- source `UNIT_FIELD_SPELL_POINT` -/
abbrev unitFieldSpellPoint : Nat := 70

/-- Number of values of a unit (source `PLAYER_END`). -/
abbrev playerEnd : Nat := 122

/-- Number of pets of a player (source `MAX_PET_SLOT`). -/
abbrev maxPetSlot : Nat := 10

/-- source `HIGHGUID_UNIT` -/
abbrev highguidUnit : Nat := 0xF0070000

/-- source `HIGHGUID_PLAYER` -/
abbrev highguidPlayer : Nat := 0

/-- source `TYPE_OBJECT | TYPE_UNIT | TYPE_PET` -/
abbrev typePet : Nat := 25

/-- A row of `creature_template`, with its five spells. -/
structure CreatureInfo where
  name : String
  modelid : Nat
  hp : Nat
  sp : Nat
  stat_int : Nat
  stat_atk : Nat
  stat_def : Nat
  stat_hpx : Nat
  stat_spx : Nat
  stat_agi : Nat
  level : Nat
  element : Nat
  spells : List Nat

/-- source `enum PetUpdateState` -/
inductive PetUpdateState where
  | unchanged | changed | new | removed
  deriving DecidableEq

/-- source `class Pet`, with its values, over the spell templates -/
structure Pet (templates : Nat → Option SpellInfo) where
  values : Nat → Nat
  name : String
  loyalty : Nat
  slot : Nat
  battle : Nat
  uState : PetUpdateState
  m_spells : SpellMap
  known : ∀ entry ∈ m_spells, (templates entry).isSome

/-- A row of `character_pet`, whose primary key is `guid`. -/
structure PetRow where
  owner_guid : Nat
  name : String
  data : List Nat
  loyalty : Nat
  /-- `spell1_level` to `spell5_level` -/
  spell_levels : List Nat
  petslot : Nat
  mode_battle : Nat

/-- Writes fields, one after the other (source `Object::SetUInt32Value`). -/
def setValues (values : Nat → Nat) (fields : List (Nat × Nat)) : Nat → Nat :=
  fields.foldl (fun values f => Function.update values f.1 f.2) values

/-- The two fields of a guid (source `Object::SetUInt64Value`). -/
def guidFields (index low high : Nat) : List (Nat × Nat) := [(index, low), (index + 1, high)]

/-- source `Unit::GetHPMax`; `root` is `round(pow(level, 0.25))` -/
def getHPMax (root : Nat → Nat) (values : Nat → Nat) : Nat :=
  let level := u8 (values unitFieldLevel)
  let hp_max := u16 (80 + level + u16 (u16 (values unitFieldHpx) * (4 * root level)))
  u16 (hp_max + u16 (values unitFieldHpxMod))

/-- source `Unit::GetSPMax` -/
def getSPMax (root : Nat → Nat) (values : Nat → Nat) : Nat :=
  let level := u8 (values unitFieldLevel)
  u16 (60 + level + u16 (u16 (values unitFieldSpx) * (2 * root level)))

namespace Pet

variable {templates : Nat → Option SpellInfo}

/-- The spells of a pet, as a unit learns them. -/
def learner (p : Pet templates) : Learner templates :=
  ⟨p.values unitFieldElement, p.values unitFieldSpellPoint, p.m_spells, p.known⟩

/-- A pet takes over what a learner has learnt. -/
def withSpells (p : Pet templates) (u : Learner templates) : Pet templates :=
  { p with m_spells := u.m_spells, known := u.known }

/-- Some values of a pet are set. -/
def set (p : Pet templates) (fields : List (Nat × Nat)) : Pet templates :=
  { p with values := setValues p.values fields }

/-- A new object (source `Pet::Pet`): slot, loyalty and battle mode are not initialized. -/
def init (loyalty slot battle : Nat) : Pet templates :=
  ⟨fun _ => 0, "", loyalty, slot, battle, .new, ∅, fun _ mem => absurd mem (AList.notMem_empty _)⟩

/-- The fields of a template that `Pet::Create` writes. -/
def createFields (entry : Nat) (cinfo : CreatureInfo) : List (Nat × Nat) :=
  [(objectFieldEntry, entry), (unitFieldDisplayid, cinfo.modelid), (unitFieldHp, cinfo.hp), (unitFieldSp, cinfo.sp),
    (unitFieldInt, cinfo.stat_int), (unitFieldAtk, cinfo.stat_atk), (unitFieldDef, cinfo.stat_def),
    (unitFieldHpx, cinfo.stat_hpx), (unitFieldSpx, cinfo.stat_spx), (unitFieldAgi, cinfo.stat_agi),
    (unitFieldLevel, cinfo.level), (unitFieldElement, cinfo.element)]

/-- source `Pet::Create`, from a record -/
def create (p : Pet templates) (guidlow entry : Nat) (cinfo : CreatureInfo) : Pet templates :=
  let p := p.set (guidFields objectFieldGuid guidlow highguidUnit ++ [(objectFieldType, typePet)])
  let p := p.set (createFields entry cinfo)
  p.withSpells (cinfo.spells.foldl (fun u entry => (u.addSpell entry 1 .unchanged).2) p.learner)

/-- source `Pet::Create`, from the template -/
def createFor (root : Nat → Nat) (p : Pet templates) (guidlow entry : Nat) (petProto : CreatureInfo) (owner : Nat) :
    Pet templates :=
  let p := { p.create guidlow entry petProto with name := petProto.name }
  let p := p.set (guidFields unitFieldSummonedby owner highguidPlayer ++ [(unitNpcFlags, 0)])
  let hp := getHPMax root p.values
  let sp := getSPMax root p.values
  p.set [(unitFieldHp, hp), (unitFieldHpMax, hp), (unitFieldSp, sp), (unitFieldSpMax, sp), (unitFieldLevel, 1),
    (unitFieldXp, 0), (unitFieldNextLevelXp, 0)]

/-- source `Pet::SetState`; a new pet stays new until it is saved -/
def setState (p : Pet templates) (state : PetUpdateState) : Pet templates :=
  if state = .unchanged then { p with uState := .unchanged }
  else if p.uState = .new then p
  else { p with uState := state }

/-- source `Player::VisualizePet` -/
def visualize (p : Pet templates) (slot owner : Nat) : Pet templates :=
  let p := p.set (guidFields unitFieldSummonedby owner highguidPlayer ++
    guidFields unitFieldSummon owner highguidPlayer)
  { p with slot := slot }.setState .changed

/-- source `Pet::isBattle` -/
def isBattle (p : Pet templates) : Bool := p.battle = 1

/-- source `Unit::GetSpellLevelByPos`, with the spells in the order in which the map is visited -/
def getSpellLevelByPos (order : List (Sigma fun _ : Nat => Spell)) (pos : Nat) : Nat :=
  (order[pos]?).elim 0 fun itr => itr.2.level

/-- The levels at the first five positions. -/
def spellLevels (order : List (Sigma fun _ : Nat => Spell)) : List Nat := (List.range 5).map (getSpellLevelByPos order)

/-- The values in the column `data`. -/
def data (p : Pet templates) : List Nat := (List.range playerEnd).map p.values

/-- The values in the column `data` are read back. -/
lemma getD_data (p : Pet templates) {i : Nat} (lt : i < playerEnd) : p.data.getD i 0 = p.values i := by
  rw [data, List.getD_eq_getElem?_getD, List.getElem?_map, List.getElem?_range lt]
  rfl

/-- The template of a pet with the values of its own. -/
def cinfo (values : Nat → Nat) (petProto : CreatureInfo) : CreatureInfo :=
  { petProto with
    modelid := values unitFieldDisplayid
    hp := values unitFieldHp
    sp := values unitFieldSp
    stat_int := values unitFieldInt
    stat_atk := values unitFieldAtk
    stat_def := values unitFieldDef
    stat_hpx := values unitFieldHpx
    stat_spx := values unitFieldSpx
    stat_agi := values unitFieldAgi
    level := values unitFieldLevel
    element := values unitFieldElement }

/-- Sets the levels of the template's spells. -/
def setSpellLevels (u : Learner templates) (levels : List (Nat × Nat)) : Learner templates :=
  levels.foldl (fun u f => u.setSpellLevel f.1 f.2) u

/-- The end of `Pet::LoadPetFromDB`: what the columns of the row say. -/
def readColumns (root : Nat → Nat) (owner guid : Nat) (petProto : CreatureInfo) (f : PetRow) (p : Pet templates) :
    Pet templates :=
  let p := p.set (guidFields objectFieldGuid guid highguidUnit)
  let p := p.set (guidFields unitFieldSummon owner highguidPlayer)
  let p := { p with name := f.name }.set (guidFields unitFieldSummonedby owner highguidPlayer)
  let p := { p with loyalty := u8 f.loyalty }
  let p := p.withSpells (setSpellLevels p.learner (petProto.spells.zip (f.spell_levels.map u8)))
  let p := { p with battle := u8 f.mode_battle }.set [(unitNpcFlags, 0)]
  let p := p.set [(unitFieldHpMax, getHPMax root p.values)]
  p.set [(unitFieldSpMax, getSPMax root p.values)]

/-- The pet that the values of a row are read into. -/
def readValues (f : PetRow) : Pet templates := { init 0 0 0 with values := fun i => f.data.getD i 0 }

/-- source `Pet::LoadPetFromDB` -/
def loadPetFromDB (root : Nat → Nat) (creatures : Nat → Option CreatureInfo) (owner guid : Nat) (f : PetRow) :
    Option (Pet templates) :=
  if f.owner_guid ≠ owner then none
  else if f.data.length ≠ playerEnd then none
  else
    let p : Pet templates := readValues f
    let entry := p.values objectFieldEntry
    (creatures entry).map fun petProto =>
      readColumns root owner guid petProto f (p.create guid entry (cinfo p.values petProto))

/-- A pet that is loaded goes to its slot (source, the loop of `Player::_LoadPets`). -/
def loadPet (root : Nat → Nat) (creatures : Nat → Option CreatureInfo) (owner guid : Nat) (f : PetRow) :
    Option (Pet templates) :=
  if maxPetSlot < u8 f.petslot then none
  else
    (loadPetFromDB root creatures owner guid f).map fun p => (p.visualize (u8 f.petslot) owner).setState .unchanged

end Pet

/-- A pet with its row in `character_pet`. -/
structure PetRecord (templates : Nat → Option SpellInfo) where
  pet : Pet templates
  row : Option PetRow

namespace PetRecord

variable {templates : Nat → Option SpellInfo}

/-- source `Pet::SaveToDB`, which deletes a pet that is removed -/
def saveToDB (r : PetRecord templates) (order : List (Sigma fun _ : Nat => Spell)) : Option (PetRecord templates) :=
  let p := r.pet
  let owner_guid := p.values unitFieldSummonedby
  let mode_battle := if p.isBattle then 1 else 0
  match p.uState with
  | .new =>
    some ⟨p.setState .unchanged,
      some ⟨owner_guid, p.name, p.data, p.loyalty, Pet.spellLevels order, p.slot, mode_battle⟩⟩
  | .changed =>
    -- the update leaves the columns `name`, `loyalty` and `petslot` out
    some ⟨p.setState .unchanged, r.row.map fun row =>
      { row with
        owner_guid := owner_guid
        data := p.data
        spell_levels := Pet.spellLevels order
        mode_battle := mode_battle }⟩
  | .removed => none
  | .unchanged => some ⟨p.setState .unchanged, r.row⟩

end PetRecord

end Legacy.Pets
