import Mathlib.Tactic.Common

/-!
# The guids of spawned creatures

Model of `ObjectMgr::GenerateNpcGuidLow` (`src/src/game/ObjectMgr.h`) and `Creature::GetMapNpcId` (`Creature.cpp`). A
guid packs a map and the number of a creature on it by a decimal multiplier, which leaves room for a hundred of the
256 numbers. `unique_iff` says which creatures share a guid; the number is recovered always, since it is the map of
the creature that is taken off.
-/

namespace Legacy.Map

/-- source `MAP_NPCID_MULTIPLIER` -/
abbrev mapNpcidMultiplier : UInt32 := 100

/-- source `ObjectMgr::GenerateNpcGuidLow` -/
def generateNpcGuidLow (mapid : UInt16) (map_npcid : UInt8) : UInt32 :=
  mapid.toUInt32 * mapNpcidMultiplier + map_npcid.toUInt32

/-- A creature on a map, with the low part of its guid. -/
structure SpawnedCreature where
  guidLow : UInt32
  mapId : UInt16
  deriving DecidableEq, Repr

/-- A creature of the spawn tables (source `Creature::Create`, with the guid of `GenerateNpcGuidLow`). -/
def spawn (mapid : UInt16) (map_npcid : UInt8) : SpawnedCreature := ⟨generateNpcGuidLow mapid map_npcid, mapid⟩

/-- source `Creature::GetMapNpcId`; the difference is cut to a `uint8` -/
def SpawnedCreature.getMapNpcId (c : SpawnedCreature) : UInt8 :=
  (c.guidLow - c.mapId.toUInt32 * mapNpcidMultiplier).toUInt8

/-- The first map lies a few below the second, and the first number as many hundreds above the second. -/
def Overflows (mapid : UInt16) (map_npcid : UInt8) (mapid' : UInt16) (map_npcid' : UInt8) : Prop :=
  mapid < mapid' ∧ map_npcid.toNat = map_npcid'.toNat + 100 * (mapid'.toNat - mapid.toNat)

/-- A guid is the number that it packs; nothing is cut off. -/
lemma generateNpcGuidLow_toNat (mapid : UInt16) (map_npcid : UInt8) :
    (generateNpcGuidLow mapid map_npcid).toNat = mapid.toNat * 100 + map_npcid.toNat := by
  have map_lt := mapid.toNat_lt
  have npc_lt := map_npcid.toNat_lt
  rw [generateNpcGuidLow, UInt32.toNat_add, UInt32.toNat_mul, UInt16.toNat_toUInt32, UInt8.toNat_toUInt32]
  have multiplier : mapNpcidMultiplier.toNat = 100 := rfl
  rw [multiplier]
  omega

/-- The number on the map is recovered. -/
lemma getMapNpcId_spawn (mapid : UInt16) (map_npcid : UInt8) : (spawn mapid map_npcid).getMapNpcId = map_npcid := by
  have cancel : generateNpcGuidLow mapid map_npcid - mapid.toUInt32 * mapNpcidMultiplier = map_npcid.toUInt32 := by
    rw [generateNpcGuidLow, UInt32.add_comm, UInt32.add_sub_cancel]
  rw [SpawnedCreature.getMapNpcId, spawn, cancel, UInt8.toUInt8_toUInt32]

/-- Two creatures share a guid if they are the same, or the number of one goes over into the map of the other. -/
lemma generateNpcGuidLow_eq_iff {mapid mapid' : UInt16} {map_npcid map_npcid' : UInt8} :
    generateNpcGuidLow mapid map_npcid = generateNpcGuidLow mapid' map_npcid' ↔
      (mapid, map_npcid) = (mapid', map_npcid') ∨
        Overflows mapid map_npcid mapid' map_npcid' ∨ Overflows mapid' map_npcid' mapid map_npcid := by
  rw [← UInt32.toNat_inj, generateNpcGuidLow_toNat, generateNpcGuidLow_toNat, Prod.mk.injEq, ← UInt16.toNat_inj,
    ← UInt8.toNat_inj, Overflows, Overflows, UInt16.lt_iff_toNat_lt, UInt16.lt_iff_toNat_lt]
  omega

/-- Two creatures of the spawn tables have different guids, and give their numbers on the maps back, exactly if
neither number goes over into the map of the other. -/
theorem unique_iff (mapid mapid' : UInt16) (map_npcid map_npcid' : UInt8) :
    ((generateNpcGuidLow mapid map_npcid = generateNpcGuidLow mapid' map_npcid' →
        (mapid, map_npcid) = (mapid', map_npcid')) ∧
      (spawn mapid map_npcid).getMapNpcId = map_npcid ∧ (spawn mapid' map_npcid').getMapNpcId = map_npcid') ↔
    ¬(Overflows mapid map_npcid mapid' map_npcid' ∨ Overflows mapid' map_npcid' mapid map_npcid) := by
  rw [and_iff_left ⟨getMapNpcId_spawn .., getMapNpcId_spawn ..⟩, generateNpcGuidLow_eq_iff]
  constructor
  · intro unique crossed
    -- the maps of creatures that share a guid differ
    have same := (Prod.mk.inj (unique (Or.inr crossed))).1
    subst same
    rcases crossed with ⟨below, -⟩ | ⟨below, -⟩
    · exact UInt16.lt_irrefl _ below
    · exact UInt16.lt_irrefl _ below
  · intro apart shared
    exact shared.resolve_right apart

/-- Creature 100 of map 11 has the guid of creature 0 of map 12. -/
theorem not_unique :
    ¬∀ (mapid mapid' : UInt16) (map_npcid map_npcid' : UInt8),
      (generateNpcGuidLow mapid map_npcid = generateNpcGuidLow mapid' map_npcid' →
        (mapid, map_npcid) = (mapid', map_npcid')) ∧
      (spawn mapid map_npcid).getMapNpcId = map_npcid ∧ (spawn mapid' map_npcid').getMapNpcId = map_npcid' := by
  intro unique
  have same := (unique 11 12 100 0).1 rfl
  exact absurd same (by decide)

end Legacy.Map
