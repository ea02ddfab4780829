import Legacy.Party.World
import Legacy.Lib.Word

/-!
# The placement of a battle

The levels beside the grid in `BattleSystem::Engage` with a creature (`src/src/game/BattleSystem.cpp`): the rates of
both sides, which are divided by the number of their units, and the lowest and the highest level of the team.
`engage_world` says that the rest is `World.engageCreature`. The packets and the turn that opens are left out.
-/

namespace Legacy.Party
open Legacy.Lib

/-- The team of a creature (source `struct CreatureData`). -/
structure CreatureData where
  team00 : Nat
  team01 : Nat
  team03 : Nat
  team04 : Nat
  team10 : Nat
  team11 : Nat
  team12 : Nat
  team13 : Nat
  team14 : Nat

/-- The guid that `BattleSystem::Engage` writes to a cell of `DefenderTeam`. -/
def CreatureData.defenderTeam (edata : CreatureData) (enemy col row : Nat) : Nat :=
  match col, row with
  | 0, 0 => edata.team00
  | 0, 1 => edata.team01
  | 0, 2 => enemy
  | 0, 3 => edata.team03
  | 0, 4 => edata.team04
  | 1, 0 => edata.team10
  | 1, 1 => edata.team11
  | 1, 2 => edata.team12
  | 1, 3 => edata.team13
  | 1, 4 => edata.team14
  | _, _ => 0

/-- The levels of the units, and the tables of the creatures by guid. -/
structure Levels where
  /-- source `ObjectMgr::GetCreatureData` -/
  creatureData : Nat → Option CreatureData
  /-- The level of a creature, if `Creature::LoadFromDB` can load it. -/
  loadFromDB : Nat → Option Nat
  player : Nat → Nat
  /-- The level of a pet by owner and slot. -/
  pet : Nat → Nat → Nat

/-- The numbers that `BattleSystem::InitAttackerPosition` keeps. -/
structure Team where
  unitCount : Nat
  levelCount : Nat
  lowestLevel : Nat
  highestLevel : Nat
  lowerLevelCount : Nat
  deriving DecidableEq, Repr

namespace Team

/-- As the constructor of `BattleSystem` leaves it. -/
def new : Team := ⟨0, 0, 0, 0, 0⟩

/-- Counts a unit. -/
def count (t : Team) (level : Nat) : Team :=
  { t with unitCount := u8 (t.unitCount + 1), levelCount := u32 (t.levelCount + level) }

/-- Compares a level with those of the team. -/
def compare (t : Team) (level : Nat) : Team :=
  let t := { t with highestLevel := if t.highestLevel < level then u8 level else t.highestLevel }
  let t := { t with lowestLevel := if level < t.lowestLevel then u8 level else t.lowestLevel }
  { t with lowerLevelCount := if level + 10 < t.highestLevel then u8 (t.lowerLevelCount + 1) else t.lowerLevelCount }

end Team

/-- The rate of a side; the division by zero is undefined. -/
def levelRate (level_count unit_count : Nat) : Option Nat :=
  if unit_count = 0 then none else some (level_count / unit_count)

/-- With a creature loaded, the rate is the quotient. -/
lemma levelRate_some (level_count : Nat) {unit_count : Nat} (some : unit_count ≠ 0) :
    levelRate level_count unit_count = Option.some (level_count / unit_count) := if_neg some

/-- A side with a rate has units. -/
lemma levelRate_ne_zero {level_count unit_count r : Nat} (rate : levelRate level_count unit_count = some r) :
    unit_count ≠ 0 := by
  rintro rfl
  cases rate

namespace Levels

variable (lv : Levels)

/-- The level of the creature in a cell, if there is one. -/
def creature (edata : CreatureData) (enemy col row : Nat) : Option Nat :=
  if edata.defenderTeam enemy col row = 0 then none else lv.loadFromDB (edata.defenderTeam enemy col row)

/-- The numbers that `BattleSystem::InitDefenderPosition` keeps. -/
def initDefenderPosition (edata : CreatureData) (enemy : Nat) : Team :=
  let cells := (List.range 5).flatMap fun row => (List.range 2).map fun col => (col, row)
  (cells.filterMap fun c => lv.creature edata enemy c.1 c.2).foldl Team.count Team.new

/-- A player joins the numbers of its team with its battle pet. -/
def meet (w : World) (t : Team) (guid : Nat) : Team :=
  match w.players guid with
  | none => t
  | some p =>
    let t := (t.compare (lv.player guid)).count (lv.player guid)
    match p.battlePet with
    | none => t
    | some slot => t.count (lv.pet guid slot)

/-- source `BattleSystem::InitAttackerPosition` -/
def initAttackerPosition (b : Nat) : Nat → List Nat → World × Team → Option (World × Team)
  | _, [], s => some s
  | row, guid :: guids, (w, t) =>
    (w.seat b 3 2 row guid).bind fun w' => initAttackerPosition b (row + 1) guids (w', lv.meet w t guid)

end Levels

/-- What `BattleSystem::Engage` leaves: the players with the grid, the team and the level rates. -/
structure Engaged where
  world : World
  team : Team
  teamBattle : Bool
  atkRateLvl : Nat
  defRateLvl : Nat

/-- A new battle of a player with a creature (source the constructor of `BattleSystem`, `BattleSystem::Engage`). -/
def World.engage (w : World) (lv : Levels) (self enemy b : Nat) : Option Engaged :=
  (w.players self).bind fun p =>
    if (w.battles b).isNone && w.teamAlive p then
      (lv.creatureData enemy).bind fun edata =>
        let defenders := lv.initDefenderPosition edata enemy
        (levelRate defenders.levelCount defenders.unitCount).bind fun defRate =>
          let loaded col row := (lv.creature edata enemy col row).isSome
          (lv.initAttackerPosition b 0 (p.backRow self) (w.newBattle self b p (World.creatures b loaded), .new)).bind
            fun (w', t) => (levelRate t.levelCount t.unitCount).map fun atkRate =>
              ⟨w', t, decide (2 < t.unitCount), atkRate, defRate⟩
    else none

namespace World

/-- What a placement reads of the players: who is in the world, with which battle pet. -/
def slots (w : World) (g : Nat) : Option (Option Nat) := (w.players g).map Player.battlePet

/-- The battle pet of a player, as it stands in the grid. -/
def petOf (w : World) (g : Nat) : Option BattleUnit := (w.slots g).bind fun slot => slot.map (.pet g)

/-- The player of a row, when the guids from `row` on are seated. -/
def occupant (w : World) : Nat → List Nat → Nat → Option Nat
  | _, [], _ => none
  | row, g :: guids, r => if r = row ∧ (w.slots g).isSome then some g else w.occupant (row + 1) guids r

variable {w w' : World} {b : Nat}

/-- Taking a seat changes no slot of a pet. -/
lemma seat_slots {col petCol row g : Nat} (run : w.seat b col petCol row g = some w') : w'.slots = w.slots := by
  rw [seat] at run
  split at run
  · cases run
    rfl
  · next p live =>
    obtain ⟨B, -, rfl⟩ := Option.map_eq_some_iff.mp run
    funext q
    simp only [slots]
    rcases eq_or_ne q g with rfl | ne
    · rw [Function.update_self, live]
      rfl
    · rw [Function.update_of_ne ne]

/-- The pet of a player depends on the slots only. -/
lemma petOf_congr (same : w'.slots = w.slots) : w'.petOf = w.petOf := by
  funext g
  rw [petOf, petOf, same]

/-- Who sits in a row depends on the slots only. -/
lemma occupant_congr (same : w'.slots = w.slots) (row : Nat) (guids : List Nat) (r : Nat) :
    w'.occupant row guids r = w.occupant row guids r := by
  induction guids generalizing row with
  | nil => rfl
  | cons g guids ih => rw [occupant, occupant, same, ih]

/-- Nobody is seated before the first row. -/
lemma occupant_of_lt {row r : Nat} (guids : List Nat) (lt : r < row) : w.occupant row guids r = none := by
  induction guids generalizing row with
  | nil => rfl
  | cons g guids ih => rw [occupant, if_neg (by omega), ih (by omega)]

/-- The guids from `row` on are seated in a battle. -/
structure Seated (w : World) (row : Nat) (guids : List Nat) (B B' : BattleSystem) : Prop where
  back : ∀ r, B'.battleUnit 3 r = ((w.occupant row guids r).map .player).or (B.battleUnit 3 r)
  front : ∀ r, B'.battleUnit 2 r = ((w.occupant row guids r).bind w.petOf).or (B.battleUnit 2 r)
  list : B'.playerList = B.playerList ++ guids.filter fun g => (w.slots g).isSome

/-- Taking a seat fills the back column. -/
lemma place_back (B : BattleSystem) (g : Nat) (slot : Option Nat) (row r : Nat) :
    (B.place g slot 3 2 row).battleUnit 3 r = if r = row then some (.player g) else B.battleUnit 3 r := by
  cases slot <;> simp [BattleSystem.place, BattleSystem.setPosition]

/-- Taking a seat puts the pet into the front column. -/
lemma place_front (B : BattleSystem) (g : Nat) (slot : Option Nat) (row r : Nat) :
    (B.place g slot 3 2 row).battleUnit 2 r =
      if r = row then (slot.map (.pet g)).or (B.battleUnit 2 r) else B.battleUnit 2 r := by
  cases slot <;> simp [BattleSystem.place, BattleSystem.setPosition]

/-- A row of guids is seated, those of players that are in the world. -/
lemma seatRow_seated (row : Nat) {guids : List Nat} {B : BattleSystem} (there : w.battles b = some B)
    (fresh : (B.playerList ++ guids.filter fun g => (w.slots g).isSome).Nodup) :
    ∃ w' B', seatRow b 3 2 row guids w = some w' ∧ w'.battles b = some B' ∧ Seated w row guids B B' := by
  induction guids generalizing row w B with
  | nil => exact ⟨w, B, rfl, there, fun r => rfl, fun r => rfl, (List.append_nil _).symm⟩
  | cons g guids ih =>
    rw [seatRow]
    cases live : w.players g with
    | none =>
      have absent : w.slots g = none := by rw [slots, live]; rfl
      have run : w.seat b 3 2 row g = some w := by rw [seat, live]
      rw [List.filter_cons_of_neg (by simp [absent])] at fresh
      obtain ⟨w', B', run', there', back, front, list⟩ := ih (row + 1) there fresh
      refine ⟨w', B', by rw [run]; exact run', there', fun r => ?_, fun r => ?_, ?_⟩
      · rw [back, occupant, if_neg (by simp [absent])]
      · rw [front, occupant, if_neg (by simp [absent])]
      · rw [list, List.filter_cons_of_neg (by simp [absent])]
    | some p =>
      have present : w.slots g = some p.battlePet := by rw [slots, live]; rfl
      have run : ∃ w₁, w.seat b 3 2 row g = some w₁ ∧
          w₁.battles b = some ((B.place g p.battlePet 3 2 row).insert g) := by
        rw [seat, live, there]
        exact ⟨_, rfl, Function.update_self ..⟩
      obtain ⟨w₁, run, there₁⟩ := run
      have same := seat_slots run
      rw [List.filter_cons_of_pos (by simp [present])] at fresh
      have new : g ∉ B.playerList := by
        intro mem
        exact (List.nodup_append.mp fresh).2.2 g mem g List.mem_cons_self rfl
      have list₁ : ((B.place g p.battlePet 3 2 row).insert g).playerList = B.playerList ++ [g] := by
        rw [BattleSystem.insert]
        simp only [BattleSystem.place_playerList]
        rw [if_neg new]
      have fresh₁ : (((B.place g p.battlePet 3 2 row).insert g).playerList ++
          guids.filter fun g => (w₁.slots g).isSome).Nodup := by
        rw [list₁, same, List.append_assoc]
        exact fresh
      obtain ⟨w', B', run', there', back, front, list⟩ := ih (row + 1) there₁ fresh₁
      have after : w.occupant (row + 1) guids row = none := occupant_of_lt guids (Nat.lt_succ_self row)
      refine ⟨w', B', by rw [run]; exact run', there', fun r => ?_, fun r => ?_, ?_⟩
      · have cell : ((B.place g p.battlePet 3 2 row).insert g).battleUnit 3 r = _ := place_back B g p.battlePet row r
        rw [back, occupant_congr same, cell, occupant]
        rcases eq_or_ne r row with rfl | ne
        · simp [after, present]
        · simp [ne]
      · have cell : ((B.place g p.battlePet 3 2 row).insert g).battleUnit 2 r = _ := place_front B g p.battlePet row r
        rw [front, occupant_congr same, petOf_congr same, cell, occupant]
        rcases eq_or_ne r row with rfl | ne
        · simp [after, present, petOf]
        · simp [ne]
      · rw [list, list₁, same, List.filter_cons_of_pos (by simp [present]), List.append_assoc]
        rfl

end World

namespace Team

variable {t : Team} {levels : List Nat}

/-- Counting up to 255 units. -/
lemma foldl_count (few : t.unitCount + levels.length < 256) :
    (levels.foldl count t).unitCount = t.unitCount + levels.length := by
  induction levels generalizing t with
  | nil => rfl
  | cons level levels ih =>
    rw [List.length_cons] at few ⊢
    have one : (t.count level).unitCount = t.unitCount + 1 := u8_of_lt (by omega)
    rw [List.foldl_cons, ih (by omega), one]
    omega

/-- Nothing is below the level that the constructor sets. -/
lemma compare_lowest (zero : t.lowestLevel = 0) (level : Nat) : (t.compare level).lowestLevel = 0 := by
  simp only [compare]
  rw [zero, if_neg (Nat.not_lt_zero _)]

end Team

namespace Levels

variable {lv : Levels} {w w' : World} {t : Team} {g : Nat}

/-- What a player adds depends on the slots only. -/
lemma meet_congr (same : w'.slots = w.slots) (t : Team) (g : Nat) : lv.meet w' t g = lv.meet w t g := by
  have slot := congrFun same g
  rw [World.slots, World.slots] at slot
  rw [meet, meet]
  cases live' : w'.players g with
  | none =>
    cases live : w.players g with
    | none => rfl
    | some p =>
      rw [live', live] at slot
      cases slot
  | some q =>
    cases live : w.players g with
    | none =>
      rw [live', live] at slot
      cases slot
    | some p =>
      rw [live', live] at slot
      simp only [Option.some.inj slot]

/-- What one player changes in the numbers of its team. -/
structure Met (lv : Levels) (t : Team) (g : Nat) (t' : Team) : Prop where
  lowest : t.lowestLevel = 0 → t'.lowestLevel = 0
  highest : t'.highestLevel = if t.highestLevel < lv.player g then u8 (lv.player g) else t.highestLevel
  some : t.unitCount + 2 < 256 → t.unitCount < t'.unitCount ∧ t'.unitCount ≤ t.unitCount + 2

/-- Who is not there adds nothing. -/
lemma meet_none (absent : w.slots g = none) : lv.meet w t g = t := by
  rw [meet, Option.map_eq_none_iff.mp absent]

/-- Who is there adds its level. -/
lemma meet_met (lv : Levels) (t : Team) (present : (w.slots g).isSome = true) : lv.Met t g (lv.meet w t g) := by
  rw [World.slots, Option.isSome_map] at present
  obtain ⟨p, live⟩ := Option.isSome_iff_exists.mp present
  generalize joined : (t.compare (lv.player g)).count (lv.player g) = t'
  have lowest : t.lowestLevel = 0 → t'.lowestLevel = 0 := fun zero => joined ▸ Team.compare_lowest zero _
  have highest : t'.highestLevel = if t.highestLevel < lv.player g then u8 (lv.player g) else t.highestLevel :=
    joined ▸ rfl
  have one : t.unitCount + 1 < 256 → t'.unitCount = t.unitCount + 1 := fun few => joined ▸ u8_of_lt few
  rw [meet, live]
  simp only [joined]
  cases p.battlePet with
  | none =>
    refine ⟨lowest, highest, fun few => ?_⟩
    have player := one (by omega)
    simp only
    omega
  | some slot =>
    refine ⟨lowest, highest, fun few => ?_⟩
    have player := one (by omega)
    have pet : (t'.count (lv.pet g slot)).unitCount = t'.unitCount + 1 := u8_of_lt (by omega)
    simp only
    omega

/-- What the players of a row change. -/
structure Folded (lv : Levels) (w : World) (t : Team) (guids : List Nat) (t' : Team) : Prop where
  lowest : t.lowestLevel = 0 → t'.lowestLevel = 0
  byte : t.highestLevel < 256 → t'.highestLevel < 256
  highest : (∀ g ∈ guids, (w.slots g).isSome → lv.player g < 256) →
    t.highestLevel ≤ t'.highestLevel ∧ (∀ g ∈ guids, (w.slots g).isSome → lv.player g ≤ t'.highestLevel) ∧
      (t'.highestLevel = t.highestLevel ∨ ∃ g ∈ guids, (w.slots g).isSome ∧ t'.highestLevel = lv.player g)
  some : t.unitCount + 2 * guids.length < 256 → t.unitCount ≤ t'.unitCount ∧
    ((∃ g ∈ guids, (w.slots g).isSome) → t.unitCount < t'.unitCount)

/-- A row adds what its players add. -/
lemma foldl_meet (guids : List Nat) (t : Team) : lv.Folded w t guids (guids.foldl (lv.meet w) t) := by
  induction guids generalizing t with
  | nil =>
    refine ⟨id, id, fun _ => ⟨Nat.le_refl _, by simp, .inl rfl⟩, fun _ => ⟨Nat.le_refl _, by simp⟩⟩
  | cons g guids ih =>
    rw [List.foldl_cons]
    obtain ⟨lowest, byte, highest, some⟩ := ih (lv.meet w t g)
    cases present : (w.slots g).isSome with
    | false =>
      rw [meet_none (by simpa using present)] at *
      refine ⟨lowest, byte, fun small => ?_, fun few => ?_⟩
      · obtain ⟨le, above, reached⟩ := highest fun g' mem => small g' (List.mem_cons_of_mem g mem)
        refine ⟨le, fun g' mem present' => ?_, reached.imp_right ?_⟩
        · obtain rfl | mem := List.mem_cons.mp mem
          · simp [present] at present'
          · exact above g' mem present'
        · exact fun ⟨g', mem, rest⟩ => ⟨g', List.mem_cons_of_mem g mem, rest⟩
      · rw [List.length_cons] at few
        obtain ⟨le, lt⟩ := some (by omega)
        refine ⟨le, fun ⟨g', mem, present'⟩ => ?_⟩
        obtain rfl | mem := List.mem_cons.mp mem
        · simp [present] at present'
        · exact lt ⟨g', mem, present'⟩
    | true =>
      have met := meet_met lv t present
      have raised := met.highest
      refine ⟨fun zero => lowest (met.lowest zero), fun small => byte ?_, fun small => ?_, fun few => ?_⟩
      · rw [raised]
        split
        · exact Nat.mod_lt _ (by decide)
        · exact small
      · have fits := small g List.mem_cons_self present
        obtain ⟨le, above, reached⟩ := highest fun g' mem => small g' (List.mem_cons_of_mem g mem)
        rw [u8_of_lt fits] at raised
        have bounds : t.highestLevel ≤ (lv.meet w t g).highestLevel ∧ lv.player g ≤ (lv.meet w t g).highestLevel := by
          rw [raised]
          split <;> omega
        refine ⟨by omega, fun g' mem present' => ?_, ?_⟩
        · obtain rfl | mem := List.mem_cons.mp mem
          · omega
          · exact above g' mem present'
        · obtain same | ⟨g', mem, rest⟩ := reached
          · rw [same, raised]
            split
            · exact .inr ⟨g, List.mem_cons_self, present, rfl⟩
            · exact .inl rfl
          · exact .inr ⟨g', List.mem_cons_of_mem g mem, rest⟩
      · rw [List.length_cons] at few
        obtain ⟨lt, le⟩ := met.some (by omega)
        have rest := (some (by omega)).1
        exact ⟨by omega, fun _ => by omega⟩

/-- The grid and the numbers of the team do not depend on each other. -/
lemma initAttackerPosition_eq (lv : Levels) (b row : Nat) (guids : List Nat) (w : World) (t : Team) :
    lv.initAttackerPosition b row guids (w, t) =
      (World.seatRow b 3 2 row guids w).map fun w' => (w', guids.foldl (lv.meet w) t) := by
  induction guids generalizing row w t with
  | nil => rfl
  | cons g guids ih =>
    rw [initAttackerPosition, World.seatRow]
    cases run : w.seat b 3 2 row g with
    | none => rfl
    | some w₁ =>
      have same : lv.meet w₁ = lv.meet w := funext fun t => funext fun g => meet_congr (World.seat_slots run) t g
      rw [Option.bind_some, Option.bind_some, ih, same]
      rfl

/-- Outside its cells a team has no creature. -/
lemma defenderTeam_outside (edata : CreatureData) (enemy : Nat) {col row : Nat} (outside : ¬(col < 2 ∧ row < 5)) :
    edata.defenderTeam enemy col row = 0 := by
  rw [CreatureData.defenderTeam.eq_def]
  split <;> first | rfl | omega

/-- The defenders have no unit if and only if no creature of the team can be loaded. -/
lemma initDefenderPosition_zero (lv : Levels) (edata : CreatureData) (enemy : Nat) :
    (lv.initDefenderPosition edata enemy).unitCount = 0 ↔ ∀ col row, lv.creature edata enemy col row = none := by
  have few := List.length_filterMap_le (fun c : Nat × Nat => lv.creature edata enemy c.1 c.2)
    ((List.range 5).flatMap fun row => (List.range 2).map fun col => (col, row))
  have ten : ((List.range 5).flatMap fun row => (List.range 2).map fun col => (col, row)).length = 10 := rfl
  rw [ten] at few
  have zero : Team.new.unitCount = 0 := rfl
  simp only [initDefenderPosition]
  rw [Team.foldl_count (by omega), zero, Nat.zero_add, List.length_eq_zero_iff, List.filterMap_eq_nil_iff]
  constructor
  · intro absent col row
    by_cases inside : col < 2 ∧ row < 5
    · refine absent (col, row) (List.mem_flatMap.mpr ⟨row, List.mem_range.mpr inside.2, ?_⟩)
      exact List.mem_map.mpr ⟨col, List.mem_range.mpr inside.1, rfl⟩
    · rw [creature, if_pos (defenderTeam_outside edata enemy inside)]
  · exact fun absent c _ => absent c.1 c.2

/-- They have a unit if and only if some creature of the team can be loaded. -/
lemma initDefenderPosition_ne_zero {lv : Levels} {edata : CreatureData} {enemy : Nat} :
    (lv.initDefenderPosition edata enemy).unitCount ≠ 0 ↔
      ∃ col row, (lv.creature edata enemy col row).isSome = true := by
  rw [Ne, initDefenderPosition_zero]
  simp only [not_forall, Option.isSome_iff_ne_none, Ne]

/-- A creature that can be loaded has a place among the defenders. -/
lemma creature_inside {lv : Levels} {edata : CreatureData} {enemy col row : Nat}
    (some : (lv.creature edata enemy col row).isSome = true) : col < 2 ∧ row < 5 := by
  by_contra outside
  rw [creature, if_pos (defenderTeam_outside edata enemy outside)] at some
  cases some

end Levels

/-- A leader and its team, at most four others, all in the world, before a new battle. -/
structure Gathered (w : World) (guid : Nat) (p : Player) (b : Nat) : Prop where
  leader : w.players guid = some p
  members : ∀ g ∈ p.team, (w.players g).isSome = true
  few : p.team.length ≤ 4
  nodup : (guid :: p.team).Nodup
  /-- The guid of a place of the team that is not taken. -/
  nobody : w.players 0 = none
  new : w.battles b = none

/-- A battle as it should be placed. -/
structure Placed (w : World) (lv : Levels) (party : List Nat) (B : BattleSystem) (t : Team) : Prop where
  seats : ∀ g ∈ party, ∃ row < 5, ∀ r, B.battleUnit 3 r = some (.player g) ↔ r = row
  column : ∀ r u, B.battleUnit 3 r = some u → ∃ g ∈ party, u = .player g
  pets : ∀ r g, B.battleUnit 3 r = some (.player g) → B.battleUnit 2 r = w.petOf g
  front : ∀ r u, B.battleUnit 2 r = some u → ∃ g, B.battleUnit 3 r = some (.player g)
  list : B.playerList.Perm party
  lowest : (∃ g ∈ party, t.lowestLevel = lv.player g) ∧ ∀ g ∈ party, t.lowestLevel ≤ lv.player g
  highest : (∃ g ∈ party, t.highestLevel = lv.player g) ∧ ∀ g ∈ party, lv.player g ≤ t.highestLevel

namespace World

variable {w : World} {lv : Levels} {self enemy b : Nat} {p : Player}

/-- Who sits in a row is in the list, and in the world. -/
lemma occupant_mem {row r g : Nat} {guids : List Nat} (here : w.occupant row guids r = some g) :
    g ∈ guids ∧ (w.slots g).isSome = true := by
  induction guids generalizing row with
  | nil => cases here
  | cons h guids ih =>
    rw [occupant] at here
    split at here
    case isTrue seated =>
      cases here
      exact ⟨List.mem_cons_self, seated.2⟩
    case isFalse =>
      obtain ⟨mem, present⟩ := ih here
      exact ⟨List.mem_cons_of_mem h mem, present⟩

/-- A player of a row without repetition has one place in it. -/
lemma occupant_seat (row : Nat) {g : Nat} {guids : List Nat} (nodup : (guids.filter fun g => (w.slots g).isSome).Nodup)
    (mem : g ∈ guids) (present : (w.slots g).isSome = true) :
    ∃ k, row ≤ k ∧ k < row + guids.length ∧ ∀ r, w.occupant row guids r = some g ↔ r = k := by
  induction guids generalizing row with
  | nil => cases mem
  | cons h guids ih =>
    rw [List.length_cons]
    by_cases first : g = h
    · subst first
      rw [List.filter_cons_of_pos (by simp [present])] at nodup
      refine ⟨row, Nat.le_refl _, by omega, fun r => ?_⟩
      rw [occupant]
      split
      case isTrue here => exact iff_of_true rfl here.1
      case isFalse away =>
        refine iff_of_false (fun later => ?_) fun here => away ⟨here, present⟩
        have mem := (occupant_mem later).1
        exact (List.nodup_cons.mp nodup).1 (List.mem_filter.mpr ⟨mem, present⟩)
    · have mem : g ∈ guids := (List.mem_cons.mp mem).resolve_left first
      have rest : (guids.filter fun g => (w.slots g).isSome).Nodup :=
        nodup.sublist ((List.sublist_cons_self h guids).filter _)
      obtain ⟨k, le, lt, seat⟩ := ih (row + 1) rest mem
      refine ⟨k, by omega, by omega, fun r => ?_⟩
      rw [occupant]
      split
      case isTrue here =>
        refine iff_of_false (fun same => first (Option.some.inj same).symm) ?_
        omega
      case isFalse => exact seat r

end World

namespace Gathered
open World

variable {w : World} {self b : Nat} {p : Player}

/-- The leader and the team are in the world. -/
lemma present (gathered : Gathered w self p b) : ∀ g ∈ self :: p.team, (w.slots g).isSome = true := by
  intro g mem
  rw [slots, Option.isSome_map]
  obtain rfl | mem := List.mem_cons.mp mem
  · rw [gathered.leader]
    rfl
  · exact gathered.members g mem

/-- The four places of the team hold its members. -/
lemma places (gathered : Gathered w self p b) :
    [p.getTeamGuid 1, p.getTeamGuid 2, p.getTeamGuid 3, p.getTeamGuid 4].filter (fun g => (w.slots g).isSome) =
      p.team := by
  have nobody : w.slots 0 = none := by rw [slots, gathered.nobody]; rfl
  have present : ∀ g ∈ p.team, (w.slots g).isSome = true := fun g mem =>
    gathered.present g (List.mem_cons_of_mem self mem)
  have few := gathered.few
  generalize team : p.team = members at present few
  obtain _ | ⟨g₁, _ | ⟨g₂, _ | ⟨g₃, _ | ⟨g₄, _ | ⟨g₅, rest⟩⟩⟩⟩⟩ := members
  case cons.cons.cons.cons.cons =>
    simp only [List.length_cons] at few
    omega
  all_goals simp_all [Player.getTeamGuid]

/-- The rows of the back column hold the leader and its team. -/
lemma backRow_perm (gathered : Gathered w self p b) :
    ((p.backRow self).filter fun g => (w.slots g).isSome).Perm (self :: p.team) := by
  have order : (p.backRow self).Perm
      (self :: [p.getTeamGuid 1, p.getTeamGuid 2, p.getTeamGuid 3, p.getTeamGuid 4]) := by
    refine List.perm_iff_count.mpr fun g => ?_
    simp only [Player.backRow, List.count_cons, List.count_nil]
    omega
  have seated := order.filter fun g => (w.slots g).isSome
  rw [List.filter_cons_of_pos (by simp [gathered.present self List.mem_cons_self]), gathered.places] at seated
  exact seated

/-- The back row has the leader and the team that is there. -/
lemma mem_backRow (gathered : Gathered w self p b) {g : Nat} :
    g ∈ self :: p.team ↔ g ∈ p.backRow self ∧ (w.slots g).isSome = true := by
  rw [← gathered.backRow_perm.mem_iff, List.mem_filter]

end Gathered

namespace World

variable {w : World} {lv : Levels} {self enemy b : Nat} {p : Player}

/-- A new battle changes no slot of a pet. -/
lemma newBattle_slots (b : Nat) (units : Nat → Nat → Option BattleUnit) (live : w.players self = some p) :
    (w.newBattle self b p units).slots = w.slots := by
  funext g
  simp only [slots, newBattle]
  rcases eq_or_ne g self with rfl | ne
  · rw [Function.update_self, live]
    rfl
  · rw [Function.update_of_ne ne]

/-- The attackers are placed for every team; only the two extreme levels may be wrong. -/
lemma attackers_placed (gathered : Gathered w self p b) (lv : Levels) (loaded : Nat → Nat → Bool) :
    ∃ w' B t, lv.initAttackerPosition b 0 (p.backRow self) (w.newBattle self b p (creatures b loaded), .new) =
        some (w', t) ∧ w'.battles b = some B ∧ lv.Folded w .new (p.backRow self) t ∧
      ((∃ g ∈ self :: p.team, t.lowestLevel = lv.player g) → (∀ g ∈ self :: p.team, t.lowestLevel ≤ lv.player g) →
        (∃ g ∈ self :: p.team, t.highestLevel = lv.player g) → (∀ g ∈ self :: p.team, lv.player g ≤ t.highestLevel) →
          Placed w lv (self :: p.team) B t) := by
  have same := newBattle_slots b (creatures b loaded) gathered.leader
  have there : (w.newBattle self b p (creatures b loaded)).battles b = some ⟨self, [], creatures b loaded⟩ :=
    Function.update_self ..
  have order := gathered.backRow_perm
  have nodup : ((p.backRow self).filter fun g => (w.slots g).isSome).Nodup := order.nodup_iff.mpr gathered.nodup
  have fresh : ([] ++ (p.backRow self).filter fun g =>
      ((w.newBattle self b p (creatures b loaded)).slots g).isSome).Nodup := by
    rw [same]
    exact nodup
  obtain ⟨w', B, run, there', back, front, list⟩ := seatRow_seated 0 there fresh
  have none (c r : Nat) (behind : ¬c < 2) : creatures b loaded c r = Option.none := by simp [creatures, behind]
  have back (r : Nat) : B.battleUnit 3 r = (w.occupant 0 (p.backRow self) r).map .player := by
    rw [back, occupant_congr same]
    simp only [none 3 r (by decide), Option.or_none]
  have front (r : Nat) : B.battleUnit 2 r = (w.occupant 0 (p.backRow self) r).bind w.petOf := by
    rw [front, occupant_congr same, petOf_congr same]
    simp only [none 2 r (by decide), Option.or_none]
  have seat (r g : Nat) : B.battleUnit 3 r = some (.player g) ↔ w.occupant 0 (p.backRow self) r = some g := by
    rw [back, Option.map_eq_some_iff]
    exact ⟨fun ⟨g', here, eq⟩ => BattleUnit.player.inj eq ▸ here, fun here => ⟨g, here, rfl⟩⟩
  have meets : lv.meet (w.newBattle self b p (creatures b loaded)) = lv.meet w :=
    funext fun t => funext fun g => Levels.meet_congr same t g
  refine ⟨w', B, (p.backRow self).foldl (lv.meet w) .new, ?_, there', Levels.foldl_meet _ _, fun lo lo' hi hi' => ?_⟩
  · rw [Levels.initAttackerPosition_eq, run, meets]
    rfl
  · refine ⟨fun g mem => ?_, fun r u cell => ?_, fun r g cell => ?_, fun r u cell => ?_, ?_, ⟨lo, lo'⟩, hi, hi'⟩
    · obtain ⟨mem, present⟩ := gathered.mem_backRow.mp mem
      obtain ⟨k, -, lt, only⟩ := occupant_seat 0 nodup mem present
      exact ⟨k, by simpa [Player.backRow] using lt, fun r => (seat r g).trans (only r)⟩
    · rw [back, Option.map_eq_some_iff] at cell
      obtain ⟨g, here, rfl⟩ := cell
      exact ⟨g, gathered.mem_backRow.mpr (occupant_mem here), rfl⟩
    · rw [front, (seat r g).mp cell, Option.bind_some]
    · rw [front, Option.bind_eq_some_iff] at cell
      obtain ⟨g, here, -⟩ := cell
      exact ⟨g, (seat r g).mpr here⟩
    · rw [list, same]
      exact order

/-- The engagement has a result, and the battle is placed as it should be. -/
def EngagePlaces (w : World) (lv : Levels) (self enemy b : Nat) (p : Player) : Prop :=
  ∃ r B, w.engage lv self enemy b = some r ∧ r.world.battles b = some B ∧ Placed w lv (self :: p.team) B r.team

/-- Some creature of the team can be loaded. -/
def Defended (lv : Levels) (enemy : Nat) : Prop :=
  ∃ edata, lv.creatureData enemy = some edata ∧ ∃ col row, (lv.creature edata enemy col row).isSome = true

/-- Beside the numbers an engagement does what the model of the battles says. -/
theorem engage_world {r : Engaged} (idle : p.isBattleInProgress = false) (live : w.players self = some p)
    (run : w.engage lv self enemy b = some r) :
    ∃ loaded, w.engageCreature self b loaded = some r.world := by
  rw [engage, live, Option.bind_some] at run
  split at run
  case isTrue ready =>
    obtain ⟨edata, data, run⟩ := Option.bind_eq_some_iff.mp run
    obtain ⟨defRate, rate, run⟩ := Option.bind_eq_some_iff.mp run
    obtain ⟨⟨w', t⟩, placed, run⟩ := Option.bind_eq_some_iff.mp run
    obtain ⟨atkRate, -, rfl⟩ := Option.map_eq_some_iff.mp run
    rw [Levels.initAttackerPosition_eq] at placed
    obtain ⟨w'', seated, same⟩ := Option.map_eq_some_iff.mp placed
    cases same
    refine ⟨fun col row => (lv.creature edata enemy col row).isSome, ?_⟩
    have counted := levelRate_ne_zero rate
    obtain ⟨col, row, one⟩ := Levels.initDefenderPosition_ne_zero.mp counted
    obtain ⟨left, above⟩ := Levels.creature_inside one
    have some : ∃ col < 2, ∃ row < 5, (lv.creature edata enemy col row).isSome = true := ⟨col, left, row, above, one⟩
    have loaded : ((List.range 2).any fun col => (List.range 5).any fun row =>
        (lv.creature edata enemy col row).isSome) = true := by
      simpa only [List.any_eq_true, List.mem_range] using some
    rw [engageCreature, live, Option.bind_some, if_neg (by simp [idle]), if_pos (by rw [ready, loaded]; rfl)]
    exact seated
  case isFalse => cases run

/-- A team is placed as it should be exactly when a creature can be loaded and the lowest level is the one that the
constructor sets, with no level above a byte. -/
theorem engage_placed_iff (gathered : Gathered w self p b) (lv : Levels) (enemy : Nat) :
    w.EngagePlaces lv self enemy b p ↔
      Defended lv enemy ∧ (∃ g ∈ self :: p.team, lv.player g = 0) ∧ ∀ g ∈ self :: p.team, lv.player g < 256 := by
  have alive : w.teamAlive p = true :=
    List.all_eq_true.mpr fun g mem => gathered.members g (List.mem_of_mem_take mem)
  have ready : ((w.battles b).isNone && w.teamAlive p) = true := by
    rw [gathered.new, alive]
    rfl
  rw [EngagePlaces, engage, gathered.leader, Option.bind_some, if_pos ready]
  constructor
  · rintro ⟨r, B, run, -, placed⟩
    obtain ⟨edata, data, run⟩ := Option.bind_eq_some_iff.mp run
    obtain ⟨defRate, rate, run⟩ := Option.bind_eq_some_iff.mp run
    obtain ⟨⟨w', t⟩, attackers, run⟩ := Option.bind_eq_some_iff.mp run
    obtain ⟨atkRate, -, rfl⟩ := Option.map_eq_some_iff.mp run
    obtain ⟨_, _, t', attackers', -, folded, -⟩ :=
      attackers_placed gathered lv fun col row => (lv.creature edata enemy col row).isSome
    rw [attackers] at attackers'
    cases attackers'
    have zero : t.lowestLevel = 0 := folded.lowest rfl
    have byte : t.highestLevel < 256 := folded.byte (by decide)
    obtain ⟨g, mem, least⟩ := placed.lowest.1
    exact ⟨⟨edata, data, Levels.initDefenderPosition_ne_zero.mp (levelRate_ne_zero rate)⟩,
      ⟨g, mem, least.symm.trans zero⟩, fun g mem => Nat.lt_of_le_of_lt (placed.highest.2 g mem) byte⟩
  · rintro ⟨⟨edata, data, some⟩, ⟨g₀, mem₀, zero⟩, small⟩
    have loaded := Levels.initDefenderPosition_ne_zero.mpr some
    obtain ⟨w', B, t, attackers, there, folded, placed⟩ :=
      attackers_placed gathered lv fun col row => (lv.creature edata enemy col row).isSome
    have leader := gathered.mem_backRow.mp (List.mem_cons_self (a := self) (l := p.team))
    have counted : t.unitCount ≠ 0 := by
      have more := (folded.some (by simp [Player.backRow, Team.new])).2 ⟨self, leader⟩
      omega
    have lowest : t.lowestLevel = 0 := folded.lowest rfl
    obtain ⟨-, above, reached⟩ := folded.highest fun g mem present => small g (gathered.mem_backRow.mpr ⟨mem, present⟩)
    have defRate := levelRate_some (lv.initDefenderPosition edata enemy).levelCount loaded
    have atkRate := levelRate_some t.levelCount counted
    have highest : ∃ g ∈ self :: p.team, t.highestLevel = lv.player g := by
      obtain none | ⟨g, mem, present, most⟩ := reached
      · -- nobody is above the level that the constructor sets, so somebody has it
        refine ⟨g₀, mem₀, ?_⟩
        rw [none, zero]
        rfl
      · exact ⟨g, gathered.mem_backRow.mpr ⟨mem, present⟩, most⟩
    refine ⟨⟨w', t, decide (2 < t.unitCount), t.levelCount / t.unitCount,
      (lv.initDefenderPosition edata enemy).levelCount / (lv.initDefenderPosition edata enemy).unitCount⟩, B, ?_, there,
      placed ⟨g₀, mem₀, lowest.trans zero.symm⟩ (fun g _ => lowest ▸ Nat.zero_le _) highest fun g mem => ?_⟩
    · rw [data, Option.bind_some]
      simp only [defRate, attackers, Option.bind_some, atkRate, Option.map_some]
    · obtain ⟨mem, present⟩ := gathered.mem_backRow.mp mem
      exact above g mem present

/-- A player without a team. -/
def loner : Player := ⟨11, 0, 0, [], none, none, some 0, false, true⟩

/-- The player of guid 1 is alone in the world. -/
def quiet : World := ⟨fun _ => 0, fun g => if g = 1 then some loner else none, fun _ => none⟩

/-- A creature without a team, and players of one level. -/
def evenLevels (level : Nat) : Levels where
  creatureData enemy := if enemy = 5 then some ⟨0, 0, 0, 0, 0, 0, 0, 0, 0⟩ else none
  loadFromDB guid := if guid = 5 then some 10 else none
  player _ := level
  pet _ _ := 10

/-- The single player of the example is gathered. -/
lemma gathered_quiet : Gathered quiet 1 loner 100 where
  leader := rfl
  members := nofun
  few := by decide
  nodup := by decide
  nobody := rfl
  new := rfl

/-- The creature of the examples can be loaded. -/
lemma defended_evenLevels (level : Nat) : Defended (evenLevels level) 5 := ⟨_, rfl, 0, 2, rfl⟩

/-- A leader with a pet and a team of two. -/
def captain : Player := ⟨11, 0, 0, [2, 3], none, none, some 0, false, true⟩

/-- The leader has the guid 1, and the member of guid 3 has a pet, too. -/
def camp : World where
  guidOf _ := 0
  players g :=
    if g = 1 then some captain
    else if g = 2 then some ⟨12, 1, 0, [], none, none, none, false, true⟩
    else if g = 3 then some ⟨13, 1, 0, [], none, none, some 1, false, true⟩
    else none
  battles _ := none

/-- The captain of the example has its team gathered. -/
lemma gathered_camp : Gathered camp 1 captain 100 where
  leader := rfl
  members := by decide
  few := by decide
  nodup := by decide
  nobody := rfl
  new := rfl

/-- The creature of `evenLevels` against players of the levels 20, 0 and 7. -/
def unevenLevels : Levels := { evenLevels 0 with player := fun g => if g = 1 then 20 else if g = 3 then 7 else 0 }

/-- A leader and its members, one of level 0, are placed with their pets. -/
theorem engage_placed_camp : Gathered camp 1 captain 100 ∧ camp.EngagePlaces unevenLevels 1 5 100 captain := by
  refine ⟨gathered_camp, (engage_placed_iff gathered_camp unevenLevels 5).mpr ⟨defended_evenLevels 0, ?_, ?_⟩⟩
  · exact ⟨2, by decide, rfl⟩
  · decide

/-- The lowest level of a team of level 20 is 0. -/
theorem not_engage_placed : ¬∀ (w : World) (lv : Levels) (self enemy b : Nat) (p : Player), Gathered w self p b →
    Defended lv enemy → w.EngagePlaces lv self enemy b p := by
  intro always
  obtain ⟨r, B, run, -, placed⟩ := always quiet (evenLevels 20) 1 5 100 loner gathered_quiet (defended_evenLevels 20)
  have lowest : (quiet.engage (evenLevels 20) 1 5 100).map (fun r => r.team.lowestLevel) = some 0 := by decide
  rw [run, Option.map_some, Option.some.injEq] at lowest
  obtain ⟨g, -, least⟩ := placed.lowest.1
  rw [lowest] at least
  cases least

end World

end Legacy.Party
