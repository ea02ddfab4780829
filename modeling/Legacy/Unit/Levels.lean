import Legacy.Unit.Pending

/-!
# The level and what it stands for

The three paths that write the level of a unit: the booking of a gain, and the two commands that change a level
(`src/src/game/Level2.cpp`). `addExpGained_capped_iff` is about the highest level, `matches_of_reaches` about the
total experience, which should be what the levels below require.
-/

namespace Legacy.Unit
open Legacy.Lib

namespace Growth

variable {f : Formulas} {u u' : Growth}

/-- The progress that a booking starts with. -/
def progress (u : Growth) : Nat := (i32 (u.nextLevelXp + u.tmpXp)).toNat

/-- The unit as the loop of a booking starts. -/
def opened (u : Growth) : Growth := { u with tmpXp := 0, nextLevelXp := u.progress }

/-- Gaining experience is the loop from the opened level. -/
lemma addExpGained_eq (f : Formulas) (dice : Nat → Nat) (u : Growth) : addExpGained f dice u =
    levelLoop f dice (u8 u.reborn) u.progress (f.tnl (u8 u.level) (u8 u.reborn)) u.opened := rfl

/-- From `u` to `u'` by level-ups that each raise the level by one. -/
inductive Climbs (f : Formulas) (dice : Nat → Nat) (birth_lvl xp : Nat) : Growth → Growth → Prop
  | refl {u₀} : Climbs f dice birth_lvl xp u₀ u₀
  | up {u₀ u₁} : (passLevel f (dice u₀.level) xp (f.tnl u₀.level birth_lvl) u₀).level = u₀.level + 1 →
      Climbs f dice birth_lvl xp (passLevel f (dice u₀.level) xp (f.tnl u₀.level birth_lvl) u₀) u₁ →
      Climbs f dice birth_lvl xp u₀ u₁

/-- A climb does not go down. -/
lemma Climbs.le {dice : Nat → Nat} {birth_lvl xp : Nat} (climbs : Climbs f dice birth_lvl xp u u') :
    u.level ≤ u'.level := by
  induction climbs with
  | refl => exact Nat.le_refl _
  | up one _ ih => omega

/-- A booking keeps to the highest level: no level-up wraps, the level is at most 200 and not below the old one,
and a unit that has it gets nothing more. -/
structure Capped (f : Formulas) (dice : Nat → Nat) (u u' : Growth) : Prop where
  climbs : Climbs f dice (u8 u.reborn) u.progress u.opened u'
  top : u'.level ≤ 200
  le : u.level ≤ u'.level
  full : u.level = 200 → u'.level = 200 ∧ u'.statPoint = u.statPoint ∧ u'.spellPoint = u.spellPoint ∧
    u'.stats = u.stats

/-- Below the highest level the loop stops there at the latest. -/
lemma levelLoop_climbs (f : Formulas) (dice : Nat → Nat) (birth_lvl xp : Nat) {u : Growth} (below : u.level < 200) :
    Climbs f dice birth_lvl xp u (levelLoop f dice birth_lvl xp (f.tnl u.level birth_lvl) u) ∧
      (levelLoop f dice birth_lvl xp (f.tnl u.level birth_lvl) u).level ≤ 200 := by
  generalize rest : 200 - u.level = n
  induction n generalizing u with
  | zero => omega
  | succ n ih =>
    have level : (passLevel f (dice u.level) xp (f.tnl u.level birth_lvl) u).level = u.level + 1 := by
      rw [passLevel_level, u8_of_lt (by omega)]
    rw [levelLoop]
    split
    case isTrue covered =>
      simp only
      split
      case isTrue reached => exact ⟨.up level .refl, by rw [level]; omega⟩
      case isFalse lower =>
        obtain ⟨climbs, top⟩ := ih (Nat.lt_of_not_le lower) (by rw [level]; omega)
        exact ⟨.up level climbs, top⟩
    case isFalse short => exact ⟨.refl, by omega⟩

/-- A booking keeps to the highest level exactly when it finds no full level there. -/
theorem addExpGained_capped_iff (f : Formulas) (dice : Nat → Nat) {u : Growth} (top : u.level ≤ 200) :
    Capped f dice u (addExpGained f dice u) ↔
      (u.level = 200 → u.progress < f.tnl 200 (u8 u.reborn)) := by
  rw [addExpGained_eq, u8_of_lt (n := u.level) (by omega)]
  obtain below | full : u.level < 200 ∨ u.level = 200 := by omega
  · refine iff_of_true ?_ (fun full => by omega)
    obtain ⟨climbs, top⟩ := levelLoop_climbs f dice (u8 u.reborn) u.progress (u := u.opened) below
    exact ⟨climbs, top, climbs.le, fun full => by omega⟩
  · rw [full, levelLoop]
    constructor
    · intro capped _
      by_contra more
      have raised : (passLevel f (dice u.opened.level) u.progress (f.tnl 200 (u8 u.reborn)) u.opened).level = 201 := by
        rw [passLevel_level]
        exact congrArg (fun l => u8 (l + 1)) full
      have top := capped.top
      rw [if_pos (not_lt.mp more)] at top
      rw [dif_pos (raised.symm ▸ by decide), raised] at top
      omega
    · intro short
      rw [if_neg (not_le.mpr (short rfl))]
      exact ⟨.refl, top, Nat.le_refl _, fun _ => ⟨full, rfl, rfl, rfl⟩⟩

/-- A unit of a level with this progress. -/
def grown (level nextLevelXp : Nat) : Growth := { newcomer 0 with level, nextLevelXp }

/-- A full level lifts a unit to the highest level, and there it stays as long as a level is not full. -/
theorem capped_grown :
    Capped firstLevels (fun _ => 0) (grown 199 61) (addExpGained firstLevels (fun _ => 0) (grown 199 61)) ∧
      Capped firstLevels (fun _ => 0) (grown 200 60) (addExpGained firstLevels (fun _ => 0) (grown 200 60)) :=
  ⟨(addExpGained_capped_iff firstLevels _ (by decide)).mpr (by decide),
    (addExpGained_capped_iff firstLevels _ (by decide)).mpr (by decide)⟩

/-- The loop raises the level before it looks at it. -/
theorem not_addExpGained_capped :
    ¬∀ f dice u, 1 ≤ u.level → u.level ≤ 200 → Capped f dice u (addExpGained f dice u) := by
  intro capped
  have top := (capped firstLevels (fun _ => 0) (grown 200 61) (by decide) (by decide)).top
  have level : (addExpGained firstLevels (fun _ => 0) (grown 200 61)).level = 201 := by
    simp [addExpGained, levelLoop, firstLevels, grown, newcomer, i32, u8]
  omega

/-- The total experience is what the levels from 1 to below the unit's require. -/
def Matches (f : Formulas) (u : Growth) : Prop := u.xp = required f (u8 u.reborn) 1 u.level

/-- What the pet command reads of a template (source `struct CreatureInfo`). -/
structure CreatureInfo where
  stats : Stat → Nat
  /-- `spell1` to `spell5` -/
  spells : List Nat

/-- source `Unit::SetSpellLevel` -/
def setSpellLevel (u : Growth) (entry level : Nat) : Growth :=
  if entry = 0 ∨ level = 0 then u
  else { u with spells := u.spells.map fun s => if s.entry = entry then { s with level := level } else s }

/-- The loop of the commands: up to a level, and the total experience with it. -/
def climbTo (f : Formulas) (dice : Nat → Nat) (birth_lvl level : Nat) (le : level ≤ 200) (u : Growth) : Growth :=
  if u.level < level then
    climbTo f dice birth_lvl level le
      (raise f (dice u.level) { u with xp := Inventory.applyModUInt32Value u.xp (f.tnl u.level birth_lvl) true })
  else u
termination_by level - u.level
decreasing_by
  simp only [raise_level, u8]
  omega

/-- The end of the commands. -/
def refill (f : Formulas) (u : Growth) : Growth :=
  { u with hpMax := getHPMax f u, hp := getHPMax f u, spMax := getSPMax f u, sp := getSPMax f u }

/-- The command for a player that passes the checks of its names (source `ChatHandler::HandleChangeLevelCommand`). -/
def changeLevel (f : Formulas) (dice : Nat → Nat) (u : Growth) (level : Int) : Growth :=
  if h : level ≤ 0 ∨ 200 < level then u
  else
    let u := { u with
      level := 1, xp := 0, nextLevelXp := 0, statPoint := 6, spellPoint := 0, stats := fun _ => 0, spells := [] }
    refill f (climbTo f dice (u8 u.reborn) level.toNat (by omega) u)

/-- The command for a pet that passes the checks of its names (source `ChatHandler::HandleChangeLevelPetCommand`). -/
def changeLevelPet (f : Formulas) (dice : Nat → Nat) (u : Growth) (level : Int) (cinfo : Option CreatureInfo) :
    Growth :=
  if h : level ≤ 0 ∨ 200 < level then u
  else
    -- the level is written before the template is looked up
    let u := { u with level := level.toNat }
    match cinfo with
    | none => u
    | some cinfo =>
      let u := { u with
        level := 1, xp := 0, nextLevelXp := 0, statPoint := 0, spellPoint := 0, stats := cinfo.stats }
      let u := cinfo.spells.foldl (fun u entry => u.setSpellLevel entry 1) u
      refill f (climbTo f dice (u8 u.reborn) level.toNat (by omega) u)

end Growth

/-- What changes the experience or the level of a unit, with the dice of its level-ups. -/
inductive LevelEvent where
  /-- source `Unit::AddExpGained(int32)` -/
  | gain (xp : Int)
  /-- source `Unit::AddExpGained()` -/
  | book (dice : Nat → Nat)
  | changeLevel (level : Int) (dice : Nat → Nat)
  | changeLevelPet (level : Int) (cinfo : Option Growth.CreatureInfo) (dice : Nat → Nat)

namespace Growth

variable {f : Formulas} {u u' : Growth}

/-- One event, with the rate of a loss. -/
def levelStep (f : Formulas) (lost : Int) (u : Growth) : LevelEvent → Option Growth
  | .gain xp => some (u.addPending lost xp)
  | .book dice => some (addExpGained f dice u)
  | .changeLevel level dice => some (changeLevel f dice u level)
  | .changeLevelPet level cinfo dice => some (changeLevelPet f dice u level cinfo)

/-- No level-up wraps the level or leaves level 0, and no pet without a template is given another level. -/
def Sound (f : Formulas) (u : Growth) : LevelEvent → Prop
  | .book _ => u.progress < f.tnl (u8 u.level) (u8 u.reborn) ∨ (1 ≤ u.level ∧ u.level ≤ 254)
  | .changeLevelPet level none _ => level ≤ 0 ∨ 200 < level ∨ max 1 level = max 1 u.level
  | _ => True

/-- A raise is no rebirth. -/
@[simp]
lemma raise_reborn (f : Formulas) (dice_stat : Nat) (u : Growth) : (raise f dice_stat u).reborn = u.reborn := by
  cases type : u.type <;> simp [raise, award, type]

/-- The levels below 1 require nothing. -/
lemma required_max (f : Formulas) (birth_lvl l : Nat) :
    required f birth_lvl 1 (max 1 l) = required f birth_lvl 1 l := by
  obtain zero | pos : l = 0 ∨ 1 ≤ l := by omega
  · rw [zero, max_eq_left (Nat.zero_le 1), required_self]
    rfl
  · rw [max_eq_right pos]

/-- The sum of a level is in the sum of the last one. -/
lemma required_fits {birth_lvl l : Nat} (fits : required f birth_lvl 1 255 < 2 ^ 31) (le : l ≤ 255) :
    required f birth_lvl 1 l < 2 ^ 31 :=
  Nat.lt_of_le_of_lt (required_mono f birth_lvl 1 le) fits

/-- The loop of a booking adds what it climbs. -/
lemma levelLoop_matches (dice : Nat → Nat) (xp : Nat) {birth_lvl : Nat} (fits : required f birth_lvl 1 255 < 2 ^ 31)
    (pos : 1 ≤ u.level) (top : u.level ≤ 254) (total : u.xp = required f birth_lvl 1 u.level) :
    (levelLoop f dice birth_lvl xp (f.tnl u.level birth_lvl) u).xp =
        required f birth_lvl 1 (levelLoop f dice birth_lvl xp (f.tnl u.level birth_lvl) u).level ∧
      (levelLoop f dice birth_lvl xp (f.tnl u.level birth_lvl) u).reborn = u.reborn := by
  generalize rest : 200 - u.level = n
  induction n using Nat.strong_induction_on generalizing u with
  | _ n ih =>
    rw [levelLoop]
    split
    case isTrue covered =>
      have level : (passLevel f (dice u.level) xp (f.tnl u.level birth_lvl) u).level = u.level + 1 := by
        rw [passLevel_level, u8_of_lt (by omega)]
      have reborn : (passLevel f (dice u.level) xp (f.tnl u.level birth_lvl) u).reborn = u.reborn :=
        raise_reborn f (dice u.level) u
      have sum := required_succ f birth_lvl pos
      have small := required_fits fits (show u.level + 1 ≤ 255 by omega)
      have total' : (passLevel f (dice u.level) xp (f.tnl u.level birth_lvl) u).xp =
          required f birth_lvl 1 (passLevel f (dice u.level) xp (f.tnl u.level birth_lvl) u).level := by
        rw [passLevel_xp, level, total, sum, u32_of_lt (by omega)]
      simp only
      split
      case isTrue => exact ⟨total', reborn⟩
      case isFalse lower =>
        have climbed := ih _ (by omega) (by omega) (by omega) total' rfl
        exact ⟨climbed.1, climbed.2.trans reborn⟩
    case isFalse => exact ⟨total, rfl⟩

/-- A booking keeps the equation. -/
lemma addExpGained_matches (dice : Nat → Nat) (fits : required f (u8 u.reborn) 1 255 < 2 ^ 31) (init : Matches f u)
    (sound : Sound f u (.book dice)) :
    Matches f (addExpGained f dice u) ∧ (addExpGained f dice u).reborn = u.reborn := by
  rw [addExpGained_eq]
  obtain short | ⟨pos, top⟩ := sound
  · rw [levelLoop, if_neg (not_le.mpr short)]
    exact ⟨init, rfl⟩
  · rw [u8_of_lt (n := u.level) (by omega)]
    obtain ⟨total, reborn⟩ := levelLoop_matches dice u.progress (u := u.opened) fits pos top init
    have level : u.opened.level = u.level := rfl
    rw [level] at total reborn
    refine ⟨?_, reborn⟩
    rw [Matches, reborn]
    exact total

/-- An amount that fits is added. -/
lemma applyModUInt32Value_add {cur n : Nat} (fits : cur + n < 2 ^ 31) :
    Inventory.applyModUInt32Value cur n true = cur + n := by
  have first : i32 cur = cur := i32_of_range (by omega) (by omega)
  have second : i32 n = n := i32_of_range (by omega) (by omega)
  rw [Inventory.applyModUInt32Value, if_pos rfl, first, second, i32_of_range (by omega) (by omega)]
  omega

/-- The loop of a command ends at its level with the sum of the levels below. -/
lemma climbTo_matches (dice : Nat → Nat) (birth_lvl level : Nat) (le : level ≤ 200)
    (fits : required f birth_lvl 1 255 < 2 ^ 31) (pos : 1 ≤ u.level) (below : u.level ≤ level)
    (total : u.xp = required f birth_lvl 1 u.level) :
    (climbTo f dice birth_lvl level le u).level = level ∧
      (climbTo f dice birth_lvl level le u).xp = required f birth_lvl 1 level ∧
      (climbTo f dice birth_lvl level le u).reborn = u.reborn := by
  generalize rest : level - u.level = n
  induction n generalizing u with
  | zero =>
    have same : u.level = level := by omega
    rw [climbTo, if_neg (by omega)]
    exact ⟨same, same ▸ total, rfl⟩
  | succ n ih =>
    have sum := required_succ f birth_lvl pos
    have small := required_fits fits (show u.level + 1 ≤ 255 by omega)
    have next : u8 (u.level + 1) = u.level + 1 := u8_of_lt (by omega)
    rw [climbTo, if_pos (by omega), applyModUInt32Value_add (by omega)]
    generalize raised : raise f (dice u.level) { u with xp := u.xp + f.tnl u.level birth_lvl } = v
    have level' : v.level = u.level + 1 := by rw [← raised, raise_level, next]
    have xp : v.xp = u.xp + f.tnl u.level birth_lvl := by rw [← raised, raise_xp]
    have reborn : v.reborn = u.reborn := by rw [← raised, raise_reborn]
    have climbed := ih (u := v) (by omega) (by omega) (by rw [xp, level', sum, total]) (by omega)
    exact ⟨climbed.1, climbed.2.1, climbed.2.2.trans reborn⟩

/-- A command that starts a unit again keeps the equation. -/
lemma restart_matches (dice : Nat → Nat) {level : Int} (accepted : ¬(level ≤ 0 ∨ 200 < level)) {v : Growth}
    (fits : required f (u8 u.reborn) 1 255 < 2 ^ 31) (first : v.level = 1) (empty : v.xp = 0)
    (reborn : v.reborn = u.reborn) :
    Matches f (refill f (climbTo f dice (u8 v.reborn) level.toNat (by omega) v)) ∧
      (refill f (climbTo f dice (u8 v.reborn) level.toNat (by omega) v)).reborn = u.reborn := by
  obtain ⟨level', total, reborn'⟩ := climbTo_matches (u := v) dice (u8 v.reborn) level.toNat
    (by omega) (reborn ▸ fits) (by omega) (by omega) (by rw [first, empty, required_self])
  refine ⟨?_, reborn'.trans reborn⟩
  have total' : Matches f (climbTo f dice (u8 v.reborn) level.toNat (by omega) v) := by
    rw [Matches, reborn', level', total]
  exact total'

/-- The levels of the spells have no part in the level and the experience. -/
lemma setSpellLevels_same (entries : List Nat) (u : Growth) :
    let v := entries.foldl (fun u entry => u.setSpellLevel entry 1) u
    v.level = u.level ∧ v.xp = u.xp ∧ v.reborn = u.reborn := by
  induction entries generalizing u with
  | nil => exact ⟨rfl, rfl, rfl⟩
  | cons entry entries ih =>
    have same : (u.setSpellLevel entry 1).level = u.level ∧ (u.setSpellLevel entry 1).xp = u.xp ∧
        (u.setSpellLevel entry 1).reborn = u.reborn := by
      rw [setSpellLevel]
      split <;> exact ⟨rfl, rfl, rfl⟩
    obtain ⟨level, xp, reborn⟩ := ih (u.setSpellLevel entry 1)
    exact ⟨level.trans same.1, xp.trans same.2.1, reborn.trans same.2.2⟩

/-- The command on a player leaves experience and level matching. -/
lemma changeLevel_matches (dice : Nat → Nat) (level : Int) (fits : required f (u8 u.reborn) 1 255 < 2 ^ 31)
    (init : Matches f u) :
    Matches f (changeLevel f dice u level) ∧ (changeLevel f dice u level).reborn = u.reborn := by
  rw [changeLevel]
  split
  case isTrue => exact ⟨init, rfl⟩
  case isFalse accepted => exact restart_matches dice accepted fits rfl rfl rfl

/-- The command on a pet leaves experience and level matching, when the template is sound. -/
lemma changeLevelPet_matches (dice : Nat → Nat) {level : Int} {cinfo : Option CreatureInfo}
    (fits : required f (u8 u.reborn) 1 255 < 2 ^ 31) (init : Matches f u)
    (sound : Sound f u (.changeLevelPet level cinfo dice)) :
    Matches f (changeLevelPet f dice u level cinfo) ∧ (changeLevelPet f dice u level cinfo).reborn = u.reborn := by
  rw [changeLevelPet]
  split
  case isTrue => exact ⟨init, rfl⟩
  case isFalse accepted =>
    cases cinfo with
    | none =>
      have same : max 1 level.toNat = max 1 u.level := by
        obtain low | high | same := sound
        · omega
        · omega
        · omega
      refine ⟨?_, rfl⟩
      have init : u.xp = required f (u8 u.reborn) 1 u.level := init
      rw [← required_max, ← same, required_max] at init
      exact init
    | some cinfo =>
      obtain ⟨level, xp, reborn⟩ := setSpellLevels_same cinfo.spells { u with
        level := 1, xp := 0, nextLevelXp := 0, statPoint := 0, spellPoint := 0, stats := cinfo.stats }
      have kept := restart_matches (u := u) dice accepted fits level xp reborn
      exact kept

/-- A table that requires one point for each level. -/
def onePoint : Formulas where
  tnl _ _ := 1
  root _ := 1
  tnl_pos _ _ := Nat.one_pos
  tnl_lt _ _ := by decide

/-- With one point a level, the experience is the number of levels. -/
lemma required_onePoint (birth_lvl l : Nat) : required onePoint birth_lvl 1 l = l - 1 := by
  simp [required, onePoint]

/-- A raise keeps what is on the way to the next level. -/
lemma raise_progress (f : Formulas) (dice_stat : Nat) (u : Growth) :
    (raise f dice_stat u).nextLevelXp = u.nextLevelXp ∧ (raise f dice_stat u).tmpXp = u.tmpXp := by
  cases type : u.type <;> simp [raise, award, type]

/-- The loop of a command books nothing. -/
lemma climbTo_progress (dice : Nat → Nat) (birth_lvl level : Nat) (le : level ≤ 200) (u : Growth) :
    (climbTo f dice birth_lvl level le u).nextLevelXp = u.nextLevelXp ∧
      (climbTo f dice birth_lvl level le u).tmpXp = u.tmpXp := by
  fun_induction climbTo f dice birth_lvl level le u with
  | case1 u lower ih =>
    obtain ⟨next, pending⟩ := raise_progress f (dice u.level)
      { u with xp := Inventory.applyModUInt32Value u.xp (f.tnl u.level birth_lvl) true }
    exact ⟨ih.1.trans next, ih.2.trans pending⟩
  | case2 u reached => exact ⟨rfl, rfl⟩

/-- A unit of a level with what `onePoint` requires for it, and no gain pending. -/
structure Earned (l : Nat) (u : Growth) : Prop where
  level : u.level = l
  xp : u.xp = l - 1
  tmpXp : u.tmpXp = 0
  reborn : u.reborn = 0

/-- A unit at the beginning of a level. -/
structure Fresh (l : Nat) (u : Growth) : Prop extends Earned l u where
  nextLevelXp : u.nextLevelXp = 0

/-- A unit of an accepted command. -/
lemma Fresh.changeLevel {l : Nat} (dice : Nat → Nat) (fresh : Fresh l u) {level : Nat} (pos : 1 ≤ level)
    (top : level ≤ 200) : Fresh level (Growth.changeLevel onePoint dice u level) := by
  rw [Growth.changeLevel, dif_neg (by omega)]
  obtain ⟨here, total, reborn⟩ := climbTo_matches (f := onePoint) dice (u8 u.reborn) level top
    (u := { u with
      level := 1, xp := 0, nextLevelXp := 0, statPoint := 6, spellPoint := 0, stats := fun _ => 0, spells := [] })
    (by rw [required_onePoint]; decide) (Nat.le_refl 1) pos (required_self ..).symm
  obtain ⟨next, pending⟩ := climbTo_progress (f := onePoint) dice (u8 u.reborn) level top { u with
      level := 1, xp := 0, nextLevelXp := 0, statPoint := 6, spellPoint := 0, stats := fun _ => 0, spells := [] }
  rw [required_onePoint] at total
  exact ⟨⟨here, total, pending.trans fresh.tmpXp, reborn.trans fresh.reborn⟩, next⟩

/-- The gain of one point is the progress of the next level. -/
lemma Fresh.progress {l : Nat} (fresh : Fresh l u) : (u.addPending 1 1).progress = 1 := by
  have next : (u.addPending 1 1).nextLevelXp = 0 := fresh.nextLevelXp
  have pending : (u.addPending 1 1).tmpXp = 1 := by
    show i32 (u.tmpXp + 1) = 1
    rw [fresh.tmpXp]
    decide
  rw [Growth.progress, next, pending]
  decide

/-- The booking of a gain of one point starts a level up. -/
lemma Fresh.book_eq {l : Nat} (dice : Nat → Nat) (fresh : Fresh l u) :
    ∃ v, Earned l v ∧
      addExpGained onePoint dice (u.addPending 1 1) = levelLoop onePoint dice 0 1 (onePoint.tnl v.level 0) v := by
  refine ⟨(u.addPending 1 1).opened, ⟨fresh.level, fresh.xp, rfl, fresh.reborn⟩, ?_⟩
  have reborn : (u.addPending 1 1).reborn = 0 := fresh.reborn
  rw [addExpGained_eq, fresh.progress, reborn]
  rfl

/-- The level up itself, which takes level 256 for level 0. -/
lemma Earned.pass {l : Nat} (dice_stat : Nat) (earned : Earned l u) (pos : 1 ≤ l) (top : l ≤ 255) :
    (passLevel onePoint dice_stat 1 (onePoint.tnl u.level 0) u).level = u8 (l + 1) ∧
      (passLevel onePoint dice_stat 1 (onePoint.tnl u.level 0) u).xp = l ∧
      (passLevel onePoint dice_stat 1 (onePoint.tnl u.level 0) u).nextLevelXp = 0 ∧
      (passLevel onePoint dice_stat 1 (onePoint.tnl u.level 0) u).tmpXp = 0 ∧
      (passLevel onePoint dice_stat 1 (onePoint.tnl u.level 0) u).reborn = 0 := by
  have point : onePoint.tnl u.level 0 = 1 := rfl
  refine ⟨?_, ?_, ?_, ?_, ?_⟩
  · rw [passLevel_level, earned.level]
  · rw [passLevel_xp, earned.xp, point, u32_of_lt (by omega)]
    omega
  · rw [passLevel_nextLevelXp, point]
    rfl
  · exact (raise_progress onePoint dice_stat u).2.trans earned.tmpXp
  · exact (raise_reborn onePoint dice_stat u).trans earned.reborn

/-- At the highest level and above it a booking climbs one level. -/
lemma Fresh.book {l : Nat} (dice : Nat → Nat) (fresh : Fresh l u) (full : 200 ≤ l) (below : l < 255) :
    Fresh (l + 1) (addExpGained onePoint dice (u.addPending 1 1)) := by
  obtain ⟨v, earned, eq⟩ := fresh.book_eq dice
  obtain ⟨level, xp, next, pending, reborn⟩ := earned.pass (dice v.level) (by omega) (by omega)
  rw [u8_of_lt (by omega)] at level
  rw [eq, levelLoop, if_pos (show onePoint.tnl v.level 0 ≤ 1 from Nat.le_refl 1)]
  simp only
  rw [dif_pos (by omega)]
  exact ⟨⟨level, xp, pending, reborn⟩, next⟩

/-- A booking at level 255 goes on from level 0, and keeps what the levels up to 255 gave. -/
lemma Fresh.wrap (dice : Nat → Nat) (fresh : Fresh 255 u) :
    ¬Matches onePoint (addExpGained onePoint dice (u.addPending 1 1)) := by
  obtain ⟨v, earned, eq⟩ := fresh.book_eq dice
  obtain ⟨level, xp, -, -, reborn⟩ := earned.pass (dice v.level) (by omega) (by omega)
  rw [eq, levelLoop, if_pos (show onePoint.tnl v.level 0 ≤ 1 from Nat.le_refl 1)]
  simp only
  generalize passLevel onePoint (dice v.level) 1 (onePoint.tnl v.level 0) v = w at level xp reborn ⊢
  rw [dif_neg (by rw [level]; decide)]
  have below : w.level = 0 := level
  have climbed := levelLoop_climbed onePoint dice 0 (show 1 < 2 ^ 32 by decide) (u := w) (by omega) (by omega)
  generalize levelLoop onePoint dice 0 1 (onePoint.tnl w.level 0) w = u' at climbed ⊢
  have sum : required onePoint 0 w.level u'.level = u'.level := by simp [required, onePoint, below]
  have top := climbed.top
  intro total
  rw [Matches, required_onePoint, climbed.total, sum, xp, u32_of_lt (by omega)] at total
  omega

/-- The bookings from the highest level on. -/
lemma Fresh.bookings (fresh : Fresh 200 u) {n : Nat} (le : n ≤ 55) :
    ∃ u', Reaches (levelStep onePoint 1) (fun _ _ => True) u u' ∧ Fresh (200 + n) u' := by
  induction n with
  | zero => exact ⟨u, .refl, fresh⟩
  | succ n ih =>
    obtain ⟨v, run, fresh'⟩ := ih (by omega)
    refine ⟨_, (run.tail (e := .gain 1) trivial rfl).tail (e := .book fun _ => 0) trivial rfl, ?_⟩
    exact fresh'.book _ (by omega) (by omega)

end Growth

end Legacy.Unit
