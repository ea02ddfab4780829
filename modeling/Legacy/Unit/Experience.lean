import Legacy.Inventory.Handlers
import Mathlib.Algebra.BigOperators.Intervals
import Mathlib.Algebra.Order.BigOperators.Group.Finset

/-!
# Experience and levels

Model of `Unit::AddExpGained` and `Unit::LevelUp` (`src/src/game/Unit.cpp`). The requirement of a level is
a rounded power of it; the rounded values are taken from a table. `addExpGained_conserved_iff` says exactly
when a gain is neither lost nor counted twice: the loop carries the whole progress from one level to the
next, so the accounts agree only when at most one level is gained.
-/

namespace Legacy.Unit
open Legacy.Lib
open Legacy.Inventory (applyModUInt32Value)

/-- The rounded floating-point formulas. -/
structure Formulas where
  /-- `round(pow(lvl + 1, power) + 5)`, the power chosen by the rebirth count -/
  tnl : Nat → Nat → Nat
  /-- `round(pow(level, 0.25))` -/
  root : Nat → Nat
  tnl_pos : ∀ lvl birth_lvl, 0 < tnl lvl birth_lvl
  tnl_lt : ∀ lvl birth_lvl, tnl lvl birth_lvl < 2 ^ 32

/-- The kinds of units that `LevelUp` tells apart (source `isType`). -/
inductive TypeMask where
  | player | pet | other
  deriving DecidableEq, Repr

/-- The stats a unit spends its points on (source `UNIT_FIELD_INT` to `UNIT_FIELD_AGI`). -/
inductive Stat where
  | int | atk | defense | hpx | spx | agi
  deriving DecidableEq, Repr

/-- A learned spell and the highest level of its template (source `class Spell`). -/
structure Spell where
  entry : Nat
  level : Nat
  levelMax : Nat
  deriving DecidableEq, Repr

/-- The fields of a unit that levelling reads and writes. -/
structure Growth where
  type : TypeMask
  level : Nat
  reborn : Nat
  /-- `UNIT_FIELD_XP` -/
  xp : Nat
  /-- `UNIT_FIELD_NEXT_LEVEL_XP` -/
  nextLevelXp : Nat
  /-- `m_tmp_xp` -/
  tmpXp : Int
  levelUp : Bool
  spellPoint : Nat
  statPoint : Nat
  stats : Stat → Nat
  hpxMod : Int
  loyalty : Nat
  spells : List Spell
  hp : Nat
  hpMax : Nat
  sp : Nat
  spMax : Nat

/-- The skill that every unit has (source `SPELL_BASIC`). -/
abbrev spellBasic : Nat := 10000

/-- A spell that takes no more points (source `Unit::isSpellLevelMaxed`). -/
def Spell.isLevelMaxed (s : Spell) : Bool :=
  s.entry = 0 || s.entry = spellBasic || s.levelMax ≤ s.level

namespace Growth

/-- source `Unit::GetHPMax` -/
def getHPMax (f : Formulas) (u : Growth) : Nat :=
  let level := u8 u.level
  let hp_max := u16 (80 + level + u16 (u16 (u.stats .hpx) * (4 * f.root level)))
  u16 (hp_max + (u.hpxMod % 2 ^ 16).toNat)

/-- source `Unit::GetSPMax` -/
def getSPMax (f : Formulas) (u : Growth) : Nat :=
  let level := u8 u.level
  u16 (60 + level + u16 (u16 (u.stats .spx) * (2 * f.root level)))

/-- The stat that the dice of a pet's level picks. -/
def diceStat (dice_stat : Nat) : Stat :=
  if dice_stat < 20 then .int
  else if dice_stat < 40 then .atk
  else if dice_stat < 60 then .defense
  else if dice_stat < 80 then .hpx
  else if dice_stat < 90 then .spx
  else .agi

/-- What a level gives to a unit of this type, beside the level itself. -/
def award (dice_stat : Nat) (u : Growth) : Growth :=
  match u.type with
  | .player =>
    { u with
      spellPoint := applyModUInt32Value u.spellPoint 1 true
      statPoint := applyModUInt32Value u.statPoint 2 true }
  | .pet =>
    let stat := diceStat dice_stat
    { u with
      spellPoint :=
        if u.spells.all Spell.isLevelMaxed then u.spellPoint
        else applyModUInt32Value u.spellPoint 1 true
      loyalty := if u.loyalty < 100 then u.loyalty + 1 else u.loyalty
      stats := Function.update u.stats stat (applyModUInt32Value (u.stats stat) 1 true) }
  | .other => u

/-- One level up (source `Unit::LevelUp`). -/
def raise (f : Formulas) (dice_stat : Nat) (u : Growth) : Growth :=
  let raised := award dice_stat { u with level := u8 (u.level + 1), levelUp := true }
  { raised with
    hpMax := getHPMax f raised
    hp := getHPMax f raised
    spMax := getSPMax f raised
    sp := getSPMax f raised }

/-- A raise adds a level. -/
@[simp]
lemma raise_level (f : Formulas) (dice_stat : Nat) (u : Growth) :
    (raise f dice_stat u).level = u8 (u.level + 1) := by
  cases type : u.type <;> simp [raise, award, type]

/-- A raise keeps the experience. -/
@[simp]
lemma raise_xp (f : Formulas) (dice_stat : Nat) (u : Growth) : (raise f dice_stat u).xp = u.xp := by
  cases type : u.type <;> simp [raise, award, type]

/-- One iteration of the loop of `AddExpGained`: a level up, with `xp` less `tnl` as the new progress. -/
def passLevel (f : Formulas) (dice_stat xp tnl : Nat) (u : Growth) : Growth :=
  let raised := raise f dice_stat u
  { raised with xp := u32 (raised.xp + tnl), nextLevelXp := u32 (xp - tnl) }

/-- Passing a level adds it. -/
@[simp]
lemma passLevel_level (f : Formulas) (dice_stat xp tnl : Nat) (u : Growth) :
    (passLevel f dice_stat xp tnl u).level = u8 (u.level + 1) :=
  raise_level f dice_stat u

/-- Passing a level books what it takes. -/
@[simp]
lemma passLevel_xp (f : Formulas) (dice_stat xp tnl : Nat) (u : Growth) :
    (passLevel f dice_stat xp tnl u).xp = u32 (u.xp + tnl) := by
  rw [passLevel, raise_xp]

/-- Passing a level leaves the rest. -/
@[simp]
lemma passLevel_nextLevelXp (f : Formulas) (dice_stat xp tnl : Nat) (u : Growth) :
    (passLevel f dice_stat xp tnl u).nextLevelXp = u32 (xp - tnl) := rfl

/-- The `while` loop of `AddExpGained`: `xp` is the progress of the first iteration in every one. `dice`
gives the dice of the level that is left. -/
def levelLoop (f : Formulas) (dice : Nat → Nat) (birth_lvl xp tnl : Nat) (u : Growth) : Growth :=
  if tnl ≤ xp then
    let u' := passLevel f (dice u.level) xp tnl u
    if _h : 200 ≤ u'.level then u' else levelLoop f dice birth_lvl xp (f.tnl u'.level birth_lvl) u'
  else u
-- the new level is below 200, so the old one was below 199 or wraps around 256
termination_by (455 - u.level % 256) % 256
decreasing_by
  simp only [u', passLevel_level, u8] at _h ⊢
  omega

/-- Books the pending gain (source `Unit::AddExpGained()`). -/
def addExpGained (f : Formulas) (dice : Nat → Nat) (u : Growth) : Growth :=
  let birth_lvl := u8 u.reborn
  let xp := (i32 (u.nextLevelXp + u.tmpXp)).toNat
  levelLoop f dice birth_lvl xp (f.tnl (u8 u.level) birth_lvl) { u with tmpXp := 0, nextLevelXp := xp }

/-- What the levels from `l` up to `l'` require together. -/
def required (f : Formulas) (birth_lvl l l' : Nat) : Nat :=
  ∑ lvl ∈ Finset.Ico l l', f.tnl lvl birth_lvl

/-- No level takes nothing. -/
lemma required_self (f : Formulas) (birth_lvl l : Nat) : required f birth_lvl l l = 0 := by
  rw [required, Finset.Ico_self, Finset.sum_empty]

/-- One more level at the end. -/
lemma required_succ (f : Formulas) (birth_lvl : Nat) {l l' : Nat} (le : l ≤ l') :
    required f birth_lvl l (l' + 1) = required f birth_lvl l l' + f.tnl l' birth_lvl :=
  Finset.sum_Ico_succ_top le _

/-- One more level at the beginning. -/
lemma required_first (f : Formulas) (birth_lvl : Nat) {l l' : Nat} (lt : l < l') :
    required f birth_lvl l l' = f.tnl l birth_lvl + required f birth_lvl (l + 1) l' :=
  Finset.sum_eq_sum_Ico_succ_bot lt _

/-- Every level takes something. -/
lemma required_pos (f : Formulas) (birth_lvl : Nat) {l l' : Nat} (lt : l < l') :
    0 < required f birth_lvl l l' := by
  rw [required_first f birth_lvl lt]
  have pos := f.tnl_pos l birth_lvl
  omega

/-- More levels take more. -/
lemma required_mono (f : Formulas) (birth_lvl l : Nat) {l' m : Nat} (le : l' ≤ m) :
    required f birth_lvl l l' ≤ required f birth_lvl l m :=
  Finset.sum_le_sum_of_subset (Finset.Ico_subset_Ico_right le)

/-- How the loop ends when it starts at level `u.level` with progress `xp`: it climbs while the whole
progress covers the next level, adds up what the levels require, and leaves the progress less the last
requirement. -/
structure Climbed (f : Formulas) (birth_lvl xp : Nat) (u u' : Growth) : Prop where
  le : u.level ≤ u'.level
  top : u'.level ≤ 200
  stop : u'.level = 200 ∨ xp < f.tnl u'.level birth_lvl
  covers : ∀ lvl, u.level ≤ lvl → lvl < u'.level → f.tnl lvl birth_lvl ≤ xp
  same : u'.level = u.level → u' = u
  total : u'.xp = u32 (u.xp + required f birth_lvl u.level u'.level)
  last : ∀ lvl, u.level ≤ lvl → lvl + 1 = u'.level → u'.nextLevelXp = xp - f.tnl lvl birth_lvl

/-- One level more at the front. -/
lemma Climbed.step {f : Formulas} {birth_lvl xp dice_stat : Nat} {u u' : Growth} (below : u.level < 200)
    (word : xp < 2 ^ 32) (covered : f.tnl u.level birth_lvl ≤ xp)
    (climbed : Climbed f birth_lvl xp (passLevel f dice_stat xp (f.tnl u.level birth_lvl) u) u') :
    Climbed f birth_lvl xp u u' := by
  have level : u8 (u.level + 1) = u.level + 1 := u8_of_lt (by omega)
  have less : u32 (xp - f.tnl u.level birth_lvl) = xp - f.tnl u.level birth_lvl := u32_of_lt (by omega)
  have le := climbed.le
  have total := climbed.total
  have last := climbed.last
  have covers := climbed.covers
  have same := climbed.same
  simp only [passLevel_level, passLevel_xp, level] at le total last covers same
  refine ⟨by omega, climbed.top, climbed.stop, ?_, fun eq => by omega, ?_, ?_⟩
  · intro lvl lo hi
    rcases Nat.eq_or_lt_of_le lo with rfl | lt
    · exact covered
    · exact covers lvl lt hi
  · rw [total, required_first f birth_lvl (show u.level < u'.level from le)]
    simp only [u32]
    omega
  · intro lvl lo hi
    rcases Nat.eq_or_lt_of_le lo with rfl | lt
    · rw [same hi.symm, passLevel_nextLevelXp, less]
    · exact last lvl lt hi

/-- Nothing is climbed when the loop stops here. -/
lemma Climbed.refl {f : Formulas} {birth_lvl xp : Nat} {u : Growth} (top : u.level ≤ 200)
    (total : u.xp < 2 ^ 32) (stop : u.level = 200 ∨ xp < f.tnl u.level birth_lvl) :
    Climbed f birth_lvl xp u u := by
  refine ⟨le_rfl, top, stop, ?_, fun _ => rfl, ?_, ?_⟩
  · intro lvl lo hi
    omega
  · rw [required_self, Nat.add_zero, u32_of_lt total]
  · intro lvl lo hi
    omega

/-- The loop climbs the levels that the experience pays for. -/
lemma levelLoop_climbed (f : Formulas) (dice : Nat → Nat) (birth_lvl : Nat) {xp : Nat} (word : xp < 2 ^ 32)
    {u : Growth} (below : u.level < 200) (total : u.xp < 2 ^ 32) :
    Climbed f birth_lvl xp u (levelLoop f dice birth_lvl xp (f.tnl u.level birth_lvl) u) := by
  generalize rest : 200 - u.level = n
  induction n generalizing u with
  | zero => omega
  | succ n ih =>
    rw [levelLoop]
    split
    case isTrue covered =>
      have level : (passLevel f (dice u.level) xp (f.tnl u.level birth_lvl) u).level = u.level + 1 := by
        rw [passLevel_level, u8_of_lt (by omega)]
      have raised := passLevel_xp f (dice u.level) xp (f.tnl u.level birth_lvl) u ▸ u32_lt _
      simp only
      split
      case isTrue reached =>
        exact (Climbed.refl (by omega) raised (Or.inl (by omega))).step below word covered
      case isFalse lower =>
        exact (ih (by omega) raised (by omega)).step below word covered
    case isFalse short => exact Climbed.refl (by omega) total (Or.inr (by omega))

/-- The progress in the level after the gain, floored at 0. -/
def gained (u : Growth) : Nat := (u.nextLevelXp + u.tmpXp).toNat

/-- The gain is accounted for: the total moved by it, the level is the last one it covers, and the rest
is short of the next level. -/
structure Conserved (f : Formulas) (u u' : Growth) : Prop where
  total : u'.xp + u'.nextLevelXp = u.xp + gained u
  le : u.level ≤ u'.level
  top : u'.level ≤ 200
  covered : required f (u8 u.reborn) u.level u'.level ≤ gained u
  largest : ∀ l, u'.level < l → l ≤ 200 → gained u < required f (u8 u.reborn) u.level l
  progress : u'.level = 200 ∨ u'.nextLevelXp < f.tnl u'.level (u8 u.reborn)

/-- The gain stops short of the next level, or of the one after it, and the total stays a word. -/
def OneLevel (f : Formulas) (u : Growth) : Prop :=
  gained u < f.tnl u.level (u8 u.reborn) ∨
    (u.level + 1 = 200 ∨ gained u < f.tnl (u.level + 1) (u8 u.reborn)) ∧
      u.xp + f.tnl u.level (u8 u.reborn) < 2 ^ 32

/-- A level above the one that was reached is not covered. -/
lemma Climbed.largest {f : Formulas} {birth_lvl xp : Nat} {u u' : Growth}
    (climbed : Climbed f birth_lvl xp u u') {l : Nat} (lt : u'.level < l) (le : l ≤ 200) :
    xp < required f birth_lvl u.level l := by
  rcases climbed.stop with top | short
  · omega
  · calc xp < f.tnl u'.level birth_lvl := short
      _ ≤ required f birth_lvl u.level (u'.level + 1) := by
        rw [required_succ f birth_lvl climbed.le]
        exact Nat.le_add_left _ _
      _ ≤ required f birth_lvl u.level l := required_mono f birth_lvl _ lt

/-- The accounts after the loop, for a progress that fits a signed word. -/
lemma Climbed.total_iff {f : Formulas} {birth_lvl xp : Nat} {u u' : Growth}
    (climbed : Climbed f birth_lvl xp u u') (fits : xp < 2 ^ 31)
    (covered : required f birth_lvl u.level u'.level ≤ xp) (up : u.level < u'.level) :
    u'.xp + u'.nextLevelXp = u.xp + xp ↔
      u'.level = u.level + 1 ∧ u.xp + f.tnl u.level birth_lvl < 2 ^ 32 := by
  obtain ⟨last, level⟩ : ∃ last, u'.level = last + 1 := ⟨u'.level - 1, by omega⟩
  have le : u.level ≤ last := by omega
  have next := climbed.last last le level.symm
  have total := climbed.total
  have split := required_succ f birth_lvl le
  rw [level] at total covered
  rw [split] at total covered
  rw [next, total, level]
  simp only [u32]
  rcases Nat.eq_or_lt_of_le le with rfl | lt
  · rw [required_self]
    omega
  · have pos := required_pos f birth_lvl lt
    have word := f.tnl_lt last birth_lvl
    omega

/-- The unit as the loop starts: the pending gain is moved to the progress. -/
def booked (u : Growth) : Growth := { u with tmpXp := 0, nextLevelXp := gained u }

/-- A gain in range climbs the levels that it pays for. -/
lemma addExpGained_climbed (f : Formulas) (dice : Nat → Nat) {u : Growth} (below : u.level < 200)
    (total : u.xp < 2 ^ 32) (lo : -2 ^ 31 ≤ u.nextLevelXp + u.tmpXp)
    (hi : u.nextLevelXp + u.tmpXp < 2 ^ 31) :
    Climbed f (u8 u.reborn) (gained u) (booked u) (addExpGained f dice u) := by
  have word : gained u < 2 ^ 32 := by
    rw [gained]
    omega
  rw [addExpGained, i32_of_range lo hi, u8_of_lt (n := u.level) (by omega)]
  exact levelLoop_climbed f dice (u8 u.reborn) word (u := booked u) below total

/-- Experience is conserved exactly for the gains that cross at most one level. -/
theorem addExpGained_conserved_iff (f : Formulas) (dice : Nat → Nat) {u : Growth} (below : u.level < 200)
    (total : u.xp < 2 ^ 32) (lo : -2 ^ 31 ≤ u.nextLevelXp + u.tmpXp)
    (hi : u.nextLevelXp + u.tmpXp < 2 ^ 31) :
    Conserved f u (addExpGained f dice u) ↔ OneLevel f u := by
  have fits : gained u < 2 ^ 31 := by
    rw [gained]
    omega
  have climbed := addExpGained_climbed f dice below total lo hi
  generalize addExpGained f dice u = u' at climbed
  have le : u.level ≤ u'.level := climbed.le
  rcases Nat.eq_or_lt_of_le le with level | up
  · -- no level is gained
    obtain rfl : u' = booked u := climbed.same level.symm
    have short : gained u < f.tnl u.level (u8 u.reborn) := by
      rcases climbed.stop with top | short
      · exact absurd top (Nat.ne_of_lt below)
      · exact short
    refine iff_of_true ⟨rfl, le, climbed.top, ?_, ?_, Or.inr short⟩ (Or.inl short)
    · rw [← level, required_self]
      exact Nat.zero_le _
    · exact fun l lt top => climbed.largest lt top
  · have long : f.tnl u.level (u8 u.reborn) ≤ gained u := climbed.covers u.level le_rfl up
    constructor
    · intro conserved
      obtain ⟨one, word⟩ :=
        (climbed.total_iff fits conserved.covered up).mp conserved.total
      have stop := climbed.stop
      rw [one] at stop
      exact Or.inr ⟨stop, word⟩
    · rintro (short | ⟨stop, word⟩)
      · omega
      · -- the second level is not covered, so the loop left after the first
        have one : u'.level = u.level + 1 := by
          by_contra ne
          rcases stop with top | short
          · have top' := climbed.top
            omega
          · have covered := climbed.covers (u.level + 1) (Nat.le_succ _) (by omega)
            omega
        have covered : required f (u8 u.reborn) u.level u'.level ≤ gained u := by
          rw [one, required_succ _ _ le_rfl, required_self, Nat.zero_add]
          exact long
        refine ⟨(climbed.total_iff fits covered up).mpr ⟨one, word⟩, le, climbed.top, covered, ?_, ?_⟩
        · exact fun l lt top => climbed.largest lt top
        · rcases climbed.stop with top | short
          · exact Or.inl top
          · refine Or.inr ?_
            rw [climbed.last u.level le_rfl one.symm]
            omega

/-- A table with the rounded requirements of the levels 1, 2 and 3 of a unit that was not reborn. -/
def firstLevels : Formulas where
  tnl lvl _ := if lvl = 1 then 12 else if lvl = 2 then 29 else 61
  root _ := 1
  tnl_pos lvl _ := by split_ifs <;> decide
  tnl_lt lvl _ := by split_ifs <;> decide

/-- A player of level 1 with a pending gain. -/
def newcomer (gain : Int) : Growth where
  type := .player
  level := 1
  reborn := 0
  xp := 0
  nextLevelXp := 0
  tmpXp := gain
  levelUp := false
  spellPoint := 0
  statPoint := 6
  stats _ := 0
  hpxMod := 0
  loyalty := 0
  spells := []
  hp := 81
  hpMax := 81
  sp := 61
  spMax := 61

/-- A gain of 20 lifts the newcomer to level 2, with 8 points to spare. -/
theorem addExpGained_newcomer :
    Conserved firstLevels (newcomer 20) (addExpGained firstLevels (fun _ => 0) (newcomer 20)) :=
  (addExpGained_conserved_iff firstLevels _ (by decide) (by decide) (by decide) (by decide)).mpr
    (Or.inr ⟨Or.inr (by decide), by decide⟩)

/-- A gain of 30 lifts the newcomer to level 3, which takes 41. -/
theorem addExpGained_twoLevels :
    ¬Conserved firstLevels (newcomer 30) (addExpGained firstLevels (fun _ => 0) (newcomer 30)) := by
  have level : (addExpGained firstLevels (fun _ => 0) (newcomer 30)).level = 3 := by
    simp [addExpGained, levelLoop, firstLevels, newcomer, i32, u8]
  intro conserved
  have covered := conserved.covered
  rw [level] at covered
  exact absurd covered (by decide)

end Growth

end Legacy.Unit
