import Legacy.Battle.Spell
import Legacy.Unit.Powers
import Mathlib.Data.Rat.Floor
import Mathlib.Tactic.Linarith
import Mathlib.Tactic.Positivity
import Mathlib.Tactic.FieldSimp

/-!
# The roll of a damage

`GetDamage` computes an amount from the powers, the spell and the elements, and rolls a number between three quarters of
it and all of it with `irand` (`src/src/shared/Util.cpp`), which asserts that its bounds are less than 32768 apart. The
floating-point steps are taken as exact. `getDamage_safe_iff` says for which amounts the roll is made;
`amountFits_of_total` that it is made while no power is cut.
-/

namespace Legacy.Battle
open Legacy.Lib
open Legacy.Unit (Combatant)

/-- source `ELEMENT_EARTH` -/
@[match_pattern] abbrev elementEarth : Nat := 1

/-- source `ELEMENT_WATER` -/
@[match_pattern] abbrev elementWater : Nat := 2

/-- source `ELEMENT_FIRE` -/
@[match_pattern] abbrev elementFire : Nat := 3

/-- source `ELEMENT_WIND` -/
@[match_pattern] abbrev elementWind : Nat := 4

/-- source `SPELL_DAMAGE_SCHOOL` -/
abbrev spellDamageSchool : Nat := 0

/-- source `SPELL_DAMAGE_ATK_INT` -/
abbrev spellDamageAtkInt : Nat := 1

/-- source `SPELL_DAMAGE_INT` -/
abbrev spellDamageInt : Nat := 2

/-- source `SPELL_DAMAGE_MECH` -/
abbrev spellDamageMech : Nat := 3

/-- source `SPELL_MOD_HURT` -/
abbrev spellModHurt : Nat := 2

/-- A spell template with the columns that a damage is computed from (source `struct SpellInfo`). -/
structure DamageSpell extends SpellInfo where
  element : Nat
  learnPoint : Nat
  sp : Nat

/-- The assertion of `irand` fails. -/
inductive RollFault where
  | assertion
  deriving DecidableEq, Repr

/-- A random number from `min` to `max`, and the next state of the generator (source `irand`). -/
def irand (holdrand : Nat) (min max : Int) : Except RollFault (Int × Nat) :=
  if max - min < 32768 then
    let holdrand := u32 (holdrand * 214013 + 2531011)
    let width := ((max + 1 - min) % 2 ^ 32).toNat
    .ok (i32 ((u32 (holdrand / 2 ^ 17 * width) / 2 ^ 15 : Nat) + min), holdrand)
  else .error .assertion

/-- source `int32(f)`, towards zero -/
def toInt32 (f : ℚ) : Int := i32 (if f < 0 then -⌊-f⌋ else ⌊f⌋)

/-- What an element gains or loses against another (source, a `switch` of `BattleSystem::GetDamageMultiplier`). -/
def elementBonus (el el2 : Nat) (gain loss : ℚ) : ℚ :=
  match el with
  | elementEarth => if el2 = elementWater then gain else if el2 = elementWind then -loss else 0
  | elementWater => if el2 = elementFire then gain else if el2 = elementEarth then -loss else 0
  | elementFire => if el2 = elementWind then gain else if el2 = elementWater then -loss else 0
  | elementWind => if el2 = elementEarth then gain else if el2 = elementFire then -loss else 0
  | _ => 0

/-- source `BattleSystem::GetDamageMultiplier` -/
def getDamageMultiplier (el1 el2 : Nat) (sinfo : DamageSpell) : ℚ :=
  1 + elementBonus el1 el2 (3 / 4) (1 / 4) + elementBonus sinfo.element el2 (1 / 2) (1 / 2)

/-- source `Unit::GetSpellLevel` -/
def getSpellLevel (u : Combatant) (entry : Nat) : Nat :=
  if entry = spellBasic then 1
  else
    match u.spells.find? fun s => s.entry = entry with
    | none => 1
    | some s => s.level

namespace DamageSpell

/-- A spell without damage (source, the first case of `BattleSystem::GetDamage`). -/
def harmless (sinfo : DamageSpell) : Bool :=
  sinfo.damageMod ∈ [spellModNone, spellModBuf, spellModDisabledBuf, spellModPositiveBuf, spellModNegativeBuf]

/-- The sign of the result (source `dmg_mod`). -/
def sign (sinfo : DamageSpell) : Int := if sinfo.damageMod = spellModHeal then 1 else -1

/-- The power that a spell uses (source, in `BattleSystem::GetDamage`). -/
def school (sinfo : DamageSpell) (attacker : Combatant) : Nat :=
  if sinfo.type ∈ [spellDamageSchool, spellDamageInt, spellDamageMech] then
    if sinfo.entry = spellBasic then attacker.getAttackPower else attacker.getMagicPower
  else if sinfo.type = spellDamageAtkInt then attacker.getAttackPower + attacker.getMagicPower / 2
  else attacker.getAttackPower

end DamageSpell

section GetDamage

variable (attacker victim : Combatant) (sinfo : DamageSpell) (linked : Bool)

/-- source `diffLevel`, in `BattleSystem::GetDamage` -/
def diffLevel : Int :=
  let diff := i32 ((attacker.level : Int) - victim.level)
  if 0 < diff then diff else 1

/-- The damage of one hit before the defence (source, in `BattleSystem::GetDamage`). -/
def linkedDamage : ℚ :=
  let dmg_multiplier := getDamageMultiplier (u8 attacker.element) (u8 victim.element) sinfo
  let spell_level := getSpellLevel attacker sinfo.entry
  let dmg_school : ℚ := sinfo.school attacker + diffLevel attacker victim * (1 / 100)
  let dmg :=
    if sinfo.learnPoint ≠ 0 ∧ sinfo.sp ≠ 0 then
      dmg_school + dmg_school * spell_level * (sinfo.learnPoint * (1 / 100)) * (sinfo.sp * (1 / 10))
    else dmg_school + dmg_school * spell_level
  let dmg := dmg / sinfo.hit * dmg_multiplier
  if linked then dmg + dmg * (1 / 4) else dmg

/-- The damage of one hit before it is rolled (source, in `BattleSystem::GetDamage`). -/
def hitDamage : ℚ :=
  let dmg := linkedDamage attacker victim sinfo linked
  if sinfo.damageMod = spellModHurt then
    let dmg := dmg - dmg * (victim.getDefensePower * (1 / 100))
    if dmg ≤ 0 then 1 else dmg
  else dmg

/-- The bounds that are passed to `irand`. -/
def rollBounds : Int × Int :=
  let dmg := hitDamage attacker victim sinfo linked
  (toInt32 (dmg - dmg * (1 / 4)), toInt32 dmg)

/-- source `BattleSystem::GetDamage`, with the state of the random generator -/
def getDamage (holdrand : Nat) : Except RollFault (Int × Nat) :=
  if victim.hasUnitState Unit.aura then .ok (0, holdrand)
  else if sinfo.harmless then .ok (0, holdrand)
  else do
    let bounds := rollBounds attacker victim sinfo linked
    let (dmg, holdrand) ← irand holdrand bounds.1 bounds.2
    let dmg := if dmg ≤ 0 ∧ sinfo.damageMod = spellModHurt then 1 else dmg
    return (i32 (dmg * sinfo.sign), holdrand)

/-- The damage without the defence, as a product: the power and the levels, the level of the spell with its cost, the
elements, the number of hits and the link. -/
def grossDamage : ℚ :=
  (sinfo.school attacker + diffLevel attacker victim / 100) *
    (1 + getSpellLevel attacker sinfo.entry *
      if sinfo.learnPoint ≠ 0 ∧ sinfo.sp ≠ 0 then (sinfo.learnPoint * sinfo.sp : ℚ) / 1000 else 1) *
    getDamageMultiplier (u8 attacker.element) (u8 victim.element) sinfo / sinfo.hit * if linked then 5 / 4 else 1

/-- The damage as a product, with the defence against a spell that hurts. -/
def damageProduct : ℚ :=
  grossDamage attacker victim sinfo linked *
    if sinfo.damageMod = spellModHurt then 1 - (victim.getDefensePower : ℚ) / 100 else 1

/-- A quarter of the damage, between the integers around it, is less than 32768 wide. -/
def Narrow (dmg : ℚ) : Prop :=
  dmg < 131069 ∨ (131069 + 1 / 3 ≤ dmg ∧ dmg < 131070) ∨ (131070 + 2 / 3 ≤ dmg ∧ dmg < 131071)

/-- Nothing is rolled, or the damage is narrow. -/
def AmountFits : Prop :=
  victim.hasUnitState Unit.aura = true ∨ sinfo.harmless = true ∨ Narrow (damageProduct attacker victim sinfo linked)

/-- The signs of a result. -/
structure Signed (dmg : Int) : Prop where
  hurts : sinfo.damageMod ≠ spellModHeal → dmg ≤ 0
  hits : sinfo.damageMod = spellModHurt → victim.hasUnitState Unit.aura = false → dmg ≤ -1
  heals : sinfo.damageMod = spellModHeal → 0 ≤ dmg

/-- The bounds of a roll are in order and close, and the result has its sign. -/
structure SafeRoll : Prop where
  bounds : victim.hasUnitState Unit.aura = false → sinfo.harmless = false →
    (rollBounds attacker victim sinfo linked).1 ≤ (rollBounds attacker victim sinfo linked).2 ∧
      (rollBounds attacker victim sinfo linked).2 - (rollBounds attacker victim sinfo linked).1 < 32768
  signed : ∀ holdrand, Sat (getDamage attacker victim sinfo linked holdrand) fun r => Signed victim sinfo r.1

end GetDamage

/-- A number rolled within its bounds. -/
lemma irand_range (holdrand : Nat) {min max : Int} (le : min ≤ max) (close : max - min < 32768) (lo : -2 ^ 31 ≤ min)
    (hi : max < 2 ^ 31) : Sat (irand holdrand min max) fun r => min ≤ r.1 ∧ r.1 ≤ max := by
  rw [irand, if_pos close, sat_ok]
  have seed : u32 (holdrand * 214013 + 2531011) / 2 ^ 17 < 2 ^ 15 := by
    have word := u32_lt (holdrand * 214013 + 2531011)
    omega
  obtain ⟨width, eq⟩ : ∃ width : Nat, max + 1 - min = width := ⟨(max + 1 - min).toNat, by omega⟩
  rw [eq, Int.emod_eq_of_lt (by omega) (by omega), Int.toNat_natCast]
  generalize u32 (holdrand * 214013 + 2531011) / 2 ^ 17 = x at seed
  have product : x * width < 2 ^ 15 * width := Nat.mul_lt_mul_of_pos_right seed (by omega)
  have offset : x * width / 2 ^ 15 < width := Nat.div_lt_of_lt_mul product
  rw [u32_of_lt (by omega)]
  generalize x * width / 2 ^ 15 = y at offset
  rw [i32_of_range (by omega) (by omega)]
  omega

/-- In range, the cast rounds down. -/
lemma toInt32_of_range {f : ℚ} (pos : 0 ≤ f) (small : f < 2 ^ 31) : toInt32 f = ⌊f⌋ := by
  have lo : 0 ≤ ⌊f⌋ := Int.floor_nonneg.mpr pos
  have hi : ⌊f⌋ < 2 ^ 31 := Int.floor_lt.mpr (by exact_mod_cast small)
  rw [toInt32, if_neg (not_lt.mpr pos), i32_of_range (by omega) hi]

/-- Three quarters of a narrow damage are close to it. -/
lemma narrow_iff (f : ℚ) : ⌊f⌋ - ⌊f - f * (1 / 4)⌋ < 32768 ↔ Narrow f := by
  have lo := Int.floor_le f
  have hi := Int.lt_floor_add_one f
  have lo' := Int.floor_le (f - f * (1 / 4))
  have hi' := Int.lt_floor_add_one (f - f * (1 / 4))
  generalize ⌊f⌋ = n at lo hi
  generalize ⌊f - f * (1 / 4)⌋ = m at lo' hi'
  constructor
  · intro close
    by_cases small : f < 131069
    · exact .inl small
    · have close' : (n : ℚ) ≤ m + 32767 := by exact_mod_cast Int.le_of_lt_add_one (show n < m + 32767 + 1 by omega)
      have low : (131069 : ℚ) < n + 1 := by linarith
      have high : (n : ℚ) < 131071 := by linarith
      have low' : 131069 < n + 1 := by exact_mod_cast low
      have high' : n < 131071 := by exact_mod_cast high
      obtain rfl | rfl : n = 131069 ∨ n = 131070 := by omega
      · push_cast at close' hi
        have quarter : (98302 : ℚ) ≤ m := by linarith
        exact .inr (.inl ⟨by linarith, by linarith⟩)
      · push_cast at close' hi
        have quarter : (98303 : ℚ) ≤ m := by linarith
        exact .inr (.inr ⟨by linarith, by linarith⟩)
  · have close : ∀ k : Int, (n : ℚ) < k + 1 → (k : ℚ) - 32768 < m → n - m < 32768 := by
      intro k above below
      have above' : n < k + 1 := by exact_mod_cast above
      have below' : k - 32768 < m := by exact_mod_cast below
      omega
    rintro (small | ⟨low, high⟩ | ⟨low, high⟩)
    · have below : (n : ℚ) < 131068 + 1 := by linarith
      have below' : n < 131068 + 1 := by exact_mod_cast below
      have top : (n : ℚ) ≤ 131068 := by exact_mod_cast Int.le_of_lt_add_one below'
      have less : (n : ℚ) < m + 32768 := by linarith
      have less' : n < m + 32768 := by exact_mod_cast less
      omega
    · refine close 131069 (by push_cast; linarith) ?_
      push_cast
      linarith
    · refine close 131070 (by push_cast; linarith) ?_
      push_cast
      linarith

/-- The bonus of the elements lies between the loss and the gain. -/
lemma elementBonus_range (el el2 : Nat) (gain loss : ℚ) (gains : 0 ≤ gain) (loses : 0 ≤ loss) :
    -loss ≤ elementBonus el el2 gain loss ∧ elementBonus el el2 gain loss ≤ gain := by
  have bonus : ∀ (better worse : Prop) [Decidable better] [Decidable worse],
      -loss ≤ (if better then gain else if worse then -loss else 0) ∧
        (if better then gain else if worse then -loss else 0) ≤ gain := by
    intro better worse _ _
    split
    · exact ⟨by linarith, le_rfl⟩
    · split
      · exact ⟨le_rfl, by linarith⟩
      · exact ⟨by linarith, gains⟩
  rw [elementBonus.eq_def]
  split
  · exact bonus _ _
  · exact bonus _ _
  · exact bonus _ _
  · exact bonus _ _
  · exact ⟨by linarith, gains⟩

section Bounds

variable {attacker victim : Combatant} {sinfo : DamageSpell} {linked : Bool}

/-- The elements leave a quarter of a damage at least, and more than double it at most. -/
lemma getDamageMultiplier_range (el1 el2 : Nat) (sinfo : DamageSpell) :
    1 / 4 ≤ getDamageMultiplier el1 el2 sinfo ∧ getDamageMultiplier el1 el2 sinfo ≤ 9 / 4 := by
  obtain ⟨lo, hi⟩ := elementBonus_range el1 el2 (3 / 4) (1 / 4) (by norm_num) (by norm_num)
  obtain ⟨lo', hi'⟩ := elementBonus_range sinfo.element el2 (1 / 2) (1 / 2) (by norm_num) (by norm_num)
  rw [getDamageMultiplier]
  constructor <;> linarith

/-- The difference of the levels lies between 1 and 200. -/
lemma diffLevel_range (high : attacker.level ≤ 200) (high' : victim.level ≤ 200) :
    1 ≤ diffLevel attacker victim ∧ diffLevel attacker victim ≤ 200 := by
  rw [diffLevel, i32_of_range (by omega) (by omega)]
  split <;> omega

/-- The school of a spell adds no more than both powers. -/
lemma school_le (sinfo : DamageSpell) (attacker : Combatant) :
    sinfo.school attacker ≤ attacker.getAttackPower + attacker.getMagicPower := by
  rw [DamageSpell.school]
  split
  · split <;> omega
  · split <;> omega

/-- The values that a damage is computed from, as far as its roll depends on them. -/
structure Levels (attacker victim : Combatant) (sinfo : DamageSpell) : Prop where
  level : attacker.level ≤ 200
  level' : victim.level ≤ 200
  spell : getSpellLevel attacker sinfo.entry ≤ 10
  learnPoint : sinfo.learnPoint ≤ 10
  sp : sinfo.sp ≤ 100
  hit : 0 < sinfo.hit

/-- The damage is positive before the defence, and at most 31 times the power. -/
lemma grossDamage_range (levels : Levels attacker victim sinfo) (linked : Bool) :
    0 < grossDamage attacker victim sinfo linked ∧
      grossDamage attacker victim sinfo linked ≤ (sinfo.school attacker + 2) * 31 := by
  obtain ⟨element, element'⟩ := getDamageMultiplier_range (u8 attacker.element) (u8 victim.element) sinfo
  obtain ⟨diff, diff'⟩ := diffLevel_range levels.level levels.level'
  have hit : (1 : ℚ) ≤ sinfo.hit := by exact_mod_cast levels.hit
  have spell : (getSpellLevel attacker sinfo.entry : ℚ) ≤ 10 := by exact_mod_cast levels.spell
  have spell' : (0 : ℚ) ≤ getSpellLevel attacker sinfo.entry := Nat.cast_nonneg _
  have diffPos : (1 : ℚ) ≤ diffLevel attacker victim := by exact_mod_cast diff
  have diffTop : (diffLevel attacker victim : ℚ) ≤ 200 := by exact_mod_cast diff'
  have cost : 0 ≤ (if sinfo.learnPoint ≠ 0 ∧ sinfo.sp ≠ 0 then (sinfo.learnPoint * sinfo.sp : ℚ) / 1000 else 1) ∧
      (if sinfo.learnPoint ≠ 0 ∧ sinfo.sp ≠ 0 then (sinfo.learnPoint * sinfo.sp : ℚ) / 1000 else 1) ≤ 1 := by
    split
    · have product : sinfo.learnPoint * sinfo.sp ≤ 10 * 100 := Nat.mul_le_mul levels.learnPoint levels.sp
      have product' : (sinfo.learnPoint * sinfo.sp : ℚ) ≤ 10 * 100 := by exact_mod_cast product
      exact ⟨by positivity, by linarith⟩
    · exact ⟨zero_le_one, le_rfl⟩
  have link : 1 ≤ (if linked then 5 / 4 else 1 : ℚ) ∧ (if linked then 5 / 4 else 1 : ℚ) ≤ 5 / 4 := by
    cases linked <;> norm_num
  rw [grossDamage]
  generalize getDamageMultiplier (u8 attacker.element) (u8 victim.element) sinfo = m at element element'
  generalize (if sinfo.learnPoint ≠ 0 ∧ sinfo.sp ≠ 0 then (sinfo.learnPoint * sinfo.sp : ℚ) / 1000 else 1) = w at cost
  generalize (if linked then 5 / 4 else 1 : ℚ) = l at link
  generalize (getSpellLevel attacker sinfo.entry : ℚ) = s at spell spell'
  generalize (diffLevel attacker victim : ℚ) = d at diffPos diffTop
  have school : (0 : ℚ) ≤ sinfo.school attacker := Nat.cast_nonneg _
  generalize (sinfo.school attacker : ℚ) = p at school
  have power : 0 < p + d / 100 := by linarith
  have levelled : 1 ≤ 1 + s * w ∧ 1 + s * w ≤ 11 := by
    have low := mul_nonneg spell' cost.1
    have high : s * w ≤ 10 * 1 := mul_le_mul spell cost.2 cost.1 (by norm_num)
    exact ⟨by linarith, by linarith⟩
  have struck : 0 < (p + d / 100) * (1 + s * w) * m := by
    have levelled' := levelled.1
    positivity
  have link' := link.1
  refine ⟨by positivity, ?_⟩
  calc (p + d / 100) * (1 + s * w) * m / sinfo.hit * l
      ≤ (p + d / 100) * (1 + s * w) * m * l := by
        gcongr
        exact div_le_self struck.le hit
    _ ≤ (p + 2) * 11 * (9 / 4) * (5 / 4) := by
        have levelled' := levelled.1
        gcongr
        · linarith
        · exact levelled.2
        · exact link.2
    _ ≤ (p + 2) * 31 := by linarith

/-- The damage before the defence is the product of its factors. -/
lemma linkedDamage_eq (attacker victim : Combatant) (sinfo : DamageSpell) (linked : Bool) :
    linkedDamage attacker victim sinfo linked = grossDamage attacker victim sinfo linked := by
  rw [linkedDamage, grossDamage]
  by_cases cost : sinfo.learnPoint ≠ 0 ∧ sinfo.sp ≠ 0
  · rw [if_pos cost, if_pos cost]
    cases linked
    · rw [if_neg Bool.false_ne_true, if_neg Bool.false_ne_true]
      ring
    · rw [if_pos rfl, if_pos rfl]
      ring
  · rw [if_neg cost, if_neg cost]
    cases linked
    · rw [if_neg Bool.false_ne_true, if_neg Bool.false_ne_true]
      ring
    · rw [if_pos rfl, if_pos rfl]
      ring

/-- The damage is the product, or 1 if the defence takes all of a spell that hurts. -/
lemma hitDamage_eq (attacker victim : Combatant) (sinfo : DamageSpell) (linked : Bool) :
    hitDamage attacker victim sinfo linked =
      if sinfo.damageMod = spellModHurt ∧ damageProduct attacker victim sinfo linked ≤ 0 then 1
      else damageProduct attacker victim sinfo linked := by
  rw [hitDamage, damageProduct, linkedDamage_eq]
  generalize grossDamage attacker victim sinfo linked = g
  by_cases hurts : sinfo.damageMod = spellModHurt
  · have same : g - g * (victim.getDefensePower * (1 / 100)) = g * (1 - victim.getDefensePower / 100) := by ring
    rw [if_pos hurts, if_pos hurts, same]
    simp only [hurts, true_and]
  · rw [if_neg hurts, if_neg hurts, if_neg (fun both => hurts both.1), mul_one]

/-- What is rolled is positive and fits an integer. -/
lemma hitDamage_range (levels : Levels attacker victim sinfo) (linked : Bool) :
    0 < hitDamage attacker victim sinfo linked ∧ hitDamage attacker victim sinfo linked < 2 ^ 31 := by
  obtain ⟨pos, le⟩ := grossDamage_range levels linked
  have attack : attacker.getAttackPower < 2 ^ 16 := Nat.mod_lt _ (by decide)
  have magic : attacker.getMagicPower < 2 ^ 16 := Nat.mod_lt _ (by decide)
  have school : sinfo.school attacker ≤ 2 ^ 17 := (school_le sinfo attacker).trans (by omega)
  have school' : (sinfo.school attacker : ℚ) ≤ 2 ^ 17 := by exact_mod_cast school
  have defense : (0 : ℚ) ≤ victim.getDefensePower := Nat.cast_nonneg _
  rw [hitDamage_eq]
  split
  · norm_num
  · next rolled =>
    rw [damageProduct] at rolled ⊢
    split
    · next hurts =>
      rw [if_pos hurts] at rolled
      have some : 0 < grossDamage attacker victim sinfo linked * (1 - victim.getDefensePower / 100) :=
        not_le.mp fun none => rolled ⟨hurts, none⟩
      refine ⟨some, ?_⟩
      have less : grossDamage attacker victim sinfo linked * (1 - victim.getDefensePower / 100) ≤
          grossDamage attacker victim sinfo linked * 1 :=
        mul_le_mul_of_nonneg_left (by linarith) pos.le
      linarith
    · rw [mul_one]
      exact ⟨pos, by linarith⟩

/-- The bounds of a roll are the damage and three quarters of it. -/
lemma rollBounds_eq (levels : Levels attacker victim sinfo) : rollBounds attacker victim sinfo linked =
    (⌊hitDamage attacker victim sinfo linked - hitDamage attacker victim sinfo linked * (1 / 4)⌋,
      ⌊hitDamage attacker victim sinfo linked⌋) := by
  obtain ⟨pos, small⟩ := hitDamage_range levels linked
  rw [rollBounds, toInt32_of_range (by linarith) (by linarith), toInt32_of_range pos.le small]

/-- The bounds of a roll are in order, and close if and only if the damage is narrow. -/
lemma rollBounds_close (levels : Levels attacker victim sinfo) (linked : Bool) :
    0 ≤ (rollBounds attacker victim sinfo linked).1 ∧
      (rollBounds attacker victim sinfo linked).1 ≤ (rollBounds attacker victim sinfo linked).2 ∧
      (rollBounds attacker victim sinfo linked).2 < 2 ^ 31 ∧
      ((rollBounds attacker victim sinfo linked).2 - (rollBounds attacker victim sinfo linked).1 < 32768 ↔
        Narrow (damageProduct attacker victim sinfo linked)) := by
  obtain ⟨pos, small⟩ := hitDamage_range levels linked
  rw [rollBounds_eq levels]
  refine ⟨Int.floor_nonneg.mpr (by linarith), Int.floor_mono (by linarith), Int.floor_lt.mpr (by exact_mod_cast small),
    (narrow_iff _).trans ?_⟩
  rw [hitDamage_eq]
  split
  · next taken => exact iff_of_true (.inl (by norm_num)) (.inl (by linarith [taken.2]))
  · exact Iff.rfl

/-- The result of a roll has its sign. -/
lemma signed_roll (victim : Combatant) (sinfo : DamageSpell) {roll : Int} (pos : 0 ≤ roll) (small : roll < 2 ^ 31) :
    Signed victim sinfo (i32 ((if roll ≤ 0 ∧ sinfo.damageMod = spellModHurt then 1 else roll) * sinfo.sign)) := by
  obtain ⟨dmg, eq, least, top, hurts⟩ : ∃ dmg : Int,
      (if roll ≤ 0 ∧ sinfo.damageMod = spellModHurt then 1 else roll) = dmg ∧ 0 ≤ dmg ∧ dmg < 2 ^ 31 ∧
        (sinfo.damageMod = spellModHurt → 1 ≤ dmg) := by
    refine ⟨_, rfl, ?_⟩
    split
    · exact ⟨by omega, by omega, fun _ => le_rfl⟩
    · next rolled => exact ⟨pos, small, fun hurts => by omega⟩
  rw [eq, DamageSpell.sign]
  by_cases heals : sinfo.damageMod = spellModHeal
  · rw [if_pos heals, mul_one, i32_of_range (by omega) (by omega)]
    exact ⟨fun other => absurd heals other, fun hurt => absurd (heals.symm.trans hurt) (by decide), fun _ => least⟩
  · rw [if_neg heals, mul_neg_one, i32_of_range (by omega) (by omega)]
    exact ⟨fun _ => by omega, fun hurt _ => by have some := hurts hurt; omega, fun heal => absurd heal heals⟩

/-- The bounds that are passed to `irand` are close, and the result has its sign, exactly when nothing is rolled or the
damage is narrow. -/
theorem getDamage_safe_iff (levels : Levels attacker victim sinfo) :
    SafeRoll attacker victim sinfo linked ↔ AmountFits attacker victim sinfo linked := by
  obtain ⟨nonneg, le, small, close⟩ := rollBounds_close levels linked
  constructor
  · intro safe
    cases shielded : victim.hasUnitState Unit.aura with
    | true => exact .inl shielded
    | false =>
      cases none : sinfo.harmless with
      | true => exact .inr (.inl none)
      | false => exact .inr (.inr (close.mp (safe.bounds shielded none).2))
  · intro fits
    refine ⟨fun shielded harms => ⟨le, close.mpr ?_⟩, fun holdrand => ?_⟩
    · obtain shield | none | narrow := fits
      · exact absurd shield (by rw [shielded]; decide)
      · exact absurd none (by rw [harms]; decide)
      · exact narrow
    · rw [getDamage]
      split
      · next shield => exact ⟨fun _ => le_rfl, fun _ bare => absurd shield (by rw [bare]; decide), fun _ => le_rfl⟩
      · next unshielded =>
        split
        · next none =>
          refine ⟨fun _ => le_rfl, fun hurts _ => ?_, fun _ => le_rfl⟩
          rw [DamageSpell.harmless, hurts] at none
          exact absurd none (by decide)
        · next harms =>
          obtain shield | none | narrow := fits
          · exact absurd shield unshielded
          · exact absurd none harms
          · simp only [sat_bind]
            exact (irand_range holdrand le (close.mpr narrow) (by omega) small).mono fun r within =>
              signed_roll victim sinfo (nonneg.trans within.1) (by omega)

/-- Stats and modifiers within these bounds whose totals are not negative make a narrow damage. -/
lemma amountFits_of_total (levels : Levels attacker victim sinfo)
    (stats : ∀ stat, attacker.stats stat ≤ 1000 ∧ attacker.mods stat ≤ 1000)
    (total : ∀ p, 0 ≤ attacker.total p) : AmountFits attacker victim sinfo linked := by
  obtain ⟨pos, le⟩ := grossDamage_range levels linked
  have level : attacker.levelBonus ≤ 12 := attacker.levelBonus_le
  have attack : (attacker.getAttackPower : Int) ≤ 2013 := by
    have some := total .attack
    have bound : attacker.total .attack ≤ 2013 := by
      have stat := stats .atk
      simp only [Combatant.total]
      omega
    have eq := attacker.power_eq .attack
    rw [Combatant.power] at eq
    rw [eq, wrap16_of_range some (by omega)]
    exact bound
  have magic : (attacker.getMagicPower : Int) ≤ 2013 := by
    have some := total .magic
    have bound : attacker.total .magic ≤ 2013 := by
      have stat := stats .int
      simp only [Combatant.total]
      omega
    have eq := attacker.power_eq .magic
    rw [Combatant.power] at eq
    rw [eq, wrap16_of_range some (by omega)]
    exact bound
  have school : sinfo.school attacker ≤ 4026 := (school_le sinfo attacker).trans (by omega)
  have school' : (sinfo.school attacker : ℚ) ≤ 4026 := by exact_mod_cast school
  refine .inr (.inr (.inl ?_))
  rw [damageProduct]
  have less : grossDamage attacker victim sinfo linked *
      (if sinfo.damageMod = spellModHurt then 1 - (victim.getDefensePower : ℚ) / 100 else 1) ≤
        grossDamage attacker victim sinfo linked * 1 := by
    refine mul_le_mul_of_nonneg_left ?_ pos.le
    have defense : (0 : ℚ) ≤ victim.getDefensePower := Nat.cast_nonneg _
    split
    · linarith
    · exact le_rfl
  linarith

end Bounds

/-- A unit of level 100 with 60 points in each stat, a modifier, and a spell of level 10. -/
def caster (mod : Int) : Combatant where
  level := 100
  element := elementFire
  state := 0
  stats _ := 60
  mods _ := mod
  spells := [⟨10005, 10, 10⟩]

/-- A spell that hurts, at its highest cost. -/
def costly : DamageSpell := ⟨⟨10005, spellDamageSchool, 1, spellModHurt⟩, elementEarth, 10, 100⟩

/-- The caster of the examples has levels in range. -/
lemma levels_caster (mod mod' : Int) : Levels (caster mod) (caster mod') costly where
  level := show 100 ≤ 200 by decide
  level' := show 100 ≤ 200 by decide
  spell := show 10 ≤ 10 from le_rfl
  learnPoint := by decide
  sp := by decide
  hit := by decide

/-- With a bonus the spell is rolled. -/
theorem getDamage_safe_caster : SafeRoll (caster 20) (caster 0) costly true := by
  refine (getDamage_safe_iff (levels_caster 20 0)).mpr (amountFits_of_total (levels_caster 20 0) ?_ ?_)
  · exact fun stat => ⟨show 60 ≤ 1000 by decide, show (20 : Int) ≤ 1000 by decide⟩
  · intro p
    cases p <;> decide

/-- With a penalty above the stat the power is 65501 and the bounds are far apart. -/
theorem not_getDamage_safe : ¬∀ (attacker victim : Combatant) (sinfo : DamageSpell) (linked : Bool),
    Levels attacker victim sinfo → SafeRoll attacker victim sinfo linked := by
  intro safe
  have close := ((safe (caster (-101)) (caster 0) costly false (levels_caster (-101) 0)).bounds rfl rfl).2
  revert close
  decide +kernel

end Legacy.Battle
