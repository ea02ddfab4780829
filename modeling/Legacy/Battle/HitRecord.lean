import Legacy.Battle.Change

/-!
# The record of a hit

`BuildUpdateBlockSpellMod` changes the victim of a hit and writes a record for the clients: two animations,
the number of effects and the effects. `buildUpdateBlockSpellMod` is the function with its record;
`spellMod_eq` connects it with the run of a battle. `shown_truthful_iff` says when the hit points that the
record shows are those that the victim has.
-/

namespace Legacy.Battle
open Legacy.Lib

/-- source `ANI_IMPACT_MISS` -/
abbrev aniImpactMiss : Nat := 0

/-- source `ANI_IMPACT_HIT` -/
abbrev aniImpactHit : Nat := 1

/-- source `ANI_TARGET_HIT` -/
abbrev aniTargetHit : Nat := 0

/-- source `ANI_TARGET_DEF` -/
abbrev aniTargetDef : Nat := 1

/-- source `ANI_TARGET_DODGE` -/
abbrev aniTargetDodge : Nat := 2

/-- source `ANI_TARGET_NONE` -/
abbrev aniTargetNone : Nat := 4

namespace Unit

/-- source `UNIT_STATE_ICEWALL` -/
abbrev icewall : Nat := 8192

/-- source `UNIT_STATE_MIRROR` -/
abbrev mirror : Nat := 32768

end Unit

/-- An effect of a record: its status code, value and modifier flag. -/
structure Effect where
  stcode : Nat
  value : Nat
  modifier : Nat
  deriving DecidableEq, Repr

/-- The record of a hit, with the number of effects that is written before them. -/
structure HitRecord where
  impact : Nat
  target : Nat
  count : Nat
  effects : List Effect
  deriving DecidableEq, Repr

namespace SpellInfo

/-- The status code of the effects of a spell (source, in `BattleSystem::BuildUpdateBlockSpellMod`). -/
def statusCode (sinfo : SpellInfo) : Nat :=
  if sinfo.damageMod ∈ [spellModDisabledHurt, spellModDisabledBuf] then 0xDD
  else if sinfo.damageMod = spellModPositiveBuf then 0xDE
  else if sinfo.damageMod = spellModNegativeBuf then 0xDF
  else 0x19

/-- The animation of the target (source, in `BattleSystem::BuildUpdateBlockSpellMod`). -/
def targetAni (sinfo : SpellInfo) : Nat :=
  if sinfo.damageMod ∈ [spellModPositiveBuf, spellModNegativeBuf, spellModHeal] then aniTargetDef else aniTargetHit

end SpellInfo

namespace HitRecord

/-- What is written for a hit (source, the end of `BattleSystem::BuildUpdateBlockSpellMod`). -/
def build (missed : Bool) (ani_t stcode : Nat) (damage : Int) (modifier : Nat) : HitRecord :=
  let status : Effect := ⟨stcode, if stcode = 0x19 then u16 damage.natAbs else 0, modifier⟩
  let impact := if missed then aniImpactMiss else aniImpactHit
  let target := if missed then aniTargetDodge else ani_t
  if damage ≠ 0 ∧ stcode ≠ 0x19 then ⟨impact, target, 2, [⟨0x19, u16 damage.natAbs, modifier⟩, status]⟩
  else ⟨impact, target, 1, [status]⟩

/-- The change of hit points that a client reads. -/
def shown (record : HitRecord) : Int :=
  if record.impact = aniImpactMiss then 0
  else
    match record.effects.find? fun effect => effect.stcode = 0x19 with
    | none => 0
    | some effect => if effect.modifier = 1 then -effect.value else effect.value

end HitRecord

/-- What a hit leaves: its victim, whether it was killed, and the record. -/
structure HitResult where
  victim : Unit
  killed : Bool
  record : HitRecord

namespace Unit

/-- source `BattleSystem::BuildUpdateBlockSpellMod` -/
def buildUpdateBlockSpellMod (victim : Unit) (sinfo : SpellInfo) (damage : Int) (modifier : Nat) (catched : Bool)
    (dice_missed : ℚ) : HitResult :=
  if victim.missedBy sinfo catched dice_missed then
    ⟨victim, false, HitRecord.build true sinfo.targetAni sinfo.statusCode 0 0⟩
  else
    match sinfo.applyState victim with
    -- the victim has such a state already
    | none => ⟨victim, false, HitRecord.build true sinfo.targetAni 0 damage modifier⟩
    | some changed =>
      let dealt := changed.isDealDamageToAndKill damage
      let ani_t := if dealt.1.hasUnitState (defend ||| icewall) then aniTargetDef else sinfo.targetAni
      let hidden := dealt.1.hasUnitState (aura ||| mirror)
      let ani_t := if hidden then aniTargetNone else ani_t
      let damage := if hidden then 0 else damage
      ⟨dealt.1, dealt.2, HitRecord.build (sinfo.entry = spellEscape) ani_t sinfo.statusCode damage modifier⟩

/-- The modifier flag of an amount (source, in `BattleSystem::BuildUpdateBlockAction`). -/
def pointModifier (point_inflicted : Int) : Nat := if point_inflicted < 0 then 1 else 0

end Unit

namespace Combat

/-- The run of a battle applies the same hit. -/
lemma spellMod_eq (s : Combat) (h : Hits) (hit : BattleAction) (attacker victim : Nat) (dice : HitDice) :
    s.spellMod h hit attacker victim dice =
      let unit := s.engine.units victim
      let damage := unit.getDamage h.sinfo dice.amount
      let result := unit.buildUpdateBlockSpellMod h.sinfo damage (Unit.pointModifier damage) h.catched dice.missed
      let s := { s with engine := s.engine.setUnit victim result.victim }
      if result.killed then s.reward hit attacker victim dice.drop else s := by
  have same : { s with engine := s.engine.setUnit victim (s.engine.units victim) } = s := by
    rw [Engine.setUnit, Function.update_eq_self]
  rw [spellMod]
  simp only
  split
  · next missed =>
    rw [Unit.buildUpdateBlockSpellMod, if_pos missed]
    exact same.symm
  · next struck =>
    rw [Unit.buildUpdateBlockSpellMod, if_neg struck]
    cases state : h.sinfo.applyState (s.engine.units victim) with
    | none => exact same.symm
    | some changed => rfl

end Combat

namespace HitRecord

/-- A miss shows nothing. -/
lemma shown_missed (ani_t stcode : Nat) (damage : Int) (modifier : Nat) :
    (build true ani_t stcode damage modifier).shown = 0 := by
  rw [build]
  simp only
  split <;> rfl

/-- A record that does not say miss shows the amount, cut to 16 bits. -/
lemma shown_build (ani_t stcode : Nat) (damage : Int) (modifier : Nat) :
    (build false ani_t stcode damage modifier).shown =
      if modifier = 1 then -(u16 damage.natAbs : Int) else u16 damage.natAbs := by
  rw [build]
  split
  · rfl
  · next single =>
    by_cases status : stcode = 0x19
    · rw [status]
      rfl
    · have none : damage = 0 := by
        by_contra some
        exact single ⟨some, status⟩
      simp [shown, status, none, u16]

end HitRecord

/-- Hit points between none and the maximum. -/
def clampHp (hpMax : Nat) (hp : Int) : Int := max 0 (min hp hpMax)

namespace Unit

variable {victim changed : Unit} {sinfo : SpellInfo}

/-- The state of a spell keeps the hit points. -/
lemma applyState_hp (run : sinfo.applyState victim = some changed) :
    changed.hp = victim.hp ∧ changed.hpMax = victim.hpMax := by
  rw [SpellInfo.applyState] at run
  split at run
  · split at run
    · rw [addUnitStateFor] at run
      split at run
      · split at run <;> cases run
        exact ⟨rfl, rfl⟩
      · split at run
        · split at run <;> cases run
          exact ⟨rfl, rfl⟩
        · cases run
          exact ⟨rfl, rfl⟩
    · cases run
      exact ⟨rfl, rfl⟩
  · cases run
    exact ⟨rfl, rfl⟩

/-- The hit points that an amount takes. -/
def loss (victim : Unit) (damage : Int) : Nat := if damage < 0 then min victim.hp damage.natAbs else 0

/-- Damage takes its loss from the hit points. -/
lemma dealDamage_hp (u : Unit) (damage : Int) :
    (u.isDealDamageToAndKill damage).1.hp = u.hp - u.loss damage ∧
      (u.isDealDamageToAndKill damage).1.state = u.state := by
  rw [isDealDamageToAndKill, loss]
  split
  · split
    · next dies =>
      rw [Nat.min_eq_left dies, Nat.sub_self]
      exact ⟨rfl, rfl⟩
    · next lives =>
      rw [Nat.min_eq_right (Nat.le_of_not_le lives)]
      exact ⟨rfl, rfl⟩
  · exact ⟨rfl, rfl⟩

/-- The record of a hit that lands does not show what it did. -/
def concealed (changed : Unit) (sinfo : SpellInfo) : Bool :=
  sinfo.entry = spellEscape || changed.hasUnitState (aura ||| mirror)

/-- The amount that is shown is what a damage takes, or all that the victim has; and no gain is shown to a victim
that could have one. -/
def TruthfulAmount (victim : Unit) (damage : Int) (shown : Nat) : Prop :=
  if damage < 0 then
    victim.hp ≤ shown ∨ victim.hp - victim.loss damage = victim.hpMax ∨
      shown = victim.loss damage ∧ victim.hp - victim.loss damage ≤ victim.hpMax
  else victim.hp ≤ victim.hpMax ∧ (shown = 0 ∨ victim.hp = victim.hpMax)

/-- When the record of a hit is true. -/
def Truthful (victim : Unit) (sinfo : SpellInfo) (damage : Int) (catched : Bool) (dice_missed : ℚ) : Prop :=
  if victim.missedBy sinfo catched dice_missed then victim.hp ≤ victim.hpMax
  else
    match sinfo.applyState victim with
    | none => victim.hp ≤ victim.hpMax
    | some changed =>
      victim.TruthfulAmount damage (if changed.concealed sinfo then 0 else u16 damage.natAbs)

/-- When the shown amount is the one that the client needs. -/
lemma truthfulAmount_iff (victim : Unit) (damage : Int) {shown : Nat} (le : shown ≤ damage.natAbs) :
    ((victim.hp - victim.loss damage : Nat) : Int) =
        clampHp victim.hpMax (victim.hp + if pointModifier damage = 1 then -(shown : Int) else shown) ↔
      victim.TruthfulAmount damage shown := by
  rw [TruthfulAmount, loss, pointModifier, clampHp]
  split
  · simp only [if_true]
    omega
  · simp only [Nat.zero_ne_one, if_false, Nat.sub_zero]
    omega

/-- Showing nothing is right while the hit points are within their maximum. -/
lemma untouched_iff (victim : Unit) :
    (victim.hp : Int) = clampHp victim.hpMax (victim.hp + 0) ↔ victim.hp ≤ victim.hpMax := by
  rw [clampHp]
  omega

/-- What the record of a hit that lands shows. -/
lemma shown_landed (changed : Unit) (sinfo : SpellInfo) (ani_t : Nat) (damage : Int) (modifier : Nat) :
    (HitRecord.build (sinfo.entry = spellEscape) ani_t sinfo.statusCode
        (if changed.hasUnitState (aura ||| mirror) then 0 else damage) modifier).shown =
      if modifier = 1 then -((if changed.concealed sinfo then 0 else u16 damage.natAbs : Nat) : Int)
      else (if changed.concealed sinfo then 0 else u16 damage.natAbs : Nat) := by
  rw [concealed]
  by_cases escape : sinfo.entry = spellEscape
  · rw [decide_eq_true escape, HitRecord.shown_missed]
    simp
  · rw [decide_eq_false escape, HitRecord.shown_build, Bool.false_or]
    cases changed.hasUnitState (aura ||| mirror) <;> rfl

/-- The hit points after a hit are those before it and what the record shows exactly in these cases. -/
theorem shown_truthful_iff (victim : Unit) (sinfo : SpellInfo) (damage : Int) (catched : Bool) (dice_missed : ℚ) :
    let result := victim.buildUpdateBlockSpellMod sinfo damage (pointModifier damage) catched dice_missed
    (result.victim.hp : Int) = clampHp victim.hpMax (victim.hp + result.record.shown) ↔
      victim.Truthful sinfo damage catched dice_missed := by
  simp only
  rw [buildUpdateBlockSpellMod, Truthful]
  split
  · simp only
    rw [HitRecord.shown_missed]
    exact untouched_iff victim
  · cases state : sinfo.applyState victim with
    | none =>
      simp only
      rw [HitRecord.shown_missed]
      exact untouched_iff victim
    | some changed =>
      obtain ⟨hp, states⟩ := dealDamage_hp changed damage
      obtain ⟨hpEq, -⟩ := applyState_hp state
      have hidden : (changed.isDealDamageToAndKill damage).1.hasUnitState (aura ||| mirror) =
          changed.hasUnitState (aura ||| mirror) := by
        rw [hasUnitState, hasUnitState, states]
      have loss : changed.loss damage = victim.loss damage := by rw [Unit.loss, Unit.loss, hpEq]
      simp only
      rw [hidden, shown_landed, hp, hpEq, loss]
      refine truthfulAmount_iff victim damage ?_
      split
      · exact Nat.zero_le _
      · exact Nat.mod_le _ _

/-- A heal is shown and heals nothing. -/
theorem not_shown_truthful :
    ¬∀ (victim : Unit) (sinfo : SpellInfo) (damage : Int) (catched : Bool) (dice_missed : ℚ),
      -2 ^ 31 ≤ damage → damage < 2 ^ 31 →
        let result := victim.buildUpdateBlockSpellMod sinfo damage (pointModifier damage) catched dice_missed
        (result.victim.hp : Int) = clampHp victim.hpMax (victim.hp + result.record.shown) := by
  intro truthful
  have healed := truthful { Engine.fighter .player 20 with hp := 50 } ⟨11006, 0, 1, spellModHeal⟩ 30 false 0
    (by decide) (by decide)
  revert healed
  decide

end Unit

end Legacy.Battle
