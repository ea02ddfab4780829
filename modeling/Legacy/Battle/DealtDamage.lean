import Legacy.Battle.HitRecord
import Legacy.Pets.Record

/-!
# Damage and healing

`isDealDamageToAndKill` takes the hit points of a damage, and its branch for healing is empty. Here a pet comes with
the state that decides whether it is saved. `dealt_iff` says for which victims and amounts the hit points, the kill, the
death and the mark of a pet are right.
-/

namespace Legacy.Battle
open Legacy.Lib Legacy.Pets

/-- A unit with the update state that it has if it is a pet. -/
structure Victim where
  unit : Unit
  uState : PetUpdateState

namespace Victim

/-- The update state after `SetState(PET_CHANGED)` (source `Pet::SetState`). -/
def changedState (state : PetUpdateState) : PetUpdateState := if state = .new then .new else .changed

/-- source `BattleSystem::isDealDamageToAndKill` -/
def isDealDamageToAndKill (victim : Victim) (damage : Int) : Victim × Bool :=
  let currentHP := victim.unit.hp
  if damage < 0 then
    if currentHP ≤ damage.natAbs then
      ({ victim with unit := { victim.unit with hp := 0, deathState := .dead } }, true)
    else ({ victim with unit := { victim.unit with hp := currentHP - damage.natAbs } }, false)
  else if victim.unit.isPet then ({ victim with uState := changedState victim.uState }, false)
  else (victim, false)

/-- The unit is changed as in the run of a battle. -/
lemma isDealDamageToAndKill_unit (victim : Victim) (damage : Int) :
    ((victim.isDealDamageToAndKill damage).1.unit, (victim.isDealDamageToAndKill damage).2) =
      victim.unit.isDealDamageToAndKill damage := by
  rw [isDealDamageToAndKill, Unit.isDealDamageToAndKill]
  by_cases harm : damage < 0
  · rw [if_pos harm, if_pos harm]
    split <;> rfl
  · rw [if_neg harm, if_neg harm]
    split <;> rfl

/-- The hit points after an amount: less a damage, down to 0, or more a heal, up to the maximum. -/
def hpAfter (u : Unit) (damage : Int) : Nat :=
  if damage < 0 then u.hp - damage.natAbs else min u.hpMax (u.hp + damage.natAbs)

/-- The amount is applied exactly. -/
structure Dealt (victim : Victim) (damage : Int) (victim' : Victim) (killed : Bool) : Prop where
  hp : victim'.unit.hp = hpAfter victim.unit damage
  kill : killed = true ↔ 0 < victim.unit.hp ∧ victim'.unit.hp = 0
  death : victim'.unit.deathState = if victim'.unit.hp = 0 then .dead else victim.unit.deathState
  marked : victim.unit.isPet = true → victim'.unit.hp ≠ victim.unit.hp →
    victim'.uState = changedState victim.uState

/-- A damage finds hit points to take, and a pet that will be saved anyway; a heal finds nothing to heal, and who has no
hit points is dead. -/
def Takes (victim : Victim) (damage : Int) : Prop :=
  if damage < 0 then
    0 < victim.unit.hp ∧ (victim.unit.isPet = true → victim.uState = .changed ∨ victim.uState = .new)
  else
    (damage = 0 ∨ victim.unit.hp = victim.unit.hpMax) ∧ (victim.unit.hp = 0 → victim.unit.deathState = .dead)

/-- A state is that of a change when it is changed or new. -/
lemma eq_changedState_iff (state : PetUpdateState) : state = changedState state ↔ state = .changed ∨ state = .new := by
  cases state <;> decide

/-- A damage is applied exactly. -/
lemma dealt_damage_iff (victim : Victim) {damage : Int} (harm : damage < 0) :
    victim.Dealt damage (victim.isDealDamageToAndKill damage).1 (victim.isDealDamageToAndKill damage).2 ↔
      victim.Takes damage := by
  rw [isDealDamageToAndKill, Takes, if_pos harm, if_pos harm]
  have takes : 0 < damage.natAbs := Int.natAbs_pos.mpr (Int.ne_of_lt harm)
  split
  · next dies =>
    have after : hpAfter victim.unit damage = 0 := by rw [hpAfter, if_pos harm, Nat.sub_eq_zero_of_le dies]
    constructor
    · intro dealt
      have alive := (dealt.kill.mp rfl).1
      exact ⟨alive, fun pet => (eq_changedState_iff _).mp (dealt.marked pet (Nat.ne_of_lt alive))⟩
    · rintro ⟨alive, marked⟩
      exact ⟨after.symm, iff_of_true rfl ⟨alive, rfl⟩, rfl, fun pet _ => (eq_changedState_iff _).mpr (marked pet)⟩
  · next lives =>
    have less : victim.unit.hp - damage.natAbs ≠ victim.unit.hp := by omega
    have left : victim.unit.hp - damage.natAbs ≠ 0 := by omega
    constructor
    · intro dealt
      exact ⟨by omega, fun pet => (eq_changedState_iff _).mp (dealt.marked pet less)⟩
    · rintro ⟨alive, marked⟩
      refine ⟨?_, iff_of_false Bool.false_ne_true fun kill => left kill.2, (if_neg left).symm,
        fun pet _ => (eq_changedState_iff _).mpr (marked pet)⟩
      rw [hpAfter, if_pos harm]

/-- A heal leaves the unit as it is. -/
lemma heal_unit (victim : Victim) {damage : Int} (heals : ¬damage < 0) :
    (victim.isDealDamageToAndKill damage).1.unit = victim.unit ∧ (victim.isDealDamageToAndKill damage).2 = false := by
  rw [isDealDamageToAndKill, if_neg heals]
  split <;> exact ⟨rfl, rfl⟩

/-- A heal is applied exactly. -/
lemma dealt_heal_iff (victim : Victim) (le : victim.unit.hp ≤ victim.unit.hpMax) {damage : Int} (heals : ¬damage < 0) :
    victim.Dealt damage (victim.isDealDamageToAndKill damage).1 (victim.isDealDamageToAndKill damage).2 ↔
      victim.Takes damage := by
  obtain ⟨same, spared⟩ := victim.heal_unit heals
  have full : victim.unit.hp = hpAfter victim.unit damage ↔ damage = 0 ∨ victim.unit.hp = victim.unit.hpMax := by
    rw [hpAfter, if_neg heals]
    omega
  rw [Takes, if_neg heals, ← full]
  constructor
  · intro dealt
    refine ⟨same ▸ dealt.hp, fun zero => ?_⟩
    have death := dealt.death
    rwa [same, if_pos zero] at death
  · rintro ⟨hp, dead⟩
    refine ⟨same ▸ hp, ?_, ?_, fun _ changed => absurd (congrArg Unit.hp same) changed⟩
    · rw [spared, same]
      exact iff_of_false Bool.false_ne_true fun ⟨alive, zero⟩ => Nat.ne_of_gt alive zero
    · rw [same]
      split
      · next zero => exact dead zero
      · rfl

/-- An amount is applied exactly in these cases. -/
theorem dealt_iff (victim : Victim) (le : victim.unit.hp ≤ victim.unit.hpMax) (damage : Int) :
    victim.Dealt damage (victim.isDealDamageToAndKill damage).1 (victim.isDealDamageToAndKill damage).2 ↔
      victim.Takes damage := by
  by_cases harm : damage < 0
  · exact victim.dealt_damage_iff harm
  · exact victim.dealt_heal_iff le harm

/-- A wounded player with half of its hit points. -/
def wounded : Victim := ⟨{ Engine.fighter .player 20 with hp := 50 }, .unchanged⟩

/-- A damage of 60 kills it. -/
theorem dealt_wounded : wounded.unit.hp ≤ wounded.unit.hpMax ∧
    wounded.Dealt (-60) (wounded.isDealDamageToAndKill (-60)).1 (wounded.isDealDamageToAndKill (-60)).2 := by
  have le : wounded.unit.hp ≤ wounded.unit.hpMax := by decide
  have takes : wounded.Takes (-60) := by
    rw [Takes, if_pos (by decide)]
    exact ⟨by decide, nofun⟩
  exact ⟨le, (dealt_iff wounded le (-60)).mpr takes⟩

/-- A heal of 30 does nothing for it. -/
theorem not_dealt : ¬∀ (victim : Victim) (damage : Int), victim.unit.hp ≤ victim.unit.hpMax → -2 ^ 31 ≤ damage →
    damage < 2 ^ 31 →
      victim.Dealt damage (victim.isDealDamageToAndKill damage).1 (victim.isDealDamageToAndKill damage).2 := by
  intro dealt
  have healed := (dealt wounded 30 (by decide) (by decide) (by decide)).hp
  revert healed
  decide

end Victim

end Legacy.Battle
