import Legacy.Unit.Experience

/-!
# Attack, magic and defence

The powers that a damage is computed from (`src/src/game/Unit.cpp`). A base stat and its signed modifier are added and
cut to 16 bits, so that a penalty above the stat is a large power. `powers_monotone_iff` says when a better modifier or
a defensive state does not lower a power.
-/

namespace Legacy.Unit
open Legacy.Lib

/-- source `UNIT_STATE_DEFEND` -/
abbrev stateDefend : Nat := 4096

/-- source `UNIT_STATE_ICEWALL` -/
abbrev stateIcewall : Nat := 8192

/-- The fields of a unit that a damage is computed from; `mods` are the fields `UNIT_FIELD_ATK_MOD` and so on. -/
structure Combatant where
  level : Nat
  element : Nat
  state : Nat
  stats : Stat → Nat
  mods : Stat → Int
  spells : List Spell

/-- What the functions `GetAttackPower`, `GetMagicPower` and `GetDefensePower` compute. -/
inductive Power where
  | attack | magic | defense
  deriving DecidableEq, Repr

namespace Combatant

variable {u u' : Combatant}

/-- source `Unit::hasUnitState` -/
def hasUnitState (u : Combatant) (f : Nat) : Bool := u.state &&& f ≠ 0

/-- source `(uint16)(lvl * 0.05)`, where no product of the 256 levels is rounded below a whole number -/
def levelBonus (u : Combatant) : Nat := u8 u.level / 20

/-- source `Unit::GetAttackPower` -/
def getAttackPower (u : Combatant) : Nat :=
  let atk := wrap16 (u.stats .atk + u.mods .atk + 1)
  u16 (atk + u.levelBonus)

/-- source `Unit::GetMagicPower` -/
def getMagicPower (u : Combatant) : Nat :=
  let mag := wrap16 (u.stats .int + u.mods .int + 1)
  u16 (mag + u.levelBonus)

/-- source `Unit::GetDefensePower` -/
def getDefensePower (u : Combatant) : Nat :=
  let «def» := wrap16 (u.stats .defense + u.mods .defense)
  let «def» := if u.hasUnitState stateDefend then u16 («def» + 25) else «def»
  let «def» := if u.hasUnitState stateIcewall then u16 («def» + 50) else «def»
  u16 («def» + u.levelBonus)

/-- A power of a unit. -/
def power (u : Combatant) : Power → Nat
  | .attack => u.getAttackPower
  | .magic => u.getMagicPower
  | .defense => u.getDefensePower

/-- What the defensive states add. -/
def stateBonus (u : Combatant) : Nat :=
  (if u.hasUnitState stateDefend then 25 else 0) + if u.hasUnitState stateIcewall then 50 else 0

/-- A power before it is cut. -/
def total (u : Combatant) : Power → Int
  | .attack => u.stats .atk + u.mods .atk + 1 + u.levelBonus
  | .magic => u.stats .int + u.mods .int + 1 + u.levelBonus
  | .defense => u.stats .defense + u.mods .defense + u.stateBonus + u.levelBonus

/-- The bonus of the level is at most 12. -/
lemma levelBonus_le (u : Combatant) : u.levelBonus ≤ 12 := by
  rw [levelBonus, u8]
  omega

/-- The bonus of the states is at most 75. -/
lemma stateBonus_le (u : Combatant) : u.stateBonus ≤ 75 := by
  rw [stateBonus]
  split <;> split <;> omega

/-- A power is its total, cut once. -/
lemma power_eq (u : Combatant) (p : Power) : u.power p = wrap16 (u.total p) := by
  cases p with
  | attack => exact u16_wrap16_add _ _
  | magic => exact u16_wrap16_add _ _
  | defense =>
    rw [power, getDefensePower, total, stateBonus]
    split <;> split <;> simp only [u16_wrap16_add, Nat.cast_add, Nat.cast_ofNat, Nat.cast_zero, add_zero,
      add_assoc, zero_add]

/-- A modifier is raised, or a defensive state is added. -/
inductive Raised (u : Combatant) : Combatant → Prop
  | mod {stat : Stat} {mod : Int} (le : u.mods stat ≤ mod) :
    Raised u { u with mods := Function.update u.mods stat mod }
  | defend : Raised u { u with state := u.state ||| stateDefend }
  | icewall : Raised u { u with state := u.state ||| stateIcewall }

/-- Stats and modifiers of 15 bits. -/
def Small (u : Combatant) : Prop := ∀ stat, u.stats stat < 2 ^ 15 ∧ -2 ^ 15 < u.mods stat ∧ u.mods stat < 2 ^ 15

/-- A state is there with more bits too. -/
lemma hasUnitState_or (u : Combatant) (f g : Nat) (has : u.hasUnitState g = true) :
    ({ u with state := u.state ||| f } : Combatant).hasUnitState g = true := by
  rw [hasUnitState, decide_eq_true_iff] at has ⊢
  rw [Nat.and_or_distrib_right]
  exact fun zero => has (Nat.or_eq_zero_iff.mp zero).1

/-- More states give no smaller bonus. -/
lemma stateBonus_or (u : Combatant) (f : Nat) :
    u.stateBonus ≤ ({ u with state := u.state ||| f } : Combatant).stateBonus := by
  rw [stateBonus, stateBonus]
  apply Nat.add_le_add
  · split
    · next has => rw [if_pos (u.hasUnitState_or f _ has)]
    · exact Nat.zero_le _
  · split
    · next has => rw [if_pos (u.hasUnitState_or f _ has)]
    · exact Nat.zero_le _

/-- No total gets less, and none by so much more that a cut could hide it. -/
lemma Raised.total (raised : Raised u u') (small : u.Small) (small' : u'.Small) (p : Power) :
    u.total p ≤ u'.total p ∧ u'.total p - u.total p < 2 ^ 16 := by
  have states : ∀ f, ({ u with state := u.state ||| f } : Combatant).total p - u.total p =
      match p with
      | .defense => ({ u with state := u.state ||| f } : Combatant).stateBonus - (u.stateBonus : Int)
      | _ => 0 := by
    intro f
    cases p <;> simp only [Combatant.total, levelBonus] <;> omega
  cases raised with
  | @mod stat mod le =>
    have value : ∀ s, u.mods s ≤ Function.update u.mods stat mod s ∧
        Function.update u.mods stat mod s - u.mods s < 2 ^ 16 := by
      intro s
      have lo := (small s).2.1
      have hi := (small' s).2.2
      refine ⟨?_, by simp only at hi; omega⟩
      by_cases same : s = stat
      · subst same
        rw [Function.update_self]
        exact le
      · rw [Function.update_of_ne same]
    have attack := value .atk
    have magic := value .int
    have defense := value .defense
    have states : ({ u with mods := Function.update u.mods stat mod } : Combatant).stateBonus = u.stateBonus := rfl
    cases p <;> simp only [Combatant.total, levelBonus] <;> omega
  | defend =>
    have more := u.stateBonus_or stateDefend
    have bound := stateBonus_le { u with state := u.state ||| stateDefend }
    have diff := states stateDefend
    cases p <;> simp only at diff <;> omega
  | icewall =>
    have more := u.stateBonus_or stateIcewall
    have bound := stateBonus_le { u with state := u.state ||| stateIcewall }
    have diff := states stateIcewall
    cases p <;> simp only at diff <;> omega

/-- The total of a small combatant stays in range. -/
lemma total_range (small : u.Small) (p : Power) : -2 ^ 16 < u.total p ∧ u.total p < 2 ^ 17 := by
  have attack := small .atk
  have magic := small .int
  have defense := small .defense
  have level := u.levelBonus_le
  have states := u.stateBonus_le
  cases p <;> simp only [Combatant.total] <;> omega

/-- A cut takes the same from both totals: neither a penalty is made up for nor the 16 bits are left. -/
def SameCut (u u' : Combatant) (p : Power) : Prop :=
  (0 ≤ u.total p ∨ u'.total p < 0) ∧ (2 ^ 16 ≤ u.total p ∨ u'.total p < 2 ^ 16)

/-- A better modifier or a defensive state lowers no power exactly in these cases. -/
theorem powers_monotone_iff (raised : Raised u u') (small : u.Small) (small' : u'.Small) :
    (∀ p, u.power p ≤ u'.power p) ↔ ∀ p, SameCut u u' p := by
  refine forall_congr' fun p => ?_
  obtain ⟨le, near⟩ := raised.total small small' p
  obtain ⟨lo, hi⟩ := total_range small p
  obtain ⟨lo', hi'⟩ := total_range small' p
  rw [power_eq, power_eq, wrap16_le_iff le near, SameCut]
  omega

/-- A unit of level 40 with 10 points in each stat and these modifiers. -/
def cursed (mod : Int) : Combatant where
  level := 40
  element := 1
  state := 0
  stats _ := 10
  mods _ := mod
  spells := []

/-- The cursed combatant of the examples is small. -/
lemma small_cursed {mod : Int} (lo : -2 ^ 15 < mod) (hi : mod < 2 ^ 15) : (cursed mod).Small :=
  fun _ => ⟨show 10 < 2 ^ 15 by decide, lo, hi⟩

/-- An ice wall raises the defence from 7 to 57. -/
theorem powers_monotone_icewall :
    Raised (cursed (-5)) { cursed (-5) with state := (cursed (-5)).state ||| stateIcewall } ∧
      ∀ p, (cursed (-5)).power p ≤
        ({ cursed (-5) with state := (cursed (-5)).state ||| stateIcewall } : Combatant).power p := by
  have small : (cursed (-5)).Small := small_cursed (by decide) (by decide)
  refine ⟨.icewall, (powers_monotone_iff .icewall small small).mpr fun p => ?_⟩
  cases p <;> exact ⟨.inl (by decide), .inr (by decide)⟩

/-- A curse of 30 points makes a power of 65519 from 10 points, and without it the power is 13. -/
theorem not_powers_monotone : ¬∀ u u' : Combatant, Raised u u' → u.Small → u'.Small → ∀ p, u.power p ≤ u'.power p := by
  intro monotone
  have lifted := monotone (cursed (-30)) { cursed (-30) with mods := Function.update (cursed (-30)).mods .atk 0 }
    (.mod (by decide)) (small_cursed (by decide) (by decide)) (fun stat => by cases stat <;> decide) .attack
  revert lifted
  decide

end Combatant

end Legacy.Unit
