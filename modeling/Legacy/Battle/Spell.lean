import Legacy.Battle.Roster

/-!
# What a spell hits and what a hit does

Model of `BattleSystem::ParseSpell`, `GetDamage`, `isDealDamageToAndKill` and of the part of
`BuildUpdateBlockSpellMod` that changes the victim (`src/src/game/BattleSystem.cpp`), with
`Unit::addUnitState` (`src/src/game/Unit.cpp`). Cells are pairs of `uint8`; the amount of a damage and the
rolls are given from outside.
-/

namespace Legacy.Battle
open Legacy.Lib

/-- The damage modifiers of a spell template (source `Spell.h`). -/
abbrev spellModNone : Nat := 0

/-- source `SPELL_MOD_BUF` -/
abbrev spellModBuf : Nat := 1

/-- source `SPELL_MOD_HEAL` -/
abbrev spellModHeal : Nat := 6

/-- source `SPELL_MOD_DISABLED_BUF` -/
abbrev spellModDisabledBuf : Nat := 8

/-- source `SPELL_MOD_DISABLED_HURT` -/
abbrev spellModDisabledHurt : Nat := 10

/-- source `SPELL_MOD_POSITIVE_BUF` -/
abbrev spellModPositiveBuf : Nat := 16

/-- source `SPELL_MOD_NEGATIVE_BUF` -/
abbrev spellModNegativeBuf : Nat := 32

namespace Unit

/-- source `Unit::addUnitState` with a duration; `none` stands for `false` -/
def addUnitStateFor (u : Unit) (f dur : Nat) : Option Unit :=
  if f ∈ [4, 6, 8, 16] then
    if u.isDisabled then none else some { u.addUnitState f with disabledDuration := u8 (dur + 1) }
  else if f ∈ [8192, 16384, 32768, 65536, 131072, 262144] then
    if u.isPositiveBuffed then none else some { u.addUnitState f with positiveBufDuration := u8 (dur + 1) }
  else some (u.addUnitState f)

/-- source `BattleSystem::isDealDamageToAndKill`; healing does nothing -/
def isDealDamageToAndKill (u : Unit) (damage : Int) : Unit × Bool :=
  if damage < 0 then
    if u.hp ≤ damage.natAbs then ({ u with hp := 0, deathState := .dead }, true)
    else ({ u with hp := u.hp - damage.natAbs }, false)
  else (u, false)

/-- source `BattleSystem::GetDamage`, for the amount that its arithmetic yields -/
def getDamage (victim : Unit) (sinfo : SpellInfo) (amount : Nat) : Int :=
  if victim.hasUnitState aura then 0
  else if sinfo.damageMod ∈ [spellModNone, spellModBuf, spellModDisabledBuf, spellModPositiveBuf,
      spellModNegativeBuf] then 0
  else if sinfo.damageMod = spellModHeal then amount
  else -amount

/-- A missed attack (source, the first condition of `BattleSystem::BuildUpdateBlockSpellMod`). -/
def missedBy (victim : Unit) (sinfo : SpellInfo) (catched : Bool) (dice : ℚ) : Bool :=
  (90 < dice && !catched && sinfo.damageMod ≠ spellModPositiveBuf && sinfo.damageMod ≠ spellModHeal) ||
    victim.hasUnitState dodge

end Unit

namespace SpellInfo

/-- The spell changes states rather than hit points (source, `stcode != 0x19`). -/
def changesState (sinfo : SpellInfo) : Bool :=
  sinfo.damageMod ∈ [spellModDisabledHurt, spellModDisabledBuf, spellModPositiveBuf, spellModNegativeBuf]

/-- The state that a spell brings and its duration (source, in `BattleSystem::BuildUpdateBlockSpellMod`). -/
def unitState (sinfo : SpellInfo) : Option (Nat × Nat) :=
  match sinfo.entry with
  | 10004 => some (8, 3)       -- tree spirit: root
  | 11014 => some (16, 5)      -- freezing
  | 13007 => some (4, 2)       -- stun
  | 13002 => some (6, 3)       -- cyclone
  | 11002 => some (8192, 2)    -- ice wall
  | 10010 => some (16384, 4)   -- aura
  | 10015 => some (32768, 4)   -- mirror
  | 13014 => some (65536, 4)   -- vigor
  | 13003 => some (131072, 2)  -- dodge
  | 13005 => some (262144, 4)  -- invisible
  | 13012 => some (524288, 4)  -- magnify
  | 13011 => some (1048576, 4) -- minify
  | _ => none

/-- The victim with the state of the spell; `none` if it has such a state already. -/
def applyState (sinfo : SpellInfo) (victim : Unit) : Option Unit :=
  if sinfo.changesState then
    match sinfo.unitState with
    | some (state, dur) => victim.addUnitStateFor state dur
    | none => some victim
  else some victim

/-- A hit model that pushes the primary target without looking at its cell. -/
def hitsPrimary (sinfo : SpellInfo) : Bool := sinfo.hit ∈ [2, 3, 4, 5, 6, 10]

end SpellInfo

namespace BattleAction

/-- The cell of the attacker. -/
def atkCell (action : BattleAction) : Nat × Nat := (action.atkCol, action.atkRow)

/-- The cell of the target. -/
def tgtCell (action : BattleAction) : Nat × Nat := (action.tgtCol, action.tgtRow)

/-- The action with another target. -/
def withTarget (action : BattleAction) (c : Nat × Nat) : BattleAction :=
  { action with tgtCol := c.1, tgtRow := c.2 }

/-- Self-targeted skills keep the attacker's cell (source, in `WorldSession::HandlePlayerAttackOpcode`). -/
def selfTarget (action : BattleAction) : BattleAction :=
  if action.skill = spellDefense ∨ action.skill = spellEscape then action.withTarget action.atkCell else action

end BattleAction

/-- Neighbouring cells; the sums are cut to a `uint8`. -/
def colAfter (c : Nat × Nat) : Nat × Nat := (u8 (c.1 + 1), c.2)

/-- The column before, as a `uint8`. -/
def colBefore (c : Nat × Nat) : Nat × Nat := (u8 (c.1 + 255), c.2)

/-- The row above, as a `uint8`. -/
def rowAbove (c : Nat × Nat) : Nat × Nat := (c.1, u8 (c.2 + 255))

/-- The row below, as a `uint8`. -/
def rowBelow (c : Nat × Nat) : Nat × Nat := (c.1, u8 (c.2 + 1))

/-- The cell behind or before a target (source, the hit models 4 and 6 of `BattleSystem::ParseSpell`). -/
def facingCell (c : Nat × Nat) : Nat × Nat :=
  if isDefPos c.1 then if isDefPosBackRow c.1 then colAfter c else colBefore c
  else if isAtkPosBackRow c.1 then colBefore c
  else colAfter c

/-- The second cell of hit model 2, which takes the wrong side for an attacker. -/
def rollingCell (c : Nat × Nat) : Nat × Nat :=
  if isDefPos c.1 then if isDefPosBackRow c.1 then colAfter c else colBefore c
  else if isAtkPosBackRow c.1 then colAfter c
  else colBefore c

/-- What `BattleSystem::isUnitAvail` answers for a cell, and for whether the action is linked. -/
abbrev Avail : Type := Nat × Nat → Bool → Bool

/-- The other cells of the side of a target. -/
def sideCells (col : Nat) : List (Nat × Nat) := if isDefPos col then defenderCells else attackerCells

namespace Avail

/-- A further hit, when there is a living unit. -/
def hitAt (avail : Avail) (action : BattleAction) (c : Nat × Nat) : List BattleAction :=
  if avail c false then [{ action.withTarget c with agility := 0 }] else []

/-- The hit above or below the primary target; berserker hits the primary target again when there is nobody
(source, the hit model 3 of `BattleSystem::ParseSpell`). -/
def sideHit (avail : Avail) (action : BattleAction) (linked : Bool) (c : Nat × Nat) : List BattleAction :=
  if action.skill = spellBerserker && !avail c false then [action]
  else if avail c linked then [{ action.withTarget c with agility := 0 }]
  else []

/-- The hits of hit model 3. -/
def lineHits (avail : Avail) (action : BattleAction) (linked : Bool) : List BattleAction :=
  action :: (avail.sideHit action linked (rowAbove action.tgtCell) ++
    avail.sideHit action linked (rowBelow action.tgtCell))

/-- The hits of hit model 4. -/
def crossHits (avail : Avail) (action : BattleAction) (linked : Bool) : List BattleAction :=
  avail.hitAt action (facingCell action.tgtCell) ++ avail.lineHits action linked

/-- The hits of a spell, by the answers of `isUnitAvail` (source `BattleSystem::ParseSpell`). The cases 6 and 4 fall
through to the next. -/
def parseSpell (avail : Avail) (action : BattleAction) (hit : Nat) (linked : Bool) : List BattleAction :=
  let c := action.tgtCell
  match hit with
  | 2 => action :: avail.hitAt action (rollingCell c)
  | 6 =>
    avail.hitAt action (rowAbove (facingCell c)) ++ avail.hitAt action (rowBelow (facingCell c)) ++
      avail.crossHits action linked
  | 4 => avail.crossHits action linked
  | 3 => avail.lineHits action linked
  | 5 =>
    action :: ((List.range battleRowMax).filter fun row => row ≠ c.2).flatMap fun row =>
      avail.hitAt action (c.1, row)
  | 10 => action :: ((sideCells c.1).filter fun d => d ≠ c).flatMap fun d => avail.hitAt action d
  | _ => if avail c false then [action] else []

end Avail

namespace Engine

/-- source `BattleSystem::isUnitAvail` -/
def isUnitAvail (b : Engine) : Avail := fun c linked =>
  (b.getBattleUnit c.1 c.2).any fun u => !(b.units u).isDead || linked

/-- The hits of a spell in a battle (source `BattleSystem::ParseSpell`). -/
def parseSpell (b : Engine) (action : BattleAction) (hit : Nat) (linked : Bool) : List BattleAction :=
  b.isUnitAvail.parseSpell action hit linked

variable {b : Engine} {action hit : BattleAction} {linked : Bool}

/-- A unit that is available is there. -/
lemma isUnitAvail_isSome {c : Nat × Nat} (avail : b.isUnitAvail c linked) : (b.getBattleUnit c.1 c.2).isSome := by
  rw [isUnitAvail] at avail
  cases cell : b.getBattleUnit c.1 c.2 with
  | none =>
    rw [cell] at avail
    cases avail
  | some u => rfl

end Engine

end Legacy.Battle
