import Legacy.Battle.Engine

/-!
# Who stands in the battle

The parts of `BattleSystem` (`src/src/game/BattleSystem.cpp`) that place and remove units between the
actions: the pet commands, leaving a battle, the items given after a kill, the end of a turn and the test for
the end of the battle.
-/

namespace Legacy.Battle
open Legacy.Lib

/-- The places where the resolution of a turn reads through a pointer to a unit. -/
inductive Site where
  | redirectTarget | buildUpdateBlockAction | hit | escaped
  deriving DecidableEq, Repr

/-- Why a step of a battle has no result. -/
inductive Halt where
  /-- An empty cell is read through. -/
  | null (site : Site)
  /-- The receiver of a dropped item is not in its cell (`BattleSystem::SendItemDropped`). -/
  | noReceiver
  /-- A unit that is no player is used as one (`BattleSystem::Escaped`). -/
  | badCast
  /-- `ASSERT(attacker)` of `WorldSession::HandlePlayerAttackOpcode`. -/
  | assertion
  /-- A skill without a template is performed. -/
  | noTemplate
  | fault (f : Fault)
  /-- The event cannot happen here. -/
  | refused
  deriving DecidableEq, Repr

/-- The cells in the order of `BattleSystem::ResetAction`. -/
def rowCells : List (Nat × Nat) :=
  (List.range battleRowMax).flatMap fun row => (List.range battleColMax).map fun col => (col, row)

/-- The cells in the order of `BattleSystem::GetPosFor`. -/
def colCells : List (Nat × Nat) :=
  (List.range battleColMax).flatMap fun col => (List.range battleRowMax).map fun row => (col, row)

/-- The cell of a player's pet (source `BattleSystem::GetPetPosFor`, below the position of the player). -/
def petCell (c : Nat × Nat) : Nat × Nat :=
  if isAtkPos c.1 then
    if isAtkPosBackRow c.1 then (c.1 - 1, c.2) else (c.1 + 1, c.2)
  else if isDefPosBackRow c.1 then (c.1 + 1, c.2)
  else (c.1 - 1, c.2)

/-- The cells that `BattleSystem::GetPosFor` goes through are those of the grid, and so are the ones beside them. -/
lemma inGrid_of_mem_colCells {c : Nat × Nat} (mem : c ∈ colCells) : InGrid c ∧ InGrid (petCell c) := by
  revert c
  decide

/-- The place of the player that escapes through an action of this column (source `BattleSystem::Escaped`). -/
def escapeCol (col : Nat) : Nat :=
  let col := if isAtkPos col && !isAtkPosBackRow col then col + 1 else col
  if isDefPos col && !isDefPosBackRow col then col - 1 else col

namespace Unit

/-- source `Unit::isReleaseFromDisabledState` -/
def releaseDisabled (u : Unit) : Unit :=
  if u.disabledDuration = 0 then u
  else
    let u := { u with disabledDuration := u.disabledDuration - 1 }
    if u.disabledDuration = 0 then u.clearUnitState disabledStates else u

/-- source `Unit::isPositiveBufExpired` -/
def expirePositiveBuf (u : Unit) : Unit :=
  if u.positiveBufDuration = 0 then u
  else
    let u := { u with positiveBufDuration := u.positiveBufDuration - 1 }
    if u.positiveBufDuration = 0 then u.clearUnitState positiveStates else u

/-- The unit at the end of a turn (source, the body of the loop of `BattleSystem::ResetAction`). -/
def endTurn (u : Unit) : Unit := u.releaseDisabled.expirePositiveBuf.clearUnitState defend

/-- A player or a pet that a turn waits for. -/
def isAwaited (u : Unit) : Bool := u.isMember && !u.isDead && !u.isDisabled

/-- source `Unit::ResetAllState` -/
def resetAllState (u : Unit) : Unit :=
  { u with state := 0, disabledDuration := 0, positiveBufDuration := 0 }

/-- The unit after its battle (source, in `BattleSystem::LeaveBattle`). -/
def leaveBattle (u : Unit) : Unit :=
  (if u.isDead || u.hp = 0 then { u with hp := 1, deathState := .alive } else u).resetAllState

/-- The end of a turn changes what befell the unit, and nothing else. -/
lemma endTurn_eq (u : Unit) : ∃ state disabled positive,
    u.endTurn = { u with state := state, disabledDuration := disabled, positiveBufDuration := positive } := by
  rw [endTurn, releaseDisabled, expirePositiveBuf]
  simp only [clearUnitState]
  repeat' split
  all_goals exact ⟨_, _, _, rfl⟩

end Unit

namespace Engine

/-- A unit is set aside (source, the assignment of `NULL` to a cell). -/
def clearCell (b : Engine) (c : Nat × Nat) : Engine :=
  { b with m_battleUnit := Function.update b.m_battleUnit (cellIndex c) none }

/-- source `BattleSystem::SetPosition` -/
def setPosition (b : Engine) (u : Nat) (c : Nat × Nat) : Engine :=
  { b with m_battleUnit := Function.update b.m_battleUnit (cellIndex c) (some u) }

/-- A cell that is set aside is empty, under every name that it has. -/
lemma clearCell_battleUnit (b : Engine) (c : Nat × Nat) (col row : Nat) :
    (b.clearCell c).battleUnit col row =
      if cellIndex (col, row) = cellIndex c then none else b.battleUnit col row := Function.update_apply ..

/-- A cell that is taken holds its unit under every name that it has. -/
lemma setPosition_battleUnit (b : Engine) (u : Nat) (c : Nat × Nat) (col row : Nat) :
    (b.setPosition u c).battleUnit col row =
      if cellIndex (col, row) = cellIndex c then some u else b.battleUnit col row := Function.update_apply ..

/-- A change of one unit. -/
def setUnit (b : Engine) (u : Nat) (unit : Unit) : Engine :=
  { b with units := Function.update b.units u unit }

/-- source `BattleSystem::GetPosFor` -/
def getPosFor (b : Engine) (u : Nat) : Option (Nat × Nat) :=
  colCells.find? fun c => b.battleUnit c.1 c.2 = some u

/-- source `BattleSystem::GetPetPosFor` -/
def getPetPosFor (b : Engine) (p : Nat) : Option (Nat × Nat) := (b.getPosFor p).map petCell

/-- Takes the battle pet of a player from its cell. The source function has no return statement after it
did so, and `falls` is what its callers read then (source `BattleSystem::DeactivatePetFor`). -/
def deactivatePetFor (b : Engine) (p : Nat) (falls : Bool) : Engine × Bool :=
  match (b.units p).battlePet, b.getPetPosFor p with
  | some _, some c => (b.clearCell c, falls)
  | _, _ => (b, false)

/-- source `BattleSystem::ActivatePetFor` -/
def activatePetFor (b : Engine) (p pet : Nat) : Engine × Bool :=
  if (b.units p).battlePet = some pet then
    match b.getPetPosFor p with
    | some c => (b.setPosition pet c, true)
    | none => (b, false)
  else (b, false)

/-- source `Player::SetBattlePet` -/
def setBattlePet (b : Engine) (p : Nat) (pet : Option Nat) : Engine :=
  b.setUnit p { b.units p with battlePet := pet }

/-- source `Player::GetPetByModelId` -/
def getPetByModelId (b : Engine) (p modelId : Nat) : Option Nat :=
  (b.units p).pets.find? fun pet => (b.units pet).modelId = modelId

/-- Counts an action when there was one. -/
def incIf (b : Engine) (acted : Bool) : Engine := if acted then b.incAction else b

/-- The battle command, for a pet that the player has. -/
def battleCommand (b : Engine) (p pet : Nat) (falls : Bool) : Engine :=
  let rested := b.deactivatePetFor p falls
  let b := ((rested.1.incIf rested.2).setBattlePet p none).setBattlePet p (some pet)
  let placed := b.activatePetFor p pet
  placed.1.incIf placed.2

/-- The rest command. -/
def restCommand (b : Engine) (p : Nat) (falls : Bool) : Engine :=
  match (b.units p).battlePet with
  | none => b.setBattlePet p none
  | some _ =>
    let rested := b.deactivatePetFor p falls
    ((rested.1.incIf rested.2).incAction).setBattlePet p none

/-- A player leaves the battle with its battle pet (source `BattleSystem::LeaveBattle`). The loop goes through all
places of the grid. -/
def leaveBattle (b : Engine) (p : Nat) : Engine :=
  let left u := u = p ∨ (b.units p).battlePet = some u
  { b with
    units := fun u => if left u then (b.units u).leaveBattle else b.units u
    playerList := b.playerList.filter fun q => q ≠ p
    m_battleUnit := fun i =>
      if i < battleColMax * battleRowMax then (b.m_battleUnit i).filter fun u => !left u else b.m_battleUnit i }

/-- One cell at the end of a turn. The counter does not pass the number of cells. -/
def resetCell (b : Engine) (c : Nat × Nat) : Engine :=
  match b.battleUnit c.1 c.2 with
  | none => b
  | some u =>
    { b.setUnit u (b.units u).endTurn with
      playerActionNeed := if (b.units u).isAwaited then b.playerActionNeed + 1 else b.playerActionNeed }

/-- source `BattleSystem::ResetAction` -/
def resetAction (b : Engine) : Engine :=
  rowCells.foldl resetCell { b with actionTime := 0, playerActionCount := 0, playerActionNeed := 0 }

/-- source `BattleSystem::SendTurnComplete` -/
def sendTurnComplete (b : Engine) : Engine := { b.resetAction with waitForAction := true }

/-- source `BattleSystem::GiveItemDropped` -/
def giveItemDropped (b : Engine) : Except Halt Engine :=
  if b.itemDropped = [] then .ok b
  else if b.itemDropped.all fun item => (b.getBattleUnit item.rcvCol item.rcvRow).isSome then
    .ok { b with animationTimeItemDropped := 3, itemDropped := [] }
  else .error .noReceiver

/-- A unit in a cell that is alive. -/
def living (b : Engine) (c : Nat × Nat) : Bool := (b.battleUnit c.1 c.2).any fun u => (b.units u).isAlive

/-- Nobody of one side is alive. -/
def decided (b : Engine) : Bool := !(defenderCells.any b.living && attackerCells.any b.living)

/-- source `BattleSystem::BattleConcluded` -/
def battleConcluded (b : Engine) : Except Halt (Bool × Engine) :=
  if 0 < b.animationTime then .ok (false, b)
  else do
    let b ← b.giveItemDropped
    return (decide (b.animationTimeItemDropped = 0) && b.decided, b)

end Engine

end Legacy.Battle
