import Legacy.Lib.Word
import Legacy.Lib.Faulting
import Legacy.Lib.RowMajor
import Mathlib.Data.Rat.Defs
import Mathlib.Algebra.Order.Field.Rat
import Mathlib.Data.Nat.Bitwise
import Mathlib.Logic.Function.Basic

/-!
# The battle engine

State and basic operations of a battle (`src/src/game/BattleSystem.h`, `BattleSystem.cpp` and `Unit.h`).
Units are objects in memory, named by numbers; a cell of the grid points to a unit or to none. Reading
through an empty cell, through a missing spell template or an action list past the last one is a `Fault`,
after which the C++ program has no defined behaviour.
-/

namespace Legacy.Battle
open Legacy.Lib

/-- Number of columns of the grid (source `BATTLE_COL_MAX`). -/
abbrev battleColMax : Nat := 4

/-- Number of rows of the grid (source `BATTLE_ROW_MAX`). -/
abbrev battleRowMax : Nat := 5

/-- First column after the defenders (source `DEFENDER_COL_MAX`). -/
abbrev defenderColMax : Nat := 2

/-- First column of the attackers (source `ATTACKER_COL_MIN`). -/
abbrev attackerColMin : Nat := 2

/-- Number of action lists of a turn (source `m_Actions[20]`). -/
abbrev actionLists : Nat := 20

/-- Ticks that a turn waits for its actions (source `MAX_ACTION_TIME`). -/
abbrev maxActionTime : Nat := 220

/-- source `SPELL_BASIC` -/
abbrev spellBasic : Nat := 10000

/-- source `SPELL_BERSERKER` -/
abbrev spellBerserker : Nat := 13013

/-- source `SPELL_CATCH` -/
abbrev spellCatch : Nat := 15001

/-- source `SPELL_CATCH2` -/
abbrev spellCatch2 : Nat := 15002

/-- source `SPELL_DEFENSE` -/
abbrev spellDefense : Nat := 17001

/-- source `SPELL_ESCAPE` -/
abbrev spellEscape : Nat := 18001

/-- Undefined behaviour of the program. -/
inductive Fault where
  | nullPointer
  /-- `m_Actions` is indexed beyond its end. -/
  | outOfBounds (index : Nat)
  deriving DecidableEq, Repr

/-- The type of a unit; a pet knows its owner. -/
inductive UnitType where
  | player | pet (owner : Nat) | creature
  deriving DecidableEq, Repr

/-- source `enum DeathState` -/
inductive DeathState where
  | alive | justDied | dead
  deriving DecidableEq, Repr

/-- The fields of a unit that a battle reads or writes (source `class Unit`); `pets` and `battlePet` are
those of a player, `modelId` that of a pet. `spells` are the entries of its spells in the order in which its
map of spells, a hash map, is visited. -/
structure Unit where
  type : UnitType
  hp : Nat
  hpMax : Nat
  level : Nat
  deathState : DeathState
  state : Nat
  disabledDuration : Nat
  positiveBufDuration : Nat
  agi : Nat
  agiMod : Int
  spells : List Nat
  modelId : Nat
  pets : List Nat
  battlePet : Option Nat

namespace Unit

/-- source `UNIT_STATE_DISABLED` -/
abbrev disabledStates : Nat := 4 ||| 6 ||| 8 ||| 16

/-- source `Unit::isPositiveBuffed` -/
abbrev positiveStates : Nat := 8192 ||| 16384 ||| 32768 ||| 65536 ||| 131072 ||| 262144

/-- source `UNIT_STATE_DEFEND` -/
abbrev defend : Nat := 4096

/-- source `UNIT_STATE_DODGE` -/
abbrev dodge : Nat := 131072

/-- source `UNIT_STATE_AURA` -/
abbrev aura : Nat := 16384

/-- source `Unit::isAlive` -/
def isAlive (u : Unit) : Bool := u.deathState = .alive

/-- source `Unit::isDead` -/
def isDead (u : Unit) : Bool := u.deathState = .dead

/-- source `Unit::hasUnitState` -/
def hasUnitState (u : Unit) (f : Nat) : Bool := u.state &&& f ≠ 0

/-- A disabled unit does not act in its turn (source `Unit::isDisabled`). -/
def isDisabled (u : Unit) : Bool := u.hasUnitState disabledStates

/-- source `Unit::isPositiveBuffed` -/
def isPositiveBuffed (u : Unit) : Bool := u.hasUnitState positiveStates

/-- The bits of a state are set (source `Unit::addUnitState`, without its counters). -/
def addUnitState (u : Unit) (f : Nat) : Unit := { u with state := u.state ||| f }

/-- The bits of a state are taken away, where they are set (source `Unit::clearUnitState`). -/
def clearUnitState (u : Unit) (f : Nat) : Unit := { u with state := u.state ^^^ (u.state &&& f) }

/-- source `Object::isType(TYPE_PLAYER)` -/
def isPlayer (u : Unit) : Bool := u.type = .player

/-- source `Object::isType(TYPE_PET)` -/
def isPet (u : Unit) : Bool :=
  match u.type with
  | .pet _ => true
  | _ => false

/-- A player or a pet. -/
def isMember (u : Unit) : Bool := u.type ≠ .creature

/-- The agility that sorts the actions of a turn. -/
def agility (u : Unit) : Int := i32 (u.agi + u.agiMod)

/-- source `Unit::HaveSpell` -/
def haveSpell (u : Unit) (entry : Nat) : Bool :=
  entry = spellBasic || entry = spellDefense || entry = spellCatch || entry = spellCatch2 ||
    entry = spellEscape || entry ∈ u.spells

/-- source `Unit::GetRandomSpell`, with the position that the dice picks -/
def getRandomSpell (u : Unit) (pos : Nat) : Nat := (u.spells[pos]?).getD spellBasic

end Unit

/-- A queued action (source `class BattleAction`). -/
structure BattleAction where
  atkCol : Nat
  atkRow : Nat
  skill : Nat
  tgtCol : Nat
  tgtRow : Nat
  agility : Int
  deriving DecidableEq, Repr

/-- The fields of a spell template that a battle reads (source `struct SpellInfo`). -/
structure SpellInfo where
  entry : Nat
  type : Nat
  hit : Nat
  damageMod : Nat
  deriving DecidableEq, Repr

/-- What the server knows beside the battle: the spell templates, and whether the configured tolerance
links two agilities (source `RATE_LINKED_AGILITY`, compared as floating-point numbers). -/
structure Rules where
  spellTemplate : Nat → Option SpellInfo
  linkedAgility : Int → Int → Bool

/-- An entry of the item-drop list (source `class ItemDropped`). -/
structure ItemDropped where
  rcvCol : Nat
  rcvRow : Nat
  item : Nat
  ctrCol : Nat
  ctrRow : Nat
  deriving DecidableEq, Repr

/-- A battle with the units it reaches (source `class BattleSystem`). `m_battleUnit` is the memory from the
beginning of the array `m_BattleUnit`: its first places are those of the cells, column after column, and behind them
lies data of which nothing is said. -/
structure Engine where
  units : Nat → Unit
  m_battleUnit : Nat → Option Nat
  playerList : List Nat
  playerActionNeed : Nat
  playerActionCount : Nat
  waitForAction : Bool
  actionTime : Nat
  animationTime : Nat
  animationTimeItemDropped : Nat
  creatureKilled : Bool
  unitTurn : List BattleAction
  actions : Nat → List BattleAction
  itemDropped : List ItemDropped
  atkRateLvl : Int
  defRateLvl : Int

/-- A cell of the array `m_BattleUnit`. -/
abbrev InGrid (c : Nat × Nat) : Prop := c.1 < battleColMax ∧ c.2 < battleRowMax

/-- The place of a cell in the array `m_BattleUnit`. Row 5 of a column is row 0 of the next one. -/
abbrev cellIndex (c : Nat × Nat) : Nat := rowMajor battleRowMax c

/-- Cells of the grid have places of their own. -/
lemma cellIndex_inj {c d : Nat × Nat} (inGrid : InGrid c) (inGrid' : InGrid d) (same : cellIndex c = cellIndex d) :
    c = d := rowMajor_inj inGrid.2 inGrid'.2 same

/-- The defenders' cells, in the order in which the loops visit them. -/
def defenderCells : List (Nat × Nat) :=
  (List.range battleRowMax).flatMap fun row => (List.range defenderColMax).map fun col => (col, row)

/-- The attackers' cells, in the order in which the loops visit them. -/
def attackerCells : List (Nat × Nat) :=
  (List.range battleRowMax).flatMap fun row => [(attackerColMin, row), (attackerColMin + 1, row)]

/-- A defender's column (source `BattleSystem::isDefPos`). -/
def isDefPos (col : Nat) : Bool := col < defenderColMax

/-- source `BattleSystem::isAtkPos` -/
def isAtkPos (col : Nat) : Bool := !isDefPos col

/-- source `BattleSystem::isDefPosBackRow` -/
def isDefPosBackRow (col : Nat) : Bool := isDefPos col && col ≠ defenderColMax - 1

/-- source `BattleSystem::isAtkPosBackRow` -/
def isAtkPosBackRow (col : Nat) : Bool := isAtkPos col && col ≠ attackerColMin

namespace Engine

/-- source `m_BattleUnit[col][row]` -/
def battleUnit (b : Engine) (col row : Nat) : Option Nat := b.m_battleUnit (cellIndex (col, row))

/-- The first row behind a column is row 0 of the next column. -/
lemma battleUnit_next (b : Engine) (col : Nat) : b.battleUnit col battleRowMax = b.battleUnit (col + 1) 0 :=
  congrArg b.m_battleUnit (rowMajor_add battleRowMax col 0)

/-- The unit in a cell (source `BattleSystem::GetBattleUnit`). The bounds check lets one column and one row
too many pass: row 5 of a column is row 0 of the next one, and behind the last column is read whatever the memory
holds there. -/
def getBattleUnit (b : Engine) (col row : Nat) : Option Nat :=
  if battleColMax < col ∨ battleRowMax < row then none else b.battleUnit col row

/-- source `BattleSystem::GetAttacker` -/
def getAttacker (b : Engine) (action : BattleAction) : Option Nat :=
  b.getBattleUnit action.atkCol action.atkRow

/-- source `BattleSystem::GetVictim` -/
def getVictim (b : Engine) (action : BattleAction) : Option Nat :=
  b.getBattleUnit action.tgtCol action.tgtRow

/-- source `BattleSystem::IncAction`; the counter is a `uint8` -/
def incAction (b : Engine) : Engine :=
  { b with playerActionCount := u8 (b.playerActionCount + 1) }

/-- source `BattleSystem::isActionComplete` -/
def isActionComplete (b : Engine) : Bool := b.playerActionNeed = b.playerActionCount

/-- Queues an action with the agility of its attacker (source `BattleSystem::AddBattleAction`). -/
def addBattleAction (b : Engine) (action : BattleAction) : Engine :=
  match b.getAttacker action with
  | none => b
  | some u => { b with unitTurn := b.unitTurn ++ [{ action with agility := (b.units u).agility }] }

/-- A living unit in a cell. -/
def standing (b : Engine) (c : Nat × Nat) : Bool :=
  match b.battleUnit c.1 c.2 with
  | none => false
  | some u => !(b.units u).isDead

end Engine

end Legacy.Battle
