import Legacy.Battle.Combat
import Mathlib.Data.List.InsertIdx

/-!
# What the operations of a battle leave alone

`Shifts` bounds what an operation does to the grid and to the units: types and spells stay, cells are only
cleared or take one new unit, the lists of players and pets stay consistent, and a dead creature stays
dead. `SameTurn` says that an operation does not touch the turn. Each operation of `BattleSystem` has its
lemma here.
-/

namespace Legacy.Battle
open Legacy.Lib

/-- An action on its own cell keeps the attacker. -/
lemma selfTarget_atkCell (action : BattleAction) : action.selfTarget.atkCell = action.atkCell := by
  rw [BattleAction.selfTarget]
  split <;> rfl

namespace Engine

/-- Players and pets are what their lists take them for. -/
structure Staffed (b : Engine) : Prop where
  players : ∀ p ∈ b.playerList, (b.units p).type = .player
  pets : ∀ o, ∀ pet ∈ (b.units o).pets, (b.units pet).type = .pet o
  battlePets : ∀ o, ∀ pet ∈ (b.units o).battlePet, (b.units pet).type = .pet o

/-- What an operation may change, where `new u i` says that it may put the unit `u` into the place `i` of the grid. -/
structure Shifts (new : Nat → Nat → Prop) (b b' : Engine) : Prop where
  type : ∀ u, (b'.units u).type = (b.units u).type
  spells : ∀ u, (b'.units u).spells = (b.units u).spells
  cell : ∀ col row u, b'.battleUnit col row = some u → b.battleUnit col row = some u ∨ new u (cellIndex (col, row))
  playerList : ∀ p ∈ b'.playerList, p ∈ b.playerList
  staffed : b.Staffed → b'.Staffed
  fallen : ∀ u, (b.units u).type = .creature → (b.units u).isDead → (b'.units u).isDead

/-- No unit enters a cell. -/
abbrev Fades (b b' : Engine) : Prop := Shifts (fun _ _ => False) b b'

/-- The state of the turn is the same, but perhaps for its counter. -/
structure SameQueue (b b' : Engine) : Prop where
  unitTurn : b'.unitTurn = b.unitTurn
  actions : b'.actions = b.actions
  waitForAction : b'.waitForAction = b.waitForAction
  playerActionNeed : b'.playerActionNeed = b.playerActionNeed

/-- The state of the turn is the same. -/
structure SameTurn (b b' : Engine) : Prop extends SameQueue b b' where
  playerActionCount : b'.playerActionCount = b.playerActionCount

variable {b b₁ b' : Engine} {new : Nat → Nat → Prop}

/-- A unit that is read inside the bounds of the function stands there. -/
lemma getBattleUnit_some {col row u : Nat} (cell : b.getBattleUnit col row = some u) :
    b.battleUnit col row = some u := by
  rw [getBattleUnit] at cell
  split at cell
  · cases cell
  · exact cell

/-- The attacker only depends on its cell. -/
lemma getAttacker_of_cell {a a' : BattleAction} (b : Engine) (cell : a.atkCell = a'.atkCell) :
    b.getAttacker a = b.getAttacker a' := by
  rw [BattleAction.atkCell, BattleAction.atkCell, Prod.mk.injEq] at cell
  rw [getAttacker, getAttacker, cell.1, cell.2]

/-- Having the same queue is transitive. -/
lemma SameQueue.trans (same : SameQueue b b₁) (same' : SameQueue b₁ b') : SameQueue b b' :=
  ⟨same'.unitTurn.trans same.unitTurn, same'.actions.trans same.actions,
    same'.waitForAction.trans same.waitForAction, same'.playerActionNeed.trans same.playerActionNeed⟩

/-- A turn is the same as itself. -/
lemma SameTurn.refl (b : Engine) : SameTurn b b := ⟨⟨rfl, rfl, rfl, rfl⟩, rfl⟩

/-- Being the same turn is transitive. -/
lemma SameTurn.trans (same : SameTurn b b₁) (same' : SameTurn b₁ b') : SameTurn b b' :=
  ⟨same.toSameQueue.trans same'.toSameQueue, same'.playerActionCount.trans same.playerActionCount⟩

/-- An operation on a grid with the same units, cells and players. -/
lemma Fades.of_eq (units : b'.units = b.units) (cells : b'.battleUnit = b.battleUnit)
    (players : b'.playerList = b.playerList) : Fades b b' := by
  refine ⟨fun u => by rw [units], fun u => by rw [units], fun col row u cell => Or.inl (cells ▸ cell),
    fun p mem => players ▸ mem, fun staffed => ?_, fun u _ dead => by rwa [units]⟩
  exact ⟨by rw [players, units]; exact staffed.players, by rw [units]; exact staffed.pets,
    by rw [units]; exact staffed.battlePets⟩

/-- Nobody enters where nothing is done. -/
lemma Fades.refl (b : Engine) : Fades b b := Fades.of_eq rfl rfl rfl

/-- Where nobody enters, a unit that is read has been there before. -/
lemma Fades.getBattleUnit (fades : Fades b b') {col row u : Nat} (cell : b'.getBattleUnit col row = some u) :
    b.getBattleUnit col row = some u := by
  rw [Engine.getBattleUnit] at cell ⊢
  split at cell
  · cases cell
  · next inside => exact (if_neg inside).trans ((fades.cell col row u cell).resolve_right id)

/-- Writing one unit. -/
lemma setUnit_units (b : Engine) (u v : Nat) (unit : Unit) :
    (b.setUnit u unit).units v = if v = u then unit else b.units v := Function.update_apply b.units u unit v

/-- A change of one unit in which its type and its spells stay, and its pets are its own. -/
lemma setUnit_fades {u : Nat} {unit : Unit} (type : unit.type = (b.units u).type)
    (spells : unit.spells = (b.units u).spells)
    (pets : b.Staffed → ∀ pet ∈ unit.pets, (b.units pet).type = .pet u)
    (battlePet : b.Staffed → ∀ pet ∈ unit.battlePet, (b.units pet).type = .pet u)
    (fallen : (b.units u).type = .creature → (b.units u).isDead → unit.isDead) :
    Fades b (b.setUnit u unit) := by
  have types : ∀ v, ((b.setUnit u unit).units v).type = (b.units v).type := by
    intro v
    rw [setUnit_units]
    split
    · next eq => rw [type, eq]
    · rfl
  refine ⟨types, fun v => ?spells, fun _ _ _ cell => Or.inl cell, fun _ mem => mem,
    fun staffed => ⟨fun p mem => ?players, fun o pet mem => ?pets, fun o pet mem => ?battlePets⟩,
    fun v creature dead => ?fallen⟩
  case spells =>
    rw [setUnit_units]
    split
    · next eq => rw [spells, eq]
    · rfl
  case players =>
    rw [types]
    exact staffed.players p mem
  case pets =>
    rw [types]
    rw [setUnit_units] at mem
    split at mem
    · next eq => exact eq ▸ pets staffed pet mem
    · exact staffed.pets o pet mem
  case battlePets =>
    rw [types]
    rw [setUnit_units] at mem
    split at mem
    · next eq => exact eq ▸ battlePet staffed pet mem
    · exact staffed.battlePets o pet mem
  case fallen =>
    rw [setUnit_units]
    split
    · next eq =>
      subst eq
      exact fallen creature dead
    · exact dead

/-- A change of the state or the hit points of one unit. -/
lemma setUnit_fades_same {u : Nat} {unit : Unit} (type : unit.type = (b.units u).type)
    (spells : unit.spells = (b.units u).spells) (pets : unit.pets = (b.units u).pets)
    (battlePet : unit.battlePet = (b.units u).battlePet)
    (fallen : (b.units u).type = .creature → (b.units u).isDead → unit.isDead) : Fades b (b.setUnit u unit) :=
  setUnit_fades type spells (fun staffed => pets ▸ staffed.pets u)
    (fun staffed => battlePet ▸ staffed.battlePets u) fallen

/-- A change of the grid, and then one where nobody enters. -/
lemma Shifts.trans_fades (shifts : Shifts new b b₁) (fades : Fades b₁ b') : Shifts new b b' := by
  refine ⟨fun u => (fades.type u).trans (shifts.type u), fun u => (fades.spells u).trans (shifts.spells u),
    fun col row u cell => ?_, fun p mem => shifts.playerList p (fades.playerList p mem),
    fun staffed => fades.staffed (shifts.staffed staffed), fun u creature dead => ?_⟩
  · exact shifts.cell col row u ((fades.cell col row u cell).resolve_right id)
  · exact fades.fallen u ((shifts.type u).trans creature) (shifts.fallen u creature dead)

/-- A change where nobody enters, and then one of the grid. -/
lemma Fades.trans_shifts (fades : Fades b b₁) (shifts : Shifts new b₁ b') : Shifts new b b' := by
  refine ⟨fun u => (shifts.type u).trans (fades.type u), fun u => (shifts.spells u).trans (fades.spells u),
    fun col row u cell => ?_, fun p mem => fades.playerList p (shifts.playerList p mem),
    fun staffed => shifts.staffed (fades.staffed staffed), fun u creature dead => ?_⟩
  · rcases shifts.cell col row u cell with old | placed
    · exact Or.inl ((fades.cell col row u old).resolve_right id)
    · exact Or.inr placed
  · exact shifts.fallen u ((fades.type u).trans creature) (fades.fallen u creature dead)

/-- Clearing a cell lets nobody in. -/
lemma clearCell_fades (b : Engine) (c : Nat × Nat) : Fades b (b.clearCell c) := by
  refine ⟨fun _ => rfl, fun _ => rfl, fun col row u cell => Or.inl ?_, fun _ mem => mem,
    fun staffed => ⟨staffed.players, staffed.pets, staffed.battlePets⟩, fun _ _ dead => dead⟩
  rw [clearCell_battleUnit] at cell
  split at cell
  · cases cell
  · exact cell

/-- Counting an action lets nobody in. -/
lemma incIf_fades (b : Engine) (acted : Bool) : Fades b (b.incIf acted) := by
  cases acted with
  | true => exact Fades.of_eq rfl rfl rfl
  | false => exact Fades.refl b

/-- A player takes one of its pets into battle, or none. -/
lemma setBattlePet_fades {p : Nat} {pet : Option Nat}
    (typed : b.Staffed → ∀ q ∈ pet, (b.units q).type = .pet p) : Fades b (b.setBattlePet p pet) :=
  setUnit_fades rfl rfl (fun staffed => staffed.pets p) typed fun _ dead => dead

/-- A player leaves with its pet. -/
lemma leaveBattle_fades {p : Nat} (staffed : b.Staffed) (player : (b.units p).type = .player) :
    Fades b (b.leaveBattle p) := by
  have same : ∀ u, ((b.leaveBattle p).units u).type = (b.units u).type ∧
      ((b.leaveBattle p).units u).spells = (b.units u).spells ∧
      ((b.leaveBattle p).units u).pets = (b.units u).pets ∧
      ((b.leaveBattle p).units u).battlePet = (b.units u).battlePet := by
    intro u
    simp only [leaveBattle]
    split
    · rw [Unit.leaveBattle]
      split <;> exact ⟨rfl, rfl, rfl, rfl⟩
    · exact ⟨rfl, rfl, rfl, rfl⟩
  refine ⟨fun u => (same u).1, fun u => (same u).2.1, fun col row u cell => Or.inl ?cell,
    fun q mem => (List.mem_filter.mp mem).1, fun _ => ⟨fun q mem => ?players, fun o pet mem => ?pets,
    fun o pet mem => ?battlePets⟩, fun u creature dead => ?fallen⟩
  case cell =>
    simp only [leaveBattle, battleUnit] at cell
    split at cell
    · exact (Option.filter_eq_some_iff.mp cell).1
    · exact cell
  case players =>
    rw [(same q).1]
    exact staffed.players q (List.mem_filter.mp mem).1
  case pets =>
    rw [(same pet).1]
    exact staffed.pets o pet ((same o).2.2.1 ▸ mem)
  case battlePets =>
    rw [(same pet).1]
    exact staffed.battlePets o pet ((same o).2.2.2 ▸ mem)
  case fallen =>
    -- neither the player nor its pet is a creature
    have other : ¬(u = p ∨ (b.units p).battlePet = some u) := by
      rintro (rfl | pet)
      · rw [player] at creature
        cases creature
      · rw [staffed.battlePets p u pet] at creature
        cases creature
    simp only [leaveBattle, if_neg other]
    exact dead

/-- Leaving keeps the turn. -/
lemma leaveBattle_sameTurn (b : Engine) (p : Nat) : SameTurn b (b.leaveBattle p) := ⟨⟨rfl, rfl, rfl, rfl⟩, rfl⟩

/-- The end of a turn moves nobody. -/
lemma resetCell_battleUnit (b : Engine) (c : Nat × Nat) : (b.resetCell c).battleUnit = b.battleUnit := by
  rw [resetCell]
  cases b.battleUnit c.1 c.2 with
  | none => rfl
  | some u => rfl

/-- Resetting a cell lets nobody in. -/
lemma resetCell_fades (b : Engine) (c : Nat × Nat) : Fades b (b.resetCell c) := by
  rw [resetCell]
  cases b.battleUnit c.1 c.2 with
  | none => exact Fades.refl b
  | some u =>
    obtain ⟨state, disabled, positive, eq⟩ := (b.units u).endTurn_eq
    have fades : Fades b (b.setUnit u (b.units u).endTurn) := by
      rw [eq]
      exact setUnit_fades_same rfl rfl rfl rfl fun _ dead => dead
    exact fades.trans_fades (Fades.of_eq rfl rfl rfl)

/-- Resetting cells lets nobody in. -/
lemma resetCells_fades (cells : List (Nat × Nat)) (b : Engine) : Fades b (cells.foldl resetCell b) := by
  induction cells generalizing b with
  | nil => exact Fades.refl b
  | cons c cells ih => exact (resetCell_fades b c).trans_fades (ih _)

/-- The end of a turn changes what befell the units. -/
lemma sendTurnComplete_fades (b : Engine) : Fades b b.sendTurnComplete := by
  have start : Fades b { b with actionTime := 0, playerActionCount := 0, playerActionNeed := 0 } :=
    Fades.of_eq rfl rfl rfl
  exact (start.trans_fades (resetCells_fades rowCells _)).trans_fades (Fades.of_eq rfl rfl rfl)

/-- Resetting a cell keeps the queue, the lists and the counter. -/
lemma resetCell_turn (b : Engine) (c : Nat × Nat) :
    (b.resetCell c).unitTurn = b.unitTurn ∧ (b.resetCell c).actions = b.actions ∧
      (b.resetCell c).playerActionCount = b.playerActionCount := by
  rw [resetCell]
  cases b.battleUnit c.1 c.2 with
  | none => exact ⟨rfl, rfl, rfl⟩
  | some u => exact ⟨rfl, rfl, rfl⟩

/-- Resetting cells keeps the queue, the lists and the counter. -/
lemma resetCells_turn (cells : List (Nat × Nat)) (b : Engine) :
    (cells.foldl resetCell b).unitTurn = b.unitTurn ∧ (cells.foldl resetCell b).actions = b.actions ∧
      (cells.foldl resetCell b).playerActionCount = b.playerActionCount := by
  induction cells generalizing b with
  | nil => exact ⟨rfl, rfl, rfl⟩
  | cons c cells ih =>
    obtain ⟨queue, lists, count⟩ := ih (b.resetCell c)
    obtain ⟨queue', lists', count'⟩ := resetCell_turn b c
    exact ⟨queue.trans queue', lists.trans lists', count.trans count'⟩

/-- The end of a turn keeps the queue and the lists and starts to count anew. -/
lemma sendTurnComplete_turn (b : Engine) :
    b.sendTurnComplete.unitTurn = b.unitTurn ∧ b.sendTurnComplete.actions = b.actions ∧
      b.sendTurnComplete.playerActionCount = 0 := resetCells_turn rowCells _

/-- The operations that only count down the animations and give items. -/
def Quiet (b b' : Engine) : Prop :=
  ∃ animation dropped killed items, b' = { b with
    animationTime := animation, animationTimeItemDropped := dropped, creatureKilled := killed, itemDropped := items }

/-- What is quiet lets nobody in. -/
lemma Quiet.fades (quiet : Quiet b b') : Fades b b' := by
  obtain ⟨_, _, _, _, rfl⟩ := quiet
  exact Fades.of_eq rfl rfl rfl

/-- What is quiet keeps the turn. -/
lemma Quiet.sameTurn (quiet : Quiet b b') : SameTurn b b' := by
  obtain ⟨_, _, _, _, rfl⟩ := quiet
  exact ⟨⟨rfl, rfl, rfl, rfl⟩, rfl⟩

/-- Without dropped items nothing happens, and otherwise their animation begins. -/
lemma giveItemDropped_cases (run : b.giveItemDropped = .ok b') :
    b.itemDropped = [] ∧ b' = b ∨
      b.itemDropped ≠ [] ∧ b' = { b with animationTimeItemDropped := 3, itemDropped := [] } := by
  rw [giveItemDropped] at run
  split at run
  · next empty =>
    cases run
    exact Or.inl ⟨empty, rfl⟩
  · next full =>
    split at run
    · cases run
      exact Or.inr ⟨full, rfl⟩
    · cases run

/-- Giving dropped items is quiet. -/
lemma giveItemDropped_quiet (run : b.giveItemDropped = .ok b') : Quiet b b' := by
  rcases giveItemDropped_cases run with ⟨-, rfl⟩ | ⟨-, rfl⟩
  · exact ⟨_, _, _, _, rfl⟩
  · exact ⟨_, _, _, _, rfl⟩

/-- What follows a kill is quiet. -/
lemma giveAfterKill_quiet (run : b.giveAfterKill = .ok b') : Quiet b b' := by
  rw [giveAfterKill] at run
  split at run
  · obtain ⟨_, _, _, _, rfl⟩ := giveItemDropped_quiet run
    exact ⟨_, _, _, _, rfl⟩
  · cases run
    exact ⟨_, _, _, _, rfl⟩

/-- The battle goes on, and the update performs the next actions or starts a turn. -/
def Sends (b : Engine) : Prop :=
  b.animationTimeItemDropped = 0 ∧ b.animationTime = 0 ∧ b.waitForAction = false ∧
    (b.itemDropped ≠ [] ∨ b.decided = false)

/-- The check for the end is quiet, and what it says when nothing is animated. -/
lemma battleConcluded_cases {concluded : Bool} (run : b.battleConcluded = .ok (concluded, b')) :
    Quiet b b' ∧ b'.animationTime = b.animationTime ∧ (concluded = false →
      b.animationTimeItemDropped = 0 → b.animationTime = 0 → b.itemDropped ≠ [] ∨ b.decided = false) := by
  rw [battleConcluded] at run
  split at run
  · next animation =>
    cases run
    refine ⟨⟨_, _, _, _, rfl⟩, rfl, fun _ _ still => ?_⟩
    exact absurd still (Nat.ne_of_gt animation)
  · obtain ⟨b₁, give, run⟩ := bind_eq_ok.mp run
    cases run
    have quiet := giveItemDropped_quiet give
    rcases giveItemDropped_cases give with ⟨-, rfl⟩ | ⟨full, rfl⟩
    · refine ⟨quiet, rfl, fun goes still _ => ?_⟩
      rw [still] at goes
      exact Or.inr goes
    · exact ⟨quiet, rfl, fun _ _ _ => Or.inl full⟩

/-- Two quiet operations are quiet together. -/
lemma Quiet.trans (quiet : Quiet b b₁) (quiet' : Quiet b₁ b') : Quiet b b' := by
  obtain ⟨_, _, _, _, rfl⟩ := quiet
  obtain ⟨_, _, _, _, rfl⟩ := quiet'
  exact ⟨_, _, _, _, rfl⟩

/-- The lists of actions do not matter for a redirection. -/
lemma redirectTarget_none {action : BattleAction} (lists : Nat → List BattleAction)
    (attacker : b.getAttacker action = none) :
    redirectTarget { b with actions := lists } action = .error (.null .redirectTarget) := by
  have here : getAttacker { b with actions := lists } action = none := attacker
  rw [redirectTarget, here]

/-- An action with an attacker is redirected. -/
lemma redirectTarget_some {action : BattleAction} {u : Nat} (lists : Nat → List BattleAction)
    (attacker : b.getAttacker action = some u) :
    redirectTarget { b with actions := lists } action = .ok (b.redirected action) := by
  have here : getAttacker { b with actions := lists } action = some u := attacker
  rw [redirectTarget, here]
  rfl

/-- What is left of a list that is taken, and the actions of the group. -/
lemma takeList_cases {i : Nat} {g : Group} {action : BattleAction} {rest : List BattleAction}
    (list : b.actions i = action :: rest) (run : b.takeList i = .ok (b', g)) :
    ∃ left acts, b' = { b with actions := Function.update b.actions i left } ∧
      g = ⟨acts, false, spellBasic, false⟩ ∧
      (left = [] ∧ acts = action :: rest ∨
        left = rest ∧ acts = [b.redirected action] ∧ (b.getAttacker action).isSome) := by
  rw [takeList, list] at run
  simp only at run
  split at run
  · cases attacker : b.getAttacker action with
    | none =>
      rw [redirectTarget_none _ attacker] at run
      cases run
    | some u =>
      rw [redirectTarget_some _ attacker] at run
      cases run
      exact ⟨rest, _, rfl, rfl, Or.inr ⟨rfl, rfl, rfl⟩⟩
  · cases run
    exact ⟨[], _, rfl, rfl, Or.inl ⟨rfl, rfl⟩⟩

/-- Taking a list changes the lists alone. -/
lemma takeList_eq {i : Nat} {g : Group} (run : b.takeList i = .ok (b', g)) :
    ∃ lists, b' = { b with actions := lists } := by
  cases list : b.actions i with
  | nil =>
    rw [takeList, list] at run
    cases run
    exact ⟨_, rfl⟩
  | cons action rest =>
    obtain ⟨left, acts, rfl, -⟩ := takeList_cases list run
    exact ⟨_, rfl⟩

/-- The first list is not empty. -/
lemma firstList_eq_some {i : Nat} (first : b.firstList = some i) : i < actionLists ∧ b.actions i ≠ [] := by
  have full := List.find?_some first
  exact ⟨List.mem_range.mp (List.mem_of_find?_eq_some first), of_decide_eq_true full⟩

/-- A redirected action keeps its attacker and its skill. -/
lemma redirected_atkCell (b : Engine) (action : BattleAction) :
    (b.redirected action).atkCell = action.atkCell ∧ (b.redirected action).skill = action.skill := by
  rw [redirected]
  split <;> exact ⟨rfl, rfl⟩

/-- The actions of a group come from the list that was taken, perhaps with another target. -/
lemma takeList_mem {i : Nat} {g : Group} (first : b.firstList = some i) (run : b.takeList i = .ok (b', g)) :
    (∀ j, ∀ a ∈ b'.actions j, a ∈ b.actions j) ∧
      ∀ a ∈ g.rest, ∃ a₀ ∈ b.actions i, a.atkCell = a₀.atkCell ∧ a.skill = a₀.skill := by
  obtain ⟨action, rest, list⟩ := List.exists_cons_of_ne_nil (firstList_eq_some first).2
  obtain ⟨left, acts, rfl, rfl, taken⟩ := takeList_cases list run
  rw [list]
  refine ⟨fun j a mem => ?_, fun a mem => ?_⟩
  · simp only [Function.update_apply] at mem
    split at mem
    · next eq =>
      subst eq
      rcases taken with ⟨rfl, -⟩ | ⟨rfl, -, -⟩
      · cases mem
      · rw [list]
        exact List.mem_cons_of_mem _ mem
    · exact mem
  · rcases taken with ⟨-, rfl⟩ | ⟨-, rfl, -⟩
    · exact ⟨a, mem, rfl, rfl⟩
    · cases List.mem_singleton.mp mem
      exact ⟨action, List.mem_cons_self, redirected_atkCell b action⟩

/-- Without a first list all are empty. -/
lemma firstList_eq_none (none : b.firstList = none) : ∀ i < actionLists, b.actions i = [] := by
  intro i lt
  have empty := List.find?_eq_none.mp none i (List.mem_range.mpr lt)
  simp only [decide_not, Bool.not_eq_true', decide_eq_false_iff_not, not_not] at empty
  exact empty

/-- The next list is taken, or the turn is complete. -/
lemma nextActions_cases {control : Control} (run : b.nextActions = .ok (b', control)) :
    ∃ b₁, Quiet b b₁ ∧
      (b₁.firstList = none ∧ b' = b₁.sendTurnComplete ∧ control = .concluding ∨
        ∃ i g, b₁.firstList = some i ∧ b₁.takeList i = .ok (b', g) ∧ control = .group g) := by
  rw [nextActions] at run
  obtain ⟨b₁, give, run⟩ := bind_eq_ok.mp run
  refine ⟨b₁, giveAfterKill_quiet give, ?_⟩
  split at run
  · next none =>
    cases run
    exact Or.inl ⟨none, rfl, rfl⟩
  · next i first =>
    obtain ⟨⟨b₂, g⟩, take, run⟩ := bind_eq_ok.mp run
    cases run
    exact Or.inr ⟨i, g, first, take, rfl⟩

/-- What an update can do: count down, end the battle or wait; start a turn when no action is left; or take
the first list of actions. -/
lemma updateBattleAction_cases {control : Control} (run : b.updateBattleAction = .ok (b', control)) :
    Quiet b b' ∧ (control = .concluding ∨ control = .over) ∨
      b.Sends ∧ ∃ b₁, Quiet b b₁ ∧
        (b₁.firstList = none ∧ b' = b₁.sendTurnComplete ∧ control = .concluding ∨
          ∃ i g, b₁.firstList = some i ∧ b₁.takeList i = .ok (b', g) ∧ control = .group g) := by
  rw [updateBattleAction] at run
  split at run
  · cases run
    exact Or.inl ⟨⟨_, _, _, _, rfl⟩, Or.inl rfl⟩
  · next noItems =>
    obtain ⟨⟨concluded, b₁⟩, conclude, run⟩ := bind_eq_ok.mp run
    obtain ⟨quiet, animation, goes⟩ := battleConcluded_cases conclude
    simp only at run
    split at run
    · cases run
      exact Or.inl ⟨quiet, Or.inr rfl⟩
    · next running =>
      split at run
      · cases run
        exact Or.inl ⟨quiet, Or.inl rfl⟩
      · next resolving =>
        split at run
        · cases run
          exact Or.inl ⟨quiet.trans ⟨_, _, _, _, rfl⟩, Or.inl rfl⟩
        · next animated =>
          have still : b.animationTime = 0 := by omega
          have given : b.animationTimeItemDropped = 0 := by omega
          obtain ⟨b₂, quiet', res⟩ := nextActions_cases run
          rw [quiet.sameTurn.waitForAction, Bool.not_eq_true] at resolving
          exact Or.inr ⟨⟨given, still, resolving, goes (Bool.eq_false_of_not_eq_true running) given still⟩,
            b₂, quiet.trans quiet', res⟩

/-- The pet of a player is put into the place before or behind the player. -/
def Placed (b : Engine) (p pet u i : Nat) : Prop :=
  u = pet ∧ ∃ d ∈ colCells, b.battleUnit d.1 d.2 = some p ∧ cellIndex (petCell d) = i

/-- The position of a unit is one of the cells, and the unit stands there. -/
lemma getPosFor_eq_some {u : Nat} {c : Nat × Nat} (pos : b.getPosFor u = some c) :
    c ∈ colCells ∧ b.battleUnit c.1 c.2 = some u := by
  have found := List.find?_some pos
  exact ⟨List.mem_of_find?_eq_some pos, of_decide_eq_true found⟩

/-- Taking a pet out lets nobody in. -/
lemma deactivatePetFor_fades (b : Engine) (p : Nat) (falls : Bool) : Fades b (b.deactivatePetFor p falls).1 := by
  rw [deactivatePetFor]
  split
  · exact clearCell_fades b _
  · exact Fades.refl b

/-- Taking a pet out keeps the turn. -/
lemma deactivatePetFor_sameTurn (b : Engine) (p : Nat) (falls : Bool) :
    SameTurn b (b.deactivatePetFor p falls).1 := by
  rw [deactivatePetFor]
  split
  · exact ⟨⟨rfl, rfl, rfl, rfl⟩, rfl⟩
  · exact SameTurn.refl b

/-- Counting an action keeps the queue. -/
lemma incIf_sameQueue (b : Engine) (acted : Bool) : SameQueue b (b.incIf acted) := by
  cases acted with
  | true => exact ⟨rfl, rfl, rfl, rfl⟩
  | false => exact ⟨rfl, rfl, rfl, rfl⟩

/-- A pet that is brought in is the one that enters. -/
lemma activatePetFor_shifts (b : Engine) (p pet : Nat) : Shifts (Placed b p pet) b (b.activatePetFor p pet).1 := by
  have refl : Shifts (Placed b p pet) b b :=
    ⟨fun _ => rfl, fun _ => rfl, fun _ _ _ cell => Or.inl cell, fun _ mem => mem, id, fun _ _ dead => dead⟩
  rw [activatePetFor]
  split
  · cases pos : b.getPosFor p with
    | none =>
      rw [getPetPosFor, pos]
      exact refl
    | some d =>
      rw [getPetPosFor, pos]
      refine ⟨fun _ => rfl, fun _ => rfl, fun col row u cell => ?_, fun _ mem => mem,
        fun staffed => ⟨staffed.players, staffed.pets, staffed.battlePets⟩, fun _ _ dead => dead⟩
      simp only [Option.map_some, setPosition_battleUnit] at cell
      split at cell
      · next here =>
        cases cell
        obtain ⟨mem, stands⟩ := getPosFor_eq_some pos
        exact Or.inr ⟨rfl, d, mem, stands, here.symm⟩
      · exact Or.inl cell
  · exact refl

/-- Bringing a pet in keeps the turn. -/
lemma activatePetFor_sameTurn (b : Engine) (p pet : Nat) : SameTurn b (b.activatePetFor p pet).1 := by
  rw [activatePetFor]
  split
  · split
    · exact ⟨⟨rfl, rfl, rfl, rfl⟩, rfl⟩
    · exact SameTurn.refl b
  · exact SameTurn.refl b

/-- The battle command removes the old pet and puts the new one into its place. -/
lemma battleCommand_shifts {p pet : Nat} (own : (b.units pet).type = .pet p) (falls : Bool) :
    Shifts (Placed b p pet) b (b.battleCommand p pet falls) ∧ SameQueue b (b.battleCommand p pet falls) := by
  rw [battleCommand]
  generalize rest : b.deactivatePetFor p falls = rested
  have fades₁ : Fades b (rested.1.incIf rested.2) :=
    (rest ▸ deactivatePetFor_fades b p falls).trans_fades (incIf_fades _ _)
  have same₁ : SameQueue b (rested.1.incIf rested.2) :=
    (rest ▸ deactivatePetFor_sameTurn b p falls).toSameQueue.trans (incIf_sameQueue _ _)
  generalize rested.1.incIf rested.2 = b₁ at fades₁ same₁
  have fades₂ : Fades b (b₁.setBattlePet p none) := fades₁.trans_fades (setBattlePet_fades fun _ => nofun)
  have fades₃ : Fades b ((b₁.setBattlePet p none).setBattlePet p (some pet)) := by
    refine fades₂.trans_fades (setBattlePet_fades fun _ q mem => ?_)
    cases mem
    exact (fades₂.type pet).trans own
  have same₃ : SameQueue b ((b₁.setBattlePet p none).setBattlePet p (some pet)) := same₁.trans ⟨rfl, rfl, rfl, rfl⟩
  generalize (b₁.setBattlePet p none).setBattlePet p (some pet) = b₃ at fades₃ same₃
  have placed : Shifts (Placed b p pet) b (b₃.activatePetFor p pet).1 := by
    have shifts := fades₃.trans_shifts (activatePetFor_shifts b₃ p pet)
    refine ⟨shifts.type, shifts.spells, fun col row u cell => ?_, shifts.playerList, shifts.staffed, shifts.fallen⟩
    rcases shifts.cell col row u cell with old | ⟨rfl, d, mem, stands, eq⟩
    · exact Or.inl old
    · exact Or.inr ⟨rfl, d, mem, (fades₃.cell d.1 d.2 p stands).resolve_right id, eq⟩
  exact ⟨placed.trans_fades (incIf_fades _ _),
    same₃.trans ((activatePetFor_sameTurn b₃ p pet).toSameQueue.trans (incIf_sameQueue _ _))⟩

/-- A command to rest lets nobody in and keeps the queue. -/
lemma restCommand_fades (b : Engine) (p : Nat) (falls : Bool) :
    Fades b (b.restCommand p falls) ∧ SameQueue b (b.restCommand p falls) := by
  rw [restCommand]
  cases (b.units p).battlePet with
  | none => exact ⟨setBattlePet_fades fun _ => nofun, rfl, rfl, rfl, rfl⟩
  | some pet =>
    generalize rest : b.deactivatePetFor p falls = rested
    have fades : Fades b (rested.1.incIf rested.2) :=
      (rest ▸ deactivatePetFor_fades b p falls).trans_fades (incIf_fades _ _)
    have same : SameQueue b (rested.1.incIf rested.2) :=
      (rest ▸ deactivatePetFor_sameTurn b p falls).toSameQueue.trans (incIf_sameQueue _ _)
    have counted : Fades b (rested.1.incIf rested.2).incAction := fades.trans_fades (Fades.of_eq rfl rfl rfl)
    exact ⟨counted.trans_fades (setBattlePet_fades fun _ => nofun), same.trans ⟨rfl, rfl, rfl, rfl⟩⟩

/-- The pet that is found belongs to the player. -/
lemma getPetByModelId_own {p modelId pet : Nat} (staffed : b.Staffed) (found : b.getPetByModelId p modelId = some pet) :
    (b.units pet).type = .pet p := staffed.pets p pet (List.mem_of_find?_eq_some found)

/-- A pet command may put a pet of the player into a cell; it leaves the queue and the lists. -/
lemma petCommand_cases {p : Nat} {command : PetCommand} {falls : Bool} (staffed : b.Staffed)
    (run : b.petCommand p command falls = some b') :
    SameQueue b b' ∧ (Fades b b' ∨ ∃ modelId pet, command = .battle modelId ∧
      b.getPetByModelId p modelId = some pet ∧ Shifts (Placed b p pet) b b') := by
  cases command with
  | battle modelId =>
    obtain ⟨pet, found, rfl⟩ := Option.map_eq_some_iff.mp run
    obtain ⟨shifts, same⟩ := battleCommand_shifts (getPetByModelId_own staffed found) falls
    exact ⟨same, Or.inr ⟨modelId, pet, rfl, found, shifts⟩⟩
  | rest =>
    cases run
    obtain ⟨fades, same⟩ := restCommand_fades b p falls
    exact ⟨same, Or.inl fades⟩
  | other =>
    cases run
    exact ⟨⟨rfl, rfl, rfl, rfl⟩, Or.inl (Fades.refl b)⟩

/-- Queueing an action moves nobody. -/
lemma addBattleAction_fades (b : Engine) (action : BattleAction) : Fades b (b.addBattleAction action) := by
  obtain ⟨q, eq⟩ := addBattleAction_queue b action
  rw [eq]
  exact Fades.of_eq rfl rfl rfl

/-- Queueing an action touches neither the lists nor the counter. -/
lemma addBattleAction_turn (b : Engine) (action : BattleAction) :
    (b.addBattleAction action).actions = b.actions ∧
      (b.addBattleAction action).waitForAction = b.waitForAction ∧
      (b.addBattleAction action).playerActionNeed = b.playerActionNeed ∧
      (b.addBattleAction action).playerActionCount = b.playerActionCount := by
  obtain ⟨q, eq⟩ := addBattleAction_queue b action
  rw [eq]
  exact ⟨rfl, rfl, rfl, rfl⟩

/-- Building the actions fills the lists and empties the queue. -/
lemma buildActions_eq {rules : Rules} {dice : TurnDice} (run : buildActions rules dice b = .ok b') :
    ∃ lists, b' = { b with waitForAction := false, actionTime := 0, unitTurn := [], actions := lists } := by
  rw [buildActions] at run
  obtain ⟨b₁, move, run⟩ := bind_eq_ok.mp run
  obtain ⟨q, rfl⟩ := aiMove_queue move
  obtain ⟨placed, -, run⟩ := bind_eq_ok.mp run
  cases run
  exact ⟨_, rfl⟩

/-- A catch changes at most the pets of the catcher. -/
lemma catchPet_cases {action : BattleAction} {dice : ActDice} {catched : Bool}
    (run : b.catchPet action dice = .ok (b', catched)) :
    catched = false ∧ b' = b ∨
      ∃ p slot pet, catched = true ∧ (b.units pet).type = .pet p ∧ b' = b.summonPet p slot pet := by
  rw [catchPet] at run
  split at run
  · split at run
    · split at run
      · split at run
        · cases run
          exact Or.inl ⟨rfl, rfl⟩
        · split at run
          · next own =>
            cases run
            exact Or.inr ⟨_, _, _, rfl, own, rfl⟩
          · cases run
      · cases run
        exact Or.inl ⟨rfl, rfl⟩
    · cases run
  · cases run
    exact Or.inl ⟨rfl, rfl⟩

/-- A catch lets nobody in and keeps the turn. -/
lemma catchPet_fades {action : BattleAction} {dice : ActDice} {catched : Bool}
    (run : b.catchPet action dice = .ok (b', catched)) : Fades b b' ∧ SameTurn b b' := by
  rcases catchPet_cases run with ⟨-, rfl⟩ | ⟨p, slot, pet, -, own, rfl⟩
  · exact ⟨Fades.refl b', SameTurn.refl b'⟩
  · refine ⟨setUnit_fades rfl rfl (fun staffed q mem => ?_) (fun staffed => staffed.battlePets p) fun _ dead => dead,
      ⟨rfl, rfl, rfl, rfl⟩, rfl⟩
    rcases List.eq_or_mem_of_mem_insertIdx mem with rfl | old
    · exact own
    · exact staffed.pets p q old

/-- Only a player escapes. -/
lemma escaped_cases {action : BattleAction} (run : b.escaped action = .ok b') :
    ∃ u, (b.units u).type = .player ∧ b' = b.leaveBattle u := by
  rw [escaped] at run
  split at run
  · cases run
  · next u cell =>
    split at run
    · next player =>
      cases run
      exact ⟨u, player, rfl⟩
    · cases run

/-- An escape lets nobody in and keeps the turn. -/
lemma escaped_fades {action : BattleAction} (staffed : b.Staffed) (run : b.escaped action = .ok b') :
    Fades b b' ∧ SameTurn b b' := by
  obtain ⟨u, player, rfl⟩ := escaped_cases run
  exact ⟨leaveBattle_fades staffed player, leaveBattle_sameTurn b u⟩

end Engine

end Legacy.Battle
