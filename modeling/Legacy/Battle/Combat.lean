import Legacy.Battle.Turn
import Legacy.Battle.Spell

/-!
# The run of a battle

A battle as a transition system over the packets of its players (`src/src/game/CombatHandler.cpp`,
`PetHandler.cpp` and `ItemHandler.cpp`), the players leaving, and the update of the world
(`src/src/game/Player.cpp`, `Player::Update`). Packets and departures come between two updates. An update
passes through several steps, one for each dice of the program: building the actions, performing an action,
applying a hit. `Combat` also records what the program forgets: who queued each action, which creatures have
paid kill experience, and which have dropped an item.
-/

namespace Legacy.Battle
open Legacy.Lib

/-- The loop of `BattleSystem::SendAction`: the actions left and its local variables. -/
structure Group where
  rest : List BattleAction
  linked : Bool
  skillId : Nat
  valid : Bool
  deriving DecidableEq

/-- The loop of `BattleSystem::BuildUpdateBlockAction`: the hits left, and the group it returns to. -/
structure Hits where
  pending : List BattleAction
  sinfo : SpellInfo
  catched : Bool
  group : Group
  deriving DecidableEq

/-- Where the program is. `building` is the entry of `BuildActions`, on a timeout or on the last packet of
the turn, and `updating` that of `UpdateBattleAction`. -/
inductive Control where
  | idle
  | building (timedOut : Bool)
  | updating
  | group (g : Group)
  | hits (h : Hits)
  | concluding
  | over
  deriving DecidableEq

/-- A battle with the place where the program stands in it, and with what its handlers have done so far. -/
structure Combat where
  engine : Engine
  control : Control
  /-- The senders of the actions of `unitTurn`. -/
  queuedBy : List Nat
  kills : List Nat
  drops : List Nat

/-- The commands of `WorldSession::HandlePetCommandOpcodes`. -/
inductive PetCommand where
  | battle (modelId : Nat) | rest | other
  deriving DecidableEq

/-- The dice of an action: the escape, the catch, and the new pet with its place among the pets of the
catcher when it can be created and summoned. -/
structure ActDice where
  escape : ℚ
  catching : ℚ
  summoned : Option (Nat × Nat)

/-- The dice of a hit: the amount of the damage, the miss, and the item that was given to the inventory of the
receiver, if there was one. -/
structure HitDice where
  amount : Nat
  missed : ℚ
  drop : Option Nat

/-- What can happen next: a packet of a player, a round of the clock, or a step of the turn with its dice. -/
inductive Event where
  | attack (p : Nat) (action : BattleAction)
  | petCommand (p : Nat) (command : PetCommand) (falls : Bool)
  | useItem (p : Nat)
  | leave (p : Nat)
  | tick
  | build (dice : TurnDice)
  | update
  | act (dice : ActDice)
  | hit (dice : HitDice)
  | finish
  | conclude

namespace Unit

/-- The skill of a packet after the check of `WorldSession::HandlePlayerAttackOpcode`. -/
def checkSkill (u : Unit) (rules : Rules) (skill : Nat) : Nat :=
  if u.haveSpell skill then skill
  else if (rules.spellTemplate skill).isSome then skill
  else spellBasic

/-- source `BattleSystem::CanCatchPet`; a fifth of the hit points is rounded -/
def canCatchPet (catcher victim : Unit) (roll : ℚ) : Bool :=
  victim.hp ≤ (2 * victim.hpMax + 5) / 10 && victim.level ≤ catcher.level + 5 && 50 < roll

end Unit

namespace Engine

/-- The pet commands (source `WorldSession::HandlePetCommandOpcodes`); `none` when the handler returns
early. -/
def petCommand (b : Engine) (p : Nat) (command : PetCommand) (falls : Bool) : Option Engine :=
  match command with
  | .battle modelId => (b.getPetByModelId p modelId).map fun pet => b.battleCommand p pet falls
  | .rest => some (b.restCommand p falls)
  | .other => some b

/-- source `BattleSystem::NeedRedirectTarget` -/
def needRedirectTarget (b : Engine) (action : BattleAction) : Bool := !b.isUnitAvail action.tgtCell false

/-- The first living unit of the other side. -/
def redirected (b : Engine) (action : BattleAction) : BattleAction :=
  match (if isDefPos action.atkCol then attackerCells else defenderCells).find? b.standing with
  | none => action
  | some c => action.withTarget c

/-- source `BattleSystem::RedirectTarget`; the log lines read the name of the attacker -/
def redirectTarget (b : Engine) (action : BattleAction) : Except Halt BattleAction :=
  match b.getAttacker action with
  | none => .error (.null .redirectTarget)
  | some _ => .ok (b.redirected action)

/-- The index of the first list that is not empty. -/
def firstList (b : Engine) : Option Nat := (List.range actionLists).find? fun i => b.actions i ≠ []

/-- The beginning of `BattleSystem::SendAction`: a list is taken, and broken up when its first target is
gone. -/
def takeList (b : Engine) (i : Nat) : Except Halt (Engine × Group) :=
  let taken := { b with actions := Function.update b.actions i [] }
  match b.actions i with
  | [] => .ok (taken, ⟨[], false, spellBasic, false⟩)
  | action :: rest =>
    if taken.needRedirectTarget action then do
      let action ← taken.redirectTarget action
      return ({ b with actions := Function.update b.actions i rest }, ⟨[action], false, spellBasic, false⟩)
    else .ok (taken, ⟨action :: rest, false, spellBasic, false⟩)

/-- The items of the creatures that were killed by the action before. -/
def giveAfterKill (b : Engine) : Except Halt Engine :=
  if b.creatureKilled then giveItemDropped { b with creatureKilled := false } else .ok b

/-- The next list of actions is performed, or the turn is complete (source, the end of
`BattleSystem::UpdateBattleAction`). -/
def nextActions (b : Engine) : Except Halt (Engine × Control) := do
  let b ← b.giveAfterKill
  match b.firstList with
  | none => return (b.sendTurnComplete, .concluding)
  | some i =>
    let (b, g) ← b.takeList i
    return (b, .group g)

/-- source `BattleSystem::UpdateBattleAction`, with where the program goes from there -/
def updateBattleAction (b : Engine) : Except Halt (Engine × Control) :=
  if 0 < b.animationTimeItemDropped then
    .ok ({ b with animationTimeItemDropped := b.animationTimeItemDropped - 1 }, .concluding)
  else do
    let (concluded, b) ← b.battleConcluded
    if concluded then return (b, .over)
    else if b.waitForAction then return (b, .concluding)
    else if 0 < b.animationTime then return ({ b with animationTime := b.animationTime - 1 }, .concluding)
    else b.nextActions

/-- source `BattleSystem::WaitForAnimation` -/
def waitForAnimation (b : Engine) (skill : Nat) : Engine :=
  { b with
    animationTime :=
      if skill = spellDefense then 0
      else if skill = spellBasic ∨ skill = spellEscape then 12
      else if 26000 < skill then 40
      else 25 }

/-- A player flees (source `BattleSystem::Escaped`). -/
def escaped (b : Engine) (action : BattleAction) : Except Halt Engine :=
  match b.getBattleUnit (escapeCol action.atkCol) action.atkRow with
  | none => .error (.null .escaped)
  | some u => if (b.units u).type = .player then .ok (b.leaveBattle u) else .error .badCast

/-- The catcher of an attacker. -/
def catcher (b : Engine) (attacker : Nat) : Option Nat :=
  match (b.units attacker).type with
  | .player => some attacker
  | .pet owner => some owner
  | .creature => none

/-- source `Player::SummonPet`, after a catch -/
def summonPet (b : Engine) (p slot pet : Nat) : Engine :=
  b.setUnit p { b.units p with pets := (b.units p).pets.insertIdx slot pet }

/-- The catch of a creature (source, the cases `SPELL_CATCH` of `BattleSystem::BuildUpdateBlockAction`). -/
def catchPet (b : Engine) (action : BattleAction) (dice : ActDice) : Except Halt (Engine × Bool) :=
  if action.skill = spellCatch ∨ action.skill = spellCatch2 then
    match b.getVictim action, b.getAttacker action with
    | some victim, some attacker =>
      match b.catcher attacker, dice.summoned with
      | some p, some (slot, pet) =>
        if !(b.units p).canCatchPet (b.units victim) dice.catching then .ok (b, false)
        else if (b.units pet).type = .pet p then .ok (b.summonPet p slot pet, true)
        else .error .refused
      | _, _ => .ok (b, false)
    | _, _ => .error (.null .buildUpdateBlockAction)
  else .ok (b, false)

end Engine

namespace Control

/-- The loop over the hits goes on, or returns to its group. -/
def resume (h : Hits) : Control := if h.pending = [] then .group h.group else .hits h

end Control

namespace Combat

/-- After a packet that counts: the last one of the turn builds the actions. -/
def counted (s : Combat) : Combat :=
  { s with control := if s.engine.isActionComplete then .building false else .idle }

/-- source `WorldSession::HandlePlayerAttackOpcode` -/
def handlePlayerAttack (rules : Rules) (s : Combat) (p : Nat) (action : BattleAction) : Except Halt Combat :=
  if p ∉ s.engine.playerList then .ok s
  else
    match s.engine.getAttacker action.selfTarget with
    | none => .error .assertion
    | some u =>
      let action := { action.selfTarget with skill := (s.engine.units u).checkSkill rules action.skill }
      if s.engine.isActionComplete then .ok s
      else .ok (counted { s with
        engine := (s.engine.addBattleAction action).incAction, queuedBy := s.queuedBy ++ [p] })

/-- source `WorldSession::HandlePetCommandOpcodes` -/
def handlePetCommand (s : Combat) (p : Nat) (command : PetCommand) (falls : Bool) : Combat :=
  if p ∉ s.engine.playerList then s
  else
    match s.engine.petCommand p command falls with
    | none => s
    | some b => counted { s with engine := b }

/-- The end of `WorldSession::HandleUseItemOpcodes`. -/
def handleUseItem (s : Combat) (p : Nat) : Combat :=
  if p ∉ s.engine.playerList then s else counted { s with engine := s.engine.incAction }

/-- A player that is in the battle leaves it (source `Player::LeaveBattle`). -/
def leave (s : Combat) (p : Nat) : Combat :=
  if p ∉ s.engine.playerList then s else { s with engine := s.engine.leaveBattle p }

/-- The beginning of the update (source `BattleSystem::isActionTimedOut`, in `Player::Update`). -/
def tick (s : Combat) : Combat :=
  if s.engine.waitForAction then
    { s with
      engine := { s.engine with actionTime := s.engine.actionTime + 1 }
      control := if s.engine.actionTime + 1 < maxActionTime then .updating else .building true }
  else { s with control := .updating }

/-- `BuildActions`, and the update goes on if it was the update that called it. -/
def build (rules : Rules) (s : Combat) (timedOut : Bool) (dice : TurnDice) : Except Halt Combat :=
  match s.engine.buildActions rules dice with
  | .error f => .error (.fault f)
  | .ok b => .ok { s with engine := b, queuedBy := [], control := if timedOut then .updating else .idle }

/-- An attack that is neither skipped nor a defence (source `BattleSystem::BuildUpdateBlockAction`). -/
def buildUpdateBlockAction (rules : Rules) (s : Combat) (g : Group) (action : BattleAction) (dice : ActDice) :
    Except Halt Combat := do
  let (b, catched) ← s.engine.catchPet action dice
  match rules.spellTemplate action.skill with
  | none => throw .noTemplate
  | some sinfo =>
    return { s with
      engine := b
      control := Control.resume ⟨b.parseSpell action sinfo.hit g.linked, sinfo, catched,
        { g with skillId := action.skill, valid := true }⟩ }

/-- One action of a group (source, the body of the loop of `BattleSystem::SendAction`). A defence ends the
function at once. -/
def act (rules : Rules) (s : Combat) (g : Group) (action : BattleAction) (dice : ActDice) : Except Halt Combat :=
  let g := { g with linked := g.linked || !g.rest.isEmpty }
  match s.engine.getAttacker action with
  | none => .ok { s with control := .group g }
  | some u =>
    let attacker := s.engine.units u
    if attacker.isDead || attacker.isDisabled then .ok { s with control := .group g }
    else if action.skill = spellDefense then
      .ok { s with
        engine := s.engine.setUnit u (attacker.addUnitState Unit.defend)
        control := .group { g with rest := [], valid := false } }
    else if action.skill = spellEscape ∧ 65 < dice.escape then do
      let b ← s.engine.escaped action
      return { s with engine := b, control := .group g }
    else s.buildUpdateBlockAction rules g action dice

/-- The reward of a kill (source `BattleSystem::AddKillExpGained` and `AddKillItemDropped`). -/
def reward (s : Combat) (hit : BattleAction) (attacker victim : Nat) (drop : Option Nat) : Combat :=
  let s := { s with engine := { s.engine with creatureKilled := true } }
  if (s.engine.units victim).isMember || !(s.engine.units attacker).isMember then s
  else
    match drop with
    | none => { s with kills := s.kills ++ [victim] }
    | some item =>
      { s with
        kills := s.kills ++ [victim]
        drops := s.drops ++ [victim]
        engine := { s.engine with
          itemDropped := s.engine.itemDropped ++ [⟨hit.atkCol, hit.atkRow, item, hit.tgtCol, hit.tgtRow⟩] } }

/-- What a hit does to its victim (source `BattleSystem::BuildUpdateBlockSpellMod`). -/
def spellMod (s : Combat) (h : Hits) (hit : BattleAction) (attacker victim : Nat) (dice : HitDice) : Combat :=
  let unit := s.engine.units victim
  if unit.missedBy h.sinfo h.catched dice.missed then s
  else
    match h.sinfo.applyState unit with
    | none => s
    | some changed =>
      let dealt := changed.isDealDamageToAndKill (unit.getDamage h.sinfo dice.amount)
      let s := { s with engine := s.engine.setUnit victim dealt.1 }
      if dealt.2 then s.reward hit attacker victim dice.drop else s

/-- One hit (source, the body of the loop of `BattleSystem::BuildUpdateBlockAction`); a caught unit leaves
its cell. -/
def hit (s : Combat) (h : Hits) (hit : BattleAction) (dice : HitDice) : Except Halt Combat :=
  match s.engine.getAttacker hit, s.engine.getVictim hit with
  | some attacker, some victim =>
    let s := s.spellMod h hit attacker victim dice
    .ok { s with
      engine := if h.catched then s.engine.clearCell hit.tgtCell else s.engine
      control := Control.resume { h with pending := h.pending.tail } }
  | _, _ => .error (.null .hit)

/-- The end of `BattleSystem::SendAction`. -/
def finish (s : Combat) (g : Group) : Combat :=
  { s with
    engine := if g.valid then s.engine.waitForAnimation g.skillId else s.engine
    control := .concluding }

/-- The end of the update (source `Player::Update`). -/
def conclude (s : Combat) : Except Halt Combat := do
  let (concluded, b) ← s.engine.battleConcluded
  return { s with engine := b, control := if concluded then .over else .idle }

/-- What an event does where the program waits for it. -/
def step (rules : Rules) (s : Combat) (e : Event) : Except Halt Combat :=
  match s.control, e with
  | .idle, .attack p action => s.handlePlayerAttack rules p action
  | .idle, .petCommand p command falls => .ok (s.handlePetCommand p command falls)
  | .idle, .useItem p => .ok (s.handleUseItem p)
  | .idle, .leave p => .ok (s.leave p)
  | .idle, .tick => .ok s.tick
  | .building timedOut, .build dice => s.build rules timedOut dice
  | .updating, .update => do
    let (b, control) ← s.engine.updateBattleAction
    return { s with engine := b, control := control }
  | .group ⟨action :: rest, linked, skillId, valid⟩, .act dice =>
    s.act rules ⟨rest, linked, skillId, valid⟩ action dice
  | .group ⟨[], linked, skillId, valid⟩, .finish => .ok (s.finish ⟨[], linked, skillId, valid⟩)
  | .hits ⟨hit :: pending, sinfo, catched, group⟩, .hit dice =>
    s.hit ⟨hit :: pending, sinfo, catched, group⟩ hit dice
  | .concluding, .conclude => s.conclude
  | _, _ => .error .refused

end Combat

end Legacy.Battle
