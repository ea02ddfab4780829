import Legacy.Battle.Engine
import Legacy.Lib.Grouping

/-!
# Building the actions of a turn

Model of `BattleSystem::AIMove`, `CanLink`, `SameSide` and `BuildActions`
(`src/src/game/BattleSystem.cpp`). The creatures add their actions to the queue, the queue is sorted by
agility, and neighbours on one side that link are put into one list. `buildActions_sorted` is the main
result: no action is lost, doubled or out of order.
-/

namespace Legacy.Battle
open Legacy.Lib

/-- The dice of a turn: for each creature's cell its chance and the spell position, for each action of the
sorted queue the roll of its link to the one before. -/
structure TurnDice where
  chance : Nat → Nat → ℚ
  pos : Nat → Nat → Nat
  link : Nat → ℚ

namespace Engine

/-- The spell of a creature: a random one on a low dice, or the one of the creature before. The log line
reads the template of a random one. -/
def aiSpell (rules : Rules) (dice : TurnDice) (attacker : Unit) (c : Nat × Nat) (spell : Nat) :
    Except Fault Nat :=
  if dice.chance c.1 c.2 < 50 then
    match rules.spellTemplate (attacker.getRandomSpell (dice.pos c.1 c.2)) with
    | none => .error .nullPointer
    | some _ => .ok (attacker.getRandomSpell (dice.pos c.1 c.2))
  else .ok spell

/-- The attack of a creature on the first living attacker. -/
def aiAttack (b : Engine) (c : Nat × Nat) (spell : Nat) : Engine :=
  match attackerCells.find? b.standing with
  | none => b
  | some t => b.addBattleAction ⟨c.1, c.2, spell, t.1, t.2, 0⟩

/-- The move of one cell, with the spell chosen last (source, the body of the loop of
`BattleSystem::AIMove`). -/
def aiStep (rules : Rules) (dice : TurnDice) (s : Nat × Engine) (c : Nat × Nat) : Except Fault (Nat × Engine) :=
  match s.2.battleUnit c.1 c.2 with
  | none => .ok s
  | some u =>
    let attacker := s.2.units u
    if attacker.isMember || attacker.isDead || attacker.isDisabled then .ok s
    else do
      let spell ← aiSpell rules dice attacker c s.1
      return (spell, s.2.aiAttack c spell)

/-- The creatures queue their actions (source `BattleSystem::AIMove`). -/
def aiMove (rules : Rules) (dice : TurnDice) (b : Engine) : Except Fault Engine := do
  let s ← defenderCells.foldlM (aiStep rules dice) (spellBasic, b)
  return s.2

/-- source `BattleSystem::SameSide` -/
def sameSide (prev : Option BattleAction) (next : BattleAction) : Bool :=
  match prev with
  | none => true
  | some prev => isDefPos prev.atkCol = isDefPos next.atkCol

/-- source `BattleAction::GetProto`, read through -/
def getProto (rules : Rules) (action : BattleAction) : Except Fault SpellInfo :=
  match rules.spellTemplate action.skill with
  | none => .error .nullPointer
  | some sinfo => .ok sinfo

/-- source `BattleAction::isLinkable` -/
def isLinkable (action : BattleAction) (sinfo : SpellInfo) : Bool :=
  action.skill = spellBasic || 0 < sinfo.type

/-- The level difference that shifts the link dice. -/
def linkDiff (b : Engine) (act1 : BattleAction) : Int :=
  if attackerColMin ≤ act1.atkCol then b.atkRateLvl - b.defRateLvl else b.defRateLvl - b.atkRateLvl

/-- source `BattleSystem::CanLink` -/
def canLink (rules : Rules) (b : Engine) (dRoll : ℚ) (act1 act2 : BattleAction) : Except Fault Bool := do
  -- the log line reads both templates before any check
  let sinfo1 ← getProto rules act1
  let sinfo2 ← getProto rules act2
  return act1.tgtCol = act2.tgtCol && act1.tgtRow = act2.tgtRow &&
    !(act1.atkCol = act2.atkCol && act1.atkRow = act2.atkRow) &&
    isLinkable act1 sinfo1 && isLinkable act2 sinfo2 &&
    !decide (dRoll < 50 - (b.linkDiff act1 : ℚ)) &&
    rules.linkedAgility act1.agility act2.agility

/-- The state of the grouping loop: the action lists, `i_action` and `lastAction`. -/
structure Grouping where
  actions : Nat → List BattleAction
  i_action : Nat
  lastAction : Option BattleAction

namespace Grouping

/-- Appends to an action list, which has to exist. -/
def pushBack (g : Grouping) (i : Nat) (action : BattleAction) : Except Fault Grouping :=
  if i < actionLists then
    .ok ⟨Function.update g.actions i (g.actions i ++ [action]), i, some action⟩
  else .error (.outOfBounds i)

/-- Appends to the current list when it is empty, and to the next one otherwise. -/
def pushNext (g : Grouping) (action : BattleAction) : Except Fault Grouping :=
  if (g.actions g.i_action).isEmpty then g.pushBack g.i_action action
  else g.pushBack (g.i_action + 1) action

/-- Places an action (source, the body of the loop of `BattleSystem::BuildActions`). -/
def place (rules : Rules) (b : Engine) (dRoll : ℚ) (g : Grouping) (action : BattleAction) :
    Except Fault Grouping :=
  if !sameSide g.lastAction action then g.pushNext action
  else
    match g.lastAction with
    | none => g.pushBack g.i_action action
    | some last => do
      if ← canLink rules b dRoll last action then g.pushBack g.i_action action
      else g.pushNext action

/-- The grouping loop over the sorted queue (source `BattleSystem::BuildActions`). -/
def placeAll (rules : Rules) (b : Engine) : (Nat → ℚ) → Grouping → List BattleAction → Except Fault Grouping
  | _, g, [] => .ok g
  | link, g, action :: queue => do
    let g ← place rules b (link 0) g action
    placeAll rules b (fun n => link (n + 1)) g queue

end Grouping

/-- The turn is under resolution, with no list left from the last one. -/
def clearTurn (b : Engine) : Engine :=
  { b with waitForAction := false, actionTime := 0, actions := fun _ => [] }

/-- Ends the collection of actions (source `BattleSystem::BuildActions`). -/
def buildActions (rules : Rules) (dice : TurnDice) (b : Engine) : Except Fault Engine := do
  let b ← aiMove rules dice b.clearTurn
  let queue := b.unitTurn.insertionSort fun a a' => a'.agility ≤ a.agility
  let g ← Grouping.placeAll rules b dice.link ⟨b.actions, 0, none⟩ queue
  return { b with unitTurn := [], actions := g.actions }

/-- All action lists in order. -/
def pending (b : Engine) : List BattleAction := (List.range actionLists).flatMap b.actions

namespace Grouping

/-- The actions `l` have been placed. -/
structure Placed (g : Grouping) (l : List BattleAction) : Prop where
  last : g.lastAction = l.getLast?
  buckets : l = [] ∧ g.i_action = 0 ∧ Buckets g.actions 0 [] ∨ Buckets g.actions (g.i_action + 1) l

variable {rules : Rules} {b : Engine} {g : Grouping} {l : List BattleAction}

/-- An action joins the current list. -/
lemma pushBack_placed (placed : Placed g l) (len : l.length < actionLists) (action : BattleAction) :
    Sat (g.pushBack g.i_action action) fun g' => Placed g' (l ++ [action]) := by
  rcases placed.buckets with ⟨rfl, zero, buckets⟩ | buckets
  · rw [pushBack, if_pos (by omega), zero]
    exact ⟨rfl, Or.inr (buckets.next action)⟩
  · have le := buckets.le_length
    rw [pushBack, if_pos (by omega)]
    exact ⟨List.getLast?_concat.symm, Or.inr (buckets.same action)⟩

/-- An action opens the next list, or the first one. -/
lemma pushNext_placed (placed : Placed g l) (len : l.length < actionLists) (action : BattleAction) :
    Sat (g.pushNext action) fun g' => Placed g' (l ++ [action]) := by
  rcases placed.buckets with ⟨rfl, zero, buckets⟩ | buckets
  · rw [pushNext, zero, buckets.rest 0 le_rfl]
    exact zero ▸ pushBack_placed placed len action
  · have full := buckets.full g.i_action (Nat.lt_succ_self _)
    have le := buckets.le_length
    rw [pushNext, if_neg (by rwa [List.isEmpty_iff]), pushBack, if_pos (by omega)]
    exact ⟨List.getLast?_concat.symm, Or.inr (buckets.next action)⟩

/-- Every spell of these actions has a template. -/
def Known (rules : Rules) (l : List BattleAction) : Prop :=
  ∀ action ∈ l, (rules.spellTemplate action.skill).isSome

/-- The rule of the links answers when the templates are known. -/
lemma canLink_ok {act1 act2 : BattleAction} (known1 : (rules.spellTemplate act1.skill).isSome)
    (known2 : (rules.spellTemplate act2.skill).isSome) (dRoll : ℚ) :
    ∃ linked, canLink rules b dRoll act1 act2 = .ok linked := by
  obtain ⟨sinfo1, known1⟩ := Option.isSome_iff_exists.mp known1
  obtain ⟨sinfo2, known2⟩ := Option.isSome_iff_exists.mp known2
  simp only [canLink, getProto, known1, known2]
  exact ⟨_, rfl⟩

/-- One iteration of the loop places one action. -/
lemma place_placed (placed : Placed g l) {action : BattleAction} (len : l.length < actionLists)
    (known : Known rules (l ++ [action])) (dRoll : ℚ) :
    Sat (place rules b dRoll g action) fun g' => Placed g' (l ++ [action]) := by
  rw [place]
  split
  · exact pushNext_placed placed len action
  · split
    · exact pushBack_placed placed len action
    · rename_i last isLast
      have mem : last ∈ l := List.mem_of_getLast? (placed.last ▸ isLast)
      obtain ⟨linked, link⟩ := canLink_ok (b := b) (known last (List.mem_append_left _ mem))
        (known action (List.mem_append_right _ (List.mem_singleton_self _))) dRoll
      rw [link, sat_bind, sat_ok]
      cases linked with
      | true => exact pushBack_placed placed len action
      | false => exact pushNext_placed placed len action

/-- The loop places the whole queue. -/
lemma placeAll_placed (link : Nat → ℚ) {queue : List BattleAction} (placed : Placed g l)
    (len : (l ++ queue).length ≤ actionLists) (known : Known rules (l ++ queue)) :
    Sat (placeAll rules b link g queue) fun g' => Placed g' (l ++ queue) := by
  induction queue generalizing link g l with
  | nil => rwa [List.append_nil]
  | cons action queue ih =>
    rw [List.append_cons] at len known ⊢
    have less : l.length < actionLists := by
      rw [List.length_append, List.length_append, List.length_singleton] at len
      omega
    have known' : Known rules (l ++ [action]) := fun a mem => known a (List.mem_append_left _ mem)
    rw [placeAll, sat_bind]
    exact (place_placed placed less known' (link 0)).mono fun g' placed' => ih _ placed' len known

/-- What is placed is in buckets. -/
lemma Placed.buckets_exists (placed : Placed g l) : ∃ n, Buckets g.actions n l := by
  rcases placed.buckets with ⟨rfl, -, buckets⟩ | buckets
  · exact ⟨0, buckets⟩
  · exact ⟨_, buckets⟩

end Grouping

/-- A creature that acts on its own. -/
def Acts (b : Engine) (c : Nat × Nat) (u : Nat) : Prop :=
  b.battleUnit c.1 c.2 = some u ∧ (b.units u).isMember = false ∧ (b.units u).isDead = false ∧
    (b.units u).isDisabled = false

/-- A creature takes a spell of its own, or keeps the one before. -/
lemma aiSpell_cases {rules : Rules} {dice : TurnDice} {attacker : Unit} {c : Nat × Nat} {spell spell' : Nat}
    (run : aiSpell rules dice attacker c spell = .ok spell') :
    spell' = attacker.getRandomSpell (dice.pos c.1 c.2) ∨ 50 ≤ dice.chance c.1 c.2 ∧ spell' = spell := by
  rw [aiSpell] at run
  split at run
  case isTrue =>
    split at run
    · cases run
    · cases run
      exact Or.inl rfl
  case isFalse high =>
    cases run
    exact Or.inr ⟨not_lt.mp high, rfl⟩

/-- A creature attacks a unit that stands, or does nothing. -/
lemma aiAttack_cases (b : Engine) (c : Nat × Nat) (spell : Nat) :
    b.aiAttack c spell = b ∨
      ∃ t, b.standing t ∧ b.aiAttack c spell = b.addBattleAction ⟨c.1, c.2, spell, t.1, t.2, 0⟩ := by
  rw [aiAttack]
  split
  · exact Or.inl rfl
  · rename_i t target
    exact Or.inr ⟨t, List.find?_some target, rfl⟩

/-- What the move of one cell can do: nothing, or a creature there chooses its spell, or keeps the one of
the creature before, and attacks a living unit if there is one. -/
lemma aiStep_cases {rules : Rules} {dice : TurnDice} {s s' : Nat × Engine} {c : Nat × Nat}
    (run : aiStep rules dice s c = .ok s') :
    s' = s ∨ ∃ u, Acts s.2 c u ∧
      (s'.1 = (s.2.units u).getRandomSpell (dice.pos c.1 c.2) ∨ 50 ≤ dice.chance c.1 c.2 ∧ s'.1 = s.1) ∧
      (s'.2 = s.2 ∨ ∃ t, s.2.standing t ∧ s'.2 = s.2.addBattleAction ⟨c.1, c.2, s'.1, t.1, t.2, 0⟩) := by
  rw [aiStep] at run
  cases cell : s.2.battleUnit c.1 c.2 with
  | none =>
    rw [cell] at run
    cases run
    exact Or.inl rfl
  | some u =>
    rw [cell] at run
    simp only at run
    split at run
    case isTrue =>
      cases run
      exact Or.inl rfl
    case isFalse acts =>
      simp only [Bool.or_eq_true, not_or, Bool.not_eq_true] at acts
      refine Or.inr ⟨u, ⟨cell, acts.1.1, acts.1.2, acts.2⟩, ?_⟩
      obtain ⟨spell, chosen, run⟩ := bind_eq_ok.mp run
      cases run
      exact ⟨aiSpell_cases chosen, aiAttack_cases s.2 c spell⟩

/-- Queueing an action changes the queue alone. -/
lemma addBattleAction_queue (b : Engine) (action : BattleAction) :
    ∃ q, b.addBattleAction action = { b with unitTurn := b.unitTurn ++ q } := by
  rw [addBattleAction]
  cases b.getAttacker action with
  | none => exact ⟨[], by rw [List.append_nil]⟩
  | some u => exact ⟨_, rfl⟩

/-- A creature changes the queue only. -/
lemma aiStep_queue {rules : Rules} {dice : TurnDice} {s s' : Nat × Engine} {c : Nat × Nat}
    (run : aiStep rules dice s c = .ok s') :
    ∃ q, s'.2 = { s.2 with unitTurn := s.2.unitTurn ++ q } := by
  rcases aiStep_cases run with rfl | ⟨u, -, -, same | ⟨t, -, queued⟩⟩
  · exact ⟨[], by rw [List.append_nil]⟩
  · exact ⟨[], by rw [List.append_nil, same]⟩
  · rw [queued]
    exact addBattleAction_queue _ _

/-- The creatures change the queue only. -/
lemma aiSteps_queue {rules : Rules} {dice : TurnDice} {cells : List (Nat × Nat)} {s s' : Nat × Engine}
    (run : cells.foldlM (aiStep rules dice) s = .ok s') : ∃ q, s'.2 = { s.2 with unitTurn := s.2.unitTurn ++ q } := by
  induction cells generalizing s with
  | nil =>
    cases run
    exact ⟨[], by rw [List.append_nil]⟩
  | cons c cells ih =>
    obtain ⟨s₁, first, rest⟩ := foldlM_cons_ok.mp run
    obtain ⟨q, eq⟩ := aiStep_queue first
    obtain ⟨q', eq'⟩ := ih rest
    exact ⟨q ++ q', by rw [eq', eq, List.append_assoc]⟩

/-- The AI goes through the cells of the defenders. -/
lemma aiMove_cases {rules : Rules} {dice : TurnDice} {b : Engine} {r : Except Fault Engine}
    (run : aiMove rules dice b = r) :
    (∃ s, defenderCells.foldlM (aiStep rules dice) (spellBasic, b) = .ok s ∧ r = .ok s.2) ∨
      ∃ e, defenderCells.foldlM (aiStep rules dice) (spellBasic, b) = .error e ∧ r = .error e := by
  rw [aiMove] at run
  cases fold : defenderCells.foldlM (aiStep rules dice) (spellBasic, b) with
  | error e =>
    rw [fold] at run
    exact .inr ⟨e, rfl, run.symm⟩
  | ok s =>
    rw [fold] at run
    exact .inl ⟨s, rfl, run.symm⟩

/-- The AI changes the queue alone. -/
lemma aiMove_queue {rules : Rules} {dice : TurnDice} {b b' : Engine} (run : aiMove rules dice b = .ok b') :
    ∃ q, b' = { b with unitTurn := b.unitTurn ++ q } := by
  obtain ⟨s, fold, done⟩ | ⟨e, -, failed⟩ := aiMove_cases run
  · cases done
    exact aiSteps_queue fold
  · cases failed

/-- No action is lost, doubled or out of order: the queue becomes empty, the lists together are its stable
sort by descending agility, and those that are not empty come first. -/
theorem buildActions_sorted (rules : Rules) (dice : TurnDice) {b b' : Engine}
    (moved : aiMove rules dice b.clearTurn = .ok b') (len : b'.unitTurn.length ≤ actionLists)
    (known : ∀ action ∈ b'.unitTurn, (rules.spellTemplate action.skill).isSome) :
    ∃ b'', buildActions rules dice b = .ok b'' ∧ b''.unitTurn = [] ∧
      StableSort BattleAction.agility b'.unitTurn b''.pending ∧
      ∃ n, (∀ i < n, b''.actions i ≠ []) ∧ ∀ i, n ≤ i → b''.actions i = [] := by
  obtain ⟨q, queue⟩ := aiMove_queue moved
  have cleared : b'.actions = fun _ => [] := by rw [queue]; rfl
  have start : Grouping.Placed ⟨b'.actions, 0, none⟩ [] :=
    ⟨rfl, Or.inl ⟨rfl, rfl, cleared ▸ Buckets.nil⟩⟩
  have perm := List.perm_insertionSort (fun a a' : BattleAction => a'.agility ≤ a.agility) b'.unitTurn
  have known' : Grouping.Known rules (b'.unitTurn.insertionSort fun a a' => a'.agility ≤ a.agility) :=
    fun action mem => known action (perm.mem_iff.mp mem)
  have placed : Sat (Grouping.placeAll rules b' dice.link ⟨b'.actions, 0, none⟩
      (b'.unitTurn.insertionSort fun a a' => a'.agility ≤ a.agility)) fun g =>
        Grouping.Placed g (b'.unitTurn.insertionSort fun a a' => a'.agility ≤ a.agility) :=
    Grouping.placeAll_placed dice.link start (perm.length_eq.trans_le len) known'
  obtain ⟨g, run, placed⟩ := sat_iff.mp placed
  obtain ⟨n, buckets⟩ := placed.buckets_exists
  have le : n ≤ actionLists := buckets.le_length.trans (perm.length_eq.trans_le len)
  refine ⟨{ b' with unitTurn := [], actions := g.actions }, ?_, rfl, ?_, n, buckets.full, buckets.rest⟩
  · rw [buildActions, moved]
    simp only [Except.bind, bind, run]
    rfl
  · rw [pending, buckets.flatMap_range le]
    exact stableSort_insertionSort _ _

/-- A unit of this type in good health. -/
def fighter (type : UnitType) (agi : Nat) : Unit where
  type := type
  hp := 100
  hpMax := 100
  level := 10
  deathState := .alive
  state := 0
  disabledDuration := 0
  positiveBufDuration := 0
  agi := agi
  agiMod := 0
  spells := []
  modelId := 0
  pets := []
  battlePet := none

/-- Player 1 stands in cell (3,2) against creature 10 in cell (0,2), and both are asked to act. -/
def duel : Engine where
  units u := if u = 1 then fighter .player 20 else fighter .creature 30
  m_battleUnit := laidOut battleRowMax fun col row =>
    if col = 3 ∧ row = 2 then some 1 else if col = 0 ∧ row = 2 then some 10 else none
  playerList := [1]
  playerActionNeed := 1
  playerActionCount := 0
  waitForAction := true
  actionTime := 0
  animationTime := 0
  animationTimeItemDropped := 0
  creatureKilled := false
  unitTurn := []
  actions _ := []
  itemDropped := []
  atkRateLvl := 10
  defRateLvl := 10

/-- Templates for the skills that everybody has. -/
def basicRules : Rules where
  spellTemplate entry :=
    if entry ∈ [spellBasic, spellCatch, spellCatch2, spellDefense, spellEscape] then some ⟨entry, 0, 1, 2⟩ else none
  linkedAgility agi1 agi2 := agi1 - 10 ≤ agi2 && agi2 ≤ agi1 + 10

/-- The same roll on every throw. -/
def evenDice (roll : ℚ) : TurnDice := ⟨fun _ _ => roll, fun _ _ => 0, fun _ => roll⟩

/-- The player of the duel has attacked. -/
def duelTurn : Engine := { duel with unitTurn := [⟨3, 2, spellBasic, 0, 2, 20⟩] }

/-- In the duel the action of the creature is queued behind the player's. -/
lemma aiMove_duelTurn :
    Sat (aiMove basicRules (evenDice 70) duelTurn.clearTurn) fun b =>
      b.unitTurn = [⟨3, 2, spellBasic, 0, 2, 20⟩, ⟨0, 2, spellBasic, 3, 2, 30⟩] := by
  decide +kernel

/-- The creature of the duel is faster and acts first. -/
theorem buildActions_duel :
    ∃ b, buildActions basicRules (evenDice 70) duelTurn = .ok b ∧ b.unitTurn = [] ∧
      StableSort BattleAction.agility
        [⟨3, 2, spellBasic, 0, 2, 20⟩, ⟨0, 2, spellBasic, 3, 2, 30⟩] b.pending ∧
      ∃ n, (∀ i < n, b.actions i ≠ []) ∧ ∀ i, n ≤ i → b.actions i = [] := by
  obtain ⟨b', moved, queue⟩ := sat_iff.mp aiMove_duelTurn
  have sorted := buildActions_sorted basicRules (evenDice 70) moved (by rw [queue]; decide)
    (by rw [queue]; decide)
  rwa [queue] at sorted

end Engine

end Legacy.Battle
