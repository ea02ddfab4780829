import Legacy.Battle.Frame
import Legacy.Lib.Reach

/-!
# What one step of a battle changes

`Change` is the inversion of `Combat.step`, with one constructor for each kind of step that touches the turn
and the constructor `quiet` for all others. `Runs.invariant` is the induction over the runs of a battle in
these terms.
-/

namespace Legacy.Battle
open Legacy.Lib

namespace Control

/-- The actions that the loop of `BattleSystem::SendAction` has still to perform. -/
def acts : Control → List BattleAction
  | .group g => g.rest
  | .hits h => h.group.rest
  | _ => []

/-- The rest of the list is what is still to act. -/
lemma resume_acts (h : Hits) : (resume h).acts = h.group.rest := by
  rw [resume]
  split <;> rfl

/-- Going on with a list builds no new turn. -/
lemma resume_ne_building (h : Hits) (timedOut : Bool) : resume h ≠ .building timedOut := by
  rw [resume]
  split <;> exact nofun

end Control

namespace Combat

variable {rules : Rules} {s s' : Combat}

/-- The reward of a kill is recorded and changes no unit. -/
lemma reward_cases (s : Combat) (hit : BattleAction) (attacker victim : Nat) (drop : Option Nat) :
    ∃ items kills drops, s.reward hit attacker victim drop =
        ⟨{ s.engine with creatureKilled := true, itemDropped := items }, s.control, s.queuedBy, kills, drops⟩ ∧
      (kills = s.kills ∧ drops = s.drops ∨
        (s.engine.units victim).isMember = false ∧ (s.engine.units attacker).isMember ∧
          kills = s.kills ++ [victim] ∧ (drops = s.drops ∨ drops = s.drops ++ [victim])) := by
  simp only [reward]
  split
  · exact ⟨_, _, _, rfl, Or.inl ⟨rfl, rfl⟩⟩
  · next paid =>
    simp only [Bool.or_eq_true, Bool.not_eq_true', not_or, Bool.not_eq_true, Bool.not_eq_false] at paid
    cases drop with
    | none => exact ⟨_, _, _, rfl, Or.inr ⟨paid.1, paid.2, rfl, Or.inl rfl⟩⟩
    | some item => exact ⟨_, _, _, rfl, Or.inr ⟨paid.1, paid.2, rfl, Or.inr rfl⟩⟩

/-- The hit lands and takes hit points. -/
def Harms (unit : Unit) (h : Hits) (dice : HitDice) : Prop :=
  unit.missedBy h.sinfo h.catched dice.missed = false ∧ (h.sinfo.applyState unit).isSome ∧
    unit.getDamage h.sinfo dice.amount < 0

/-- What does not change in a unit that is hit. -/
structure Wounds (unit unit' : Unit) : Prop where
  type : unit'.type = unit.type
  spells : unit'.spells = unit.spells
  pets : unit'.pets = unit.pets
  battlePet : unit'.battlePet = unit.battlePet
  dead : unit.isDead → unit'.isDead

/-- A state with a duration changes neither the kind of the unit nor what it has, and revives nobody. -/
lemma addUnitStateFor_wounds {unit unit' : Unit} {state dur : Nat}
    (run : unit.addUnitStateFor state dur = some unit') : Wounds unit unit' := by
  rw [Unit.addUnitStateFor] at run
  split at run
  · split at run <;> cases run
    exact ⟨rfl, rfl, rfl, rfl, id⟩
  · split at run
    · split at run <;> cases run
      exact ⟨rfl, rfl, rfl, rfl, id⟩
    · cases run
      exact ⟨rfl, rfl, rfl, rfl, id⟩

/-- The state of a spell changes neither the kind of the unit nor what it has, and revives nobody. -/
lemma applyState_wounds {sinfo : SpellInfo} {unit unit' : Unit} (run : sinfo.applyState unit = some unit') :
    Wounds unit unit' := by
  rw [SpellInfo.applyState] at run
  split at run
  · split at run
    · exact addUnitStateFor_wounds run
    · cases run
      exact ⟨rfl, rfl, rfl, rfl, id⟩
  · cases run
    exact ⟨rfl, rfl, rfl, rfl, id⟩

/-- Wounds add up. -/
lemma Wounds.trans {unit unit₁ unit' : Unit} (wounds : Wounds unit unit₁) (wounds' : Wounds unit₁ unit') :
    Wounds unit unit' :=
  ⟨wounds'.type.trans wounds.type, wounds'.spells.trans wounds.spells, wounds'.pets.trans wounds.pets,
    wounds'.battlePet.trans wounds.battlePet, fun dead => wounds'.dead (wounds.dead dead)⟩

/-- Damage kills or not; what it kills is dead. -/
lemma dealDamage_wounds (unit : Unit) (damage : Int) :
    Wounds unit (unit.isDealDamageToAndKill damage).1 ∧
      ((unit.isDealDamageToAndKill damage).2 → damage < 0 ∧ (unit.isDealDamageToAndKill damage).1.isDead) := by
  rw [Unit.isDealDamageToAndKill]
  split
  · next harm =>
    split
    · exact ⟨⟨rfl, rfl, rfl, rfl, fun _ => rfl⟩, fun _ => ⟨harm, rfl⟩⟩
    · exact ⟨⟨rfl, rfl, rfl, rfl, id⟩, nofun⟩
  · exact ⟨⟨rfl, rfl, rfl, rfl, id⟩, nofun⟩

/-- What a hit does to the battle: nothing, or it wounds the victim, or it kills it. -/
lemma spellMod_cases (s : Combat) (h : Hits) (hit : BattleAction) (attacker victim : Nat) (dice : HitDice) :
    s.spellMod h hit attacker victim dice = s ∨
      ∃ unit, Wounds (s.engine.units victim) unit ∧
        (s.spellMod h hit attacker victim dice = { s with engine := s.engine.setUnit victim unit } ∨
          unit.isDead ∧ Harms (s.engine.units victim) h dice ∧ s.spellMod h hit attacker victim dice =
            reward { s with engine := s.engine.setUnit victim unit } hit attacker victim dice.drop) := by
  simp only [spellMod]
  split
  · exact Or.inl rfl
  · next lands =>
    split
    · exact Or.inl rfl
    · next changed state =>
      obtain ⟨wounds, kills⟩ := dealDamage_wounds changed ((s.engine.units victim).getDamage h.sinfo dice.amount)
      refine Or.inr ⟨_, (applyState_wounds state).trans wounds, ?_⟩
      split
      · next killed =>
        obtain ⟨harm, dead⟩ := kills killed
        exact Or.inr ⟨dead, ⟨Bool.eq_false_of_not_eq_true lands, Option.isSome_of_eq_some state, harm⟩, rfl⟩
      · exact Or.inl rfl

/-- A hit changes its victim, the items and the records. -/
lemma spellMod_frame (s : Combat) (h : Hits) (hit : BattleAction) (attacker victim : Nat) (dice : HitDice) :
    Engine.Fades s.engine (s.spellMod h hit attacker victim dice).engine ∧
      Engine.SameTurn s.engine (s.spellMod h hit attacker victim dice).engine ∧
      (s.spellMod h hit attacker victim dice).queuedBy = s.queuedBy := by
  have unitFades : ∀ {unit}, Wounds (s.engine.units victim) unit →
      Engine.Fades s.engine (s.engine.setUnit victim unit) :=
    fun wounds => Engine.setUnit_fades_same wounds.type wounds.spells wounds.pets wounds.battlePet fun _ => wounds.dead
  rcases spellMod_cases s h hit attacker victim dice with eq | ⟨unit, wounds, eq | ⟨-, -, eq⟩⟩
  · rw [eq]
    exact ⟨Engine.Fades.refl _, Engine.SameTurn.refl _, rfl⟩
  · rw [eq]
    exact ⟨unitFades wounds, ⟨⟨rfl, rfl, rfl, rfl⟩, rfl⟩, rfl⟩
  · obtain ⟨items, kills, drops, paid, -⟩ :=
      reward_cases { s with engine := s.engine.setUnit victim unit } hit attacker victim dice.drop
    rw [eq, paid]
    exact ⟨(unitFades wounds).trans_fades (Engine.Fades.of_eq rfl rfl rfl), ⟨⟨rfl, rfl, rfl, rfl⟩, rfl⟩, rfl⟩

/-- What an event does to the turn. The steps that queue no action and neither build, start nor take
anything are `quiet`. -/
inductive Change (rules : Rules) (s : Combat) : Event → Combat → Prop
  | attack {p action u} (member : p ∈ s.engine.playerList)
      (cell : s.engine.getAttacker action.selfTarget = some u) (pending : s.engine.isActionComplete = false) :
      Change rules s (.attack p action) (counted { s with
        engine := (s.engine.addBattleAction
          { action.selfTarget with skill := (s.engine.units u).checkSkill rules action.skill }).incAction
        queuedBy := s.queuedBy ++ [p] })
  | petCommand {p command falls b} (member : p ∈ s.engine.playerList)
      (run : s.engine.petCommand p command falls = some b) :
      Change rules s (.petCommand p command falls) (counted { s with engine := b })
  | useItem {p} (member : p ∈ s.engine.playerList) :
      Change rules s (.useItem p) (counted { s with engine := s.engine.incAction })
  | timeout (idle : s.control = .idle) (waits : s.engine.waitForAction = true)
      (late : maxActionTime ≤ s.engine.actionTime + 1) :
      Change rules s .tick { s with
        engine := { s.engine with actionTime := s.engine.actionTime + 1 }
        control := .building true }
  | build {timedOut dice b} (control : s.control = .building timedOut)
      (run : s.engine.buildActions rules dice = .ok b) :
      Change rules s (.build dice)
        { s with engine := b, queuedBy := [], control := if timedOut then .updating else .idle }
  | turn {b} (sends : s.engine.Sends) (quiet : Engine.Quiet s.engine b) (none : b.firstList = none) :
      Change rules s .update { s with engine := b.sendTurnComplete, control := .concluding }
  | take {b b' i g} (sends : s.engine.Sends) (quiet : Engine.Quiet s.engine b) (first : b.firstList = some i)
      (run : b.takeList i = .ok (b', g)) :
      Change rules s .update { s with engine := b', control := .group g }
  | quiet {e s'} (fades : Engine.Fades s.engine s'.engine) (same : Engine.SameTurn s.engine s'.engine)
      (queuedBy : s'.queuedBy = s.queuedBy) (acts : ∀ a ∈ s'.control.acts, a ∈ s.control.acts)
      (before : ∀ timedOut, s.control ≠ .building timedOut)
      (control : ∀ timedOut, s'.control ≠ .building timedOut) : Change rules s e s'

/-- Nothing happens to a battle that has no actions to build. -/
lemma change_refl {e : Event} (control : ∀ timedOut, s.control ≠ .building timedOut) : Change rules s e s :=
  .quiet (Engine.Fades.refl _) (Engine.SameTurn.refl _) rfl (fun _ mem => mem) control control

/-- An attack packet is a change. -/
lemma handlePlayerAttack_change {p : Nat} {action : BattleAction} (idle : s.control = .idle)
    (run : s.handlePlayerAttack rules p action = .ok s') : Change rules s (.attack p action) s' := by
  rw [handlePlayerAttack] at run
  split at run
  · cases run
    exact change_refl (by rw [idle]; exact nofun)
  · next member =>
    cases cell : s.engine.getAttacker action.selfTarget with
    | none =>
      rw [cell] at run
      cases run
    | some u =>
      rw [cell] at run
      simp only at run
      split at run
      · cases run
        exact change_refl (by rw [idle]; exact nofun)
      · next pending =>
        cases run
        exact .attack (Decidable.not_not.mp member) cell (Bool.eq_false_of_not_eq_true pending)

/-- A pet command is a change. -/
lemma handlePetCommand_change {p : Nat} {command : PetCommand} {falls : Bool} (idle : s.control = .idle) :
    Change rules s (.petCommand p command falls) (s.handlePetCommand p command falls) := by
  rw [handlePetCommand]
  split
  · exact change_refl (by rw [idle]; exact nofun)
  · next member =>
    split
    · exact change_refl (by rw [idle]; exact nofun)
    · next run => exact .petCommand (Decidable.not_not.mp member) run

/-- The use of an item is a change. -/
lemma handleUseItem_change {p : Nat} (idle : s.control = .idle) :
    Change rules s (.useItem p) (s.handleUseItem p) := by
  rw [handleUseItem]
  split
  · exact change_refl (by rw [idle]; exact nofun)
  · next member => exact .useItem (Decidable.not_not.mp member)

/-- Leaving is a change. -/
lemma leave_change {p : Nat} (staffed : s.engine.Staffed) (idle : s.control = .idle) :
    Change rules s (.leave p) (s.leave p) := by
  rw [leave]
  split
  · exact change_refl (by rw [idle]; exact nofun)
  · next member =>
    have player := staffed.players p (Decidable.not_not.mp member)
    exact .quiet (Engine.leaveBattle_fades staffed player) (Engine.leaveBattle_sameTurn _ p) rfl
      (fun _ mem => mem) (by rw [idle]; exact nofun) (by rw [idle]; exact nofun)

/-- A tick of the clock is a change. -/
lemma tick_change (idle : s.control = .idle) : Change rules s .tick s.tick := by
  have before : ∀ timedOut, s.control ≠ .building timedOut := by rw [idle]; exact nofun
  rw [tick]
  split
  · next waits =>
    split
    · exact .quiet (Engine.Fades.of_eq rfl rfl rfl) ⟨⟨rfl, rfl, rfl, rfl⟩, rfl⟩ rfl nofun before nofun
    · next late => exact .timeout idle waits (Nat.not_lt.mp late)
  · exact .quiet (Engine.Fades.refl _) (Engine.SameTurn.refl _) rfl nofun before nofun

/-- Building the lists is a change. -/
lemma build_change {timedOut : Bool} {dice : TurnDice} (control : s.control = .building timedOut)
    (run : s.build rules timedOut dice = .ok s') : Change rules s (.build dice) s' := by
  rw [build] at run
  split at run
  · cases run
  · next b built =>
    cases run
    exact .build control built

/-- An update is a change. -/
lemma update_change {b : Engine} {control : Control} (before : ∀ timedOut, s.control ≠ .building timedOut)
    (run : s.engine.updateBattleAction = .ok (b, control)) :
    Change rules s .update { s with engine := b, control := control } := by
  rcases Engine.updateBattleAction_cases run with ⟨quiet, rfl | rfl⟩ |
    ⟨sends, b₁, quiet, ⟨none, rfl, rfl⟩ | ⟨i, g, first, take, rfl⟩⟩
  · exact .quiet quiet.fades quiet.sameTurn rfl nofun before nofun
  · exact .quiet quiet.fades quiet.sameTurn rfl nofun before nofun
  · exact .turn sends quiet none
  · exact .take sends quiet first take

/-- What an action does that is not the last of the program: the loop goes on behind it, or its hits begin. -/
inductive Performed (rules : Rules) (s : Combat) (g : Group) (action : BattleAction) (dice : ActDice) : Combat → Prop
  | skipped :
    Performed rules s g action dice { s with control := .group { g with linked := g.linked || !g.rest.isEmpty } }
  | defended {u : Nat} :
    Performed rules s g action dice { s with
      engine := s.engine.setUnit u ((s.engine.units u).addUnitState Unit.defend)
      control := .group { g with linked := g.linked || !g.rest.isEmpty, rest := [], valid := false } }
  | escaped {b : Engine} (escape : s.engine.escaped action = .ok b) :
    Performed rules s g action dice { s with
      engine := b
      control := .group { g with linked := g.linked || !g.rest.isEmpty } }
  | block {b : Engine} {catched : Bool} {sinfo : SpellInfo} (caught : s.engine.catchPet action dice = .ok (b, catched))
      (template : rules.spellTemplate action.skill = some sinfo) :
    Performed rules s g action dice { s with
      engine := b
      control := Control.resume ⟨b.parseSpell action sinfo.hit (g.linked || !g.rest.isEmpty), sinfo, catched,
        { g with linked := g.linked || !g.rest.isEmpty, skillId := action.skill, valid := true }⟩ }

/-- An action that is performed is one of the cases. -/
lemma act_cases {g : Group} {action : BattleAction} {dice : ActDice} (run : s.act rules g action dice = .ok s') :
    Performed rules s g action dice s' := by
  rw [act] at run
  split at run
  · cases run
    exact .skipped
  · next u cell =>
    simp only at run
    split at run
    · cases run
      exact .skipped
    · split at run
      · cases run
        exact .defended
      · split at run
        · obtain ⟨b, escape, run⟩ := bind_eq_ok.mp run
          cases run
          exact .escaped escape
        · rw [buildUpdateBlockAction] at run
          obtain ⟨⟨b, catched⟩, caught, run⟩ := bind_eq_ok.mp run
          simp only at run
          split at run
          · cases run
          · next sinfo template =>
            cases run
            exact .block caught template

/-- An action is a change. -/
lemma act_change {e : Event} {g : Group} {action : BattleAction} {dice : ActDice} (staffed : s.engine.Staffed)
    (before : ∀ timedOut, s.control ≠ .building timedOut)
    (run : s.act rules g action dice = .ok s') (acts : ∀ a ∈ g.rest, a ∈ s.control.acts) :
    Change rules s e s' := by
  cases act_cases run with
  | skipped => exact .quiet (Engine.Fades.refl _) (Engine.SameTurn.refl _) rfl acts before nofun
  | defended =>
    exact .quiet (Engine.setUnit_fades_same rfl rfl rfl rfl fun _ dead => dead) ⟨⟨rfl, rfl, rfl, rfl⟩, rfl⟩ rfl
      nofun before nofun
  | escaped escape =>
    obtain ⟨fades, same⟩ := Engine.escaped_fades staffed escape
    exact .quiet fades same rfl acts before nofun
  | block caught template =>
    obtain ⟨fades, same⟩ := Engine.catchPet_fades caught
    refine .quiet fades same rfl ?_ before (Control.resume_ne_building _)
    rw [Control.resume_acts]
    exact acts

/-- A hit has an attacker and a victim, and does what its spell does. -/
lemma hit_cases {h : Hits} {hit : BattleAction} {dice : HitDice} (run : s.hit h hit dice = .ok s') :
    ∃ attacker victim, s.engine.getAttacker hit = some attacker ∧ s.engine.getVictim hit = some victim ∧
      s' = { s.spellMod h hit attacker victim dice with
        engine :=
          if h.catched then (s.spellMod h hit attacker victim dice).engine.clearCell hit.tgtCell
          else (s.spellMod h hit attacker victim dice).engine
        control := Control.resume { h with pending := h.pending.tail } } := by
  rw [Combat.hit] at run
  split at run
  · next attacker victim by' at' =>
    cases run
    exact ⟨attacker, victim, by', at', rfl⟩
  · cases run

/-- A hit is a change. -/
lemma hit_change {e : Event} {h : Hits} {hit : BattleAction} {dice : HitDice}
    (before : ∀ timedOut, s.control ≠ .building timedOut)
    (run : s.hit h hit dice = .ok s') (acts : ∀ a ∈ h.group.rest, a ∈ s.control.acts) : Change rules s e s' := by
  obtain ⟨attacker, victim, -, -, rfl⟩ := hit_cases run
  obtain ⟨fades, same, queuedBy⟩ := spellMod_frame s h hit attacker victim dice
  refine .quiet ?_ ?_ queuedBy ?_ before (Control.resume_ne_building _)
  · simp only
    split
    · exact fades.trans_fades (Engine.clearCell_fades _ _)
    · exact fades
  · simp only
    split
    · exact same.trans ⟨⟨rfl, rfl, rfl, rfl⟩, rfl⟩
    · exact same
  · rw [Control.resume_acts]
    exact acts

/-- The end of a list is a change. -/
lemma finish_change {e : Event} {g : Group} (before : ∀ timedOut, s.control ≠ .building timedOut) :
    Change rules s e (s.finish g) := by
  rw [finish]
  split
  · exact .quiet (Engine.Fades.of_eq rfl rfl rfl) ⟨⟨rfl, rfl, rfl, rfl⟩, rfl⟩ rfl nofun before nofun
  · exact .quiet (Engine.Fades.refl _) (Engine.SameTurn.refl _) rfl nofun before nofun

/-- The conclusion is a change. -/
lemma conclude_change {e : Event} (before : ∀ timedOut, s.control ≠ .building timedOut)
    (run : s.conclude = .ok s') : Change rules s e s' := by
  rw [conclude] at run
  obtain ⟨⟨concluded, b⟩, ends, run⟩ := bind_eq_ok.mp run
  obtain ⟨quiet, -⟩ := Engine.battleConcluded_cases ends
  cases run
  refine .quiet quiet.fades quiet.sameTurn rfl ?_ before ?_
  · simp only
    split <;> exact nofun
  · simp only
    split <;> exact nofun

/-- Every step is one of these changes. -/
lemma step_change {e : Event} (staffed : s.engine.Staffed) (run : step rules s e = .ok s') :
    Change rules s e s' := by
  rw [step.eq_def] at run
  split at run
  · next idle => exact handlePlayerAttack_change idle run
  · next idle =>
    cases run
    exact handlePetCommand_change idle
  · next idle =>
    cases run
    exact handleUseItem_change idle
  · next idle =>
    cases run
    exact leave_change staffed idle
  · next idle =>
    cases run
    exact tick_change idle
  · next control => exact build_change control run
  · next updating =>
    obtain ⟨⟨b, control⟩, update, run⟩ := bind_eq_ok.mp run
    cases run
    exact update_change (by rw [updating]; exact nofun) update
  · next control =>
    refine act_change staffed (by rw [control]; exact nofun) run ?_
    rw [control]
    exact fun a mem => List.mem_cons_of_mem _ mem
  · next control =>
    cases run
    exact finish_change (by rw [control]; exact nofun)
  · next control => exact hit_change (by rw [control]; exact nofun) run (by rw [control]; exact fun a mem => mem)
  · next control => exact conclude_change (by rw [control]; exact nofun) run
  · cases run

/-- Counting leaves nothing to act. -/
lemma counted_acts (s : Combat) : s.counted.control.acts = [] := by
  show (if _ then _ else _ : Control).acts = []
  split <;> rfl

/-- Only a battle command puts a unit into a cell. -/
lemma Change.shifts {e : Event} (staffed : s.engine.Staffed) (change : Change rules s e s') :
    Engine.Fades s.engine s'.engine ∨ ∃ p modelId falls pet, e = .petCommand p (.battle modelId) falls ∧
      p ∈ s.engine.playerList ∧ s.engine.getPetByModelId p modelId = some pet ∧
      Engine.Shifts (Engine.Placed s.engine p pet) s.engine s'.engine := by
  cases change with
  | attack member cell pending =>
    exact Or.inl ((Engine.addBattleAction_fades _ _).trans_fades (Engine.Fades.of_eq rfl rfl rfl))
  | petCommand member run =>
    obtain ⟨-, fades | ⟨modelId, pet, rfl, found, shifts⟩⟩ := Engine.petCommand_cases staffed run
    · exact Or.inl fades
    · exact Or.inr ⟨_, modelId, _, pet, rfl, member, found, shifts⟩
  | useItem member => exact Or.inl (Engine.Fades.of_eq rfl rfl rfl)
  | timeout idle waits late => exact Or.inl (Engine.Fades.of_eq rfl rfl rfl)
  | build control run =>
    obtain ⟨lists, rfl⟩ := Engine.buildActions_eq run
    exact Or.inl (Engine.Fades.of_eq rfl rfl rfl)
  | turn sends quiet none => exact Or.inl (quiet.fades.trans_fades (Engine.sendTurnComplete_fades _))
  | take sends quiet first run =>
    obtain ⟨lists, rfl⟩ := Engine.takeList_eq run
    exact Or.inl (quiet.fades.trans_fades (Engine.Fades.of_eq rfl rfl rfl))
  | quiet fades same queuedBy acts before control => exact Or.inl fades

/-- Every step keeps the pets with their players. -/
lemma step_staffed {e : Event} (staffed : s.engine.Staffed) (run : step rules s e = .ok s') : s'.engine.Staffed := by
  rcases (step_change staffed run).shifts staffed with fades | ⟨p, modelId, falls, pet, -, -, -, shifts⟩
  · exact fades.staffed staffed
  · exact shifts.staffed staffed

/-- A battle before its first turn: nothing is queued, and before each player stands nobody but a pet of it. -/
structure Ready (b : Engine) : Prop where
  staffed : b.Staffed
  unitTurn : b.unitTurn = []
  actions : ∀ i, b.actions i = []
  front : ∀ c ∈ colCells, ∀ p ∈ b.battleUnit c.1 c.2, (b.units p).type = .player →
    ∀ u ∈ b.battleUnit (petCell c).1 (petCell c).2, (b.units u).type = .pet p

/-- The battle at its first turn (source, the end of `BattleSystem::BattleStart`). -/
def start (b : Engine) : Combat := ⟨b.sendTurnComplete, .idle, [], [], []⟩

/-- A battle that is ready starts with the pets at their players. -/
lemma start_staffed {b : Engine} (ready : Ready b) : (start b).engine.Staffed :=
  (Engine.sendTurnComplete_fades b).staffed ready.staffed

/-- A run of a battle whose steps satisfy `ok`. -/
abbrev Runs (rules : Rules) (ok : Combat → Event → Prop) (s s' : Combat) : Prop :=
  Reaches (fun s e => (step rules s e).toOption) ok s s'

/-- What holds at the start and is kept by the steps that satisfy `ok` holds along a run. -/
lemma Runs.induct {ok : Combat → Event → Prop} {P : Combat → Prop} (run : Runs rules ok s s')
    (staffed : s.engine.Staffed) (init : P s)
    (kept : ∀ {s₁ s₂ e}, s₁.engine.Staffed → P s₁ → ok s₁ e → step rules s₁ e = .ok s₂ → P s₂) : P s' := by
  have both : s'.engine.Staffed ∧ P s' := by
    refine Reaches.invariant (P := fun s => s.engine.Staffed ∧ P s) run ⟨staffed, init⟩ ?_
    intro s₁ s₂ e before allowed next
    cases ran : step rules s₁ e with
    | error halt =>
      rw [ran] at next
      cases next
    | ok r =>
      rw [ran] at next
      cases next
      exact ⟨step_staffed before.1 ran, kept before.1 before.2 allowed ran⟩
  exact both.2

/-- The same for what is kept by every change. -/
lemma Runs.invariant {ok : Combat → Event → Prop} {P : Combat → Prop} (run : Runs rules ok s s')
    (staffed : s.engine.Staffed) (init : P s)
    (kept : ∀ {s₁ s₂ e}, s₁.engine.Staffed → P s₁ → ok s₁ e → Change rules s₁ e s₂ → P s₂) : P s' :=
  run.induct staffed init fun staffed before allowed ran => kept staffed before allowed (step_change staffed ran)

/-- The pets of a battle are looked up among finitely many units. -/
lemma staffed_of_bound {b : Engine} (n : Nat) (players : ∀ p ∈ b.playerList, (b.units p).type = .player)
    (pets : ∀ o < n, (∀ pet ∈ (b.units o).pets, (b.units pet).type = .pet o) ∧
      ∀ pet ∈ (b.units o).battlePet, (b.units pet).type = .pet o)
    (alone : ∀ o, n ≤ o → (b.units o).pets = [] ∧ (b.units o).battlePet = none) : b.Staffed where
  players := players
  pets o pet mem := by
    cases Nat.lt_or_ge o n with
    | inl lt => exact (pets o lt).1 pet mem
    | inr le =>
      rw [(alone o le).1] at mem
      cases mem
  battlePets o pet mem := by
    cases Nat.lt_or_ge o n with
    | inl lt => exact (pets o lt).2 pet mem
    | inr le =>
      rw [(alone o le).2] at mem
      cases mem

/-- A battle of finitely many units and a herd of creatures, in which nothing is queued. -/
lemma ready_of_herd {b : Engine} (n : Nat) {agi : Nat} (herd : ∀ o, n ≤ o → b.units o = Engine.fighter .creature agi)
    (players : ∀ p ∈ b.playerList, (b.units p).type = .player)
    (pets : ∀ o < n, (∀ pet ∈ (b.units o).pets, (b.units pet).type = .pet o) ∧
      ∀ pet ∈ (b.units o).battlePet, (b.units pet).type = .pet o)
    (unitTurn : b.unitTurn = []) (actions : ∀ i, b.actions i = [])
    (front : ∀ c ∈ colCells, ∀ p ∈ b.battleUnit c.1 c.2, (b.units p).type = .player →
      ∀ u ∈ b.battleUnit (petCell c).1 (petCell c).2, (b.units u).type = .pet p) : Ready b where
  staffed := by
    apply staffed_of_bound n players pets
    intro o le
    rw [herd o le]
    exact ⟨rfl, rfl⟩
  unitTurn := unitTurn
  actions := actions
  front := front

/-- The duel is ready. -/
lemma ready_duel : Ready Engine.duel :=
  ready_of_herd 2 (fun _ le => if_neg (Nat.ne_of_gt le)) (by decide) (by decide) rfl (fun _ => rfl) (by decide)

/-- Player 1 has pet 2 beside it. -/
def petDuel : Engine := { Engine.duel with
  units := fun u =>
    if u = 1 then { Engine.fighter .player 20 with pets := [2], battlePet := some 2 }
    else if u = 2 then Engine.fighter (.pet 1) 15
    else Engine.fighter .creature 30
  m_battleUnit := laidOut battleRowMax fun col row =>
    if col = 3 ∧ row = 2 then some 1
    else if col = 2 ∧ row = 2 then some 2
    else if col = 0 ∧ row = 2 then some 10
    else none }

/-- The duel with a pet is ready. -/
lemma ready_petDuel : Ready petDuel :=
  ready_of_herd 3 (fun _ le => (if_neg (Nat.ne_of_gt (Nat.lt_of_succ_lt le))).trans (if_neg (Nat.ne_of_gt le)))
    (by decide) (by decide) rfl (fun _ => rfl) (by decide)

end Combat

end Legacy.Battle
