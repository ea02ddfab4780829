import Legacy.Battle.Change

/-!
# The skills that are performed

A skill is chosen where an action is queued: by the packet of a client, whose check lets every skill with a
template pass, or by the AI, which keeps the skill of one creature for the next. `ownSkills_of_reaches` says
that every action that is performed has a skill of its attacker, provided that the packets and the AI choose
such skills and that a pet which enters the battle has the skills queued for its place.
-/

namespace Legacy.Battle
open Legacy.Lib

/-- A spell that the dice picks is one of the unit. -/
lemma getRandomSpell_held (u : Unit) (pos : Nat) : u.haveSpell (u.getRandomSpell pos) = true := by
  rw [Unit.getRandomSpell, Unit.haveSpell]
  cases spell : u.spells[pos]? with
  | none => rfl
  | some entry =>
    rw [Option.getD_some, decide_eq_true (List.mem_of_getElem? spell), Bool.or_true]

/-- Having a spell depends on the spells only. -/
lemma haveSpell_congr {u u' : Unit} (spells : u'.spells = u.spells) (entry : Nat) :
    u'.haveSpell entry = u.haveSpell entry := by
  rw [Unit.haveSpell, Unit.haveSpell, spells]

namespace Engine

variable {rules : Rules} {dice : TurnDice} {b b' : Engine}

/-- The unit in the attacker's cell has the skill of the action. -/
def Held (b : Engine) (action : BattleAction) : Prop :=
  ∀ u ∈ b.getAttacker action, (b.units u).haveSpell action.skill = true

instance (b : Engine) : DecidablePred b.Held := fun action =>
  inferInstanceAs (Decidable (∀ u ∈ b.getAttacker action, (b.units u).haveSpell action.skill = true))

/-- The creature of a cell that acts on its own. -/
def acting (b : Engine) (c : Nat × Nat) : Option Nat :=
  (b.battleUnit c.1 c.2).filter fun u =>
    !((b.units u).isMember || (b.units u).isDead || (b.units u).isDisabled)

/-- There is a living unit for the creatures to attack. -/
def hasTarget (b : Engine) : Bool := (attackerCells.find? b.standing).isSome

/-- Each creature that keeps the skill of the one before has it, or has nobody to attack. -/
def KeepsHeld (b : Engine) (dice : TurnDice) : Nat → List (Nat × Nat) → Prop
  | _, [] => True
  | spell, c :: cells =>
    match b.acting c with
    | none => KeepsHeld b dice spell cells
    | some u =>
      if dice.chance c.1 c.2 < 50 then
        KeepsHeld b dice ((b.units u).getRandomSpell (dice.pos c.1 c.2)) cells
      else (b.hasTarget = true → (b.units u).haveSpell spell = true) ∧ KeepsHeld b dice spell cells

instance decidableKeepsHeld (b : Engine) (dice : TurnDice) :
    ∀ (cells : List (Nat × Nat)) (spell : Nat), Decidable (KeepsHeld b dice spell cells)
  | [], _ => inferInstanceAs (Decidable True)
  | c :: cells, spell =>
    have := decidableKeepsHeld b dice cells
    show Decidable (match b.acting c with
      | none => KeepsHeld b dice spell cells
      | some u =>
        if dice.chance c.1 c.2 < 50 then
          KeepsHeld b dice ((b.units u).getRandomSpell (dice.pos c.1 c.2)) cells
        else (b.hasTarget = true → (b.units u).haveSpell spell = true) ∧ KeepsHeld b dice spell cells) from
      match b.acting c with
      | none => this spell
      | some _ => inferInstance

/-- What the move of a cell does, by the creature that acts there. -/
lemma aiStep_acting {s s' : Nat × Engine} {c : Nat × Nat} (run : aiStep rules dice s c = .ok s') :
    match s.2.acting c with
    | none => s' = s
    | some u =>
      s'.1 = (if dice.chance c.1 c.2 < 50 then (s.2.units u).getRandomSpell (dice.pos c.1 c.2) else s.1) ∧
        (s'.2 = s.2 ∨ s.2.hasTarget = true ∧
          ∃ t : Nat × Nat, s'.2 = s.2.addBattleAction ⟨c.1, c.2, s'.1, t.1, t.2, 0⟩) := by
  rw [aiStep] at run
  rw [acting]
  cases cell : s.2.battleUnit c.1 c.2 with
  | none =>
    rw [cell] at run
    cases run
    rfl
  | some u =>
    rw [cell] at run
    simp only at run
    split at run
    · next idle =>
      cases run
      rw [Option.filter_some, if_neg (by rw [idle]; exact Bool.false_ne_true)]
    · next acts =>
      rw [Option.filter_some, if_pos (by rw [Bool.eq_false_of_not_eq_true acts]; rfl)]
      rw [aiSpell] at run
      have attack : ∀ spell, s.2.aiAttack c spell = s.2 ∨ s.2.hasTarget = true ∧
          ∃ t : Nat × Nat, s.2.aiAttack c spell = s.2.addBattleAction ⟨c.1, c.2, spell, t.1, t.2, 0⟩ := by
        intro spell
        rw [aiAttack, hasTarget]
        cases attackerCells.find? s.2.standing with
        | none => exact Or.inl rfl
        | some t => exact Or.inr ⟨rfl, t, rfl⟩
      split at run
      · next low =>
        split at run
        · cases run
        · cases run
          exact ⟨(if_pos low).symm, attack _⟩
      · next high =>
        cases run
        exact ⟨(if_neg high).symm, attack _⟩

/-- The attacker depends on the cells only. -/
lemma getAttacker_congr (cells : b'.battleUnit = b.battleUnit) (action : BattleAction) :
    b'.getAttacker action = b.getAttacker action := by
  rw [getAttacker, getAttacker, getBattleUnit, getBattleUnit, cells]

/-- A change that moves no unit and teaches none. -/
lemma held_congr (units : b'.units = b.units) (cells : b'.battleUnit = b.battleUnit) (action : BattleAction) :
    b'.Held action ↔ b.Held action := by
  rw [Held, Held, getAttacker_congr cells, units]

/-- What queueing an action adds to the queue. -/
lemma mem_addBattleAction {action a : BattleAction} (mem : a ∈ (b.addBattleAction action).unitTurn) :
    a ∈ b.unitTurn ∨ a.atkCell = action.atkCell ∧ a.skill = action.skill := by
  rw [addBattleAction] at mem
  cases cell : b.getAttacker action with
  | none =>
    rw [cell] at mem
    exact Or.inl mem
  | some u =>
    rw [cell] at mem
    rcases List.mem_append.mp mem with old | last
    · exact Or.inl old
    · cases List.mem_singleton.mp last
      exact Or.inr ⟨rfl, rfl⟩

/-- The unit on the attacking cell has the skill. -/
lemma held_of_cell {action : BattleAction} {c : Nat × Nat} {u : Nat} (cell : action.atkCell = c)
    (stands : b.battleUnit c.1 c.2 = some u) (held : (b.units u).haveSpell action.skill = true) : b.Held action := by
  subst cell
  intro v at'
  rw [getAttacker, getBattleUnit] at at'
  split at at'
  · cases at'
  · cases stands.symm.trans at'
    exact held

/-- Who acts depends on the units and the cells. -/
lemma acting_congr (units : b'.units = b.units) (cells : b'.battleUnit = b.battleUnit) : b'.acting = b.acting := by
  funext c
  rw [acting, acting, units, cells]

/-- Whether there is a target depends on the units and the cells. -/
lemma hasTarget_congr (units : b'.units = b.units) (cells : b'.battleUnit = b.battleUnit) :
    b'.hasTarget = b.hasTarget := by
  have standing : b'.standing = b.standing := by
    funext c
    rw [standing, standing, units, cells]
  rw [hasTarget, hasTarget, standing]

/-- The condition on the creatures depends on the units and the cells. -/
lemma keepsHeld_congr (units : b'.units = b.units) (grid : b'.battleUnit = b.battleUnit)
    (cells : List (Nat × Nat)) (spell : Nat) : KeepsHeld b' dice spell cells ↔ KeepsHeld b dice spell cells := by
  induction cells generalizing spell with
  | nil => exact Iff.rfl
  | cons c cells ih =>
    rw [KeepsHeld, KeepsHeld, acting_congr units grid, hasTarget_congr units grid, units]
    cases b.acting c with
    | none => exact ih spell
    | some u =>
      simp only
      split
      · exact ih _
      · exact and_congr_right fun _ => ih spell

/-- The creature of a cell has the skill that it chooses. -/
lemma keepsHeld_cons {c : Nat × Nat} {cells : List (Nat × Nat)} {u spell : Nat} (acts : b.acting c = some u)
    (keeps : KeepsHeld b dice spell (c :: cells)) :
    let chosen := if dice.chance c.1 c.2 < 50 then (b.units u).getRandomSpell (dice.pos c.1 c.2) else spell
    (b.hasTarget = true → (b.units u).haveSpell chosen = true) ∧ KeepsHeld b dice chosen cells := by
  rw [KeepsHeld, acts] at keeps
  simp only at keeps ⊢
  split
  · next low =>
    rw [if_pos low] at keeps
    exact ⟨fun _ => getRandomSpell_held _ _, keeps⟩
  · next high =>
    rw [if_neg high] at keeps
    exact keeps

/-- The AI queues skills that the creatures have. -/
lemma aiSteps_held {cells : List (Nat × Nat)} {s s' : Nat × Engine} (keeps : KeepsHeld s.2 dice s.1 cells)
    (run : cells.foldlM (aiStep rules dice) s = .ok s') :
    ∀ a ∈ s'.2.unitTurn, a ∈ s.2.unitTurn ∨ s.2.Held a := by
  induction cells generalizing s with
  | nil =>
    cases run
    exact fun a mem => Or.inl mem
  | cons c cells ih =>
    obtain ⟨s₁, first, run⟩ := foldlM_cons_ok.mp run
    obtain ⟨q, same⟩ := aiStep_queue first
    have units : s₁.2.units = s.2.units := by rw [same]
    have grid : s₁.2.battleUnit = s.2.battleUnit := by rw [same]; rfl
    have acts := aiStep_acting first
    cases acting : s.2.acting c with
    | none =>
      rw [acting] at acts
      cases acts
      rw [KeepsHeld, acting] at keeps
      exact ih keeps run
    | some u =>
      rw [acting] at acts
      obtain ⟨chosen, queued⟩ := acts
      obtain ⟨held, rest⟩ := keepsHeld_cons acting keeps
      rw [← chosen] at held rest
      have keeps' : KeepsHeld s₁.2 dice s₁.1 cells := by
        exact (keepsHeld_congr units grid cells s₁.1).mpr rest
      intro a mem
      rcases ih keeps' run a mem with before | held'
      · rcases queued with eq | ⟨target, t, eq⟩
        · rw [eq] at before
          exact Or.inl before
        · rw [eq] at before
          rcases mem_addBattleAction before with old | ⟨cell, skill⟩
          · exact Or.inl old
          · refine Or.inr (held_of_cell cell (Option.filter_eq_some_iff.mp acting).1 ?_)
            rw [skill]
            exact held target
      · exact Or.inr ((held_congr units grid a).mp held')

/-- What the creatures add are skills that they have. -/
lemma aiMove_held (keeps : KeepsHeld b dice spellBasic defenderCells) (run : aiMove rules dice b = .ok b') :
    ∀ a ∈ b'.unitTurn, a ∈ b.unitTurn ∨ b.Held a := by
  obtain ⟨s, fold, done⟩ | ⟨e, -, failed⟩ := aiMove_cases run
  · cases done
    exact aiSteps_held (s := (spellBasic, b)) keeps fold
  · cases failed

namespace Grouping

variable {g g' : Grouping} {action : BattleAction}

/-- Pushing adds the action, and nothing else. -/
lemma pushBack_mem {i : Nat} (run : g.pushBack i action = .ok g') :
    ∀ j, ∀ a ∈ g'.actions j, a ∈ g.actions j ∨ a = action := by
  rw [pushBack] at run
  split at run
  · cases run
    intro j a mem
    simp only [Function.update_apply] at mem
    split at mem
    · next eq =>
      rcases List.mem_append.mp mem with old | last
      · exact Or.inl (eq ▸ old)
      · exact Or.inr (List.mem_singleton.mp last)
    · exact Or.inl mem
  · cases run

/-- Opening a list adds the action, and nothing else. -/
lemma pushNext_mem (run : g.pushNext action = .ok g') :
    ∀ j, ∀ a ∈ g'.actions j, a ∈ g.actions j ∨ a = action := by
  rw [pushNext] at run
  split at run
  · exact pushBack_mem run
  · exact pushBack_mem run

/-- Placing adds the action, and nothing else. -/
lemma place_mem {dRoll : ℚ} (run : place rules b dRoll g action = .ok g') :
    ∀ j, ∀ a ∈ g'.actions j, a ∈ g.actions j ∨ a = action := by
  rw [place] at run
  split at run
  · exact pushNext_mem run
  · split at run
    · exact pushBack_mem run
    · next last _ =>
      obtain ⟨linked, -, run⟩ := bind_eq_ok.mp run
      cases linked with
      | true => exact pushBack_mem run
      | false => exact pushNext_mem run

/-- The lists are filled from the queue. -/
lemma placeAll_mem {link : Nat → ℚ} {queue : List BattleAction} (run : placeAll rules b link g queue = .ok g') :
    ∀ j, ∀ a ∈ g'.actions j, a ∈ g.actions j ∨ a ∈ queue := by
  induction queue generalizing link g with
  | nil =>
    cases run
    exact fun j a mem => Or.inl mem
  | cons action queue ih =>
    rw [placeAll] at run
    obtain ⟨g₁, step, run⟩ := bind_eq_ok.mp run
    intro j a mem
    rcases ih run j a mem with placed | later
    · rcases place_mem step j a placed with old | rfl
      · exact Or.inl old
      · exact Or.inr List.mem_cons_self
    · exact Or.inr (List.mem_cons_of_mem _ later)

end Grouping

/-- The lists of a turn hold actions of its queue and of the AI. -/
lemma buildActions_held (keeps : KeepsHeld b dice spellBasic defenderCells)
    (run : buildActions rules dice b = .ok b') :
    ∀ i, ∀ a ∈ b'.actions i, a ∈ b.unitTurn ∨ b.Held a := by
  rw [buildActions] at run
  obtain ⟨b₁, move, run⟩ := bind_eq_ok.mp run
  obtain ⟨g, place, run⟩ := bind_eq_ok.mp run
  cases run
  have keeps' : KeepsHeld b.clearTurn dice spellBasic defenderCells :=
    (keepsHeld_congr (b := b) rfl rfl _ _).mpr keeps
  intro i a mem
  obtain ⟨q, queue⟩ := aiMove_queue move
  rcases Grouping.placeAll_mem place i a mem with old | queued
  · rw [queue] at old
    cases old
  · exact aiMove_held keeps' move a ((List.perm_insertionSort _ _).mem_iff.mp queued)

end Engine

namespace Combat

open Engine

variable {rules : Rules} {s s' : Combat}

/-- Every action that waits to be performed has a skill of its attacker. -/
structure OwnSkills (s : Combat) : Prop where
  lists : ∀ i < actionLists, ∀ a ∈ s.engine.actions i, s.engine.Held a
  acts : ∀ a ∈ s.control.acts, s.engine.Held a

/-- An attack that is not refused is one from a cell of the grid with a skill of its attacker, or one without a
template; a creature that keeps the skill of the one before has it; and a pet that enters the battle has the skills
queued for its place. -/
def OwnSkill (rules : Rules) (s : Combat) : Event → Prop
  | .attack p action =>
    p ∈ s.engine.playerList → s.engine.isActionComplete = false →
      InGrid action.atkCell ∧ (rules.spellTemplate action.skill = none ∨ s.engine.Held action)
  | .petCommand p (.battle modelId) _ =>
    p ∈ s.engine.playerList → ∀ pet ∈ s.engine.getPetByModelId p modelId, ∀ c ∈ colCells,
      s.engine.battleUnit c.1 c.2 = some p → ∀ a ∈ s.engine.unitTurn ++ s.engine.pending,
        cellIndex a.atkCell = cellIndex (petCell c) → (s.engine.units pet).haveSpell a.skill = true
  | .build dice => s.engine.KeepsHeld dice spellBasic defenderCells
  | _ => True

instance (rules : Rules) (s : Combat) : DecidablePred (OwnSkill rules s)
  | .attack _ _ => inferInstanceAs (Decidable (_ → _ → _ ∧ (_ ∨ _)))
  | .petCommand p (.battle modelId) _ => inferInstanceAs (Decidable (
    p ∈ s.engine.playerList → ∀ pet ∈ s.engine.getPetByModelId p modelId, ∀ c ∈ colCells,
      s.engine.battleUnit c.1 c.2 = some p → ∀ a ∈ s.engine.unitTurn ++ s.engine.pending,
        cellIndex a.atkCell = cellIndex (petCell c) → (s.engine.units pet).haveSpell a.skill = true))
  | .build dice => inferInstanceAs (Decidable (s.engine.KeepsHeld dice spellBasic defenderCells))
  | .petCommand _ .rest _ | .petCommand _ .other _ | .useItem _ | .leave _ | .tick | .update | .act _ | .hit _ |
    .finish | .conclude => inferInstanceAs (Decidable True)

/-- Every action that is queued or waits to be performed has a skill of its attacker. -/
structure SkillsHeld (s : Combat) : Prop extends OwnSkills s where
  queue : ∀ a ∈ s.engine.unitTurn, s.engine.Held a

/-- Where nobody enters and the skills stay, an attacker keeps its skill. -/
lemma Held.fades {b b' : Engine} {a : BattleAction} (held : b.Held a) (fades : Fades b b') : b'.Held a := by
  intro u cell
  rw [haveSpell_congr (fades.spells u)]
  exact held u (fades.getBattleUnit cell)

/-- A step that queues nothing and brings no new actions into the lists. -/
lemma SkillsHeld.mono (skills : SkillsHeld s)
    (held : ∀ a ∈ s.engine.unitTurn ++ s.engine.pending, s.engine.Held a → s'.engine.Held a)
    (queue : ∀ a ∈ s'.engine.unitTurn, a ∈ s.engine.unitTurn)
    (lists : ∀ i < actionLists, ∀ a ∈ s'.engine.actions i, a ∈ s.engine.actions i)
    (acts : ∀ a ∈ s'.control.acts, s'.engine.Held a) : SkillsHeld s' := by
  refine ⟨⟨fun i lt a mem => ?_, acts⟩, fun a mem => ?_⟩
  · have old := lists i lt a mem
    have pending : a ∈ s.engine.pending := List.mem_flatMap.mpr ⟨i, List.mem_range.mpr lt, old⟩
    exact held a (List.mem_append_right _ pending) (skills.lists i lt a old)
  · exact held a (List.mem_append_left _ (queue a mem)) (skills.queue a (queue a mem))

/-- The check of a packet lets a skill of the attacker pass, and replaces one without a template. -/
lemma checkSkill_held {u : Unit} {skill : Nat} (own : rules.spellTemplate skill = none ∨ u.haveSpell skill = true) :
    u.haveSpell (u.checkSkill rules skill) = true := by
  rw [Unit.checkSkill]
  split
  · next held => exact held
  · next unheld =>
    rcases own with none | held
    · rw [none]
      rfl
    · exact absurd held unheld

/-- An attack joins the queue. -/
lemma SkillsHeld.attack {p u : Nat} {action : BattleAction} (skills : SkillsHeld s)
    (cell : s.engine.getAttacker action.selfTarget = some u)
    (own : rules.spellTemplate action.skill = none ∨ s.engine.Held action) :
    SkillsHeld (counted { s with
      engine := (s.engine.addBattleAction
        { action.selfTarget with skill := (s.engine.units u).checkSkill rules action.skill }).incAction
      queuedBy := s.queuedBy ++ [p] }) := by
  obtain ⟨q, eq⟩ := addBattleAction_queue s.engine
    { action.selfTarget with skill := (s.engine.units u).checkSkill rules action.skill }
  have same : ∀ a, (s.engine.addBattleAction
      { action.selfTarget with skill := (s.engine.units u).checkSkill rules action.skill }).incAction.Held a ↔
        s.engine.Held a := by
    rw [eq]
    exact fun a => held_congr rfl rfl a
  refine ⟨⟨fun i lt a mem => (same a).mpr (skills.lists i lt a ?_), fun a mem => ?_⟩, fun a mem => (same a).mpr ?_⟩
  · exact (addBattleAction_turn s.engine _).1 ▸ mem
  · rw [counted_acts] at mem
    cases mem
  · rcases mem_addBattleAction mem with old | ⟨at', skill⟩
    · exact skills.queue a old
    · intro v attacker
      have here : s.engine.getAttacker a = s.engine.getAttacker action.selfTarget := getAttacker_of_cell _ at'
      cases cell.symm.trans (here.symm.trans attacker)
      rw [skill]
      refine checkSkill_held (own.imp_right fun held => held u ?_)
      exact (getAttacker_of_cell s.engine (selfTarget_atkCell action)).symm.trans cell

/-- A pet command keeps the skills when the pet has those of its cell. -/
lemma held_petCommand {p : Nat} {command : PetCommand} {falls : Bool} {b : Engine} (staffed : s.engine.Staffed)
    (member : p ∈ s.engine.playerList) (own : OwnSkill rules s (.petCommand p command falls))
    (run : s.engine.petCommand p command falls = some b) {a : BattleAction}
    (mem : a ∈ s.engine.unitTurn ++ s.engine.pending) (held : s.engine.Held a) : b.Held a := by
  obtain ⟨-, fades | ⟨modelId, pet, rfl, found, shifts⟩⟩ := petCommand_cases staffed run
  · exact Held.fades held fades
  · intro u attacker
    rw [haveSpell_congr (shifts.spells u)]
    rcases shifts.cell _ _ u (getBattleUnit_some attacker) with old | ⟨rfl, c, mem', stands, eq⟩
    · refine held u ?_
      rw [getAttacker, getBattleUnit] at attacker
      split at attacker
      · cases attacker
      · next inside => exact (if_neg inside).trans old
    · exact own member u found c mem' stands a mem eq.symm

/-- A packet with an own skill keeps all skills held. -/
lemma SkillsHeld.change {e : Event} (staffed : s.engine.Staffed) (skills : SkillsHeld s) (own : OwnSkill rules s e)
    (change : Change rules s e s') : SkillsHeld s' := by
  cases change with
  | attack member cell pending => exact skills.attack cell (own member pending).2
  | petCommand member run =>
    obtain ⟨same, -⟩ := petCommand_cases staffed run
    refine skills.mono (fun a mem held => held_petCommand staffed member own run mem held)
      (fun a mem => same.unitTurn ▸ mem) (fun i _ a mem => same.actions ▸ mem) fun a mem => ?_
    rw [counted_acts] at mem
    cases mem
  | useItem member =>
    refine skills.mono (fun a _ held => (held_congr (b := s.engine) rfl rfl a).mpr held) (fun a mem => mem)
      (fun i _ a mem => mem) fun a mem => ?_
    rw [counted_acts] at mem
    cases mem
  | timeout idle waits late =>
    exact skills.mono (fun a _ held => (held_congr (b := s.engine) rfl rfl a).mpr held) (fun a mem => mem)
      (fun i _ a mem => mem) nofun
  | @build timedOut dice b control run =>
    obtain ⟨lists, eq⟩ := buildActions_eq run
    have same : ∀ a, s.engine.Held a → b.Held a := by
      rw [eq]
      exact fun a held => (held_congr (b := s.engine) rfl rfl a).mpr held
    refine ⟨⟨fun i lt a mem => same a ?_, fun a mem => ?_⟩, fun a mem => ?_⟩
    · rcases buildActions_held own run i a mem with queued | held
      · exact skills.queue a queued
      · exact held
    · simp only at mem
      split at mem <;> cases mem
    · simp only [eq] at mem
      cases mem
  | @turn b sends quiet none =>
    obtain ⟨queue, lists, -⟩ := sendTurnComplete_turn b
    have fades : Fades s.engine b.sendTurnComplete := quiet.fades.trans_fades (sendTurnComplete_fades b)
    refine skills.mono (fun a _ held => Held.fades held fades) (fun a mem => ?_) (fun i _ a mem => ?_) nofun
    · exact quiet.sameTurn.unitTurn ▸ queue ▸ mem
    · exact quiet.sameTurn.actions ▸ lists ▸ mem
  | @take b b' i g sends quiet first run =>
    obtain ⟨lists, taken⟩ := takeList_mem first run
    obtain ⟨new, eq⟩ := takeList_eq run
    have same : ∀ a, s.engine.Held a → b'.Held a := by
      obtain ⟨_, _, _, _, rfl⟩ := quiet
      rw [eq]
      exact fun a held => (held_congr (b := s.engine) rfl rfl a).mpr held
    refine skills.mono (fun a _ held => same a held) (fun a mem => ?_) (fun j _ a mem => ?_) fun a mem => ?_
    · rw [eq] at mem
      exact quiet.sameTurn.unitTurn ▸ mem
    · exact quiet.sameTurn.actions ▸ lists j a mem
    · obtain ⟨a₀, old, cell, skill⟩ := taken a mem
      have held := skills.lists i (firstList_eq_some first).1 a₀ (quiet.sameTurn.actions ▸ old)
      refine same a fun u attacker => ?_
      rw [skill]
      exact held u ((getAttacker_of_cell s.engine cell).symm.trans attacker)
  | quiet fades same queuedBy acts before control =>
    refine skills.mono (fun a _ held => Held.fades held fades) (fun a mem => same.unitTurn ▸ mem)
      (fun i _ a mem => same.actions ▸ mem) fun a mem => ?_
    exact Held.fades (skills.acts a (acts a mem)) fades

/-- A unit only performs skills that it has: every action that waits to be performed has a skill of its
attacker, if the packets and the AI choose such skills. -/
theorem ownSkills_of_reaches {b : Engine} (ready : Ready b) (run : Runs rules (OwnSkill rules) (start b) s) :
    OwnSkills s := by
  have queue : (start b).engine.unitTurn = [] := (sendTurnComplete_turn b).1.trans ready.unitTurn
  have lists : ∀ i, (start b).engine.actions i = [] := by
    intro i
    show b.sendTurnComplete.actions i = []
    rw [(sendTurnComplete_turn b).2.1]
    exact ready.actions i
  have skills : SkillsHeld s := by
    refine Runs.invariant run (start_staffed ready) ⟨⟨fun i _ a mem => ?_, nofun⟩, fun a mem => ?_⟩
      fun staffed skills own change => skills.change staffed own change
    · rw [lists i] at mem
      cases mem
    · rw [queue] at mem
      cases mem
  exact skills.toOwnSkills

/-- The creature of the duel performs its basic attack. -/
theorem ownSkills_duel :
    ∃ s, Runs basicRules (OwnSkill basicRules) (start duel) s ∧ s.control.acts.length = 1 ∧ OwnSkills s := by
  have run : Runs basicRules (OwnSkill basicRules) (start duel) _ :=
    reaches_of_exec
      [.attack 1 ⟨3, 2, spellBasic, 0, 2, 0⟩, .build (evenDice 70), .tick, .update] (by decide +kernel) rfl
  exact ⟨_, run, rfl, ownSkills_of_reaches ready_duel run⟩

/-- There is also a template for tree spirit, which nobody in the duel has learnt. -/
def taughtRules : Rules := { basicRules with
  spellTemplate := fun entry => if entry = 10004 then some ⟨10004, 1, 1, 10⟩ else basicRules.spellTemplate entry }

/-- The player attacks with tree spirit, after the creature and its animation. -/
def untaught : List Event :=
  [.attack 1 ⟨3, 2, 10004, 0, 2, 0⟩, .build (evenDice 70), .tick, .update, .act ⟨0, 0, none⟩, .hit ⟨10, 0, none⟩,
    .finish, .conclude] ++ (List.replicate 12 [.tick, .update, .conclude]).flatten ++ [.tick, .update]

/-- In the run of the example a unit is about to use a skill that it does not have. -/
lemma untaught_run :
    (exec (fun s e => (step taughtRules s e).toOption) (start duel) untaught).map (fun s =>
      s.control.acts.map fun a => (s.engine.getAttacker a).map fun u => (s.engine.units u).haveSpell a.skill) =
      some [some false] := by
  decide +kernel

/-- A player performs a spell that it does not have. -/
theorem not_ownSkills_untaught :
    ¬∀ (rules : Rules) (b : Engine) (s : Combat), Ready b → Runs rules (fun _ _ => True) (start b) s → OwnSkills s := by
  intro own
  obtain ⟨s, reached, last⟩ := Option.map_eq_some_iff.mp untaught_run
  have run : Runs taughtRules (fun _ _ => True) (start duel) s := reaches_of_exec _ (along_true _ _) reached
  have skills := own taughtRules duel s ready_duel run
  have first : some false ∈ s.control.acts.map fun a =>
      (s.engine.getAttacker a).map fun u => (s.engine.units u).haveSpell a.skill :=
    last ▸ List.mem_singleton_self _
  obtain ⟨a, mem, unheld⟩ := List.mem_map.mp first
  obtain ⟨u, attacker, lacks⟩ := Option.map_eq_some_iff.mp unheld
  rw [skills.acts a mem u attacker] at lacks
  cases lacks

end Combat

end Legacy.Battle
