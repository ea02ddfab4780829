import Legacy.Battle.Change
import Legacy.Battle.Awaited

/-!
# The end of a state

A spell adds a state to its victim for some turns, and the victim has two counters that the ends of the turns tick
(`BuildUpdateBlockSpellMod` and `ResetAction`, `src/src/game/BattleSystem.cpp`). `Befalls` says what a step of the
battle does to the states of a unit. `gone_of_exec` says that a state that belongs to a counter ends in time and stays
away until one of its bits is added again. Magnify and minify belong to neither counter.
-/

namespace Legacy.Battle
open Legacy.Lib

namespace Unit

variable {u u' u₁ : Unit} {t : Timer} {f k : Nat}

/-- The states are the same, and so are their counters. -/
structure SameStates (u u' : Unit) : Prop where
  state : u'.state = u.state
  duration : u'.duration = u.duration

/-- The state is one of a counter. -/
def HasCounter (f : Nat) : Prop := ∃ t : Timer, f ∈ t.effects

/-- The state is gone, or it is after at most `k` ticks of its counter. -/
def Expires (u : Unit) (t : Timer) (f k : Nat) : Prop := u.state &&& f = 0 ∨ ∃ n, 0 < n ∧ n ≤ k ∧ u.InPlace t f n

/-- A unit has its own states. -/
lemma SameStates.refl (u : Unit) : SameStates u u := ⟨rfl, rfl⟩

/-- Having the same states is transitive. -/
lemma SameStates.trans (same : SameStates u u₁) (same' : SameStates u₁ u') : SameStates u u' :=
  ⟨same'.state.trans same.state, same'.duration.trans same.duration⟩

/-- Other fields do not matter. -/
lemma SameStates.of_eq (state : u'.state = u.state) (disabled : u'.disabledDuration = u.disabledDuration)
    (positive : u'.positiveBufDuration = u.positiveBufDuration) : SameStates u u' := by
  refine ⟨state, funext fun t => ?_⟩
  cases t with
  | disabled => exact disabled
  | positive => exact positive

/-- Damage keeps the states. -/
lemma dealDamage_states (u : Unit) (damage : Int) : SameStates u (u.isDealDamageToAndKill damage).1 := by
  rw [isDealDamageToAndKill]
  split
  · split
    · exact SameStates.of_eq rfl rfl rfl
    · exact SameStates.of_eq rfl rfl rfl
  · exact SameStates.refl u

/-- Leaving resets all states. -/
lemma leaveBattle_states (u : Unit) : SameStates u.resetAllState u.leaveBattle := by
  rw [leaveBattle]
  split <;> exact SameStates.of_eq rfl rfl rfl

/-- A state that expires now is gone. -/
lemma Expires.gone (expires : u.Expires t f 0) : u.state &&& f = 0 := by
  obtain gone | ⟨n, pos, le, -⟩ := expires
  · exact gone
  · omega

/-- A state that expires in time expires later too. -/
lemma Expires.mono {n : Nat} (expires : u.Expires t f k) (le : k ≤ n) : u.Expires t f n := by
  obtain gone | ⟨n, pos, le', place⟩ := expires
  · exact Or.inl gone
  · exact Or.inr ⟨n, pos, le'.trans le, place⟩

/-- Only the bits of the state and its counter matter. -/
lemma Expires.of_eq (expires : u.Expires t f k) (bits : u'.state &&& f = u.state &&& f)
    (runs : u'.duration t = u.duration t) : u'.Expires t f k := by
  obtain gone | ⟨n, pos, le, place⟩ := expires
  · exact Or.inl (bits.trans gone)
  · exact Or.inr ⟨n, pos, le, bits.trans place.1, runs.trans place.2⟩

/-- Where the states are the same, so is their end. -/
lemma Expires.same (expires : u.Expires t f k) (same : SameStates u u') : u'.Expires t f k :=
  expires.of_eq (by rw [same.state]) (congrFun same.duration t)

/-- A reset ends everything. -/
lemma expires_reset (u : Unit) (t : Timer) (f k : Nat) : u.resetAllState.Expires t f k := Or.inl (Nat.zero_and f)

/-- Taking and leaving a defence are no matter of the counters. -/
lemma Expires.defended (effect : f ∈ t.effects) (expires : u.Expires t f k) :
    (u.addUnitState Unit.defend).Expires t f k := by
  obtain ⟨-, -, -, apart⟩ := effects_bits t f effect
  rw [Nat.and_comm] at apart
  exact expires.of_eq (u.and_addUnitState apart) (congrFun (duration_addUnitState u Unit.defend) t)

/-- The end of the defence leaves the other states. -/
lemma Expires.undefended (effect : f ∈ t.effects) (expires : u.Expires t f k) :
    (u.clearUnitState Unit.defend).Expires t f k := by
  obtain ⟨-, -, -, apart⟩ := effects_bits t f effect
  rw [Nat.and_comm] at apart
  exact expires.of_eq (u.and_clearUnitState apart) (congrFun (duration_clearUnitState u Unit.defend) t)

/-- A tick takes states away and adds none. -/
lemma tick_gone (t₀ : Timer) (gone : u.state &&& f = 0) : (u.tick t₀).1.state &&& f = 0 := by
  rw [tick_eq]
  split
  · exact gone
  · rw [clearUnitState, state_setDuration, and_clear, gone, Nat.zero_xor, Nat.and_left_comm, gone, Nat.and_zero]
  · rw [state_setDuration, gone]

/-- A tick of its own counter brings the end nearer. -/
lemma Expires.tick_own (effect : f ∈ t.effects) (expires : u.Expires t f k) : (u.tick t).1.Expires t f (k - 1) := by
  obtain gone | ⟨n, pos, le, place⟩ := expires
  · exact Or.inl (tick_gone t gone)
  · obtain ⟨m, rfl⟩ := Nat.exists_eq_succ_of_ne_zero pos.ne'
    cases m with
    | zero => exact Or.inl (tick_last effect place)
    | succ m =>
      refine Or.inr ⟨m + 1, Nat.succ_pos m, by omega, ?_⟩
      have later := inPlace_step (e := .tick t) effect place trivial nofun (fun _ => Nat.succ_ne_zero m) rfl
      rwa [show ticks t [.tick t] = 1 by simp [ticks]] at later

/-- A tick of the other counter takes nothing from the states of this one. -/
lemma Expires.tick_other {t₀ : Timer} (effect : f ∈ t.effects) (ne : t ≠ t₀) (expires : u.Expires t f k) :
    (u.tick t₀).1.Expires t f k := by
  obtain ⟨-, -, other, -⟩ := effects_bits t f effect
  obtain ⟨runs, bits⟩ := u.tick_other ne
  refine expires.of_eq (bits f ?_) runs
  rw [Timer.eq_other ne.symm, Nat.and_comm, other]

/-- The end of a turn ticks each counter once. -/
lemma Expires.endTurn (effect : f ∈ t.effects) (expires : u.Expires t f k) : u.endTurn.Expires t f (k - 1) := by
  rw [endTurn_eq_ticks]
  refine Expires.undefended effect ?_
  cases t with
  | disabled => exact (expires.tick_own effect).tick_other effect (show Timer.disabled ≠ .positive from nofun)
  | positive => exact (expires.tick_other effect (show Timer.positive ≠ .disabled from nofun)).tick_own effect

/-- Every turn that ends brings the end of a state nearer. -/
lemma Expires.endTurns (effect : f ∈ t.effects) (n : Nat) (expires : u.Expires t f k) :
    (Unit.endTurn^[n] u).Expires t f (k - n) := by
  induction n generalizing u k with
  | zero => exact expires
  | succ n ih =>
    rw [Function.iterate_succ_apply, Nat.add_comm n 1, Nat.sub_add_eq]
    exact ih (expires.endTurn effect)

/-- What a state changes when it is added; one of a counter is refused while another one of it is there. -/
lemma addUnitStateFor_cases {g d : Nat} (added : u.addUnitStateFor g d = some u') :
    u'.state = u.state ||| g ∧ (u'.duration = u.duration ∨
      ∃ t₀ : Timer, u.state &&& t₀.mask = 0 ∧ ∀ t ≠ t₀, u'.duration t = u.duration t) := by
  by_cases counter : HasCounter g
  · obtain ⟨t₀, effect⟩ := counter
    rw [addUnitStateFor_eq u effect] at added
    split at added
    · cases added
    · next absent =>
      cases added
      refine ⟨state_setDuration .., Or.inr ⟨t₀, by simpa [hasUnitState] using absent, fun t ne => ?_⟩⟩
      rw [duration_setDuration_ne ne, duration_addUnitState]
  · have disabled : g ∉ [4, 6, 8, 16] := fun effect => counter ⟨.disabled, effect⟩
    have positive : g ∉ [8192, 16384, 32768, 65536, 131072, 262144] := fun effect => counter ⟨.positive, effect⟩
    rw [addUnitStateFor, if_neg disabled, if_neg positive] at added
    cases added
    exact ⟨rfl, Or.inl (duration_addUnitState u g)⟩

/-- Another state that is added does not keep this one. -/
lemma Expires.added {g d : Nat} (effect : f ∈ t.effects) (apart : g &&& f = 0)
    (added : u.addUnitStateFor g d = some u') (expires : u.Expires t f k) : u'.Expires t f k := by
  obtain ⟨state, durations⟩ := addUnitStateFor_cases added
  have bits : u'.state &&& f = u.state &&& f := by rw [state, Nat.and_or_distrib_right, apart, Nat.or_zero]
  obtain same | ⟨t₀, absent, others⟩ := durations
  · exact expires.of_eq bits (congrFun same t)
  · by_cases own : t = t₀
    · -- the counter of a state in place accepts no other state
      subst own
      refine Or.inl (bits.trans ?_)
      obtain ⟨-, own, -, -⟩ := effects_bits t f effect
      rw [← own, Nat.and_comm f, ← Nat.and_assoc, absent, Nat.zero_and]
    · exact expires.of_eq bits (others t own)

/-- A state ends with the tick after its duration. -/
lemma expires_of_added {d : Nat} (effect : f ∈ t.effects) (small : d < 255)
    (added : u.addUnitStateFor f d = some u') : u'.Expires t f (d + 1) :=
  Or.inr ⟨d + 1, Nat.succ_pos d, le_rfl, inPlace_of_added effect small added⟩

end Unit

namespace Engine

variable {b b₁ b' : Engine}

/-- No state of a unit changes, and no turn begins to wait. -/
structure Keeps (b b' : Engine) : Prop where
  states : ∀ v, Unit.SameStates (b.units v) (b'.units v)
  waits : b'.waitForAction = true → b.waitForAction = true

/-- Where no unit changes and no turn begins to wait, all is kept. -/
lemma Keeps.of_eq (units : b'.units = b.units) (waits : b'.waitForAction = true → b.waitForAction = true) :
    Keeps b b' := by
  refine ⟨fun v => ?_, waits⟩
  rw [units]
  exact Unit.SameStates.refl _

/-- Nothing changes where nothing is done. -/
lemma Keeps.refl (b : Engine) : Keeps b b := Keeps.of_eq rfl id

/-- Keeping is transitive. -/
lemma Keeps.trans (keeps : Keeps b b₁) (keeps' : Keeps b₁ b') : Keeps b b' :=
  ⟨fun v => (keeps.states v).trans (keeps'.states v), fun waits => keeps.waits (keeps'.waits waits)⟩

/-- A unit that keeps its states keeps them. -/
lemma setUnit_keeps {u : Nat} {unit : Unit} (same : Unit.SameStates (b.units u) unit) : Keeps b (b.setUnit u unit) := by
  refine ⟨fun v => ?_, id⟩
  rw [setUnit_units]
  split
  · next eq => rwa [eq]
  · exact Unit.SameStates.refl _

/-- Counting an action keeps the states. -/
lemma incAction_keeps (b : Engine) : Keeps b b.incAction := Keeps.of_eq rfl id

/-- Counting an action, or not, keeps the states. -/
lemma incIf_keeps (b : Engine) (acted : Bool) : Keeps b (b.incIf acted) := by
  cases acted with
  | true => exact incAction_keeps b
  | false => exact Keeps.refl b

/-- The pet of a player has no part in the states. -/
lemma setBattlePet_keeps (b : Engine) (p : Nat) (pet : Option Nat) : Keeps b (b.setBattlePet p pet) :=
  setUnit_keeps (Unit.SameStates.of_eq rfl rfl rfl)

/-- Taking a pet out keeps the states. -/
lemma deactivatePetFor_keeps (b : Engine) (p : Nat) (falls : Bool) : Keeps b (b.deactivatePetFor p falls).1 := by
  rw [deactivatePetFor]
  split
  · exact Keeps.of_eq rfl id
  · exact Keeps.refl b

/-- Bringing a pet in keeps the states. -/
lemma activatePetFor_keeps (b : Engine) (p pet : Nat) : Keeps b (b.activatePetFor p pet).1 := by
  rw [activatePetFor]
  split
  · split
    · exact Keeps.of_eq rfl id
    · exact Keeps.refl b
  · exact Keeps.refl b

/-- A pet command keeps the states. -/
lemma petCommand_keeps {p : Nat} {command : PetCommand} {falls : Bool}
    (run : b.petCommand p command falls = some b') : Keeps b b' := by
  have rested : Keeps b ((b.deactivatePetFor p falls).1.incIf (b.deactivatePetFor p falls).2) :=
    (deactivatePetFor_keeps b p falls).trans (incIf_keeps _ _)
  cases command with
  | battle modelId =>
    obtain ⟨pet, -, rfl⟩ := Option.map_eq_some_iff.mp run
    have chosen := (rested.trans (setBattlePet_keeps _ p none)).trans (setBattlePet_keeps _ p (some pet))
    exact (chosen.trans (activatePetFor_keeps _ p pet)).trans (incIf_keeps _ _)
  | rest =>
    cases run
    rw [restCommand]
    cases (b.units p).battlePet with
    | none => exact setBattlePet_keeps b p none
    | some pet => exact (rested.trans (incAction_keeps _)).trans (setBattlePet_keeps _ p none)
  | other =>
    cases run
    exact Keeps.refl b

/-- What is quiet keeps the states. -/
lemma Quiet.keeps (quiet : Quiet b b') : Keeps b b' := by
  obtain ⟨_, _, _, _, rfl⟩ := quiet
  exact Keeps.of_eq rfl id

/-- A catch keeps the states. -/
lemma catchPet_keeps {action : BattleAction} {dice : ActDice} {catched : Bool}
    (run : b.catchPet action dice = .ok (b', catched)) : Keeps b b' := by
  obtain ⟨-, rfl⟩ | ⟨p, slot, pet, -, -, rfl⟩ := catchPet_cases run
  · exact Keeps.refl b'
  · exact setUnit_keeps (Unit.SameStates.of_eq rfl rfl rfl)

/-- Who leaves is reset, and nobody else. -/
lemma leaveBattle_units (b : Engine) (p v : Nat) :
    Unit.SameStates (b.units v) ((b.leaveBattle p).units v) ∨
      Unit.SameStates (b.units v).resetAllState ((b.leaveBattle p).units v) := by
  simp only [leaveBattle]
  split
  · exact Or.inr (Unit.leaveBattle_states _)
  · exact Or.inl (Unit.SameStates.refl _)

end Engine

/-- A state that a spell has added to its victim. -/
structure AddedState where
  victim : Nat
  state : Nat
  duration : Nat
  deriving DecidableEq, Repr

namespace Combat

variable {rules : Rules} {s s' : Combat}

/-- The state that a hit adds (source `BattleSystem::BuildUpdateBlockSpellMod`, where `victim->addUnitState` with a
duration returns true). -/
def addedBy (s : Combat) (h : Hits) (hit : BattleAction) (dice : HitDice) : Option AddedState := do
  let _ ← s.engine.getAttacker hit
  let victim ← s.engine.getVictim hit
  if (s.engine.units victim).missedBy h.sinfo h.catched dice.missed || !h.sinfo.changesState then none
  else
    let (state, dur) ← h.sinfo.unitState
    let _ ← (s.engine.units victim).addUnitStateFor state dur
    return ⟨victim, state, dur⟩

/-- The state that a step adds, if it is a hit that does. -/
def added (s : Combat) (e : Event) : Option AddedState :=
  match s.control, e with
  | .hits ⟨hit :: pending, sinfo, catched, group⟩, .hit dice =>
    s.addedBy ⟨hit :: pending, sinfo, catched, group⟩ hit dice
  | _, _ => none

/-- What a step that ends no turn does to the states of the unit `v`. -/
inductive Befalls (s : Combat) (e : Event) (v : Nat) (unit : Unit) : Prop
  | kept (same : Unit.SameStates (s.engine.units v) unit)
  | defended (same : Unit.SameStates ((s.engine.units v).addUnitState Unit.defend) unit)
  | reset (same : Unit.SameStates (s.engine.units v).resetAllState unit)
  | cast {c : AddedState} {struck : Unit} (added : s.added e = some c) (victim : c.victim = v)
      (adds : (s.engine.units v).addUnitStateFor c.state c.duration = some struck)
      (same : Unit.SameStates struck unit)

/-- The step completes the turn, and calls `ResetAction`. -/
def Completed (s s' : Combat) : Prop :=
  s.engine.waitForAction = false ∧ ∃ b, Engine.Quiet s.engine b ∧ s'.engine = b.sendTurnComplete

/-- The unit `v` after a step: the turn is complete, or something befell the unit and no turn began to wait. -/
def After (s : Combat) (e : Event) (v : Nat) (s' : Combat) : Prop :=
  s.Completed s' ∨
    s.Befalls e v (s'.engine.units v) ∧ (s'.engine.waitForAction = true → s.engine.waitForAction = true)

/-- What keeps the states is one of the cases. -/
lemma after_of_keeps {e : Event} {v : Nat} (keeps : Engine.Keeps s.engine s'.engine) : s.After e v s' :=
  Or.inr ⟨.kept (keeps.states v), keeps.waits⟩

/-- An attack packet keeps the states. -/
lemma handlePlayerAttack_after {p v : Nat} {action : BattleAction}
    (run : s.handlePlayerAttack rules p action = .ok s') : s.After (.attack p action) v s' := by
  rw [handlePlayerAttack] at run
  split at run
  · cases run
    exact after_of_keeps (Engine.Keeps.refl _)
  · split at run
    · cases run
    · next u cell =>
      simp only at run
      split at run
      · cases run
        exact after_of_keeps (Engine.Keeps.refl _)
      · cases run
        obtain ⟨q, eq⟩ := Engine.addBattleAction_queue s.engine
          { action.selfTarget with skill := (s.engine.units u).checkSkill rules action.skill }
        refine after_of_keeps ?_
        rw [counted, eq]
        exact Engine.Keeps.of_eq rfl id

/-- A pet command keeps the states. -/
lemma handlePetCommand_after {e : Event} {p v : Nat} {command : PetCommand} {falls : Bool} :
    s.After e v (s.handlePetCommand p command falls) := by
  rw [handlePetCommand]
  split
  · exact after_of_keeps (Engine.Keeps.refl _)
  · split
    · exact after_of_keeps (Engine.Keeps.refl _)
    · next run => exact after_of_keeps (Engine.petCommand_keeps run)

/-- The use of an item keeps the states. -/
lemma handleUseItem_after {e : Event} {p v : Nat} : s.After e v (s.handleUseItem p) := by
  rw [handleUseItem]
  split
  · exact after_of_keeps (Engine.Keeps.refl _)
  · exact after_of_keeps (Engine.Keeps.of_eq rfl id)

/-- Who leaves is reset. -/
lemma after_of_leaves {e : Event} {p v : Nat} (left : s'.engine = s.engine.leaveBattle p) : s.After e v s' := by
  rw [After, left]
  obtain same | reset := Engine.leaveBattle_units s.engine p v
  · exact Or.inr ⟨.kept same, id⟩
  · exact Or.inr ⟨.reset reset, id⟩

/-- Leaving keeps the states of the others. -/
lemma leave_after {e : Event} {p v : Nat} : s.After e v (s.leave p) := by
  rw [leave]
  split
  · exact after_of_keeps (Engine.Keeps.refl _)
  · exact after_of_leaves rfl

/-- A tick of the clock keeps the states. -/
lemma tick_after {e : Event} {v : Nat} : s.After e v s.tick := by
  rw [tick]
  split
  · exact after_of_keeps (Engine.Keeps.of_eq rfl id)
  · exact after_of_keeps (Engine.Keeps.refl _)

/-- Building the lists keeps the states. -/
lemma build_after {e : Event} {v : Nat} {timedOut : Bool} {dice : TurnDice}
    (run : s.build rules timedOut dice = .ok s') : s.After e v s' := by
  rw [build] at run
  split at run
  · cases run
  · next b built =>
    cases run
    obtain ⟨lists, rfl⟩ := Engine.buildActions_eq built
    refine after_of_keeps (Engine.Keeps.of_eq rfl fun waits => ?_)
    cases waits

/-- An update keeps the states, or completes the turn. -/
lemma update_after {e : Event} {v : Nat} {b : Engine} {control : Control}
    (run : s.engine.updateBattleAction = .ok (b, control)) :
    s.After e v { s with engine := b, control := control } := by
  obtain ⟨quiet, -⟩ | ⟨sends, b₁, quiet, ⟨-, rfl, -⟩ | ⟨i, g, -, take, -⟩⟩ := Engine.updateBattleAction_cases run
  · exact after_of_keeps quiet.keeps
  · exact Or.inl ⟨sends.2.2.1, b₁, quiet, rfl⟩
  · obtain ⟨lists, rfl⟩ := Engine.takeList_eq take
    exact after_of_keeps (quiet.keeps.trans (Engine.Keeps.of_eq rfl id))

/-- An action defends, resets who escapes, or keeps the states. -/
lemma act_after {e : Event} {v : Nat} {g : Group} {action : BattleAction} {dice : ActDice}
    (run : s.act rules g action dice = .ok s') : s.After e v s' := by
  cases act_cases run with
  | skipped => exact after_of_keeps (Engine.Keeps.refl _)
  | @defended u =>
    refine Or.inr ⟨?_, id⟩
    show s.Befalls e v ((s.engine.setUnit u _).units v)
    rw [Engine.setUnit_units]
    split
    · next eq => exact .defended (eq ▸ Unit.SameStates.refl _)
    · exact .kept (Unit.SameStates.refl _)
  | escaped escape =>
    obtain ⟨u, -, rfl⟩ := Engine.escaped_cases escape
    exact after_of_leaves rfl
  | block caught template => exact after_of_keeps (Engine.catchPet_keeps caught)

/-- What a hit does to the units: nothing, or the victim takes the state of the spell and the damage. -/
lemma spellMod_units (s : Combat) (h : Hits) (hit : BattleAction) (attacker victim : Nat) (dice : HitDice) :
    (s.spellMod h hit attacker victim dice).engine.waitForAction = s.engine.waitForAction ∧
      ((s.spellMod h hit attacker victim dice).engine.units = s.engine.units ∧
          ((s.engine.units victim).missedBy h.sinfo h.catched dice.missed = true ∨
            h.sinfo.applyState (s.engine.units victim) = none) ∨
        (s.engine.units victim).missedBy h.sinfo h.catched dice.missed = false ∧ ∃ changed struck,
          h.sinfo.applyState (s.engine.units victim) = some changed ∧ Unit.SameStates changed struck ∧
            (s.spellMod h hit attacker victim dice).engine.units = (s.engine.setUnit victim struck).units) := by
  simp only [spellMod]
  split
  · next missed => exact ⟨rfl, Or.inl ⟨rfl, Or.inl missed⟩⟩
  · next lands =>
    have lands := Bool.eq_false_of_not_eq_true lands
    split
    · next refused => exact ⟨rfl, Or.inl ⟨rfl, Or.inr refused⟩⟩
    · next changed applied =>
      have same := Unit.dealDamage_states changed ((s.engine.units victim).getDamage h.sinfo dice.amount)
      split
      · -- the reward of a kill changes no unit
        obtain ⟨items, kills, drops, paid, -⟩ := reward_cases
          { s with engine := s.engine.setUnit victim (changed.isDealDamageToAndKill _).1 } hit attacker victim dice.drop
        rw [paid]
        exact ⟨rfl, Or.inr ⟨lands, changed, _, applied, same, rfl⟩⟩
      · exact ⟨rfl, Or.inr ⟨lands, changed, _, applied, same, rfl⟩⟩

/-- A spell brings a state for a few turns. -/
lemma unitState_small {sinfo : SpellInfo} {state dur : Nat} (brings : sinfo.unitState = some (state, dur)) :
    dur < 255 := by
  rw [SpellInfo.unitState] at brings
  split at brings <;> cases brings <;> decide

/-- The victim of a hit takes a state exactly when the hit adds one. -/
lemma spellMod_victim {h : Hits} {hit : BattleAction} {attacker victim : Nat} (dice : HitDice)
    (by' : s.engine.getAttacker hit = some attacker) (at' : s.engine.getVictim hit = some victim) :
    s.addedBy h hit dice = none ∧ Unit.SameStates (s.engine.units victim)
        ((s.spellMod h hit attacker victim dice).engine.units victim) ∨
      ∃ state dur struck, s.addedBy h hit dice = some ⟨victim, state, dur⟩ ∧ dur < 255 ∧
        (s.engine.units victim).addUnitStateFor state dur = some struck ∧
          Unit.SameStates struck ((s.spellMod h hit attacker victim dice).engine.units victim) := by
  obtain ⟨-, ⟨units, stopped⟩ | ⟨lands, changed, struck, applied, same, units⟩⟩ :=
    spellMod_units s h hit attacker victim dice
  · refine Or.inl ⟨?_, units ▸ Unit.SameStates.refl _⟩
    obtain missed | refused := stopped
    · simp [addedBy, by', at', missed]
    · rw [SpellInfo.applyState] at refused
      split at refused
      · next changes =>
        split at refused
        · next state dur brings => simp [addedBy, by', at', changes, brings, refused]
        · cases refused
      · cases refused
  · rw [units, Engine.setUnit_units, if_pos rfl]
    rw [SpellInfo.applyState] at applied
    split at applied
    · next changes =>
      split at applied
      · next state dur brings =>
        refine Or.inr ⟨state, dur, changed, ?_, unitState_small brings, applied, same⟩
        simp [addedBy, by', at', lands, changes, brings, applied]
      · next brings =>
        cases applied
        exact Or.inl ⟨by simp [addedBy, by', at', brings], same⟩
    · next changes =>
      cases applied
      exact Or.inl ⟨by simp [addedBy, by', at', changes], same⟩

/-- A hit leaves the states of everybody else. -/
lemma spellMod_others {h : Hits} {hit : BattleAction} {attacker victim v : Nat} {dice : HitDice} (other : v ≠ victim) :
    (s.spellMod h hit attacker victim dice).engine.units v = s.engine.units v := by
  obtain ⟨-, ⟨units, -⟩ | ⟨-, changed, struck, -, -, units⟩⟩ := spellMod_units s h hit attacker victim dice
  · rw [units]
  · rw [units, Engine.setUnit_units, if_neg other]

/-- The end of a hit, where a caught unit leaves its cell. -/
lemma hit_units {h : Hits} {hit : BattleAction} {dice : HitDice} (run : s.hit h hit dice = .ok s') :
    ∃ attacker victim, s.engine.getAttacker hit = some attacker ∧ s.engine.getVictim hit = some victim ∧
      s'.engine.units = (s.spellMod h hit attacker victim dice).engine.units ∧
        s'.engine.waitForAction = s.engine.waitForAction := by
  obtain ⟨attacker, victim, by', at', rfl⟩ := hit_cases run
  obtain ⟨waits, -⟩ := spellMod_units s h hit attacker victim dice
  refine ⟨attacker, victim, by', at', ?_⟩
  simp only
  split <;> exact ⟨rfl, waits⟩

/-- A hit may add a state to its victim. -/
lemma hit_after {v : Nat} {h : Hits} {hit : BattleAction} {pending : List BattleAction} {dice : HitDice}
    (control : s.control = .hits h) (first : h.pending = hit :: pending) (run : s.hit h hit dice = .ok s') :
    s.After (.hit dice) v s' := by
  obtain ⟨attacker, victim, by', at', units, waits⟩ := hit_units run
  refine Or.inr ⟨?_, fun opens => waits.symm.trans opens⟩
  rw [units]
  by_cases struck : v = victim
  · subst struck
    obtain ⟨-, same⟩ | ⟨state, dur, unit, adds, -, applied, same⟩ := spellMod_victim (h := h) dice by' at'
    · exact .kept same
    · refine .cast (c := ⟨v, state, dur⟩) ?_ rfl applied same
      obtain ⟨_, sinfo, catched, group⟩ := h
      cases first
      rw [added.eq_def, control]
      exact adds
  · rw [spellMod_others struck]
    exact .kept (Unit.SameStates.refl _)

/-- The end of a list keeps the states. -/
lemma finish_after {e : Event} {v : Nat} {g : Group} : s.After e v (s.finish g) := by
  rw [finish]
  split
  · exact after_of_keeps (Engine.Keeps.of_eq rfl id)
  · exact after_of_keeps (Engine.Keeps.refl _)

/-- The conclusion keeps the states. -/
lemma conclude_after {e : Event} {v : Nat} (run : s.conclude = .ok s') : s.After e v s' := by
  rw [conclude] at run
  obtain ⟨⟨concluded, b⟩, ends, run⟩ := bind_eq_ok.mp run
  obtain ⟨quiet, -⟩ := Engine.battleConcluded_cases ends
  cases run
  exact after_of_keeps quiet.keeps

/-- Every step leaves a unit in one of these ways. -/
lemma step_after {e : Event} (run : step rules s e = .ok s') (v : Nat) : s.After e v s' := by
  rw [step.eq_def] at run
  split at run
  · exact handlePlayerAttack_after run
  · cases run
    exact handlePetCommand_after
  · cases run
    exact handleUseItem_after
  · cases run
    exact leave_after
  · cases run
    exact tick_after
  · exact build_after run
  · obtain ⟨⟨b, control⟩, update, run⟩ := bind_eq_ok.mp run
    cases run
    exact update_after update
  · exact act_after run
  · cases run
    exact finish_after
  · next control => exact hit_after control rfl run
  · exact conclude_after run
  · cases run

/-- The step that adds a state. -/
lemma step_of_added {e : Event} {c : AddedState} (cast : s.added e = some c) (run : step rules s e = .ok s') :
    c.duration < 255 ∧ ∃ struck, (s.engine.units c.victim).addUnitStateFor c.state c.duration = some struck ∧
      Unit.SameStates struck (s'.engine.units c.victim) := by
  rw [added.eq_def] at cast
  split at cast
  · next hit pending sinfo catched group dice control =>
    simp only [step, control] at run
    obtain ⟨attacker, victim, by', at', units, -⟩ := hit_units run
    rw [units]
    obtain ⟨none, -⟩ | ⟨state, dur, struck, adds, small, applied, same⟩ := spellMod_victim dice by' at'
    · rw [none] at cast
      cases cast
    · rw [adds] at cast
      cases cast
      exact ⟨small, struck, applied, same⟩
  · cases cast

/-- The battle waits for actions again. -/
def Opens (s s' : Combat) : Prop := s.engine.waitForAction = false ∧ s'.engine.waitForAction = true

instance (s s' : Combat) : Decidable (s.Opens s') := inferInstanceAs (Decidable (_ ∧ _))

/-- No other step does. -/
lemma opens_iff {e : Event} (run : step rules s e = .ok s') : s.Opens s' ↔ s.Completed s' := by
  constructor
  · rintro ⟨resolves, opens⟩
    obtain completed | ⟨-, waits⟩ := step_after run 0
    · exact completed
    · rw [waits opens] at resolves
      cases resolves
  · rintro ⟨resolves, b, -, turn⟩
    exact ⟨resolves, by rw [turn]; rfl⟩

/-- A turn ends for a unit as often as it stands in the grid. -/
lemma Completed.units (completed : s.Completed s') (v : Nat) :
    s'.engine.units v = Unit.endTurn^[(s.engine.cellsOf v).length] (s.engine.units v) := by
  obtain ⟨-, b, ⟨_, _, _, _, rfl⟩, turn⟩ := completed
  rw [turn]
  exact Engine.resetAction_units _ v

/-- The calls of `ResetAction` in a run with the unit `v` in the grid. -/
def resets (rules : Rules) (v : Nat) : Combat → List Event → Nat
  | _, [] => 0
  | s, e :: events => (step rules s e).toOption.elim 0 fun s' =>
      (if s.Opens s' ∧ s.engine.cellsOf v ≠ [] then 1 else 0) + resets rules v s' events

/-- The step adds no bit of the state `f` to the unit `v`. -/
def Spares (v f : Nat) (s : Combat) (e : Event) : Prop := ∀ c ∈ s.added e, c.victim = v → c.state &&& f = 0

instance (v f : Nat) (s : Combat) (e : Event) : Decidable (Spares v f s e) :=
  inferInstanceAs (Decidable (∀ c ∈ s.added e, c.victim = v → c.state &&& f = 0))

/-- The step does not add the state `f` to the unit `v`. -/
def Uncast (v f : Nat) (s : Combat) (e : Event) : Prop := ∀ c ∈ s.added e, c.victim = v → c.state ≠ f

instance (v f : Nat) (s : Combat) (e : Event) : Decidable (Uncast v f s e) :=
  inferInstanceAs (Decidable (∀ c ∈ s.added e, c.victim = v → c.state ≠ f))

/-- What happens in a run brings the end of a state nearer with every call of `ResetAction`. -/
lemma expires_step {e : Event} {v f k : Nat} {t : Timer} (effect : f ∈ t.effects) (spares : Spares v f s e)
    (run : step rules s e = .ok s') (expires : (s.engine.units v).Expires t f k) :
    (s'.engine.units v).Expires t f (k - if s.Opens s' ∧ s.engine.cellsOf v ≠ [] then 1 else 0) := by
  obtain completed | ⟨befalls, waits⟩ := step_after run v
  · rw [completed.units v]
    refine (expires.endTurns effect _).mono ?_
    split
    · next opens =>
      have stands := List.length_pos_iff.mpr opens.2
      omega
    · omega
  · rw [if_neg fun opens => absurd (waits opens.1.2) (by rw [opens.1.1]; exact nofun)]
    cases befalls with
    | kept same => exact expires.same same
    | defended same => exact (expires.defended effect).same same
    | reset same => exact (Unit.expires_reset _ t f k).same same
    | @cast c struck added victim adds same => exact (expires.added effect (spares c added victim) adds).same same

/-- The step behind an event of a run. -/
lemma step_of_toOption {e : Event} (next : (step rules s e).toOption = some s') : step rules s e = .ok s' := by
  cases run : step rules s e with
  | error halt =>
    rw [run] at next
    cases next
  | ok r =>
    rw [run] at next
    exact congrArg Except.ok (Option.some.inj next)

/-- The same along a run. -/
lemma expires_exec {v f k : Nat} {t : Timer} (effect : f ∈ t.effects) {events : List Event}
    (spared : Along (fun s e => (step rules s e).toOption) (Spares v f) s events)
    (reached : exec (fun s e => (step rules s e).toOption) s events = some s')
    (expires : (s.engine.units v).Expires t f k) :
    (s'.engine.units v).Expires t f (k - resets rules v s events) := by
  induction events generalizing s k with
  | nil =>
    cases reached
    exact expires
  | cons e events ih =>
    obtain ⟨s₁, next, rest⟩ := Option.bind_eq_some_iff.mp reached
    have run := step_of_toOption next
    have later := ih (spared.2 s₁ next) rest (expires_step effect spared.1 run expires)
    rw [resets, run]
    show (s'.engine.units v).Expires t f (k - (_ + resets rules v s₁ events))
    rw [Nat.sub_add_eq]
    exact later

/-- A state of one of the counters is gone when `ResetAction` was called once more than its duration says with the unit
in the grid, whatever happens, and stays away until one of its bits is added again. -/
theorem gone_of_exec {e : Event} {c : AddedState} {s₁ : Combat} (cast : s.added e = some c)
    (run : step rules s e = .ok s₁) (counter : Unit.HasCounter c.state) {events : List Event}
    (spared : Along (fun s e => (step rules s e).toOption) (Spares c.victim c.state) s₁ events)
    (reached : exec (fun s e => (step rules s e).toOption) s₁ events = some s')
    (many : c.duration + 1 ≤ resets rules c.victim s₁ events) :
    (s'.engine.units c.victim).hasUnitState c.state = false := by
  obtain ⟨t, effect⟩ := counter
  obtain ⟨small, struck, adds, same⟩ := step_of_added cast run
  have starts := (Unit.expires_of_added effect small adds).same same
  have ends := (expires_exec effect spared reached starts).mono (n := 0) (by omega)
  rw [Unit.hasUnitState, decide_eq_false_iff_not, not_not]
  exact ends.gone

/-- The player of the duel is about to be hit by its own spell, and the creature is frozen. -/
def bewitched (sinfo : SpellInfo) : Combat :=
  ⟨{ Engine.duel with
      units := Function.update Engine.duel.units 10 { Engine.duel.units 10 with state := 16, disabledDuration := 5 }
      playerActionCount := 1
      waitForAction := false },
    .hits ⟨[⟨3, 2, sinfo.entry, 3, 2, 0⟩], sinfo, false, ⟨[], false, sinfo.entry, true⟩⟩, [], [], []⟩

/-- The turn ends with the animation of the spell. -/
def castEnds : List Event := [.finish, .conclude] ++ (List.replicate 26 [.tick, .update, .conclude]).flatten

/-- The player uses an item in each of `n` turns. -/
def itemTurns (n : Nat) : List Event :=
  (List.replicate n [.useItem 1, .build (Engine.evenDice 70), .tick, .update, .conclude]).flatten

/-- An ice wall for two turns. -/
def iceWall : SpellInfo := ⟨11002, 0, 1, spellModPositiveBuf⟩

/-- A magnification for four turns. -/
def magnify : SpellInfo := ⟨13012, 0, 1, spellModPositiveBuf⟩

/-- There is a template for magnification. -/
def magicRules : Rules :=
  { Engine.basicRules with
    spellTemplate := fun entry =>
      if entry = magnify.entry then some magnify else Engine.basicRules.spellTemplate entry }

/-- The player casts a magnification on itself in the second turn, and uses an item in the third. -/
def magnifiedTurns : List Event :=
  castEnds ++ [.attack 1 ⟨3, 2, magnify.entry, 3, 2, 0⟩, .build (Engine.evenDice 70), .tick, .update,
    .act ⟨50, 50, none⟩, .hit ⟨0, 0, none⟩] ++ castEnds ++ itemTurns 1

/-- The ice wall adds its state, for two turns. -/
lemma iceWall_added : (bewitched iceWall).added (.hit ⟨0, 0, none⟩) = some ⟨1, 8192, 2⟩ := by decide +kernel

/-- The magnification adds its state, for four turns. -/
lemma magnify_added : (bewitched magnify).added (.hit ⟨0, 0, none⟩) = some ⟨1, 524288, 4⟩ := by decide +kernel

/-- Along the run of the example the ice wall is not cast again, and another spell is in place at its end. -/
lemma iceWall_run : (step magicRules (bewitched iceWall) (.hit ⟨0, 0, none⟩)).toOption.any fun s₁ =>
    Along (fun s e => (step magicRules s e).toOption) (Spares 1 8192) s₁ magnifiedTurns ∧
      3 ≤ resets magicRules 1 s₁ magnifiedTurns ∧
      (exec (fun s e => (step magicRules s e).toOption) s₁ magnifiedTurns).any fun s' =>
        (s'.engine.units 1).hasUnitState 524288 := by
  decide +kernel

/-- Along the run of the example the magnification is not cast again, and is still in place after five turns. -/
lemma magnify_run : (step Engine.basicRules (bewitched magnify) (.hit ⟨0, 0, none⟩)).toOption.any fun s₁ =>
    Along (fun s e => (step Engine.basicRules s e).toOption) (Uncast 1 524288) s₁ (castEnds ++ itemTurns 4) ∧
      5 ≤ resets Engine.basicRules 1 s₁ (castEnds ++ itemTurns 4) ∧
      (exec (fun s e => (step Engine.basicRules s e).toOption) s₁ (castEnds ++ itemTurns 4)).any fun s' =>
        (s'.engine.units 1).hasUnitState 524288 := by
  decide +kernel

/-- An ice wall of two turns is gone when the third has ended, though another spell was cast in the second and its
state is still there. -/
theorem gone_of_exec_iceWall : ∃ s₁ s', step magicRules (bewitched iceWall) (.hit ⟨0, 0, none⟩) = .ok s₁ ∧
    exec (fun s e => (step magicRules s e).toOption) s₁ magnifiedTurns = some s' ∧
    3 ≤ resets magicRules 1 s₁ magnifiedTurns ∧ (s'.engine.units 1).hasUnitState 524288 = true ∧
    (s'.engine.units 1).hasUnitState 8192 = false := by
  obtain ⟨s₁, next, checks⟩ := Option.any_eq_true .. |>.mp iceWall_run
  obtain ⟨spared, many, ends⟩ := of_decide_eq_true checks
  obtain ⟨s', reached, magnified⟩ := Option.any_eq_true .. |>.mp ends
  have run := step_of_toOption next
  exact ⟨s₁, s', run, reached, many, magnified,
    gone_of_exec iceWall_added run ⟨.positive, by decide⟩ spared reached many⟩

/-- A magnification that is not cast again is still there when the fifth turn has ended. -/
theorem not_gone_of_exec : ¬∀ (rules : Rules) (s s₁ s' : Combat) (e : Event) (c : AddedState) (events : List Event),
    s.added e = some c → step rules s e = .ok s₁ →
      Along (fun s e => (step rules s e).toOption) (Uncast c.victim c.state) s₁ events →
        exec (fun s e => (step rules s e).toOption) s₁ events = some s' →
          c.duration + 1 ≤ resets rules c.victim s₁ events →
            (s'.engine.units c.victim).hasUnitState c.state = false := by
  intro gone
  obtain ⟨s₁, next, checks⟩ := Option.any_eq_true .. |>.mp magnify_run
  obtain ⟨uncast, many, stays⟩ := of_decide_eq_true checks
  obtain ⟨s', reached, held⟩ := Option.any_eq_true .. |>.mp stays
  have none := gone _ _ s₁ s' _ _ _ magnify_added (step_of_toOption next) uncast reached many
  rw [none] at held
  cases held

end Combat

end Legacy.Battle
