import Legacy.Battle.Change

/-!
# The phases of a turn

A turn first collects the actions, with `waitForAction` set and all lists empty, and then resolves them. The
packets that count an action end with the test for the last one, in whatever phase they come.
`buildActions_phase` says that no turn is rebuilt while it is resolved, provided that no packet completes the
count then; the late pet command of `latePet` does.
-/

namespace Legacy.Battle
open Legacy.Lib

namespace Engine

variable {b b' : Engine}

/-- A counter after some more actions. -/
def addActions (count n : Nat) : Nat := if n = 0 then count else u8 (count + n)

/-- Counting up twice. -/
lemma addActions_addActions (count m n : Nat) : addActions (addActions count m) n = addActions count (m + n) := by
  rw [addActions, addActions, addActions]
  rcases Nat.eq_zero_or_pos m with rfl | posM
  · rw [if_pos rfl, Nat.zero_add]
  · rcases Nat.eq_zero_or_pos n with rfl | posN
    · rw [if_pos rfl, Nat.add_zero]
    · rw [if_neg (by omega), if_neg (by omega), if_neg (by omega)]
      simp only [u8]
      omega

/-- The number of actions that a pet command counts. -/
def petCharge (b : Engine) (p : Nat) (command : PetCommand) (falls : Bool) : Nat :=
  match command with
  | .battle _ =>
    ((b.units p).battlePet.isSome && (b.getPosFor p).isSome && falls).toNat + (b.getPosFor p).isSome.toNat
  | .rest => if (b.units p).battlePet.isSome then ((b.getPosFor p).isSome && falls).toNat + 1 else 0
  | .other => 0

/-- Counting an action, or not. -/
lemma incIf_count (b : Engine) (acted : Bool) :
    (b.incIf acted).playerActionCount = addActions b.playerActionCount acted.toNat := by
  cases acted with
  | true => rfl
  | false => rfl

/-- A pet never stands on its player. -/
lemma petCell_ne {c : Nat × Nat} (mem : c ∈ colCells) : petCell c ≠ c := by
  revert c
  decide

/-- Resting the pet leaves the player where it is. -/
lemma deactivatePetFor_pos (b : Engine) (p : Nat) (falls : Bool) :
    ((b.deactivatePetFor p falls).1.getPosFor p).isSome = (b.getPosFor p).isSome := by
  rw [deactivatePetFor]
  cases pos : b.getPosFor p with
  | none =>
    rw [getPetPosFor, pos]
    split
    · next eq => cases eq
    · exact congrArg Option.isSome pos
  | some d =>
    rw [getPetPosFor, pos]
    split
    · next c eq =>
      cases eq
      obtain ⟨mem, stands⟩ := getPosFor_eq_some pos
      refine List.find?_isSome.mpr ⟨d, mem, decide_eq_true ?_⟩
      have apart : cellIndex (d.1, d.2) ≠ cellIndex (petCell d) := by
        obtain ⟨inGrid, inGrid'⟩ := inGrid_of_mem_colCells mem
        exact fun same => petCell_ne mem (cellIndex_inj inGrid inGrid' same).symm
      rw [clearCell_battleUnit, if_neg apart]
      exact stands
    · exact congrArg Option.isSome pos

/-- What resting the pet counts. -/
lemma deactivatePetFor_acted (b : Engine) (p : Nat) (falls : Bool) :
    (b.deactivatePetFor p falls).2 = ((b.units p).battlePet.isSome && (b.getPosFor p).isSome && falls) := by
  rw [deactivatePetFor, getPetPosFor]
  cases (b.units p).battlePet with
  | none => rfl
  | some pet =>
    cases b.getPosFor p with
    | none => rfl
    | some d => exact (Bool.true_and falls).symm

/-- Bringing in the pet that the player has counts exactly when the player has a position. -/
lemma activatePetFor_acted {p pet : Nat} (own : (b.units p).battlePet = some pet) :
    (b.activatePetFor p pet).2 = (b.getPosFor p).isSome := by
  rw [activatePetFor, if_pos own, getPetPosFor]
  cases b.getPosFor p with
  | none => rfl
  | some d => rfl

/-- The pet that is set is the one of the player. -/
lemma setBattlePet_own (b : Engine) (p : Nat) (pet : Option Nat) :
    ((b.setBattlePet p pet).units p).battlePet = pet := by
  rw [setBattlePet, setUnit_units, if_pos rfl]

/-- Counting an action keeps the positions. -/
lemma incIf_pos (b : Engine) (acted : Bool) (u : Nat) : (b.incIf acted).getPosFor u = b.getPosFor u := by
  cases acted with
  | true => rfl
  | false => rfl

/-- A pet command counts its charge. -/
lemma petCommand_count {p : Nat} {command : PetCommand} {falls : Bool}
    (run : b.petCommand p command falls = some b') :
    b'.playerActionCount = addActions b.playerActionCount (b.petCharge p command falls) := by
  cases command with
  | battle modelId =>
    obtain ⟨pet, -, rfl⟩ := Option.map_eq_some_iff.mp run
    rw [battleCommand, incIf_count, (activatePetFor_sameTurn _ p pet).playerActionCount,
      activatePetFor_acted (setBattlePet_own _ p (some pet))]
    show addActions ((b.deactivatePetFor p falls).1.incIf (b.deactivatePetFor p falls).2).playerActionCount
      (((b.deactivatePetFor p falls).1.incIf (b.deactivatePetFor p falls).2).getPosFor p).isSome.toNat = _
    rw [incIf_count, incIf_pos, deactivatePetFor_pos, deactivatePetFor_acted,
      (deactivatePetFor_sameTurn b p falls).playerActionCount, addActions_addActions]
    rfl
  | rest =>
    cases run
    rw [restCommand]
    cases pet : (b.units p).battlePet with
    | none =>
      rw [petCharge, pet]
      rfl
    | some q =>
      show addActions ((b.deactivatePetFor p falls).1.incIf (b.deactivatePetFor p falls).2).playerActionCount 1 = _
      rw [incIf_count, deactivatePetFor_acted, (deactivatePetFor_sameTurn b p falls).playerActionCount,
        addActions_addActions, petCharge, pet]
      rfl
  | other =>
    cases run
    rfl

end Engine

namespace Combat

open Engine

variable {rules : Rules} {s s' : Combat}

/-- The packet counts the last action of the turn, or finds it counted. -/
def Completes (s : Combat) : Event → Prop
  | .attack p _ =>
    p ∈ s.engine.playerList ∧ s.engine.isActionComplete = false ∧
      s.engine.playerActionNeed = addActions s.engine.playerActionCount 1
  | .petCommand p command falls =>
    p ∈ s.engine.playerList ∧ (s.engine.petCommand p command falls).isSome ∧
      s.engine.playerActionNeed = addActions s.engine.playerActionCount (s.engine.petCharge p command falls)
  | .useItem p =>
    p ∈ s.engine.playerList ∧ s.engine.playerActionNeed = addActions s.engine.playerActionCount 1
  | _ => False

instance (s : Combat) : DecidablePred s.Completes
  | .attack _ _ | .petCommand _ _ _ | .useItem _ => inferInstanceAs (Decidable (_ ∧ _))
  | .leave _ | .tick | .build _ | .update | .act _ | .hit _ | .finish | .conclude =>
    inferInstanceAs (Decidable False)

/-- The last action of a turn is counted while the turn collects its actions. -/
def OnTime (s : Combat) (e : Event) : Prop := s.Completes e → s.engine.waitForAction = true

instance (s : Combat) (e : Event) : Decidable (s.OnTime e) := inferInstanceAs (Decidable (_ → _))

/-- The turn is collected with empty lists, and built only then. -/
structure Phased (s : Combat) : Prop where
  building : ∀ timedOut, s.control = .building timedOut → s.engine.waitForAction = true
  lists : s.engine.waitForAction = true → ∀ i < actionLists, s.engine.actions i = []

/-- After a packet that counts, the actions are built only if it counted the last one. -/
lemma counted_building {timedOut : Bool} (control : s.counted.control = .building timedOut) :
    timedOut = false ∧ s.engine.playerActionNeed = s.engine.playerActionCount := by
  rw [counted] at control
  simp only at control
  split at control
  · next complete =>
    cases control
    exact ⟨rfl, of_decide_eq_true complete⟩
  · cases control

/-- A packet that leads to the building of the actions completes the count. -/
lemma Change.completes {e : Event} {timedOut : Bool} (staffed : s.engine.Staffed) (change : Change rules s e s')
    (control : s'.control = .building timedOut) :
    s'.engine.waitForAction = s.engine.waitForAction ∧ (s.engine.waitForAction = true ∨ s.Completes e) := by
  cases change with
  | @attack p action u member cell pending =>
    obtain ⟨-, complete⟩ := counted_building control
    obtain ⟨-, waits, need, count⟩ := addBattleAction_turn s.engine
      { action.selfTarget with skill := (s.engine.units u).checkSkill rules action.skill }
    refine ⟨waits, Or.inr ⟨member, pending, ?_⟩⟩
    rw [← need, ← count]
    exact complete
  | petCommand member run =>
    obtain ⟨-, complete⟩ := counted_building control
    obtain ⟨same, -⟩ := petCommand_cases staffed run
    refine ⟨same.waitForAction, Or.inr ⟨member, Option.isSome_of_eq_some run, ?_⟩⟩
    rw [← same.playerActionNeed, ← petCommand_count run]
    exact complete
  | useItem member =>
    obtain ⟨-, complete⟩ := counted_building control
    exact ⟨rfl, Or.inr ⟨member, complete⟩⟩
  | timeout idle waits late => exact ⟨rfl, Or.inl waits⟩
  | build entry run =>
    simp only at control
    split at control <;> cases control
  | turn sends quiet none => cases control
  | take sends quiet first run => cases control
  | quiet fades same queuedBy acts before other => exact absurd control (other timedOut)

/-- When a turn waits for actions, its lists are as empty as before, or it just began with none. -/
lemma Change.lists {e : Event} (staffed : s.engine.Staffed) (change : Change rules s e s')
    (waits : s'.engine.waitForAction = true) :
    s.engine.waitForAction = true ∧ s'.engine.actions = s.engine.actions ∨
      ∀ i < actionLists, s'.engine.actions i = [] := by
  cases change with
  | attack member cell pending =>
    obtain ⟨lists, same, -⟩ := addBattleAction_turn s.engine _
    exact Or.inl ⟨same.symm.trans waits, lists⟩
  | petCommand member run =>
    obtain ⟨same, -⟩ := petCommand_cases staffed run
    exact Or.inl ⟨same.waitForAction.symm.trans waits, same.actions⟩
  | useItem member => exact Or.inl ⟨waits, rfl⟩
  | timeout idle _ late => exact Or.inl ⟨waits, rfl⟩
  | build control run =>
    obtain ⟨lists, rfl⟩ := buildActions_eq run
    cases waits
  | @turn b sends quiet none =>
    refine Or.inr fun i lt => ?_
    show b.sendTurnComplete.actions i = []
    rw [(sendTurnComplete_turn b).2.1]
    exact firstList_eq_none none i lt
  | take sends quiet first run =>
    obtain ⟨lists, rfl⟩ := takeList_eq run
    have resolving : s.engine.waitForAction = true := quiet.sameTurn.waitForAction.symm.trans waits
    rw [sends.2.2.1] at resolving
    cases resolving
  | quiet fades same queuedBy acts before other => exact Or.inl ⟨same.waitForAction.symm.trans waits, same.actions⟩

/-- A change in time keeps the phase. -/
lemma Phased.change {e : Event} (staffed : s.engine.Staffed) (phased : Phased s) (onTime : s.OnTime e)
    (change : Change rules s e s') : Phased s' := by
  refine ⟨fun timedOut control => ?_, fun waits i lt => ?_⟩
  · obtain ⟨same, waits | completes⟩ := change.completes staffed control
    · exact same.trans waits
    · exact same.trans (onTime completes)
  · rcases change.lists staffed waits with ⟨before, same⟩ | empty
    · rw [same]
      exact phased.lists before i lt
    · exact empty i lt

/-- No turn is rebuilt while it is resolved: whenever the actions are built, the turn waits for actions and
all lists are empty. -/
theorem buildActions_phase {b : Engine} (ready : Ready b) (run : Runs rules OnTime (start b) s) {timedOut : Bool}
    (entry : s.control = .building timedOut) :
    s.engine.waitForAction = true ∧ ∀ i < actionLists, s.engine.actions i = [] := by
  have phased : Phased s := by
    refine Runs.invariant run (start_staffed ready) ⟨nofun, fun _ i _ => ?_⟩
      fun staffed phased onTime change => phased.change staffed onTime change
    show b.sendTurnComplete.actions i = []
    rw [(sendTurnComplete_turn b).2.1]
    exact ready.actions i
  exact ⟨phased.building timedOut entry, phased.lists (phased.building timedOut entry)⟩

/-- The only player of the duel attacks, and the actions are built on its packet. -/
theorem buildActions_phase_duel :
    ∃ s, Runs basicRules OnTime (start duel) s ∧ s.control = .building false ∧
      s.engine.waitForAction = true ∧ ∀ i < actionLists, s.engine.actions i = [] := by
  have run : Runs basicRules OnTime (start duel) _ :=
    reaches_of_exec [.attack 1 ⟨3, 2, spellBasic, 0, 2, 0⟩] (by decide +kernel) rfl
  exact ⟨_, run, rfl, buildActions_phase ready_duel run rfl⟩

/-- The duel up to the animation of the creature's attack, and a pet command of the player without a pet. -/
def latePet : List Event :=
  [.attack 1 ⟨3, 2, spellBasic, 0, 2, 0⟩, .build (evenDice 70), .tick, .update, .act ⟨0, 0, none⟩,
    .hit ⟨10, 0, none⟩, .finish, .conclude, .petCommand 1 .rest false]

/-- In the run of the example a pet command lets the actions be built while the turn is resolved. -/
lemma latePet_run :
    (exec (fun s e => (step basicRules s e).toOption) (start duel) latePet).map (fun s =>
      (s.control, s.engine.waitForAction)) = some (.building false, false) := by
  decide +kernel

/-- A pet command that comes while the turn is resolved builds the actions again, and the attack of the player
is lost. -/
theorem not_phase_latePet :
    ¬∀ (rules : Rules) (b : Engine) (s : Combat) (timedOut : Bool), Ready b →
      Runs rules (fun _ _ => True) (start b) s → s.control = .building timedOut →
        s.engine.waitForAction = true ∧ ∀ i < actionLists, s.engine.actions i = [] := by
  intro phase
  obtain ⟨s, reached, last⟩ := Option.map_eq_some_iff.mp latePet_run
  have run : Runs basicRules (fun _ _ => True) (start duel) s := reaches_of_exec _ (along_true _ _) reached
  have waits := (phase basicRules duel s false ready_duel run (congrArg Prod.fst last)).1
  have resolves : s.engine.waitForAction = false := congrArg Prod.snd last
  rw [resolves] at waits
  cases waits

end Combat

end Legacy.Battle
