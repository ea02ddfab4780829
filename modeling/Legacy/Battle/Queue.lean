import Legacy.Battle.Change

/-!
# Who queues the actions of a turn

The attacker's cell of an attack packet is not tied to its sender. `ownQueue_of_reaches` says what follows
when every client names a cell of its own for which nothing is queued yet: one action for each cell, queued by
its player or by the owner of its pet. The arrangement of the grid carries it: before a player stands nobody
but a pet of it, so that a pet which enters the battle finds no action of another player in its cell.
-/

namespace Legacy.Battle
open Legacy.Lib

/-- A unit acts for this player. -/
def ActsFor (type : UnitType) (u p : Nat) : Prop :=
  match type with
  | .player => u = p
  | .pet owner => owner = p
  | .creature => True

instance (type : UnitType) (u p : Nat) : Decidable (ActsFor type u p) :=
  match type with
  | .player | .pet _ => inferInstanceAs (Decidable (_ = _))
  | .creature => inferInstanceAs (Decidable True)

/-- Taking the cell of the pet twice leads back. -/
lemma petCell_petCell {c : Nat × Nat} (mem : c ∈ colCells) : petCell (petCell c) = c := by
  revert c
  decide

/-- Cells whose pets have one place are the same. -/
lemma petCell_injective {c d : Nat × Nat} (mem : c ∈ colCells) (mem' : d ∈ colCells)
    (same : cellIndex (petCell c) = cellIndex (petCell d)) : c = d := by
  have eq := cellIndex_inj (inGrid_of_mem_colCells mem).2 (inGrid_of_mem_colCells mem').2 same
  rw [← petCell_petCell mem, eq, petCell_petCell mem']

namespace Engine

variable {b b' : Engine}

/-- The action of an attacker is queued. -/
lemma addBattleAction_some {action : BattleAction} {u : Nat} (cell : b.getAttacker action = some u) :
    b.addBattleAction action =
      { b with unitTurn := b.unitTurn ++ [{ action with agility := (b.units u).agility }] } := by
  rw [addBattleAction, cell]

/-- Before each player stands nobody but a pet of it. -/
def Arranged (b : Engine) : Prop :=
  ∀ c ∈ colCells, ∀ p ∈ b.battleUnit c.1 c.2, (b.units p).type = .player →
    ∀ u ∈ b.battleUnit (petCell c).1 (petCell c).2, (b.units u).type = .pet p

end Engine

namespace Combat

open Engine

variable {rules : Rules} {s s' : Combat}

/-- The queue holds one action for each cell of the grid, and those of the players and pets come from the player. -/
structure OwnQueue (s : Combat) : Prop where
  inGrid : ∀ x ∈ s.engine.unitTurn, InGrid x.atkCell
  cells : (s.engine.unitTurn.map BattleAction.atkCell).Nodup
  senders : s.queuedBy.length = s.engine.unitTurn.length
  sender : ∀ x ∈ s.engine.unitTurn.zip s.queuedBy, ∀ u ∈ s.engine.getAttacker x.1,
    ActsFor (s.engine.units u).type u x.2

/-- An attack packet that is not refused names a cell of the grid without an action, of a unit that acts for its
sender. -/
def OwnPacket (s : Combat) : Event → Prop
  | .attack p action =>
    p ∈ s.engine.playerList → s.engine.isActionComplete = false →
      InGrid action.atkCell ∧ (∀ x ∈ s.engine.unitTurn, x.atkCell ≠ action.atkCell) ∧
        ∀ u ∈ s.engine.getAttacker action, ActsFor (s.engine.units u).type u p
  | _ => True

instance (s : Combat) : DecidablePred s.OwnPacket
  | .attack _ _ => inferInstanceAs (Decidable (_ → _ → _ ∧ _ ∧ _))
  | .petCommand _ _ _ | .useItem _ | .leave _ | .tick | .build _ | .update | .act _ | .hit _ | .finish |
    .conclude => inferInstanceAs (Decidable True)

/-- The queue with the arrangement of the grid: an action for the cell before a player is one of the player. -/
structure Owned (s : Combat) : Prop where
  queue : OwnQueue s
  arranged : s.engine.Arranged
  before : ∀ x ∈ s.engine.unitTurn.zip s.queuedBy, ∀ c ∈ colCells, ∀ p ∈ s.engine.battleUnit c.1 c.2,
    (s.engine.units p).type = .player → cellIndex (petCell c) = cellIndex x.1.atkCell → p = x.2

/-- What enters a place is a pet of the player behind it. -/
def PetsEnter (b : Engine) (new : Nat → Nat → Prop) : Prop :=
  ∀ u i, new u i → ∃ p, (b.units u).type = .pet p ∧ (b.units p).type = .player ∧
    ∃ d ∈ colCells, b.battleUnit d.1 d.2 = some p ∧ cellIndex (petCell d) = i

/-- Pets that enter keep the arrangement. -/
lemma Arranged.shifts {new : Nat → Nat → Prop} {b b' : Engine} (arranged : b.Arranged)
    (shifts : Shifts new b b') (pets : PetsEnter b new) : b'.Arranged := by
  intro c mem p cell player u before
  rw [shifts.type] at player ⊢
  rcases shifts.cell c.1 c.2 p cell with old | placed
  · rcases shifts.cell _ _ u before with old' | placed'
    · exact arranged c mem p old player u old'
    · obtain ⟨q, pet, -, d, mem', stands, eq⟩ := pets u _ placed'
      have same : d = c := petCell_injective mem' mem eq
      subst same
      rw [pet, Option.some.inj (stands.symm.trans old)]
  · obtain ⟨q, pet, -⟩ := pets p _ placed
    rw [player] at pet
    cases pet

/-- A step that keeps the queue keeps who queued its actions. -/
lemma Owned.shifts {new : Nat → Nat → Prop} (owned : Owned s) (shifts : Shifts new s.engine s'.engine)
    (pets : PetsEnter s.engine new) (unitTurn : s'.engine.unitTurn = s.engine.unitTurn)
    (queuedBy : s'.queuedBy = s.queuedBy) : Owned s' := by
  refine ⟨⟨?inGrid, ?cells, ?senders, ?sender⟩, Arranged.shifts owned.arranged shifts pets, ?before⟩
  case inGrid =>
    rw [unitTurn]
    exact owned.queue.inGrid
  case cells =>
    rw [unitTurn]
    exact owned.queue.cells
  case senders =>
    rw [unitTurn, queuedBy]
    exact owned.queue.senders
  case sender =>
    rw [unitTurn, queuedBy]
    intro x mem u cell
    rw [shifts.type]
    have occupied : s'.engine.battleUnit x.1.atkCol x.1.atkRow = some u := getBattleUnit_some cell
    rcases shifts.cell _ _ u occupied with old | placed
    · refine owned.queue.sender x mem u ?_
      rw [getAttacker, getBattleUnit] at cell
      split at cell
      · cases cell
      · next inside => exact (if_neg inside).trans old
    · -- the pet of a player finds an action of the player in its cell
      obtain ⟨p, pet, player, d, mem', stands, eq⟩ := pets u _ placed
      rw [pet]
      exact owned.before x mem d mem' p stands player eq
  case before =>
    rw [unitTurn, queuedBy]
    intro x mem c mem' p cell player eq
    rw [shifts.type] at player
    rcases shifts.cell c.1 c.2 p cell with old | placed
    · exact owned.before x mem c mem' p old player eq
    · obtain ⟨q, pet, -⟩ := pets p _ placed
      rw [player] at pet
      cases pet

/-- The queue is emptied. -/
lemma Owned.emptied (arranged : s.engine.Arranged) (unitTurn : s.engine.unitTurn = []) (queuedBy : s.queuedBy = []) :
    Owned s := by
  refine ⟨⟨?inGrid, ?cells, ?senders, ?sender⟩, arranged, ?before⟩
  case inGrid =>
    rw [unitTurn]
    exact nofun
  case cells =>
    rw [unitTurn]
    exact List.nodup_nil
  case senders =>
    rw [unitTurn, queuedBy]
    rfl
  case sender =>
    rw [unitTurn]
    exact nofun
  case before =>
    rw [unitTurn]
    exact nofun

/-- An attack joins the queue. -/
lemma Owned.attack {p u : Nat} {action : BattleAction} (owned : Owned s) (cell : s.engine.getAttacker action = some u)
    (inGrid : InGrid action.atkCell) (fresh : ∀ x ∈ s.engine.unitTurn, x.atkCell ≠ action.atkCell)
    (own : ActsFor (s.engine.units u).type u p) :
    Owned (counted { s with
      engine := (s.engine.addBattleAction action).incAction, queuedBy := s.queuedBy ++ [p] }) := by
  have zip : (s.engine.unitTurn ++ [{ action with agility := (s.engine.units u).agility }]).zip
      (s.queuedBy ++ [p]) = s.engine.unitTurn.zip s.queuedBy ++
        [({ action with agility := (s.engine.units u).agility }, p)] :=
    List.zip_append owned.queue.senders.symm
  rw [addBattleAction_some cell]
  refine ⟨⟨?inGrid, ?cells, ?senders, ?sender⟩, owned.arranged, ?before⟩
  case inGrid =>
    intro x mem
    rcases List.mem_append.mp mem with old | last
    · exact owned.queue.inGrid x old
    · cases List.mem_singleton.mp last
      exact inGrid
  case cells =>
    show ((s.engine.unitTurn ++ [{ action with agility := (s.engine.units u).agility }]).map _).Nodup
    rw [List.map_append, List.nodup_append_comm]
    refine List.nodup_cons.mpr ⟨fun mem => ?_, owned.queue.cells⟩
    obtain ⟨x, old, eq⟩ := List.mem_map.mp mem
    exact fresh x old eq
  case senders =>
    show (s.queuedBy ++ [p]).length = (s.engine.unitTurn ++ [_]).length
    rw [List.length_append, List.length_append, owned.queue.senders]
    rfl
  case sender =>
    show ∀ x ∈ (s.engine.unitTurn ++ [{ action with agility := (s.engine.units u).agility }]).zip
      (s.queuedBy ++ [p]), _
    rw [zip]
    intro x mem v at'
    rcases List.mem_append.mp mem with old | last
    · exact owned.queue.sender x old v at'
    · cases List.mem_singleton.mp last
      cases cell.symm.trans at'
      exact own
  case before =>
    show ∀ x ∈ (s.engine.unitTurn ++ [{ action with agility := (s.engine.units u).agility }]).zip
      (s.queuedBy ++ [p]), _
    rw [zip]
    intro x mem c mem' q stands player eq
    rcases List.mem_append.mp mem with old | last
    · exact owned.before x old c mem' q stands player eq
    · cases List.mem_singleton.mp last
      have occupied : s.engine.battleUnit action.atkCol action.atkRow = some u := getBattleUnit_some cell
      have pet : (s.engine.units u).type = .pet q := by
        refine owned.arranged c mem' q stands player u ?_
        rw [battleUnit, eq]
        exact occupied
      rw [pet] at own
      exact own

/-- A battle command lets a pet enter, and every other step nobody. -/
lemma Change.petsEnter {e : Event} (staffed : s.engine.Staffed) (change : Change rules s e s') :
    ∃ new, Shifts new s.engine s'.engine ∧ PetsEnter s.engine new := by
  rcases change.shifts staffed with fades | ⟨p, modelId, falls, pet, -, member, found, shifts⟩
  · exact ⟨_, fades, fun _ _ => nofun⟩
  · refine ⟨_, shifts, fun u c placed => ?_⟩
    obtain ⟨rfl, place⟩ := placed
    exact ⟨p, getPetByModelId_own staffed found, staffed.players p member, place⟩

/-- A packet of an own unit keeps every unit to one action. -/
lemma Owned.change {e : Event} (staffed : s.engine.Staffed) (owned : Owned s) (own : s.OwnPacket e)
    (change : Change rules s e s') : Owned s' := by
  obtain ⟨new, shifts, pets⟩ := change.petsEnter staffed
  cases change with
  | @attack p action u member cell pending =>
    obtain ⟨inGrid, fresh, acts⟩ := own member pending
    rw [getAttacker_of_cell s.engine (selfTarget_atkCell action)] at cell
    refine owned.attack (u := u) ?_ ((selfTarget_atkCell action).symm ▸ inGrid) ?_ (acts u cell)
    · exact (getAttacker_of_cell s.engine (selfTarget_atkCell action)).trans cell
    · exact (selfTarget_atkCell action).symm ▸ fresh
  | petCommand member run =>
    obtain ⟨same, -⟩ := petCommand_cases staffed run
    exact owned.shifts shifts pets same.unitTurn rfl
  | useItem member => exact owned.shifts shifts pets rfl rfl
  | timeout idle waits late => exact owned.shifts shifts pets rfl rfl
  | build control run =>
    have arranged := Arranged.shifts owned.arranged shifts pets
    obtain ⟨lists, rfl⟩ := buildActions_eq run
    exact Owned.emptied arranged rfl rfl
  | @turn b sends quiet none =>
    exact owned.shifts shifts pets ((sendTurnComplete_turn b).1.trans quiet.sameTurn.unitTurn) rfl
  | take sends quiet first run =>
    obtain ⟨lists, rfl⟩ := takeList_eq run
    exact owned.shifts shifts pets quiet.sameTurn.unitTurn rfl
  | quiet fades same queuedBy acts before control => exact owned.shifts shifts pets same.unitTurn queuedBy

/-- One action for each unit, queued by its player: if every attack names a cell of its sender for which
nothing is queued, the queue never holds two actions for a cell, and those of the players and their pets come
from the player. -/
theorem ownQueue_of_reaches {b : Engine} (ready : Ready b) (run : Runs rules OwnPacket (start b) s) :
    OwnQueue s := by
  have arranged : (start b).engine.Arranged :=
    Arranged.shifts ready.front (sendTurnComplete_fades b) fun _ _ => nofun
  have queue : (start b).engine.unitTurn = [] := (sendTurnComplete_turn b).1.trans ready.unitTurn
  have owned : Owned s :=
    Runs.invariant run (start_staffed ready) (Owned.emptied arranged queue rfl)
      fun staffed owned own change => owned.change staffed own change
  exact owned.queue

/-- The player and its pet attack. -/
theorem ownQueue_petDuel :
    ∃ s, Runs basicRules OwnPacket (start petDuel) s ∧ s.engine.unitTurn.length = 2 ∧ OwnQueue s := by
  have run : Runs basicRules OwnPacket (start petDuel) _ :=
    reaches_of_exec [.attack 1 ⟨3, 2, spellBasic, 0, 2, 0⟩, .attack 1 ⟨2, 2, spellBasic, 0, 2, 0⟩]
      (by decide +kernel) rfl
  exact ⟨_, run, rfl, ownQueue_of_reaches ready_petDuel run⟩

/-- In the run of the example one cell is queued twice. -/
lemma twice_run :
    (exec (fun s e => (step basicRules s e).toOption) (start petDuel)
      [.attack 1 ⟨3, 2, spellBasic, 0, 2, 0⟩, .attack 1 ⟨3, 2, spellBasic, 0, 2, 0⟩]).map (fun s =>
        s.engine.unitTurn.map BattleAction.atkCell) = some [(3, 2), (3, 2)] := by
  decide +kernel

/-- A player attacks twice with itself while its pet has not acted. -/
theorem not_ownQueue_twice :
    ¬∀ (rules : Rules) (b : Engine) (s : Combat), Ready b → Runs rules (fun _ _ => True) (start b) s → OwnQueue s := by
  intro own
  obtain ⟨s, reached, last⟩ := Option.map_eq_some_iff.mp twice_run
  have run : Runs basicRules (fun _ _ => True) (start petDuel) s := reaches_of_exec _ (along_true _ _) reached
  have nodup := (own basicRules petDuel s ready_petDuel run).cells
  rw [last] at nodup
  revert nodup
  decide

end Combat

end Legacy.Battle
