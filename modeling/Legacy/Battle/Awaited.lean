import Legacy.Battle.Frame
import Legacy.Battle.Timers

/-!
# The actions that a turn waits for

`ResetAction` counts the players and pets that can act, and expires their timers, in one loop over the cells. A unit is
counted before its own timer runs. `resetAction_awaits_iff` says when the count is that of the units that can act in the
turn.
-/

namespace Legacy.Battle
open Legacy.Lib

namespace Unit

/-- The end of a turn, for the disabling states. -/
lemma disabled_endTurn (u : Unit) : u.endTurn.disabledDuration = u.disabledDuration - 1 ∧
    u.endTurn.state &&& disabledStates = if u.disabledDuration = 1 then 0 else u.state &&& disabledStates := by
  have positive (v : Unit) : v.expirePositiveBuf.disabledDuration = v.disabledDuration ∧
      v.expirePositiveBuf.state &&& disabledStates = v.state &&& disabledStates := by
    rw [expirePositiveBuf]
    split
    · exact ⟨rfl, rfl⟩
    · simp only
      split
      · exact ⟨rfl, and_clearUnitState _ (mask_bits .positive).1⟩
      · exact ⟨rfl, rfl⟩
  have released : u.releaseDisabled.disabledDuration = u.disabledDuration - 1 ∧
      u.releaseDisabled.state &&& disabledStates =
        if u.disabledDuration = 1 then 0 else u.state &&& disabledStates := by
    rw [releaseDisabled]
    split
    · next zero =>
      rw [if_neg (by omega)]
      exact ⟨by omega, rfl⟩
    · simp only
      split
      · next last =>
        rw [if_pos (by omega)]
        exact ⟨rfl, and_clearUnitState_of_le _ (Nat.and_self _)⟩
      · next more =>
        rw [if_neg (by omega)]
        exact ⟨rfl, rfl⟩
  obtain ⟨duration, state⟩ := positive u.releaseDisabled
  rw [endTurn]
  refine ⟨duration.trans released.1, ?_⟩
  rw [and_clearUnitState _ (by decide), state, released.2]

/-- The end of the turn changes neither the type nor the death of a unit. -/
lemma member_endTurn (u : Unit) : u.endTurn.type = u.type ∧ u.endTurn.deathState = u.deathState := by
  obtain ⟨state, disabled, positive, eq⟩ := u.endTurn_eq
  rw [eq]
  exact ⟨rfl, rfl⟩

/-- Some turns later a living player or pet can act if it was not disabled or its timer has run out. -/
lemma isAwaited_endTurns (n : Nat) (u : Unit) : (endTurn^[n] u).isAwaited = true ↔
    (u.isMember = true ∧ u.isDead = false) ∧
      (u.isDisabled = true → 0 < u.disabledDuration ∧ u.disabledDuration ≤ n) := by
  induction n generalizing u with
  | zero =>
    rw [Function.iterate_zero, id, isAwaited]
    have running : ¬(0 < u.disabledDuration ∧ u.disabledDuration ≤ 0) := by omega
    rw [imp_iff_not running]
    cases u.isMember <;> cases u.isDead <;> cases u.isDisabled <;> simp
  | succ n ih =>
    obtain ⟨type, death⟩ := u.member_endTurn
    obtain ⟨duration, state⟩ := u.disabled_endTurn
    rw [Function.iterate_succ_apply, ih]
    have member : u.endTurn.isMember = u.isMember := by rw [isMember, isMember, type]
    have dead : u.endTurn.isDead = u.isDead := by rw [isDead, isDead, death]
    have disabled : u.endTurn.isDisabled = true ↔ u.disabledDuration ≠ 1 ∧ u.isDisabled = true := by
      rw [isDisabled, hasUnitState, state, isDisabled, hasUnitState]
      by_cases last : u.disabledDuration = 1 <;> simp [last]
    rw [member, dead, disabled, duration]
    refine and_congr_right fun _ => ?_
    constructor
    · intro runs held
      by_cases last : u.disabledDuration = 1
      · omega
      · have later := runs ⟨last, held⟩
        omega
    · rintro runs ⟨last, held⟩
      have now := runs held
      omega

end Unit

namespace Engine

/-- A unit in the cell can act. -/
def awaitedAt (b : Engine) (c : Nat × Nat) : Bool := (b.battleUnit c.1 c.2).any fun u => (b.units u).isAwaited

/-- The cells of a unit; a battle gives it one. -/
def cellsOf (b : Engine) (u : Nat) : List (Nat × Nat) := rowCells.filter fun c => b.battleUnit c.1 c.2 = some u

/-- The turn waits for the players and pets that can act when it opens, and has none of their actions. -/
def AwaitsAll (b : Engine) : Prop :=
  b.resetAction.playerActionNeed = rowCells.countP b.resetAction.awaitedAt ∧ b.resetAction.playerActionCount = 0

/-- No disabled player or pet that is alive is released by the call. -/
def NoRelease (b : Engine) : Prop :=
  ∀ u, b.cellsOf u ≠ [] → (b.units u).isMember = true → (b.units u).isDead = false →
    (b.units u).isDisabled = true →
      (b.units u).disabledDuration = 0 ∨ (b.cellsOf u).length < (b.units u).disabledDuration

variable {b : Engine}

/-- Resetting cells moves nobody. -/
lemma resetCells_battleUnit (cells : List (Nat × Nat)) (b : Engine) :
    (cells.foldl resetCell b).battleUnit = b.battleUnit := by
  induction cells generalizing b with
  | nil => rfl
  | cons c cells ih => rw [List.foldl_cons, ih, resetCell_battleUnit]

/-- Resetting a cell ends the turn of the unit on it. -/
lemma resetCell_units (b : Engine) (c : Nat × Nat) (u : Nat) : (b.resetCell c).units u =
    if b.battleUnit c.1 c.2 = some u then (b.units u).endTurn else b.units u := by
  rw [resetCell]
  cases cell : b.battleUnit c.1 c.2 with
  | none => rfl
  | some v =>
    by_cases same : u = v
    · subst same
      rw [if_pos rfl]
      exact Function.update_self ..
    · rw [if_neg fun eq => same (Option.some.inj eq).symm]
      exact Function.update_of_ne same ..

/-- A unit goes through as many ends of a turn as it has cells. -/
lemma resetCells_units (cells : List (Nat × Nat)) (b : Engine) (u : Nat) : (cells.foldl resetCell b).units u =
    Unit.endTurn^[(cells.filter fun c => b.battleUnit c.1 c.2 = some u).length] (b.units u) := by
  induction cells generalizing b with
  | nil => rfl
  | cons c cells ih =>
    rw [List.foldl_cons, ih, resetCell_units, resetCell_battleUnit]
    by_cases here : b.battleUnit c.1 c.2 = some u
    · rw [if_pos here, List.filter_cons_of_pos (by simpa using here), List.length_cons, Function.iterate_succ_apply]
    · rw [if_neg here, List.filter_cons_of_neg (by simpa using here)]

/-- A unit ends as many turns as it has cells. -/
lemma resetAction_units (b : Engine) (u : Nat) :
    b.resetAction.units u = Unit.endTurn^[(b.cellsOf u).length] (b.units u) := resetCells_units rowCells _ u

/-- A unit that can act still can when the turn opens. -/
lemma isAwaited_resetCells (cells : List (Nat × Nat)) {u : Nat} (awaited : (b.units u).isAwaited = true) :
    ((cells.foldl resetCell b).units u).isAwaited = true := by
  rw [resetCells_units, Unit.isAwaited_endTurns]
  obtain ⟨lives, free⟩ := (Unit.isAwaited_endTurns 0 _).mp awaited
  refine ⟨lives, fun disabled => ?_⟩
  have none := free disabled
  omega

/-- A round of the loop counts the unit of its cell if it can act before the round. -/
lemma resetCell_counts (b : Engine) (c : Nat × Nat) :
    (b.resetCell c).playerActionNeed = b.playerActionNeed + if b.awaitedAt c then 1 else 0 := by
  rw [resetCell, awaitedAt]
  cases b.battleUnit c.1 c.2 with
  | none => rfl
  | some u =>
    simp only [Option.any_some]
    split <;> rfl

/-- The loop counts no more than the units that can act at its end, and all of them if and only if they could act
before it. -/
lemma resetCells_need (cells : List (Nat × Nat)) (b : Engine) :
    (cells.foldl resetCell b).playerActionNeed ≤
        b.playerActionNeed + cells.countP (cells.foldl resetCell b).awaitedAt ∧
      ((cells.foldl resetCell b).playerActionNeed =
          b.playerActionNeed + cells.countP (cells.foldl resetCell b).awaitedAt ↔
        ∀ c ∈ cells, ∀ u, b.battleUnit c.1 c.2 = some u →
          ((cells.foldl resetCell b).units u).isAwaited = true → (b.units u).isAwaited = true) := by
  induction cells generalizing b with
  | nil => exact ⟨le_rfl, iff_of_true rfl fun c mem => absurd mem List.not_mem_nil⟩
  | cons c cells ih =>
    obtain ⟨le, all⟩ := ih (b.resetCell c)
    rw [resetCell_battleUnit] at all
    have cell' := congrFun (congrFun (resetCells_battleUnit cells (b.resetCell c)) c.1) c.2
    rw [resetCell_battleUnit] at cell'
    have later : ∀ u, (b.units u).isAwaited = true →
        ((cells.foldl resetCell (b.resetCell c)).units u).isAwaited = true :=
      fun u => isAwaited_resetCells (c :: cells)
    rw [List.foldl_cons, List.countP_cons]
    generalize cells.foldl resetCell (b.resetCell c) = b' at le all cell' later
    have kept : b.awaitedAt c = true → b'.awaitedAt c = true := by
      rw [awaitedAt, awaitedAt, cell', Option.any_eq_true, Option.any_eq_true]
      exact fun ⟨u, cell, can⟩ => ⟨u, cell, later u can⟩
    have less : (if b.awaitedAt c then 1 else 0) ≤ if b'.awaitedAt c then 1 else 0 := by
      split
      · next can => rw [if_pos (kept can)]
      · exact Nat.zero_le _
    have same : ((if b.awaitedAt c then 1 else 0) = if b'.awaitedAt c then 1 else 0) ↔
        (b'.awaitedAt c = true → b.awaitedAt c = true) := by
      split
      · next can => exact iff_of_true (by rw [if_pos (kept can)]) fun _ => can
      · split <;> simp_all
    rw [resetCell_counts] at le all
    -- the count is at most that of the end in the first cell and in the others, so it agrees when it does in both
    have both : b'.playerActionNeed =
          b.playerActionNeed + (cells.countP b'.awaitedAt + if b'.awaitedAt c then 1 else 0) ↔
        (b'.awaitedAt c = true → b.awaitedAt c = true) ∧
          b'.playerActionNeed = b.playerActionNeed + (if b.awaitedAt c then 1 else 0) + cells.countP b'.awaitedAt := by
      rw [← same]
      omega
    refine ⟨by omega, both.trans ?_⟩
    rw [all]
    constructor
    · rintro ⟨first, rest⟩ c' mem u cell can
      cases mem with
      | head =>
        have before := first (by rw [awaitedAt, cell', cell]; exact can)
        rw [awaitedAt, cell] at before
        exact before
      | tail _ mem =>
        have between := rest c' mem u cell can
        rw [resetCell_units] at between
        split at between
        · next same =>
          have before := first (by rw [awaitedAt, cell', same]; exact can)
          rw [awaitedAt, same] at before
          exact before
        · exact between
    · intro before
      refine ⟨fun can => ?_, fun c' mem u cell can => ?_⟩
      · rw [awaitedAt, cell', Option.any_eq_true] at can
        obtain ⟨u, cell, can⟩ := can
        rw [awaitedAt, cell]
        exact before c List.mem_cons_self u cell can
      · exact isAwaited_resetCells [c] (before c' (List.mem_cons_of_mem _ mem) u cell can)

/-- The turn waits for all units that can act in it if and only if the disabling of none of them ends with the turn
before. -/
theorem resetAction_awaits_iff (b : Engine) : b.AwaitsAll ↔ b.NoRelease := by
  have count : b.resetAction.playerActionCount = 0 := (resetCells_turn rowCells _).2.2
  have need := (resetCells_need rowCells { b with actionTime := 0, playerActionCount := 0, playerActionNeed := 0 }).2
  rw [AwaitsAll, and_iff_left count]
  rw [Nat.zero_add] at need
  refine need.trans ?_
  constructor
  · intro before u cells member alive disabled
    obtain ⟨c, mem⟩ := List.exists_mem_of_ne_nil _ cells
    obtain ⟨mem, cell⟩ := List.mem_filter.mp mem
    by_contra released
    rw [not_or] at released
    have can : (b.resetAction.units u).isAwaited = true := by
      rw [resetAction_units, Unit.isAwaited_endTurns]
      exact ⟨⟨member, alive⟩, fun _ => ⟨Nat.pos_of_ne_zero released.1, Nat.le_of_not_lt released.2⟩⟩
    obtain ⟨-, free⟩ := (Unit.isAwaited_endTurns 0 _).mp (before c mem u (of_decide_eq_true cell) can)
    have none := free disabled
    omega
  · intro held c mem u cell can
    have can' : (b.resetAction.units u).isAwaited = true := can
    rw [resetAction_units, Unit.isAwaited_endTurns] at can'
    obtain ⟨lives, released⟩ := can'
    refine (Unit.isAwaited_endTurns 0 _).mpr ⟨lives, fun disabled => ?_⟩
    have stands : b.cellsOf u ≠ [] := List.ne_nil_of_mem (List.mem_filter.mpr ⟨mem, decide_eq_true cell⟩)
    have more := held u stands lives.1 lives.2 disabled
    have done := released disabled
    omega

/-- A duel whose player is in a stun for its last turn. -/
def stunned : Engine := { duel with
  units := Function.update duel.units 1 { duel.units 1 with state := 4, disabledDuration := 1 } }

/-- A player that is released in the same call is not waited for. -/
theorem not_resetAction_awaits : ¬∀ b : Engine, b.AwaitsAll := by
  intro awaits
  have need := (awaits stunned).1
  revert need
  decide

end Engine

end Legacy.Battle
