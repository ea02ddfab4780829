import Legacy.Battle.Phases

/-!
# The counter of a turn

A turn needs one action of each player and pet that can act (`playerActionNeed`), and is built when as many
are counted. `turnCounted_of_reaches` says that the counter does not pass its target, that the actions are
built exactly when it reaches it or on a timeout, and that they fit into the twenty lists, in every run whose
packets count no more than is needed and only while the turn collects actions. The pet command of
`overshot` counts two actions where one is needed.
-/

namespace Legacy.Battle
open Legacy.Lib

namespace Engine

variable {rules : Rules} {dice : TurnDice} {b b' : Engine}

/-- A player or a pet stands in the cell. -/
def hasMember (b : Engine) (c : Nat × Nat) : Bool := (b.battleUnit c.1 c.2).any fun u => (b.units u).isMember

/-- A creature stands in the cell. -/
def hasCreature (b : Engine) (c : Nat × Nat) : Bool := (b.battleUnit c.1 c.2).any fun u => !(b.units u).isMember

/-- The number of creatures that may queue an action. -/
def creatures (b : Engine) : Nat := defenderCells.countP b.hasCreature

/-- Somebody can act in the next turn. -/
def able (b : Engine) : Bool :=
  rowCells.any fun c => (b.battleUnit c.1 c.2).any fun u => (b.units u).isAwaited

/-- Being a player or a pet depends on the type only. -/
lemma isMember_congr {u u' : Unit} (type : u'.type = u.type) : u'.isMember = u.isMember := by
  rw [Unit.isMember, Unit.isMember, type]

/-- The creatures of a cell were there before, since only pets are put into cells. -/
lemma hasCreature_of_shifts {new : Nat → Nat → Prop} (shifts : Shifts new b b')
    (members : ∀ u i, new u i → (b.units u).isMember = true) {c : Nat × Nat} (creature : b'.hasCreature c = true) :
    b.hasCreature c = true := by
  rw [hasCreature] at creature ⊢
  cases cell : b'.battleUnit c.1 c.2 with
  | none =>
    rw [cell] at creature
    cases creature
  | some u =>
    rw [cell] at creature
    rw [Option.any_some, isMember_congr (shifts.type u)] at creature
    rcases shifts.cell c.1 c.2 u cell with old | placed
    · rw [old]
      exact creature
    · rw [members u _ placed] at creature
      cases creature

/-- Where only players and pets enter the grid, the creatures do not get more. -/
lemma creatures_le {new : Nat → Nat → Prop} (shifts : Shifts new b b')
    (members : ∀ u i, new u i → (b.units u).isMember = true) : b'.creatures ≤ b.creatures :=
  List.countP_mono_left fun _ _ => hasCreature_of_shifts shifts members

/-- A cell holds one unit. -/
lemma hasCreature_not_hasMember {c : Nat × Nat} (creature : b.hasCreature c = true) : ¬b.hasMember c = true := by
  rw [hasCreature] at creature
  rw [hasMember]
  cases cell : b.battleUnit c.1 c.2 with
  | none => exact nofun
  | some u =>
    rw [cell, Option.any_some] at creature
    rw [Option.any_some, Bool.not_eq_true]
    exact Bool.not_eq_true' _ ▸ creature

/-- There is a cell for each player, pet and creature. -/
lemma members_add_creatures (b : Engine) : rowCells.countP b.hasMember + b.creatures ≤ actionLists := by
  have part : defenderCells.Sublist rowCells := by decide
  have other : rowCells.countP b.hasCreature ≤ rowCells.countP fun c => ¬b.hasMember c = true :=
    List.countP_mono_left fun _ _ creature => decide_eq_true (hasCreature_not_hasMember creature)
  have cells := List.length_eq_countP_add_countP b.hasMember (l := rowCells)
  calc rowCells.countP b.hasMember + b.creatures
      ≤ rowCells.countP b.hasMember + rowCells.countP b.hasCreature := Nat.add_le_add_left part.countP_le _
    _ ≤ rowCells.length := cells ▸ Nat.add_le_add_left other _

/-- The end of a turn in one cell: the counter grows at most by one, and only for a player or a pet. -/
lemma resetCell_need (b : Engine) (c : Nat × Nat) :
    b.playerActionNeed ≤ (b.resetCell c).playerActionNeed ∧
      (b.resetCell c).playerActionNeed ≤ b.playerActionNeed + (if b.hasMember c then 1 else 0) := by
  rw [resetCell, hasMember]
  cases b.battleUnit c.1 c.2 with
  | none => exact ⟨Nat.le_refl _, Nat.le_refl _⟩
  | some u =>
    simp only [Option.any_some]
    split
    · next awaited =>
      have member : (b.units u).isMember = true := by
        rw [Unit.isAwaited, Bool.and_eq_true, Bool.and_eq_true] at awaited
        exact awaited.1.1
      rw [if_pos member]
      exact ⟨Nat.le_succ _, Nat.le_refl _⟩
    · exact ⟨Nat.le_refl _, Nat.le_add_right _ _⟩

/-- Whether a player or a pet is there depends on the types and the cells. -/
lemma hasMember_congr (types : ∀ u, (b'.units u).type = (b.units u).type) (cells : b'.battleUnit = b.battleUnit) :
    b'.hasMember = b.hasMember := by
  funext c
  rw [hasMember, hasMember, cells]
  congr 1
  funext u
  exact isMember_congr (types u)

/-- A turn needs at most one action for each player and pet. -/
lemma resetCells_need_le (cells : List (Nat × Nat)) (b : Engine) :
    b.playerActionNeed ≤ (cells.foldl resetCell b).playerActionNeed ∧
      (cells.foldl resetCell b).playerActionNeed ≤ b.playerActionNeed + cells.countP b.hasMember := by
  induction cells generalizing b with
  | nil => exact ⟨Nat.le_refl _, Nat.le_refl _⟩
  | cons c cells ih =>
    obtain ⟨first, last⟩ := ih (b.resetCell c)
    obtain ⟨grows, most⟩ := resetCell_need b c
    rw [hasMember_congr (resetCell_fades b c).type (resetCell_battleUnit b c)] at last
    rw [List.foldl_cons, List.countP_cons]
    omega

/-- A turn needs an action when somebody can act. -/
lemma resetCells_need_pos {cells : List (Nat × Nat)} {b : Engine} {c : Nat × Nat} {u : Nat} (mem : c ∈ cells)
    (cell : b.battleUnit c.1 c.2 = some u) (awaited : (b.units u).isAwaited = true) :
    0 < (cells.foldl resetCell b).playerActionNeed := by
  induction cells generalizing b with
  | nil => cases mem
  | cons d cells ih =>
    rw [List.foldl_cons]
    cases first : b.battleUnit d.1 d.2 with
    | none =>
      have ne : c ≠ d := by
        rintro rfl
        rw [first] at cell
        cases cell
      rw [resetCell, first]
      exact ih ((List.mem_cons.mp mem).resolve_left ne) cell awaited
    | some v =>
      cases awaited' : (b.units v).isAwaited with
      | true =>
        have one : 0 < (b.resetCell d).playerActionNeed := by
          rw [resetCell, first]
          simp only [awaited', if_true]
          exact Nat.succ_pos _
        exact one.trans_le (resetCells_need_le cells _).1
      | false =>
        -- the unit of this cell is another one, so the one that can act is as before
        have other : u ≠ v := by
          rintro rfl
          rw [awaited] at awaited'
          cases awaited'
        have ne : c ≠ d := by
          rintro rfl
          rw [first, Option.some.injEq] at cell
          exact other cell.symm
        refine ih ((List.mem_cons.mp mem).resolve_left ne) ((resetCell_battleUnit b d) ▸ cell) ?_
        rw [resetCell, first]
        show ((b.setUnit v (b.units v).endTurn).units u).isAwaited = true
        rw [setUnit_units, if_neg other]
        exact awaited

/-- The players and the creatures together have no more actions than there are lists. -/
lemma sendTurnComplete_need (b : Engine) : b.sendTurnComplete.playerActionNeed + b.creatures ≤ actionLists :=
  (Nat.add_le_add_right ((resetCells_need_le rowCells _).2.trans_eq (Nat.zero_add _)) _).trans
    (members_add_creatures b)

/-- Where somebody can act, an action is needed. -/
lemma sendTurnComplete_need_pos (able : b.able = true) : 0 < b.sendTurnComplete.playerActionNeed := by
  obtain ⟨c, mem, any⟩ := List.any_eq_true.mp able
  cases cell : b.battleUnit c.1 c.2 with
  | none =>
    rw [cell] at any
    cases any
  | some u =>
    rw [cell] at any
    exact resetCells_need_pos (b := { b with actionTime := 0, playerActionCount := 0, playerActionNeed := 0 })
      mem cell any

/-- An action makes the queue longer by one at most. -/
lemma addBattleAction_length (b : Engine) (action : BattleAction) :
    (b.addBattleAction action).unitTurn.length ≤ b.unitTurn.length + 1 := by
  rw [addBattleAction]
  cases b.getAttacker action with
  | none => exact Nat.le_succ _
  | some u => exact (List.length_append ..).le

/-- A cell queues at most one action, and only for a creature. -/
lemma aiStep_length {s s' : Nat × Engine} {c : Nat × Nat} (run : aiStep rules dice s c = .ok s') :
    s'.2.unitTurn.length ≤ s.2.unitTurn.length + (if s.2.hasCreature c then 1 else 0) := by
  rcases aiStep_cases run with rfl | ⟨u, ⟨cell, member, -, -⟩, -, attack⟩
  · exact Nat.le_add_right _ _
  · have creature : s.2.hasCreature c = true := by
      rw [hasCreature, cell, Option.any_some, member]
      rfl
    rw [if_pos creature]
    rcases attack with same | ⟨t, -, queued⟩
    · rw [same]
      exact Nat.le_succ _
    · rw [queued]
      exact addBattleAction_length _ _

/-- The creatures make the queue longer by their number at most. -/
lemma aiSteps_length {cells : List (Nat × Nat)} {s s' : Nat × Engine}
    (run : cells.foldlM (aiStep rules dice) s = .ok s') :
    s'.2.unitTurn.length ≤ s.2.unitTurn.length + cells.countP s.2.hasCreature := by
  induction cells generalizing s with
  | nil =>
    cases run
    exact Nat.le_refl _
  | cons c cells ih =>
    obtain ⟨s₁, first, run⟩ := foldlM_cons_ok.mp run
    obtain ⟨q, eq⟩ := aiStep_queue first
    have one := aiStep_length first
    have rest := ih run
    have same : s₁.2.hasCreature = s.2.hasCreature := by rw [eq]; rfl
    rw [same] at rest
    rw [List.countP_cons]
    omega

/-- The creatures queue at most one action each. -/
lemma aiMove_length (run : aiMove rules dice b = .ok b') : b'.unitTurn.length ≤ b.unitTurn.length + b.creatures := by
  obtain ⟨s, fold, done⟩ | ⟨e, -, failed⟩ := aiMove_cases run
  · cases done
    exact aiSteps_length fold
  · cases failed

/-- A creature fails on a missing spell template only. -/
lemma aiStep_error {s : Nat × Engine} {c : Nat × Nat} {f : Fault} (run : aiStep rules dice s c = .error f) :
    f = .nullPointer := by
  rw [aiStep] at run
  split at run
  · cases run
  · simp only at run
    split at run
    · cases run
    · rw [aiSpell] at run
      split at run
      · split at run
        · cases run
          rfl
        · cases run
      · cases run

/-- The creatures fail on a missing spell template only. -/
lemma aiSteps_error {cells : List (Nat × Nat)} {s : Nat × Engine} {f : Fault}
    (run : cells.foldlM (aiStep rules dice) s = .error f) : f = .nullPointer := by
  induction cells generalizing s with
  | nil => cases run
  | cons c cells ih =>
    obtain first | ⟨s₁, -, rest⟩ := foldlM_cons_error.mp run
    · exact aiStep_error first
    · exact ih rest

/-- The move of the creatures fails on a missing spell template only. -/
lemma aiMove_error {f : Fault} (run : aiMove rules dice b = .error f) : f = .nullPointer := by
  obtain ⟨s, -, done⟩ | ⟨e, fold, failed⟩ := aiMove_cases run
  · cases done
  · cases failed
    exact aiSteps_error fold

namespace Grouping

variable {g : Grouping} {l : List BattleAction}

/-- The rule of the links fails on a missing spell template only. -/
lemma canLink_error {dRoll : ℚ} {act1 act2 : BattleAction} {f : Fault}
    (run : canLink rules b dRoll act1 act2 = .error f) : f = .nullPointer := by
  rw [canLink, getProto, getProto] at run
  cases first : rules.spellTemplate act1.skill with
  | none =>
    rw [first] at run
    cases run
    rfl
  | some sinfo1 =>
    rw [first] at run
    cases second : rules.spellTemplate act2.skill with
    | none =>
      rw [second] at run
      cases run
      rfl
    | some sinfo2 =>
      rw [second] at run
      cases run

/-- An action is placed while there are fewer than twenty, or reads through a missing template. -/
lemma place_post (placed : Placed g l) (len : l.length < actionLists) (dRoll : ℚ) (action : BattleAction) :
    Post (place rules b dRoll g action) (fun g' => Placed g' (l ++ [action])) (fun f => f = .nullPointer) := by
  have ofSat : ∀ {m : Except Fault Grouping}, Sat m (fun g' => Placed g' (l ++ [action])) →
      Post m (fun g' => Placed g' (l ++ [action])) fun f => f = .nullPointer := by
    intro m sat
    obtain ⟨g', rfl, placed'⟩ := sat_iff.mp sat
    exact placed'
  rw [place]
  split
  · exact ofSat (pushNext_placed placed len action)
  · split
    · exact ofSat (pushBack_placed placed len action)
    · next last _ =>
      cases link : canLink rules b dRoll last action with
      | error f => exact canLink_error link
      | ok linked =>
        cases linked with
        | true => exact ofSat (pushBack_placed placed len action)
        | false => exact ofSat (pushNext_placed placed len action)

/-- Placing a queue that fits either places all of it or fails on a missing spell template. -/
lemma placeAll_post (link : Nat → ℚ) {queue : List BattleAction} (placed : Placed g l)
    (len : (l ++ queue).length ≤ actionLists) :
    Post (placeAll rules b link g queue) (fun g' => Placed g' (l ++ queue)) (fun f => f = .nullPointer) := by
  induction queue generalizing link g l with
  | nil =>
    rw [List.append_nil]
    exact placed
  | cons action queue ih =>
    rw [List.append_cons] at len ⊢
    have less : l.length < actionLists := by
      rw [List.length_append, List.length_append, List.length_singleton] at len
      omega
    exact (place_post placed less (link 0) action).bind fun g' _ placed' => ih _ placed' len

end Grouping

/-- Twenty actions fit into the lists. -/
lemma buildActions_bounds (clear : ∀ b', aiMove rules dice b.clearTurn = .ok b' → b'.unitTurn.length ≤ actionLists)
    (i : Nat) : buildActions rules dice b ≠ .error (.outOfBounds i) := by
  intro run
  rw [buildActions] at run
  rcases bind_eq_error.mp run with move | ⟨b₁, move, run⟩
  · cases aiMove_error move
  · obtain ⟨q, eq⟩ := aiMove_queue move
    have cleared : b₁.actions = fun _ => [] := by rw [eq]; rfl
    have start : Grouping.Placed ⟨b₁.actions, 0, none⟩ [] := ⟨rfl, Or.inl ⟨rfl, rfl, cleared ▸ Buckets.nil⟩⟩
    have len : (b₁.unitTurn.insertionSort fun a a' => a'.agility ≤ a.agility).length ≤ actionLists :=
      (List.perm_insertionSort _ _).length_eq.trans_le (clear b₁ move)
    have placed := @Grouping.placeAll_post rules b₁ _ _ dice.link _ start len
    rcases bind_eq_error.mp run with place | ⟨g, -, run⟩
    · cases placed.of_error place
    · cases run

/-- So many actions may be counted: while the turn collects, they are no more than it still needs, and later
they do not make the counter equal to its target. -/
def Fits (b : Engine) (n : Nat) : Prop :=
  if b.waitForAction then b.playerActionCount + n ≤ b.playerActionNeed
  else b.playerActionNeed ≠ addActions b.playerActionCount n

instance (b : Engine) (n : Nat) : Decidable (b.Fits n) :=
  inferInstanceAs (Decidable (if b.waitForAction = true then b.playerActionCount + n ≤ b.playerActionNeed
    else b.playerActionNeed ≠ addActions b.playerActionCount n))

instance (b : Engine) : Decidable b.Sends := inferInstanceAs (Decidable (_ ∧ _))

end Engine

namespace Combat

open Engine

variable {rules : Rules} {s s' : Combat}

/-- A packet counts no more actions than the turn needs, an attack that is not refused comes while the turn
collects actions, and a turn starts when somebody can act. -/
def InTurn (s : Combat) : Event → Prop
  | .attack p _ => p ∈ s.engine.playerList → s.engine.isActionComplete = false → s.engine.waitForAction = true
  | .petCommand p command falls =>
    p ∈ s.engine.playerList → (s.engine.petCommand p command falls).isSome →
      s.engine.Fits (s.engine.petCharge p command falls)
  | .useItem p => p ∈ s.engine.playerList → s.engine.Fits 1
  | .update => s.engine.Sends → s.engine.firstList = none → s.engine.able = true
  | _ => True

instance (s : Combat) : DecidablePred s.InTurn
  | .attack _ _ | .petCommand _ _ _ | .useItem _ | .update => inferInstanceAs (Decidable (_ → _))
  | .leave _ | .tick | .build _ | .act _ | .hit _ | .finish | .conclude => inferInstanceAs (Decidable True)

/-- What holds of the counter of a turn. -/
structure TurnCounted (rules : Rules) (s : Combat) : Prop where
  le : s.engine.waitForAction = true → s.engine.playerActionCount ≤ s.engine.playerActionNeed
  /-- The actions are built as soon as the counter reaches its target, and only then ... -/
  complete : s.engine.waitForAction = true →
    (s.engine.playerActionCount = s.engine.playerActionNeed ↔ s.control = .building false)
  collects : ∀ timedOut, s.control = .building timedOut → s.engine.waitForAction = true
  /-- ... or on a timeout. -/
  late : s.control = .building true → maxActionTime ≤ s.engine.actionTime
  /-- Together with those of the creatures, the actions of a turn are at most twenty, ... -/
  queue : ∀ timedOut dice b, s.control = .building timedOut → aiMove rules dice s.engine.clearTurn = .ok b →
    b.unitTurn.length ≤ actionLists
  /-- ... which is as many as there are lists. -/
  lists : ∀ timedOut dice i, s.control = .building timedOut →
    s.engine.buildActions rules dice ≠ .error (.outOfBounds i)

/-- The state of a turn that collects actions: there is one in the queue for each that is counted, and room for
those of the creatures. -/
structure Collecting (s : Combat) : Prop where
  le : s.engine.playerActionCount ≤ s.engine.playerActionNeed
  complete : s.engine.playerActionCount = s.engine.playerActionNeed ↔ s.control = .building false
  queue : s.engine.unitTurn.length ≤ s.engine.playerActionCount
  room : s.engine.playerActionNeed + s.engine.creatures ≤ actionLists

/-- The counter and the queue of a battle in which every packet is in its turn. -/
structure Counting (s : Combat) : Prop where
  collecting : s.engine.waitForAction = true → Collecting s
  resolving : s.engine.waitForAction = false → s.engine.unitTurn = []
  building : ∀ timedOut, s.control = .building timedOut → s.engine.waitForAction = true
  late : s.control = .building true → maxActionTime ≤ s.engine.actionTime

/-- What is kept gives the property of the turn. -/
lemma Counting.turnCounted (counting : Counting s) : TurnCounted rules s := by
  have queue : ∀ timedOut dice b, s.control = .building timedOut → aiMove rules dice s.engine.clearTurn = .ok b →
      b.unitTurn.length ≤ actionLists := by
    intro timedOut dice b control move
    have turn := counting.collecting (counting.building timedOut control)
    calc b.unitTurn.length
        ≤ s.engine.unitTurn.length + s.engine.creatures := aiMove_length (b := s.engine.clearTurn) move
      _ ≤ s.engine.playerActionNeed + s.engine.creatures := Nat.add_le_add_right (turn.queue.trans turn.le) _
      _ ≤ actionLists := turn.room
  exact ⟨fun waits => (counting.collecting waits).le, fun waits => (counting.collecting waits).complete,
    counting.building, counting.late, queue,
    fun timedOut dice i control => buildActions_bounds (fun b => queue timedOut dice b control) i⟩

/-- A turn that just began. -/
lemma counting_turn {b : Engine} {control : Control} {queuedBy kills drops : List Nat} (queue : b.unitTurn = [])
    (able : b.able = true) (other : ∀ timedOut, control ≠ .building timedOut) :
    Counting ⟨b.sendTurnComplete, control, queuedBy, kills, drops⟩ := by
  obtain ⟨unitTurn, -, zero⟩ := sendTurnComplete_turn b
  have pos := sendTurnComplete_need_pos able
  have count : b.sendTurnComplete.playerActionCount = 0 := zero
  refine ⟨fun _ => ⟨?le, ?complete, ?queue, ?room⟩, nofun, fun timedOut eq => absurd eq (other timedOut),
    fun eq => absurd eq (other true)⟩
  case le =>
    show b.sendTurnComplete.playerActionCount ≤ b.sendTurnComplete.playerActionNeed
    rw [count]
    exact Nat.zero_le _
  case complete =>
    show b.sendTurnComplete.playerActionCount = b.sendTurnComplete.playerActionNeed ↔ control = .building false
    rw [count]
    exact ⟨fun eq => absurd eq pos.ne, fun eq => absurd eq (other false)⟩
  case queue =>
    show b.sendTurnComplete.unitTurn.length ≤ b.sendTurnComplete.playerActionCount
    rw [unitTurn, queue]
    exact Nat.zero_le _
  case room =>
    have fewer : b.sendTurnComplete.creatures ≤ b.creatures :=
      creatures_le (sendTurnComplete_fades b) fun _ _ => nofun
    exact (Nat.add_le_add_left fewer _).trans (sendTurnComplete_need b)

/-- A packet that counts `n` actions and queues at most one of them. -/
lemma Counting.counted {b : Engine} {n : Nat} {queuedBy : List Nat} (counting : Counting s)
    (fits : s.engine.Fits n) (waits : b.waitForAction = s.engine.waitForAction)
    (need : b.playerActionNeed = s.engine.playerActionNeed)
    (count : b.playerActionCount = addActions s.engine.playerActionCount n)
    (queue : s.engine.waitForAction = true → b.unitTurn.length ≤ s.engine.unitTurn.length + n)
    (empty : s.engine.waitForAction = false → b.unitTurn = s.engine.unitTurn)
    (creatures : b.creatures ≤ s.engine.creatures) :
    Counting (counted { s with engine := b, queuedBy := queuedBy }) := by
  have complete : ∀ timedOut, (Combat.counted { s with engine := b, queuedBy := queuedBy }).control =
      .building timedOut ↔ timedOut = false ∧ b.playerActionNeed = b.playerActionCount := by
    intro timedOut
    show (if b.isActionComplete then _ else _ : Control) = _ ↔ _
    rw [isActionComplete]
    split
    · next eq =>
      rw [Control.building.injEq]
      exact ⟨fun same => ⟨same.symm, of_decide_eq_true eq⟩, fun both => both.1.symm⟩
    · next ne => exact ⟨fun same => (by cases same), fun both => absurd (decide_eq_true both.2) ne⟩
  -- the count is complete or goes on, and the timeout is another event
  have notLate : (Combat.counted { s with engine := b, queuedBy := queuedBy }).control ≠ .building true :=
    fun control => absurd ((complete true).mp control).1 Bool.false_ne_true.symm
  rw [Fits] at fits
  split at fits
  · next collects =>
    have turn := counting.collecting collects
    have small : b.playerActionCount = s.engine.playerActionCount + n := by
      have room : s.engine.playerActionNeed + s.engine.creatures ≤ 20 := turn.room
      rw [count, addActions]
      split
      · next zero => rw [zero, Nat.add_zero]
      · exact u8_of_lt (by omega)
    refine ⟨fun _ => ⟨?le, ?complete, ?queue, ?room⟩,
      fun off => absurd (waits ▸ off) (by rw [collects]; exact Bool.false_ne_true.symm),
      fun _ _ => waits.trans collects, fun control => absurd control notLate⟩
    case le =>
      show b.playerActionCount ≤ b.playerActionNeed
      rw [small, need]
      exact fits
    case complete =>
      rw [complete false]
      exact ⟨fun eq => ⟨rfl, eq.symm⟩, fun both => both.2.symm⟩
    case queue =>
      show b.unitTurn.length ≤ b.playerActionCount
      rw [small]
      exact (queue collects).trans (Nat.add_le_add_right turn.queue n)
    case room =>
      show b.playerActionNeed + b.creatures ≤ actionLists
      rw [need]
      exact (Nat.add_le_add_left creatures _).trans turn.room
  · next resolves =>
    have off : s.engine.waitForAction = false := Bool.eq_false_of_not_eq_true resolves
    have apart : b.playerActionNeed ≠ b.playerActionCount := by
      rw [need, count]
      exact fits
    have still : b.waitForAction = false := waits.trans off
    refine ⟨fun on => absurd (still.symm.trans on) Bool.false_ne_true,
      fun _ => (empty off).trans (counting.resolving off),
      fun timedOut control => absurd ((complete timedOut).mp control).2 apart, fun control => absurd control notLate⟩

/-- A pet command brings no creature in. -/
lemma petCommand_creatures {p : Nat} {command : PetCommand} {falls : Bool} {b b' : Engine} (staffed : b.Staffed)
    (run : b.petCommand p command falls = some b') : b'.creatures ≤ b.creatures := by
  obtain ⟨-, fades | ⟨modelId, pet, -, found, shifts⟩⟩ := petCommand_cases staffed run
  · exact creatures_le fades fun _ _ => nofun
  · refine creatures_le shifts fun u c placed => ?_
    have own := getPetByModelId_own staffed found
    rw [placed.1, Unit.isMember, own]
    rfl

/-- What is quiet keeps who can act and the first list. -/
lemma quiet_able {b b' : Engine} (quiet : Quiet b b') : b'.able = b.able ∧ b'.firstList = b.firstList := by
  obtain ⟨_, _, _, _, rfl⟩ := quiet
  exact ⟨rfl, rfl⟩

/-- Every step in its turn keeps the counter. -/
lemma Counting.change {e : Event} (staffed : s.engine.Staffed) (counting : Counting s) (inTurn : s.InTurn e)
    (change : Change rules s e s') : Counting s' := by
  cases change with
  | @attack p action u member cell pending =>
    have waits : s.engine.waitForAction = true := inTurn member pending
    have turn := counting.collecting waits
    have apart : s.engine.playerActionNeed ≠ s.engine.playerActionCount := of_decide_eq_false pending
    have fits : s.engine.Fits 1 := by
      rw [Fits, if_pos waits]
      exact Nat.lt_of_le_of_ne turn.le apart.symm
    obtain ⟨-, wait, need, count⟩ := addBattleAction_turn s.engine
      { action.selfTarget with skill := (s.engine.units u).checkSkill rules action.skill }
    refine counting.counted fits wait need (congrArg (fun c => u8 (c + 1)) count)
      (fun _ => addBattleAction_length s.engine _) (fun off => absurd (waits.symm.trans off) nofun) ?_
    exact creatures_le ((addBattleAction_fades s.engine _).trans_fades (Fades.of_eq rfl rfl rfl)) fun _ _ => nofun
  | petCommand member run =>
    have fits := inTurn member (Option.isSome_of_eq_some run)
    obtain ⟨same, -⟩ := petCommand_cases staffed run
    exact counting.counted fits same.waitForAction same.playerActionNeed (petCommand_count run)
      (fun _ => same.unitTurn ▸ Nat.le_add_right _ _) (fun _ => same.unitTurn) (petCommand_creatures staffed run)
  | useItem member =>
    exact counting.counted (inTurn member) rfl rfl rfl (fun _ => Nat.le_succ _) (fun _ => rfl) (Nat.le_refl _)
  | timeout idle waits late =>
    have turn := counting.collecting waits
    -- a complete count would have left the idle control
    have apart : s.engine.playerActionCount ≠ s.engine.playerActionNeed := by
      intro eq
      rw [turn.complete, idle] at eq
      cases eq
    exact ⟨fun _ => ⟨turn.le, ⟨fun eq => absurd eq apart, nofun⟩, turn.queue, turn.room⟩,
      fun off => absurd (waits.symm.trans off) nofun, fun _ _ => waits, fun _ => late⟩
  | build control run =>
    obtain ⟨lists, rfl⟩ := buildActions_eq run
    refine ⟨nofun, fun _ => rfl, fun timedOut eq => ?_, fun eq => ?_⟩
    · simp only at eq
      split at eq <;> cases eq
    · simp only at eq
      split at eq <;> cases eq
  | turn sends quiet none =>
    obtain ⟨able, first⟩ := quiet_able quiet
    exact counting_turn (quiet.sameTurn.unitTurn.trans (counting.resolving sends.2.2.1))
      (able.trans (inTurn sends (first.symm.trans none))) nofun
  | take sends quiet first run =>
    obtain ⟨lists, rfl⟩ := takeList_eq run
    have resolving := quiet.sameTurn.waitForAction.trans sends.2.2.1
    exact ⟨fun on => absurd (resolving.symm.trans on) nofun,
      fun _ => quiet.sameTurn.unitTurn.trans (counting.resolving sends.2.2.1), nofun, nofun⟩
  | quiet fades same queuedBy acts before control =>
    refine ⟨fun waits => ?_, fun off => same.unitTurn.trans (counting.resolving (same.waitForAction.symm.trans off)),
      fun timedOut eq => absurd eq (control timedOut), fun eq => absurd eq (control true)⟩
    have turn := counting.collecting (same.waitForAction.symm.trans waits)
    refine ⟨?le, ?complete, ?queue, ?room⟩
    case le =>
      rw [same.playerActionCount, same.playerActionNeed]
      exact turn.le
    case complete =>
      rw [same.playerActionCount, same.playerActionNeed, turn.complete]
      exact ⟨fun eq => absurd eq (before false), fun eq => absurd eq (control false)⟩
    case queue =>
      rw [same.unitTurn, same.playerActionCount]
      exact turn.queue
    case room =>
      rw [same.playerActionNeed]
      exact (Nat.add_le_add_left (creatures_le fades fun _ _ => nofun) _).trans turn.room

/-- The counter of a turn does not pass its target: in a battle whose first turn somebody can act in, and whose
packets are in their turn, the actions are built exactly when the counter reaches its target, or on a timeout,
and they fit into the lists. -/
theorem turnCounted_of_reaches {b : Engine} (ready : Ready b) (able : b.able = true)
    (run : Runs rules InTurn (start b) s) : TurnCounted rules s := by
  have counting : Counting s :=
    Runs.invariant run (start_staffed ready) (counting_turn ready.unitTurn able nofun)
      fun staffed counting inTurn change => counting.change staffed inTurn change
  exact counting.turnCounted

/-- The attack of the only player completes the turn. -/
theorem turnCounted_duel :
    ∃ s, Runs basicRules InTurn (start duel) s ∧ s.control = .building false ∧ TurnCounted basicRules s := by
  have run : Runs basicRules InTurn (start duel) _ :=
    reaches_of_exec [.attack 1 ⟨3, 2, spellBasic, 0, 2, 0⟩] (by decide +kernel) rfl
  exact ⟨_, run, rfl, turnCounted_of_reaches ready_duel (by decide) run⟩

/-- A player attacks and then rests its pet, which counts an action for both of them. -/
def overshot : List Event := [.attack 1 ⟨3, 2, spellBasic, 0, 2, 0⟩, .petCommand 1 .rest true]

/-- In the run of the example three actions are counted where two are needed. -/
lemma overshot_run :
    (exec (fun s e => (step basicRules s e).toOption) (start petDuel) overshot).map (fun s =>
      (s.engine.waitForAction, s.engine.playerActionCount, s.engine.playerActionNeed)) = some (true, 3, 2) := by
  decide +kernel

/-- The counter passes its target, and the turn is not built before its timeout. -/
theorem not_turnCounted_overshot :
    ¬∀ (rules : Rules) (b : Engine) (s : Combat), Ready b → b.able = true →
      Runs rules (fun _ _ => True) (start b) s → TurnCounted rules s := by
  intro counted
  obtain ⟨s, reached, last⟩ := Option.map_eq_some_iff.mp overshot_run
  have run : Runs basicRules (fun _ _ => True) (start petDuel) s := reaches_of_exec _ (along_true _ _) reached
  have le := (counted basicRules petDuel s ready_petDuel (by decide) run).le (congrArg Prod.fst last)
  have count : s.engine.playerActionCount = 3 := congrArg (fun t => t.2.1) last
  have need : s.engine.playerActionNeed = 2 := congrArg (fun t => t.2.2) last
  omega

end Combat

end Legacy.Battle
