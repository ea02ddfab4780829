import Legacy.Lib.Faulting
import Legacy.Map.Cells

/-!
# Creatures that wander

A `RandomMovementGenerator` sends a creature back and forth over nine waypoints, which `initializeFor` computes from
its respawn point in 32 bits and stores in 16. The random numbers that a call draws are its arguments, so a run is
over any random source. The members that the constructor leaves alone have arbitrary values at first.
-/

namespace Legacy.Map

/-- source `MAX_RAND_WAYPOINTS` -/
def MAX_RAND_WAYPOINTS : Nat := 8

/-- source `UNIT_STATE_ROAMING` -/
def UNIT_STATE_ROAMING : UInt32 := 128

/-- source `UNIT_STATE_MOVING` -/
def UNIT_STATE_MOVING : UInt32 := UNIT_STATE_ROAMING ||| 256 ||| 512 ||| 1024

/-- What `urand(min, max)` may return. -/
abbrev Urand (min max : UInt32) : Type := {n : UInt32 // min ≤ n ∧ n ≤ max}

/-- The two numbers drawn for a coordinate of a waypoint. -/
structure Shift where
  offset : Urand 100 150
  sign : Urand 0 1

/-- The coordinate of a waypoint: the sum has 32 bits, what is stored of it has 16. -/
def Shift.apply (d : Shift) (c : UInt16) : UInt16 := (c.toUInt32 + d.offset.val * (d.sign.val * -1)).toUInt16

/-- What `Initialize` draws: two shifts for every waypoint but the first, and the time. -/
structure InitializeDraws where
  waypoints : Fin MAX_RAND_WAYPOINTS → Shift × Shift
  time : Urand 5000 5999

/-- What `Update` may draw. -/
structure UpdateDraws where
  move : Urand 10000 11999
  wrap : Urand 0 2999
  next : Urand 0 6999

/-- The creature, as far as its movement is concerned. -/
structure Wanderer where
  respawn_cord : Position
  position : Position
  m_state : UInt32

namespace Wanderer

variable (creature : Wanderer)

/-- source `Unit::hasUnitState` -/
def hasUnitState (f : UInt32) : Bool := creature.m_state &&& f ≠ 0

/-- source `Unit::addUnitState` -/
def addUnitState (f : UInt32) : Wanderer := { creature with m_state := creature.m_state ||| f }

/-- source `Unit::clearUnitState` -/
def clearUnitState (f : UInt32) : Wanderer := { creature with m_state := creature.m_state &&& ~~~f }

/-- Source `Unit::IsStopped`. -/
def IsStopped : Bool := !creature.hasUnitState UNIT_STATE_MOVING

/-- Source `Unit::StopMoving`, with the position that it sends. -/
def stopMoving : Wanderer × Position := (creature.clearUnitState UNIT_STATE_MOVING, creature.position)

end Wanderer

/-- Where `Update` ends without a return. -/
inductive WanderFault where
  /-- `assert( i_nextMove <= MAX_RAND_WAYPOINTS )` fails. -/
  | assertion
  /-- `i_waypoints` is indexed outside its bounds. -/
  | outOfBounds
  deriving DecidableEq

/-- Source `RandomMovementGenerator`. A time tracker is reset as soon as it has passed, so its time is far from the
bounds of `time_t`. -/
structure RandomMovementGenerator where
  i_nextMoveTime : Int
  i_waypoints : Fin (MAX_RAND_WAYPOINTS + 1) → Position
  i_nextMove : UInt32

namespace RandomMovementGenerator

variable (g : RandomMovementGenerator) (creature : Wanderer)

/-- The entry `i_waypoints[i]`. -/
def waypoint (i : Nat) : Except WanderFault Position :=
  if bound : i < MAX_RAND_WAYPOINTS + 1 then .ok (g.i_waypoints ⟨i, bound⟩) else .error .outOfBounds

/-- Source `RandomMovementGenerator<Creature>::Initialize`. -/
def initializeFor (draws : InitializeDraws) : RandomMovementGenerator × Wanderer :=
  let x := creature.respawn_cord.x
  let y := creature.respawn_cord.y
  ({ i_nextMove := 1
     i_waypoints := Fin.cases ⟨x, y⟩ fun idx => ⟨(draws.waypoints idx).1.apply x, (draws.waypoints idx).2.apply y⟩
     i_nextMoveTime := draws.time.val.toNat }, creature.stopMoving.1)

/-- Source `RandomMovementGenerator<Creature>::Reset`. -/
def reset (time : Urand 0 9999) : RandomMovementGenerator × Wanderer :=
  ({ g with i_nextMove := 1, i_nextMoveTime := time.val.toNat }, creature.stopMoving.1)

/-- Source `RandomMovementGenerator<Creature>::Update`, with the positions that it sends. -/
def update (diff : UInt32) (draws : UpdateDraws) :
    Except WanderFault (RandomMovementGenerator × Wanderer × List Position) :=
  let i_nextMoveTime := g.i_nextMoveTime - diff.toNat
  if i_nextMoveTime ≤ 0 then
    if creature.IsStopped then
      if g.i_nextMove.toNat ≤ MAX_RAND_WAYPOINTS then do
        let pos ← g.waypoint g.i_nextMove.toNat
        .ok ({ g with i_nextMoveTime := draws.move.val.toNat }, creature.addUnitState UNIT_STATE_ROAMING, [pos])
      else .error .assertion
    else
      let (creature, pos) := creature.stopMoving
      let i_nextMove := g.i_nextMove + 1
      if i_nextMove.toNat = MAX_RAND_WAYPOINTS then
        .ok ({ g with i_nextMove := 0, i_nextMoveTime := draws.wrap.val.toNat }, creature, [pos])
      else .ok ({ g with i_nextMove := i_nextMove, i_nextMoveTime := draws.next.val.toNat }, creature, [pos])
  else .ok ({ g with i_nextMoveTime := i_nextMoveTime }, creature, [])

end RandomMovementGenerator

/-- A call of a generator, or what the rest of the server does to its creature in the meantime. -/
inductive WanderCall where
  | init (draws : InitializeDraws)
  | reset (time : Urand 0 9999)
  | update (diff : UInt32) (draws : UpdateDraws)
  | elsewhere (m_state : UInt32) (pos : Position)

/-- A generator, its creature and the positions that `Update` has sent. -/
structure Wander where
  generator : RandomMovementGenerator
  creature : Wanderer
  sent : List Position

namespace Wander

/-- A new generator, whose constructor sets the time only. -/
def constructed (i_waypoints : Fin (MAX_RAND_WAYPOINTS + 1) → Position) (i_nextMove : UInt32) (creature : Wanderer) :
    Wander :=
  ⟨⟨0, i_waypoints, i_nextMove⟩, creature, []⟩

/-- What a call of the generator does to the creature and its waypoints. -/
def step (s : Wander) : WanderCall → Except WanderFault Wander
  | .init draws =>
    let (g, creature) := RandomMovementGenerator.initializeFor s.creature draws
    .ok { s with generator := g, creature := creature }
  | .reset time =>
    let (g, creature) := s.generator.reset s.creature time
    .ok { s with generator := g, creature := creature }
  | .update diff draws => do
    let (g, creature, sent) ← s.generator.update s.creature diff draws
    .ok ⟨g, creature, s.sent ++ sent⟩
  | .elsewhere m_state pos => .ok { s with creature := { s.creature with m_state := m_state, position := pos } }

/-- A sequence of calls, up to the first fault. -/
def run (s : Wander) (calls : List WanderCall) : Except WanderFault Wander := calls.foldlM step s

end Wander

/-- The coordinates differ by 150 at most. -/
def Near (p q : Position) : Prop :=
  ((p.x.toNat : Int) - q.x.toNat).natAbs ≤ 150 ∧ ((p.y.toNat : Int) - q.y.toNat).natAbs ≤ 150
  deriving Decidable

/-- No call faults, and what is sent is near the respawn point. -/
def Wander.Safe (s : Wander) (calls : List WanderCall) : Prop :=
  ∃ s', s.run calls = .ok s' ∧ ∀ pos ∈ s'.sent, Near s.creature.respawn_cord pos

/-- The shift does not lead below the edge of the map. -/
def Shift.Fits (d : Shift) (c : UInt16) : Prop := d.sign.val = 0 ∨ d.offset.val.toNat ≤ c.toNat

/-- The waypoints are on the map. The last one is never sent, so nothing is asked of it. -/
def InitializeDraws.Fits (draws : InitializeDraws) (p : Position) : Prop :=
  ∀ idx : Fin MAX_RAND_WAYPOINTS, idx.val < 7 →
    (draws.waypoints idx).1.Fits p.x ∧ (draws.waypoints idx).2.Fits p.y

/-- The rest of the server leaves the creature near its respawn point. -/
def WanderCall.Stays (p : Position) : WanderCall → Prop
  | .elsewhere _ pos => Near p pos
  | _ => True

/-- The waypoints that the call computes are on the map. -/
def WanderCall.Fits (p : Position) : WanderCall → Prop
  | .init draws => draws.Fits p
  | _ => True

section Shifts

variable {d : Shift} {c : UInt16} {p : Position}

/-- A coordinate is moved towards the origin, or left. -/
lemma toNat_apply : (d.apply c).toNat =
    if d.sign.val = 0 then c.toNat else (c.toNat + 65536 - d.offset.val.toNat) % 65536 := by
  obtain ⟨⟨offset, low, high⟩, ⟨sign, -, bit⟩⟩ := d
  have lt := c.toNat_lt
  rw [UInt32.le_iff_toNat_le] at low high bit
  have low : 100 ≤ offset.toNat := low
  have high : offset.toNat ≤ 150 := high
  have bit : sign.toNat ≤ 1 := bit
  split_ifs with zero
  · have zero : sign = 0 := zero
    subst zero
    simp [Shift.apply]
  · have one : sign = 1 := by
      apply UInt32.toNat_inj.mp
      have ne : sign.toNat ≠ 0 := fun eq => zero (UInt32.toNat_inj.mp eq)
      simp only [UInt32.reduceToNat]
      omega
    subst one
    simp only [Shift.apply, UInt32.toNat_toUInt16, UInt32.toNat_add, UInt32.toNat_mul, UInt16.toNat_toUInt32]
    simp
    omega

/-- A coordinate stays near exactly when it is not moved over the edge. -/
lemma near_apply_iff : ((c.toNat : Int) - (d.apply c).toNat).natAbs ≤ 150 ↔ d.Fits c := by
  obtain ⟨⟨offset, low, high⟩, sign⟩ := d
  have lt := c.toNat_lt
  rw [UInt32.le_iff_toNat_le] at low high
  have low : 100 ≤ offset.toNat := low
  have high : offset.toNat ≤ 150 := high
  rw [toNat_apply, Shift.Fits]
  split_ifs with zero
  · simp only [Int.sub_self, Int.natAbs_zero, Nat.zero_le, true_iff]
    exact .inl zero
  · simp only [zero, false_or]
    omega

/-- Far from the edge every shift fits. -/
lemma Shift.fits_of_le (far : 150 ≤ c.toNat) : d.Fits c := by
  have high := d.offset.property.2
  rw [UInt32.le_iff_toNat_le] at high
  exact .inr (Nat.le_trans high far)

end Shifts

section Runs

variable {p : Position} {s s' : Wander} {call : WanderCall} {calls : List WanderCall}

/-- A generator that was initialized near its respawn point and the creature it moves. -/
structure Wander.Kept (p : Position) (s : Wander) : Prop where
  respawn : s.creature.respawn_cord = p
  position : Near p s.creature.position
  next : s.generator.i_nextMove.toNat < MAX_RAND_WAYPOINTS
  waypoints : ∀ idx : Fin (MAX_RAND_WAYPOINTS + 1), idx.val < MAX_RAND_WAYPOINTS → Near p (s.generator.i_waypoints idx)
  sent : ∀ pos ∈ s.sent, Near p pos

/-- The first waypoint is one of the waypoints. -/
lemma zero_lt_waypoints : (0 : UInt32).toNat < MAX_RAND_WAYPOINTS := by decide

/-- The second waypoint is one of the waypoints. -/
lemma one_lt_waypoints : (1 : UInt32).toNat < MAX_RAND_WAYPOINTS := by decide

/-- A position is near itself. -/
lemma near_self : Near p p := by
  simp [Near]

/-- The waypoints of fitting shifts, but for the last one. -/
lemma near_initializeFor {creature : Wanderer} {draws : InitializeDraws} (fits : draws.Fits creature.respawn_cord)
    (idx : Fin (MAX_RAND_WAYPOINTS + 1)) (sent : idx.val < MAX_RAND_WAYPOINTS) :
    Near creature.respawn_cord
      ((RandomMovementGenerator.initializeFor creature draws).1.i_waypoints idx) := by
  cases idx using Fin.cases with
  | zero => exact near_self
  | succ idx =>
    have below : idx.val < 7 := by
      have succ : idx.succ.val = idx.val + 1 := Fin.val_succ idx
      have max : MAX_RAND_WAYPOINTS = 8 := rfl
      omega
    exact ⟨near_apply_iff.mpr (fits idx below).1, near_apply_iff.mpr (fits idx below).2⟩

/-- `Update` does not fault on an index below the last: it comes back to 0 before it reaches that, and what is sent
is the position of the creature or a waypoint. -/
lemma update_of_next {g : RandomMovementGenerator} (creature : Wanderer) (diff : UInt32) (draws : UpdateDraws)
    (next : g.i_nextMove.toNat < MAX_RAND_WAYPOINTS) :
    ∃ g' creature' sent, g.update creature diff draws = .ok (g', creature', sent) ∧
      g'.i_nextMove.toNat < MAX_RAND_WAYPOINTS ∧ g'.i_waypoints = g.i_waypoints ∧
      creature'.respawn_cord = creature.respawn_cord ∧ creature'.position = creature.position ∧
      ∀ pos ∈ sent, pos = creature.position ∨
        ∃ idx : Fin (MAX_RAND_WAYPOINTS + 1), idx.val < MAX_RAND_WAYPOINTS ∧ pos = g.i_waypoints idx := by
  simp only [RandomMovementGenerator.update]
  split_ifs with passed stopped bound last
  · have inside : g.i_nextMove.toNat < MAX_RAND_WAYPOINTS + 1 := Nat.lt_succ_of_lt next
    rw [RandomMovementGenerator.waypoint, dif_pos inside]
    exact ⟨_, _, _, rfl, next, rfl, rfl, rfl, fun pos mem => .inr ⟨_, next, List.mem_singleton.mp mem⟩⟩
  · exact absurd (Nat.le_of_lt next) bound
  · exact ⟨_, _, _, rfl, zero_lt_waypoints, rfl, rfl, rfl, fun pos mem => .inl (List.mem_singleton.mp mem)⟩
  · refine ⟨_, _, _, rfl, ?_, rfl, rfl, rfl, fun pos mem => .inl (List.mem_singleton.mp mem)⟩
    -- the index is below the last one, so it does not wrap
    have sum : (g.i_nextMove + 1).toNat = g.i_nextMove.toNat + 1 := by
      simp only [MAX_RAND_WAYPOINTS] at next
      rw [UInt32.toNat_add, UInt32.toNat_one]
      omega
    simp only
    omega
  · exact ⟨_, _, _, rfl, next, rfl, rfl, rfl, fun pos mem => absurd mem (List.not_mem_nil)⟩

/-- After `Initialize` no call faults, wherever the creature is. -/
theorem run_ok_of_init (s : Wander) (draws : InitializeDraws) (calls : List WanderCall) :
    ∃ s', s.run (.init draws :: calls) = .ok s' ∧ s'.generator.i_nextMove.toNat < MAX_RAND_WAYPOINTS := by
  have rest : ∀ s : Wander, s.generator.i_nextMove.toNat < MAX_RAND_WAYPOINTS →
      ∃ s', s.run calls = .ok s' ∧ s'.generator.i_nextMove.toNat < MAX_RAND_WAYPOINTS := by
    induction calls with
    | nil => exact fun s next => ⟨s, rfl, next⟩
    | cons call calls ih =>
      intro s next
      have step : ∃ s', s.step call = .ok s' ∧ s'.generator.i_nextMove.toNat < MAX_RAND_WAYPOINTS := by
        cases call with
        | init draws => exact ⟨_, rfl, one_lt_waypoints⟩
        | reset time => exact ⟨_, rfl, one_lt_waypoints⟩
        | update diff draws =>
          obtain ⟨g, creature, sent, update, next', -⟩ := update_of_next s.creature diff draws next
          exact ⟨_, Lib.bind_eq_ok.mpr ⟨_, update, rfl⟩, next'⟩
        | elsewhere m_state pos => exact ⟨_, rfl, next⟩
      obtain ⟨s₁, step, next'⟩ := step
      obtain ⟨s', run, last⟩ := ih s₁ next'
      exact ⟨s', Lib.foldlM_cons_ok.mpr ⟨s₁, step, run⟩, last⟩
  let s₁ : Wander := { s with
    generator := (RandomMovementGenerator.initializeFor s.creature draws).1
    creature := (RandomMovementGenerator.initializeFor s.creature draws).2 }
  obtain ⟨s', run, last⟩ := rest s₁ one_lt_waypoints
  exact ⟨s', Lib.foldlM_cons_ok.mpr ⟨s₁, rfl, run⟩, last⟩

/-- `Initialize` makes a generator safe, whatever it was before. -/
lemma Wander.Kept.init (respawn : s.creature.respawn_cord = p) (position : Near p s.creature.position)
    (sent : ∀ pos ∈ s.sent, Near p pos) {draws : InitializeDraws} (fits : draws.Fits p) :
    ∃ s', s.step (.init draws) = .ok s' ∧ s'.Kept p := by
  subst respawn
  exact ⟨_, rfl, rfl, position, one_lt_waypoints, near_initializeFor fits, sent⟩

/-- `Update` keeps a generator safe. -/
lemma Wander.Kept.update (kept : s.Kept p) (diff : UInt32) (draws : UpdateDraws) :
    ∃ s', s.step (.update diff draws) = .ok s' ∧ s'.Kept p := by
  obtain ⟨respawn, position, next, waypoints, before⟩ := kept
  obtain ⟨g, creature, sent, update, next', same, respawn', position', sends⟩ :=
    update_of_next s.creature diff draws next
  refine ⟨_, Lib.bind_eq_ok.mpr ⟨_, update, rfl⟩, respawn'.trans respawn, position' ▸ position, next', ?_, ?_⟩
  · exact same ▸ waypoints
  · intro pos mem
    obtain mem | mem := List.mem_append.mp mem
    · exact before pos mem
    · obtain rfl | ⟨idx, bound, rfl⟩ := sends pos mem
      · exact position
      · exact waypoints idx bound

/-- Every call keeps a generator safe. -/
lemma Wander.Kept.step (kept : s.Kept p) (stays : call.Stays p) (fits : call.Fits p) :
    ∃ s', s.step call = .ok s' ∧ s'.Kept p := by
  cases call with
  | init draws => exact Wander.Kept.init kept.respawn kept.position kept.sent fits
  | reset time => exact ⟨_, rfl, kept.respawn, kept.position, one_lt_waypoints, kept.waypoints, kept.sent⟩
  | update diff draws => exact kept.update diff draws
  | elsewhere m_state pos => exact ⟨_, rfl, kept.respawn, stays, kept.next, kept.waypoints, kept.sent⟩

/-- Calls that stay and fit run through, and keep the creature near its home. -/
lemma Wander.Kept.run (kept : s.Kept p) (stays : ∀ call ∈ calls, call.Stays p) (fits : ∀ call ∈ calls, call.Fits p) :
    ∃ s', s.run calls = .ok s' ∧ s'.Kept p := by
  induction calls generalizing s with
  | nil => exact ⟨s, rfl, kept⟩
  | cons call calls ih =>
    obtain ⟨s₁, step, kept⟩ := kept.step (stays call List.mem_cons_self) (fits call List.mem_cons_self)
    obtain ⟨s', run, kept⟩ := ih kept (fun c mem => stays c (List.mem_cons_of_mem _ mem))
      fun c mem => fits c (List.mem_cons_of_mem _ mem)
    exact ⟨s', Lib.foldlM_cons_ok.mpr ⟨s₁, step, run⟩, kept⟩

/-- A run that begins with `Initialize` is safe as long as its waypoints are on the map. -/
lemma safe_of_fits {draws : InitializeDraws} (position : Near s.creature.respawn_cord s.creature.position)
    (sent : s.sent = []) (fits : draws.Fits s.creature.respawn_cord)
    (stays : ∀ call ∈ calls, call.Stays s.creature.respawn_cord)
    (rest : ∀ call ∈ calls, call.Fits s.creature.respawn_cord) : s.Safe (.init draws :: calls) := by
  obtain ⟨s₁, step, kept⟩ := Wander.Kept.init rfl position (by simp [sent]) fits
  obtain ⟨s', run, kept⟩ := kept.run stays rest
  exact ⟨s', Lib.foldlM_cons_ok.mpr ⟨s₁, step, run⟩, kept.sent⟩

end Runs

section Leaving

variable {p q : Position} {s s' : Wander}

/-- A creature that was stopped is. -/
lemma isStopped_stopMoving (creature : Wanderer) : creature.stopMoving.1.IsStopped = true := by
  have none : ~~~UNIT_STATE_MOVING &&& UNIT_STATE_MOVING = 0 := by decide
  have zero : creature.m_state &&& ~~~UNIT_STATE_MOVING &&& UNIT_STATE_MOVING = 0 := by
    rw [UInt32.and_assoc, none, UInt32.and_zero]
  simp [Wanderer.IsStopped, Wanderer.hasUnitState, Wanderer.stopMoving, Wanderer.clearUnitState, zero]

/-- A creature that roams is not. -/
lemma isStopped_roaming (creature : Wanderer) : (creature.addUnitState UNIT_STATE_ROAMING).IsStopped = false := by
  have moving : (creature.m_state ||| UNIT_STATE_ROAMING) &&& UNIT_STATE_MOVING ≠ 0 := by
    intro zero
    have bit := congrArg (fun w => w.toNat.testBit 7) zero
    simp [UNIT_STATE_ROAMING, UNIT_STATE_MOVING, Nat.testBit_or, Nat.testBit_and] at bit
    exact absurd (bit (.inr (by decide))) (by decide)
  simp [Wanderer.IsStopped, Wanderer.hasUnitState, Wanderer.addUnitState, moving]

/-- The least that `Update` may draw. -/
def soonest : UpdateDraws := ⟨⟨10000, by decide⟩, ⟨0, by decide⟩, ⟨0, by decide⟩⟩

/-- The shifts that lead furthest. -/
def longest : Shift := ⟨⟨150, by decide⟩, ⟨1, by decide⟩⟩

/-- Draws that send the creature as far away as they can. -/
def furthest : InitializeDraws := ⟨fun _ => (longest, longest), ⟨5000, by decide⟩⟩

/-- The longest step fits from the coordinate 150 on. -/
lemma longest_fits {c : UInt16} : longest.Fits c ↔ 150 ≤ c.toNat := by
  constructor
  · rintro (zero | fits)
    · cases zero
    · exact fits
  · exact .inr

/-- A reset and two updates, the second of which stops the creature. -/
def outing : List WanderCall := [.reset ⟨0, by decide⟩, .update 0 soonest, .update 10000 soonest]

/-- An outing sends the second waypoint, and then the position of the creature. -/
lemma run_outing (s : Wander) : ∃ t, s.run outing = .ok t ∧
    t.sent = s.sent ++ [s.generator.i_waypoints 1] ++ [s.creature.position] := by
  obtain ⟨⟨time, waypoints, next⟩, creature, sent⟩ := s
  have stopped := isStopped_stopMoving creature
  have roaming := isStopped_roaming creature.stopMoving.1
  let reset : Wander := ⟨⟨0, waypoints, 1⟩, creature.stopMoving.1, sent⟩
  let away : Wander :=
    ⟨⟨10000, waypoints, 1⟩, creature.stopMoving.1.addUnitState UNIT_STATE_ROAMING, sent ++ [waypoints 1]⟩
  let back : Wander := ⟨⟨0, waypoints, 2⟩, (creature.stopMoving.1.addUnitState UNIT_STATE_ROAMING).stopMoving.1,
    sent ++ [waypoints 1] ++ [creature.position]⟩
  have first : reset.step (.update 0 soonest) = .ok away := by
    refine Lib.bind_eq_ok.mpr ⟨⟨away.generator, away.creature, [waypoints 1]⟩, ?_, rfl⟩
    rw [RandomMovementGenerator.update, stopped]
    rfl
  have second : away.step (.update 10000 soonest) = .ok back := by
    refine Lib.bind_eq_ok.mpr ⟨⟨back.generator, back.creature, [creature.position]⟩, ?_, rfl⟩
    rw [RandomMovementGenerator.update, roaming]
    rfl
  refine ⟨back, ?_, rfl⟩
  exact Lib.foldlM_cons_ok.mpr ⟨reset, rfl, Lib.foldlM_cons_ok.mpr ⟨away, first,
    Lib.foldlM_cons_ok.mpr ⟨back, second, rfl⟩⟩⟩

/-- What an outing sends is near the respawn point, if every run from there on is safe. -/
lemma near_of_safe {before : List WanderCall} (run : s.run before = .ok s') (safe : s.Safe (before ++ outing)) :
    Near s.creature.respawn_cord (s'.generator.i_waypoints 1) ∧ Near s.creature.respawn_cord s'.creature.position := by
  obtain ⟨t, whole, near⟩ := safe
  obtain ⟨t', out, sent⟩ := run_outing s'
  rw [Wander.run, List.foldlM_append] at whole
  change s.run before >>= (fun s' => s'.run outing) = .ok t at whole
  rw [run, Lib.ok_bind, out] at whole
  cases whole
  rw [sent] at near
  exact ⟨near _ (by simp), near _ (by simp)⟩

/-- Only `Initialize` writes the waypoints. -/
lemma waypoints_step {call : WanderCall} (step : s.step call = .ok s') (init : ¬∃ draws, call = .init draws) :
    s'.generator.i_waypoints = s.generator.i_waypoints := by
  cases call with
  | init draws => exact absurd ⟨draws, rfl⟩ init
  | reset time =>
    cases step
    rfl
  | update diff draws =>
    obtain ⟨⟨g, creature, sent⟩, update, eq⟩ := Lib.bind_eq_ok.mp step
    cases eq
    simp only [RandomMovementGenerator.update] at update
    split_ifs at update with passed stopped bound last
    · obtain ⟨pos, -, eq⟩ := Lib.bind_eq_ok.mp update
      cases eq
      rfl
    · cases update
      rfl
    · cases update
      rfl
    · cases update
      rfl
  | elsewhere m_state pos =>
    cases step
    rfl

/-- The calls of the outing stay where they are. -/
lemma stays_outing : ∀ call ∈ outing, call.Stays p := by
  simp [outing, WanderCall.Stays]

/-- Far from the edges all waypoints are on the map. -/
lemma fits_of_far {draws : InitializeDraws} (x : 150 ≤ p.x.toNat) (y : 150 ≤ p.y.toNat) : draws.Fits p :=
  fun _ _ => ⟨Shift.fits_of_le x, Shift.fits_of_le y⟩

/-- There is a position far from any other. -/
lemma exists_not_near (p : Position) : ∃ q, ¬Near p q := by
  by_cases low : p.x.toNat < 1000
  · refine ⟨⟨65535, 0⟩, fun near => ?_⟩
    have x : ((p.x.toNat : Int) - (65535 : UInt16).toNat).natAbs ≤ 150 := near.1
    simp only [UInt16.reduceToNat] at x
    omega
  · refine ⟨⟨0, 0⟩, fun near => ?_⟩
    have x : ((p.x.toNat : Int) - (0 : UInt16).toNat).natAbs ≤ 150 := near.1
    simp only [UInt16.reduceToNat] at x
    omega

end Leaving

/-- The runs of a generator from its construction that begin with a call, whatever it draws later, are all safe when
the call is `Initialize`, the creature is near its respawn point and that is at least 150 away from both edges, and
not otherwise. Nearer to an edge the runs are safe whose waypoints are on the map. -/
theorem wander_safe_iff (p q : Position) (first : WanderCall) :
    ((∀ i_waypoints i_nextMove m_state, ∀ calls : List WanderCall, (∀ call ∈ calls, call.Stays p) →
        (Wander.constructed i_waypoints i_nextMove ⟨p, q, m_state⟩).Safe (first :: calls)) ↔
      (∃ draws, first = .init draws) ∧ 150 ≤ p.x.toNat ∧ 150 ≤ p.y.toNat ∧ Near p q) ∧
    ∀ i_waypoints i_nextMove m_state draws, ∀ calls : List WanderCall, Near p q → draws.Fits p →
      (∀ call ∈ calls, call.Stays p ∧ call.Fits p) →
        (Wander.constructed i_waypoints i_nextMove ⟨p, q, m_state⟩).Safe (.init draws :: calls) := by
  have fitting : ∀ i_waypoints i_nextMove m_state draws, ∀ calls : List WanderCall, Near p q → draws.Fits p →
      (∀ call ∈ calls, call.Stays p ∧ call.Fits p) →
        (Wander.constructed i_waypoints i_nextMove ⟨p, q, m_state⟩).Safe (.init draws :: calls) :=
    fun _ _ _ _ _ near fits rest =>
      safe_of_fits near rfl fits (fun call mem => (rest call mem).1) fun call mem => (rest call mem).2
  refine ⟨⟨fun safe => ?_, ?_⟩, fitting⟩
  · have init : ∃ draws, first = .init draws := by
      by_contra other
      -- without `Initialize` the waypoints are what the memory held
      obtain ⟨far, not_near⟩ := exists_not_near p
      have run := safe (fun _ => far) 0 0 outing stays_outing
      obtain ⟨t, whole, -⟩ := run
      obtain ⟨s₁, step, -⟩ := Lib.foldlM_cons_ok.mp whole
      have once : Wander.run _ [first] = .ok s₁ := Lib.foldlM_cons_ok.mpr ⟨s₁, step, rfl⟩
      have near := (near_of_safe once (safe (fun _ => far) 0 0 outing stays_outing)).1
      rw [waypoints_step step other] at near
      exact not_near near
    obtain ⟨draws, rfl⟩ := init
    have stays : ∀ call ∈ .init furthest :: outing, call.Stays p := List.forall_mem_cons.mpr ⟨trivial, stays_outing⟩
    -- `Initialize` may be called again and draw the furthest shifts
    have twice : (Wander.constructed (fun _ => p) 0 ⟨p, q, 0⟩).run [.init draws, .init furthest] = .ok _ := rfl
    obtain ⟨waypoint, position⟩ := near_of_safe twice (safe (fun _ => p) 0 0 _ stays)
    exact ⟨⟨draws, rfl⟩, longest_fits.mp (near_apply_iff.mp waypoint.1),
      longest_fits.mp (near_apply_iff.mp waypoint.2), position⟩
  · rintro ⟨⟨draws, rfl⟩, x, y, near⟩ i_waypoints i_nextMove m_state calls stays
    refine fitting _ _ _ _ _ near (fits_of_far x y) fun call mem => ⟨stays call mem, ?_⟩
    cases call with
    | init draws => exact fits_of_far x y
    | reset time => trivial
    | update diff draws => trivial
    | elsewhere m_state pos => trivial

/-- A spawn near both edges: the second waypoint is at the other end of the map. -/
theorem wander_wraps :
    ¬(Wander.constructed (fun _ => ⟨0, 0⟩) 0 ⟨⟨120, 120⟩, ⟨120, 120⟩, 0⟩).Safe (.init furthest :: outing) ∧
      ((Wander.constructed (fun _ => ⟨0, 0⟩) 0 ⟨⟨120, 120⟩, ⟨120, 120⟩, 0⟩).run (.init furthest :: outing)).toOption.map
        Wander.sent = some [⟨65506, 65506⟩, ⟨120, 120⟩] := by
  refine ⟨fun safe => ?_, by decide⟩
  have once : (Wander.constructed (fun _ => ⟨0, 0⟩) 0 ⟨⟨120, 120⟩, ⟨120, 120⟩, 0⟩).run [.init furthest] = .ok _ := rfl
  exact absurd (near_of_safe once safe).1 (by decide)

end Legacy.Map
