import Legacy.Battle.Spell
import Legacy.Battle.Turn
import Legacy.Lib.Reach

/-!
# The timers of the states

A unit counts the turns of a disabling state and those of a positive buff. The states are bits, cleared one by
one when a counter runs out (`src/src/game/Unit.cpp`). `timers_of_reaches` says that a state is there exactly
while its counter runs, and that an accepted effect ends with the tick after its duration.
-/

namespace Legacy.Battle
open Legacy.Lib

/-- The two counters of a unit (source `m_disabled_duration`, `m_positive_buf_duration`). -/
inductive Timer where
  | disabled | positive
  deriving DecidableEq, Repr

namespace Timer

/-- The states that a counter belongs to, in the order in which they are cleared. -/
def effects : Timer → List Nat
  | disabled => [4, 6, 8, 16]
  | positive => [8192, 16384, 32768, 65536, 131072, 262144]

/-- There are two counters. -/
def other : Timer → Timer
  | disabled => positive
  | positive => disabled

/-- There are two timers. -/
lemma eq_other {t t' : Timer} (ne : t' ≠ t) : t' = t.other := by
  cases t <;> cases t'
  · exact absurd rfl ne
  · rfl
  · rfl
  · exact absurd rfl ne

/-- The mask of the states. -/
def mask : Timer → Nat
  | disabled => Unit.disabledStates
  | positive => Unit.positiveStates

end Timer

namespace Unit

/-- The turns that are left on a counter. -/
def duration (u : Unit) : Timer → Nat
  | .disabled => u.disabledDuration
  | .positive => u.positiveBufDuration

/-- A counter is set. -/
def setDuration (u : Unit) (n : Nat) : Timer → Unit
  | .disabled => { u with disabledDuration := n }
  | .positive => { u with positiveBufDuration := n }

/-- source, `if(hasUnitState(f)) clearUnitState(f)` -/
def clearIfSet (u : Unit) (f : Nat) : Unit := if u.hasUnitState f then u.clearUnitState f else u

/-- A tick of a counter, and whether the states were cleared (source, the body of
`Unit::isReleaseFromDisabledState` and `Unit::isPositiveBufExpired`). -/
def tick (u : Unit) (t : Timer) : Unit × Bool :=
  if u.duration t = 0 then (u, false)
  else
    let u := u.setDuration (u.duration t - 1) t
    if u.duration t = 0 then (t.effects.foldl clearIfSet u, true) else (u, false)

/-- source `Unit::isReleaseFromDisabledState` -/
def isReleaseFromDisabledState (u : Unit) : Unit × Bool := u.tick .disabled

/-- source `Unit::isPositiveBufExpired` -/
def isPositiveBufExpired (u : Unit) : Unit × Bool := u.tick .positive

/-- What may happen to the states of a unit in a battle. -/
inductive StateEvent where
  | add (f duration : Nat)
  | tick (t : Timer)
  | defend
  | endDefend
  | reset
  deriving DecidableEq, Repr

/-- One event; a state that is refused changes nothing. -/
def step (u : Unit) : StateEvent → Option Unit
  | .add f duration => some ((u.addUnitStateFor f duration).getD u)
  | .tick t => some (u.tick t).1
  | .defend => some (u.addUnitState Unit.defend)
  | .endDefend => some (u.clearUnitState Unit.defend)
  | .reset => some u.resetAllState

/-- A state that is added is one with a counter, and the counter holds its duration. -/
def Timed (_ : Unit) : StateEvent → Prop
  | .add f duration => (∃ t : Timer, f ∈ t.effects) ∧ duration < 255
  | _ => True

/-- The ticks of a counter among the events. -/
def ticks (t : Timer) (events : List StateEvent) : Nat := events.count (.tick t)

end Unit

/-- Clearing bits and looking at others. -/
lemma and_clear (s f m : Nat) : (s ^^^ (s &&& f)) &&& m = (s &&& m) ^^^ (s &&& (f &&& m)) := by
  rw [Nat.and_xor_distrib_right, Nat.and_assoc]

/-- Clearing twice clears the bits of both. -/
lemma clear_clear (s f g : Nat) :
    (s ^^^ (s &&& f)) ^^^ ((s ^^^ (s &&& f)) &&& g) = s ^^^ (s &&& (f ||| g)) := by
  apply Nat.eq_of_testBit_eq
  intro i
  simp only [Nat.testBit_xor, Nat.testBit_and, Nat.testBit_or]
  cases s.testBit i <;> cases f.testBit i <;> cases g.testBit i <;> rfl

/-- Absorption, on bits. -/
lemma or_and_absorb (f g : Nat) : f ||| g &&& f = f := by
  apply Nat.eq_of_testBit_eq
  intro i
  simp only [Nat.testBit_or, Nat.testBit_and]
  cases f.testBit i <;> cases g.testBit i <;> rfl

namespace Unit

variable {u u' : Unit} {t t' : Timer} {f duration : Nat}

/-- Setting a duration keeps the state. -/
@[simp] lemma state_setDuration (u : Unit) (n : Nat) (t : Timer) : (u.setDuration n t).state = u.state := by
  cases t <;> rfl

/-- A duration that is set. -/
@[simp] lemma duration_setDuration (u : Unit) (n : Nat) (t : Timer) : (u.setDuration n t).duration t = n := by
  cases t <;> rfl

/-- The other duration stays. -/
lemma duration_setDuration_ne (ne : t' ≠ t) (n : Nat) : (u.setDuration n t).duration t' = u.duration t' := by
  cases t <;> cases t'
  · exact absurd rfl ne
  · rfl
  · rfl
  · exact absurd rfl ne

/-- Clearing a state keeps the durations. -/
@[simp] lemma duration_clearUnitState (u : Unit) (f : Nat) : (u.clearUnitState f).duration = u.duration := by
  funext t
  cases t <;> rfl

/-- Adding a state keeps the durations. -/
@[simp] lemma duration_addUnitState (u : Unit) (f : Nat) : (u.addUnitState f).duration = u.duration := by
  funext t
  cases t <;> rfl

/-- Clearing a state that is not there changes nothing. -/
lemma clearIfSet_eq (u : Unit) (f : Nat) : u.clearIfSet f = u.clearUnitState f := by
  rw [clearIfSet, hasUnitState]
  split
  · rfl
  · next absent =>
    have zero : u.state &&& f = 0 := by simpa using absent
    rw [clearUnitState, zero, Nat.xor_zero]

/-- Clearing twice clears both. -/
lemma clearUnitState_clearUnitState (u : Unit) (f g : Nat) :
    (u.clearUnitState f).clearUnitState g = u.clearUnitState (f ||| g) := by
  rw [clearUnitState, clearUnitState, clear_clear]
  rfl

/-- Clearing states one by one clears all of them. -/
lemma foldl_clearIfSet (fs : List Nat) (u : Unit) (f : Nat) :
    fs.foldl clearIfSet (u.clearUnitState f) = u.clearUnitState (fs.foldl (· ||| ·) f) := by
  induction fs generalizing f with
  | nil => rfl
  | cons g fs ih => rw [List.foldl_cons, clearIfSet_eq, clearUnitState_clearUnitState, ih, List.foldl_cons]

/-- The effects of a timer are cleared together. -/
lemma foldl_effects (u : Unit) (t : Timer) : t.effects.foldl clearIfSet u = u.clearUnitState t.mask := by
  have none : u.clearUnitState 0 = u := by rw [clearUnitState, Nat.and_zero, Nat.xor_zero]
  have all := foldl_clearIfSet t.effects u 0
  rw [none] at all
  cases t <;> exact all

/-- What a tick does to the unit. -/
lemma tick_eq (u : Unit) (t : Timer) : (u.tick t).1 =
    match u.duration t with
    | 0 => u
    | 1 => (u.setDuration 0 t).clearUnitState t.mask
    | n + 2 => u.setDuration (n + 1) t := by
  rw [tick]
  rcases eq : u.duration t with _ | _ | n
  · rfl
  · simp [foldl_effects]
  · simp

/-- The end of a turn ticks both counters. -/
lemma endTurn_eq_ticks (u : Unit) :
    u.endTurn = u.isReleaseFromDisabledState.1.isPositiveBufExpired.1.clearUnitState Unit.defend := by
  have disabled : u.isReleaseFromDisabledState.1 = u.releaseDisabled := by
    rw [isReleaseFromDisabledState, tick_eq, releaseDisabled]
    rcases eq : u.disabledDuration with _ | _ | n
    all_goals simp [duration, setDuration, eq, Timer.mask]
  have positive (v : Unit) : v.isPositiveBufExpired.1 = v.expirePositiveBuf := by
    rw [isPositiveBufExpired, tick_eq, expirePositiveBuf]
    rcases eq : v.positiveBufDuration with _ | _ | n
    all_goals simp [duration, setDuration, eq, Timer.mask]
  rw [endTurn, disabled, positive]

/-- The states of a counter are bits of its mask alone. -/
lemma effects_bits : ∀ t : Timer, ∀ f ∈ t.effects,
    f ≠ 0 ∧ f &&& t.mask = f ∧ f &&& t.other.mask = 0 ∧ f &&& Unit.defend = 0
  | .disabled => by decide
  | .positive => by decide

/-- The timers and the defence have no bit in common. -/
lemma mask_bits (t : Timer) : t.mask &&& t.other.mask = 0 ∧ t.mask &&& Unit.defend = 0 := by
  cases t <;> decide

/-- A state with a duration is refused while one of the timer is there. -/
lemma addUnitStateFor_eq (u : Unit) (effect : f ∈ t.effects) :
    u.addUnitStateFor f duration =
      if u.hasUnitState t.mask then none else some ((u.addUnitState f).setDuration (u8 (duration + 1)) t) := by
  cases t with
  | disabled => exact if_pos effect
  | positive =>
    have other : f ∉ [4, 6, 8, 16] := by
      intro both
      have apart : ∀ f ∈ Timer.effects .positive, f ∉ [4, 6, 8, 16] := by decide
      exact apart f effect both
    exact (if_neg other).trans (if_pos effect)

/-- The states of a counter are there exactly while it runs. -/
def Running (u : Unit) (t : Timer) : Prop := u.state &&& t.mask ≠ 0 ↔ 0 < u.duration t

/-- Whether a timer runs right depends on its bits and its duration. -/
lemma Running.of_state (h : u.Running t) (state : u'.state &&& t.mask = u.state &&& t.mask)
    (same : u'.duration t = u.duration t) : u'.Running t := by
  rw [Running, state, same]
  exact h

/-- Bits that are set or cleared outside of a mask do not show in it. -/
lemma and_addUnitState {m : Nat} (u : Unit) (apart : f &&& m = 0) : (u.addUnitState f).state &&& m = u.state &&& m := by
  rw [addUnitState, Nat.and_or_distrib_right, apart, Nat.or_zero]

/-- Clearing keeps the other bits. -/
lemma and_clearUnitState {m : Nat} (u : Unit) (apart : f &&& m = 0) :
    (u.clearUnitState f).state &&& m = u.state &&& m := by
  rw [clearUnitState, and_clear, apart, Nat.and_zero, Nat.xor_zero]

/-- Clearing clears its own bits. -/
lemma and_clearUnitState_of_le {m : Nat} (u : Unit) (all : f &&& m = m) : (u.clearUnitState f).state &&& m = 0 := by
  rw [clearUnitState, and_clear, all, Nat.xor_self]

/-- After a reset no timer runs. -/
lemma running_reset (u : Unit) (t : Timer) : u.resetAllState.Running t := by
  refine iff_of_false ?_ ?_
  · rw [resetAllState, Nat.zero_and]
    exact fun ne => ne rfl
  · cases t <;> exact Nat.lt_irrefl 0

/-- A tick, for the other counter. -/
lemma tick_other (u : Unit) (ne : t' ≠ t) : ((u.tick t).1).duration t' = u.duration t' ∧
    ∀ m, t.mask &&& m = 0 → (u.tick t).1.state &&& m = u.state &&& m := by
  rw [tick_eq]
  split
  · exact ⟨rfl, fun m _ => rfl⟩
  · refine ⟨?_, fun m apart => ?_⟩
    · rw [duration_clearUnitState, duration_setDuration_ne ne]
    · rw [and_clearUnitState _ apart, state_setDuration]
  · refine ⟨duration_setDuration_ne ne _, fun m _ => ?_⟩
    rw [state_setDuration]

/-- A tick keeps both timers right. -/
lemma running_tick (h : ∀ t, u.Running t) (t₀ t : Timer) : (u.tick t₀).1.Running t := by
  by_cases same : t = t₀
  · subst same
    have run := h t
    rw [tick_eq]
    split
    · exact run
    · refine iff_of_false ?_ ?_
      · rw [and_clearUnitState_of_le _ (Nat.and_self _)]
        exact fun ne => ne rfl
      · rw [duration_clearUnitState, duration_setDuration]
        exact Nat.lt_irrefl 0
    · next n more =>
      refine iff_of_true ?_ ?_
      · rw [state_setDuration]
        exact run.mpr (more ▸ Nat.succ_pos _)
      · rw [duration_setDuration]
        exact Nat.succ_pos n
  · obtain ⟨duration, state⟩ := u.tick_other same
    refine (h t).of_state (state t.mask ?_) duration
    rw [Timer.eq_other same]
    exact (mask_bits t₀).1

/-- What an accepted effect leaves. -/
lemma addUnitStateFor_some (effect : f ∈ t.effects) (small : duration < 255)
    (added : u.addUnitStateFor f duration = some u') :
    u.state &&& t.mask = 0 ∧ u'.state = u.state ||| f ∧ u'.duration t = duration + 1 ∧
      ∀ t' ≠ t, u'.duration t' = u.duration t' := by
  rw [addUnitStateFor_eq u effect] at added
  split at added
  case isTrue => cases added
  case isFalse absent =>
    cases added
    refine ⟨by simpa [hasUnitState] using absent, state_setDuration .., ?_, fun t' ne => ?_⟩
    · rw [duration_setDuration, u8_of_lt (by omega)]
    · rw [duration_setDuration_ne ne, duration_addUnitState]

/-- A state that is added keeps both timers right. -/
lemma running_add (h : ∀ t, u.Running t) (effect : f ∈ t.effects) (small : duration < 255)
    (added : u.addUnitStateFor f duration = some u') (t' : Timer) : u'.Running t' := by
  obtain ⟨-, state, own, others⟩ := addUnitStateFor_some effect small added
  obtain ⟨some, bits, other, -⟩ := effects_bits t f effect
  by_cases same : t' = t
  · subst same
    refine iff_of_true ?_ (own ▸ Nat.succ_pos _)
    rw [state, Nat.and_or_distrib_right, bits]
    exact fun zero => some (Nat.or_eq_zero_iff.mp zero).2
  · refine (h t').of_state ?_ (others t' same)
    rw [state, Nat.and_or_distrib_right, Timer.eq_other same, other, Nat.or_zero]

/-- Every event keeps the states and the counters together. -/
lemma running_step {e : StateEvent} (h : ∀ t, u.Running t) (timed : Timed u e) (next : step u e = some u') (t : Timer) :
    u'.Running t := by
  cases e with
  | add f duration =>
    cases next
    obtain ⟨⟨t₀, effect⟩, small⟩ := timed
    cases added : u.addUnitStateFor f duration with
    | none => exact h t
    | some v => exact running_add h effect small added t
  | tick t₀ =>
    cases next
    exact running_tick h t₀ t
  | defend =>
    cases next
    refine (h t).of_state (u.and_addUnitState ?_) (congrFun (duration_addUnitState ..) t)
    rw [Nat.and_comm, (mask_bits t).2]
  | endDefend =>
    cases next
    refine (h t).of_state (u.and_clearUnitState ?_) (congrFun (duration_clearUnitState ..) t)
    rw [Nat.and_comm, (mask_bits t).2]
  | reset =>
    cases next
    exact running_reset u t

/-- The counters and the states agree in every state that is reached from the reset one. -/
lemma running_of_reaches {u₀ : Unit} (run : Reaches step Timed u₀.resetAllState u) (t : Timer) : u.Running t :=
  run.invariant (P := fun u => ∀ t, u.Running t) (running_reset u₀) (fun h timed next => running_step h timed next) t

/-- A state that was accepted is in place, with `n` ticks to go. -/
def InPlace (u : Unit) (t : Timer) (f n : Nat) : Prop := u.state &&& f = f ∧ u.duration t = n

/-- A state that is added is in place for its duration and one turn. -/
lemma inPlace_of_added (effect : f ∈ t.effects) (small : duration < 255)
    (added : u.addUnitStateFor f duration = some u') : u'.InPlace t f (duration + 1) := by
  obtain ⟨-, state, own, -⟩ := addUnitStateFor_some effect small added
  refine ⟨?_, own⟩
  rw [state, Nat.and_or_distrib_right, Nat.and_self, Nat.or_comm, or_and_absorb]

/-- The last tick removes the state. -/
lemma tick_last (effect : f ∈ t.effects) (h : u.InPlace t f 1) : (u.tick t).1.state &&& f = 0 := by
  obtain ⟨-, bits, -, -⟩ := effects_bits t f effect
  rw [tick_eq, h.2]
  refine and_clearUnitState_of_le _ ?_
  rw [Nat.and_comm, bits]

/-- An event other than a reset leaves a state in place, and a tick of its counter is one tick less. -/
lemma inPlace_step {e : StateEvent} {n : Nat} (effect : f ∈ t.effects) (h : u.InPlace t f (n + 1))
    (timed : Timed u e) (unreset : e ≠ .reset) (more : e = .tick t → n ≠ 0) (next : step u e = some u') :
    u'.InPlace t f (n + 1 - ticks t [e]) := by
  obtain ⟨some, bits, -, defend⟩ := effects_bits t f effect
  cases e with
  | add g duration =>
    cases next
    obtain ⟨⟨t₀, effect₀⟩, small⟩ := timed
    cases added : u.addUnitStateFor g duration with
    | none => exact h
    | some v =>
      obtain ⟨absent, state, -, others⟩ := addUnitStateFor_some effect₀ small added
      -- the mask of a state in place is not empty, so only a state of the other counter is accepted
      have other : t ≠ t₀ := by
        rintro rfl
        apply some
        rw [← h.1, ← bits, Nat.and_comm f, ← Nat.and_assoc, absent, Nat.zero_and]
      refine ⟨?_, (others t other).trans h.2⟩
      rw [Option.getD_some, state, Nat.and_or_distrib_right, h.1, or_and_absorb]
  | tick t₀ =>
    cases next
    by_cases same : t = t₀
    · subst same
      obtain ⟨m, rfl⟩ := Nat.exists_eq_succ_of_ne_zero (more rfl)
      rw [tick_eq, h.2]
      refine ⟨(congrArg (· &&& f) (state_setDuration ..)).trans h.1, ?_⟩
      simp [ticks]
    · obtain ⟨duration, state⟩ := u.tick_other same
      refine ⟨(state f ?_).trans h.1, ?_⟩
      · have apart := (mask_bits t).1
        rw [← Timer.eq_other (Ne.symm same), Nat.and_comm] at apart
        rw [← bits, Nat.and_left_comm, apart, Nat.and_zero]
      · rw [duration, h.2]
        simp [ticks, Ne.symm same]
  | defend =>
    cases next
    refine ⟨(u.and_addUnitState ?_).trans h.1, (congrFun (duration_addUnitState ..) t).trans h.2⟩
    rw [Nat.and_comm, defend]
  | endDefend =>
    cases next
    refine ⟨(u.and_clearUnitState ?_).trans h.1, (congrFun (duration_clearUnitState ..) t).trans h.2⟩
    rw [Nat.and_comm, defend]
  | reset => exact absurd rfl unreset

/-- Events without a reset, as many ticks of the counter among them as it has turns to go, leave a state in
place. -/
lemma inPlace_exec (effect : f ∈ t.effects) {n : Nat} (h : u.InPlace t f n) {events : List StateEvent}
    (timed : ∀ e ∈ events, Timed u e ∧ e ≠ .reset) (few : ticks t events < n)
    (reached : exec step u events = some u') : u'.InPlace t f (n - ticks t events) := by
  induction events generalizing u n with
  | nil =>
    cases reached
    exact h
  | cons e events ih =>
    obtain ⟨u₁, next, rest⟩ := Option.bind_eq_some_iff.mp reached
    have split : ticks t ([e] ++ events) = ticks t [e] + ticks t events := List.count_append
    rw [List.singleton_append] at split
    obtain ⟨m, rfl⟩ := Nat.exists_eq_succ_of_ne_zero (Nat.ne_zero_of_lt few)
    have more : e = .tick t → m ≠ 0 := by
      rintro rfl rfl
      have one : ticks t [.tick t] = 1 := by simp [ticks]
      omega
    have first := inPlace_step effect h (timed e List.mem_cons_self).1 (timed e List.mem_cons_self).2 more next
    have later := ih first (fun e mem => timed e (List.mem_cons_of_mem _ mem)) (by omega) rest
    rw [split, Nat.sub_add_eq]
    exact later

/-- Every event can happen in every state. -/
lemma exec_some (events : List StateEvent) (u : Unit) : ∃ u', exec step u events = some u' := by
  induction events generalizing u with
  | nil => exact ⟨u, rfl⟩
  | cons e events ih =>
    obtain ⟨u₁, next⟩ : ∃ u₁, step u e = some u₁ := by cases e <;> exact ⟨_, rfl⟩
    obtain ⟨u', reached⟩ := ih u₁
    exact ⟨u', Option.bind_eq_some_iff.mpr ⟨u₁, next, reached⟩⟩

/-- In every state that is reached from the reset one, a unit is disabled exactly while the counter of the
disabling states runs, and positively buffed exactly while that of the buffs does. A state that is accepted for
`d` turns is in place until the tick of its counter that follows `d` others, and this tick removes it, whatever
happens in between short of a reset. -/
theorem timers_of_reaches {u₀ u : Unit} (run : Reaches step Timed u₀.resetAllState u) :
    (u.isDisabled ↔ 0 < u.disabledDuration) ∧ (u.isPositiveBuffed ↔ 0 < u.positiveBufDuration) ∧
    ∀ (t : Timer) (f d : Nat), f ∈ t.effects → d < 255 → ∀ u₁, u.addUnitStateFor f d = some u₁ →
      ∀ events : List StateEvent, (∀ e ∈ events, Timed u₁ e ∧ e ≠ .reset) → ticks t events ≤ d →
        ∃ u₂, exec step u₁ events = some u₂ ∧ u₂.state &&& f = f ∧
          (ticks t events = d → (u₂.tick t).1.state &&& f = 0) := by
  have running := running_of_reaches run
  refine ⟨?_, ?_, ?_⟩
  · rw [isDisabled, hasUnitState, decide_eq_true_iff]
    exact running .disabled
  · rw [isPositiveBuffed, hasUnitState, decide_eq_true_iff]
    exact running .positive
  · intro t f d effect small u₁ added events timed few
    obtain ⟨u₂, reached⟩ := exec_some events u₁
    have started := inPlace_of_added effect small added
    have still := inPlace_exec effect started timed (Nat.lt_succ_of_le few) reached
    refine ⟨u₂, reached, still.1, fun all => tick_last effect ?_⟩
    rw [all, Nat.add_sub_cancel_left] at still
    exact still

/-- A unit in a cyclone raises an ice wall, which the third tick of the buffs brings down. -/
theorem timers_iceWall :
    ∃ u u₁ u₂, Reaches step Timed (Engine.fighter .player 40).resetAllState u ∧ u.isDisabled ∧
      u.addUnitStateFor 8192 2 = some u₁ ∧
      exec step u₁ [.tick .positive, .tick .disabled, .defend, .tick .positive] = some u₂ ∧
      u₂.state &&& 8192 = 8192 ∧ (u₂.tick .positive).1.state &&& 8192 = 0 := by
  have run : Reaches step Timed (Engine.fighter .player 40).resetAllState _ :=
    Reaches.tail Reaches.refl (e := .add 6 3) ⟨⟨.disabled, by decide⟩, by decide⟩ rfl
  obtain ⟨disabled, -, later⟩ := timers_of_reaches run
  obtain ⟨u₂, reached, still, gone⟩ := later .positive 8192 2 (by decide) (by decide) _ rfl
    [.tick .positive, .tick .disabled, .defend, .tick .positive] (by simp [Timed]) (by decide)
  exact ⟨_, _, u₂, run, disabled.mpr (by decide), rfl, reached, still, gone rfl⟩

end Unit

end Legacy.Battle
