import Legacy.Lib.Reach

/-!
# The delay thread

`SqlDelayThread::run` sleeps, empties its queue and tests the flag in separate steps, between which other
threads call `Delay` and one of them `Stop`. `flushed_of_reaches` says that what was delayed before `Stop`
is executed when `run` returns, if `Stop` does not come between the end of the inner loop and the test of
the flag while an operation is queued; `lost_of_lateStop` says that such an operation is never executed.
-/

namespace Legacy.Sql
open Legacy.Lib

universe u

variable {ω : Type u}

/-- Where `run` is: at the test of the flag, asleep, at the test of the queue, before `next`, before
`Execute`, or out of the function, by returning or by an exception of `next`. -/
inductive Line (ω : Type u) where
  | flag
  | sleep
  | empty
  | next
  | execute (s : ω)
  | returned
  | thrown

/-- The operation between `next` and `Execute`. -/
def Line.current : Line ω → List ω
  | .execute s => [s]
  | _ => []

/-- `run` is past its last inner loop if the flag is cleared. -/
def Line.leaving : Line ω → Bool
  | .flag => true
  | .returned => true
  | _ => false

/-- The thread, with what was given to `Delay`, what was executed, and what had been given to `Delay` when
`Stop` was called. -/
structure SqlDelayThread (ω : Type u) where
  m_sqlQueue : List ω
  m_running : Bool
  line : Line ω
  delayed : List ω
  executed : List ω
  due : Option (List ω)

/-- A call of another thread, or the next access of `run` to the queue or the flag. -/
inductive Tick (ω : Type u) where
  | delay (s : ω)
  | stop
  | run

namespace SqlDelayThread

/-- The thread as it is constructed. -/
def start : SqlDelayThread ω := ⟨[], true, .flag, [], [], none⟩

/-- source `SqlDelayThread::Delay` -/
def delay (d : SqlDelayThread ω) (s : ω) : SqlDelayThread ω :=
  { d with m_sqlQueue := d.m_sqlQueue ++ [s], delayed := d.delayed ++ [s] }

/-- source `SqlDelayThread::Stop`; `due` keeps what was delayed until then -/
def stop (d : SqlDelayThread ω) : SqlDelayThread ω :=
  { d with m_running := false, due := some d.delayed }

/-- One step of `SqlDelayThread::run`. -/
def run (d : SqlDelayThread ω) : Option (SqlDelayThread ω) :=
  match d.line with
  | .flag => some { d with line := if d.m_running then .sleep else .returned }
  | .sleep => some { d with line := .empty }
  | .empty => some { d with line := if d.m_sqlQueue.isEmpty then .flag else .next }
  | .next =>
    match d.m_sqlQueue with
    | [] => some { d with line := .thrown }
    | s :: m_sqlQueue => some { d with m_sqlQueue := m_sqlQueue, line := .execute s }
  | .execute s => some { d with executed := d.executed ++ [s], line := .empty }
  | .returned => none
  | .thrown => none

/-- `Stop` is called once. -/
def step (d : SqlDelayThread ω) : Tick ω → Option (SqlDelayThread ω)
  | .delay s => some (d.delay s)
  | .stop => if d.due.isNone then some d.stop else none
  | .run => d.run

/-- `Stop` does not come between the end of the inner loop and the test of the flag while an operation is
queued. -/
def StopInTime (d : SqlDelayThread ω) (tick : Tick ω) : Prop :=
  match tick with
  | .stop =>
    match d.line with
    | .flag => d.m_sqlQueue = []
    | _ => True
  | _ => True

/-- When `run` has returned, what was delayed before `Stop` was executed, each operation once and in the order
of the queue. -/
def Flushed (d : SqlDelayThread ω) : Prop :=
  d.executed <+: d.delayed ∧ (d.line = .returned → ∃ due, d.due = some due ∧ due <+: d.executed)

/-- Nothing is lost or executed twice, and nothing that is due is queued when `run` may return. -/
structure Conserved (d : SqlDelayThread ω) : Prop where
  all : d.delayed = d.executed ++ d.line.current ++ d.m_sqlQueue
  stopped : d.m_running = false → d.due.isSome
  running : d.m_running = true → d.line ≠ .returned
  settled : ∀ due, d.due = some due → due <+: d.delayed ∧ (d.line.leaving → due <+: d.executed)
  nonempty : d.line = .next → d.m_sqlQueue ≠ []
  uncaught : d.line ≠ .thrown

/-- At the start nothing was delayed. -/
lemma conserved_start : Conserved (start : SqlDelayThread ω) := by
  refine ⟨rfl, fun h => ?_, fun _ h => ?_, fun due h => ?_, fun h => ?_, fun h => ?_⟩
  all_goals cases h

/-- What is conserved is flushed. -/
lemma Conserved.flushed {d : SqlDelayThread ω} (c : Conserved d) : Flushed d := by
  refine ⟨?_, fun returned => ?_⟩
  · rw [c.all, List.append_assoc]
    exact List.prefix_append _ _
  · have stopped : d.m_running = false := by
      cases running : d.m_running with
      | false => rfl
      | true => exact absurd returned (c.running running)
    obtain ⟨due, known⟩ := Option.isSome_iff_exists.mp (c.stopped stopped)
    have leaving : d.line.leaving = true := by
      rw [returned]
      rfl
    exact ⟨due, known, (c.settled due known).2 leaving⟩

/-- A delayed statement is conserved. -/
lemma Conserved.delay {d : SqlDelayThread ω} (c : Conserved d) (s : ω) : Conserved (d.delay s) := by
  refine ⟨?_, c.stopped, c.running, fun due known => ?_, fun _ => ?_, c.uncaught⟩
  · simp only [SqlDelayThread.delay, c.all, List.append_assoc]
  · obtain ⟨old, done⟩ := c.settled due known
    exact ⟨old.trans (List.prefix_append _ _), done⟩
  · exact List.append_ne_nil_of_right_ne_nil _ (List.cons_ne_nil _ _)

/-- At the test of the flag everything that was delayed is executed or queued. -/
lemma Conserved.stop {d : SqlDelayThread ω} (c : Conserved d) (running : d.m_running = true)
    (inTime : StopInTime d .stop) : Conserved d.stop := by
  refine ⟨c.all, fun _ => rfl, fun h => (by cases h), fun due known => ?_, c.nonempty, c.uncaught⟩
  cases known
  refine ⟨List.prefix_refl _, fun leaving => ?_⟩
  have here : d.line = .flag := by
    cases line : d.line with
    | flag => rfl
    | returned => exact absurd line (c.running running)
    | _ =>
      rw [SqlDelayThread.stop, line] at leaving
      cases leaving
  rw [StopInTime, here] at inTime
  have all := c.all
  rw [here, inTime, List.append_nil] at all
  rw [SqlDelayThread.stop, all]
  exact (List.append_nil _) ▸ List.prefix_refl _

/-- `run` stays in the loop. -/
lemma Conserved.inside {d : SqlDelayThread ω} (c : Conserved d) {m_sqlQueue : List ω} {line : Line ω}
    {executed : List ω} (all : d.delayed = executed ++ line.current ++ m_sqlQueue) (inside : line.leaving = false)
    (nonempty : line = .next → m_sqlQueue ≠ []) (uncaught : line ≠ .thrown) :
    Conserved { d with m_sqlQueue := m_sqlQueue, line := line, executed := executed } := by
  refine ⟨all, c.stopped, fun _ returned => ?_, fun due known => ?_, nonempty, uncaught⟩
  · cases (show line = .returned from returned)
    cases inside
  · exact ⟨(c.settled due known).1, fun leaving => absurd (inside.symm.trans leaving) Bool.false_ne_true⟩

/-- An executed statement is conserved. -/
lemma Conserved.run {d d' : SqlDelayThread ω} (c : Conserved d) (next : d.run = some d') : Conserved d' := by
  have all := c.all
  obtain ⟨m_sqlQueue, m_running, line, delayed, executed, due⟩ := d
  cases line with
  | flag =>
    cases m_running with
    | true =>
      cases next
      exact c.inside all rfl (fun h => (by cases h)) fun h => (by cases h)
    | false =>
      cases next
      exact ⟨all, c.stopped, fun h => (by cases h), c.settled, fun h => (by cases h), fun h => (by cases h)⟩
  | sleep =>
    cases next
    exact c.inside all rfl (fun h => (by cases h)) fun h => (by cases h)
  | empty =>
    cases m_sqlQueue with
    | nil =>
      cases next
      -- the queue is empty: what was delayed is executed
      have done : delayed = executed := all.trans (by simp only [Line.current, List.append_nil])
      refine ⟨all, c.stopped, fun _ h => (by cases h), fun due known => ?_, fun h => (by cases h),
        fun h => (by cases h)⟩
      obtain ⟨old, -⟩ := c.settled due known
      exact ⟨old, fun _ => done ▸ old⟩
    | cons s m_sqlQueue =>
      cases next
      exact c.inside all rfl (fun _ => List.cons_ne_nil _ _) fun h => (by cases h)
  | next =>
    cases m_sqlQueue with
    | nil => exact absurd rfl (c.nonempty rfl)
    | cons s m_sqlQueue =>
      cases next
      refine c.inside (all.trans ?_) rfl (fun h => (by cases h)) fun h => (by cases h)
      simp only [Line.current, List.append_nil, List.append_assoc, List.singleton_append]
  | execute s =>
    cases next
    refine c.inside (all.trans ?_) rfl (fun h => (by cases h)) fun h => (by cases h)
    simp only [Line.current, List.append_nil]
  | returned => cases next
  | thrown => cases next

/-- Every step that stops in time conserves the statements. -/
lemma Conserved.step {d d' : SqlDelayThread ω} {tick : Tick ω} (c : Conserved d) (inTime : StopInTime d tick)
    (next : step d tick = some d') : Conserved d' := by
  cases tick with
  | delay s =>
    cases next
    exact c.delay s
  | stop =>
    rw [SqlDelayThread.step] at next
    split at next
    case isFalse => cases next
    case isTrue unknown =>
      cases next
      have running : d.m_running = true := by
        cases running : d.m_running with
        | true => rfl
        | false =>
          have stopped := c.stopped running
          rw [Option.isNone_iff_eq_none.mp unknown] at stopped
          cases stopped
      exact c.stop running inTime
  | run => exact c.run next

/-- What was delayed before `Stop` is executed when `run` returns, if `Stop` comes in time. -/
theorem flushed_of_reaches {d : SqlDelayThread ω} (run : Reaches step StopInTime start d) : Flushed d :=
  (run.invariant conserved_start fun c inTime next => c.step inTime next).flushed

/-- The thread has left its last inner loop with an operation that is due. -/
structure Lost (wanted done : List ω) (d : SqlDelayThread ω) : Prop where
  due : d.due = some wanted
  stopped : d.m_running = false
  executed : d.executed = done
  leaving : d.line.leaving = true
  short : ¬wanted <+: done

/-- Every step leaves a lost statement lost. -/
lemma Lost.step {wanted done : List ω} {d d' : SqlDelayThread ω} {tick : Tick ω} (l : Lost wanted done d)
    (next : step d tick = some d') : Lost wanted done d' := by
  obtain ⟨due, stopped, executed, leaving, short⟩ := l
  obtain ⟨m_sqlQueue, m_running, line, delayed, _, _⟩ := d
  cases due
  cases stopped
  cases executed
  cases tick with
  | delay s =>
    cases next
    exact ⟨rfl, rfl, rfl, leaving, short⟩
  | stop => cases next
  | run =>
    cases line with
    | flag =>
      cases next
      exact ⟨rfl, rfl, rfl, rfl, short⟩
    | returned => cases next
    | _ => cases leaving

/-- An operation that is queued when `Stop` comes too late is never executed. -/
theorem lost_of_lateStop {d d₁ d₂ : SqlDelayThread ω} (run : Reaches step StopInTime start d)
    (late : ¬StopInTime d .stop) (stop : step d .stop = some d₁)
    (rest : Reaches step (fun _ _ => True) d₁ d₂) : ∃ due, d₂.due = some due ∧ ¬due <+: d₂.executed := by
  have c := run.invariant conserved_start fun c inTime next => c.step inTime next
  have lost : Lost d.delayed d.executed d₁ := by
    obtain ⟨m_sqlQueue, m_running, line, delayed, executed, due⟩ := d
    cases line with
    | flag =>
      cases due with
      | some due => cases stop
      | none =>
        cases stop
        refine ⟨rfl, rfl, rfl, rfl, fun (done : delayed <+: executed) => late ?_⟩
        show m_sqlQueue = []
        have all : delayed = executed ++ [] ++ m_sqlQueue := c.all
        rw [all] at done
        have length := done.length_le
        rw [List.append_nil, List.length_append] at length
        exact List.eq_nil_of_length_eq_zero (by omega)
    | _ => exact absurd trivial late
  have lost' := rest.invariant lost fun l _ next => l.step next
  exact ⟨d.delayed, lost'.due, lost'.executed ▸ lost'.short⟩

/-- An operation is delayed while the thread sleeps, and the thread is stopped. -/
def stopAsleep : List (Tick Nat) := [.run, .delay 7, .stop, .run, .run, .run, .run, .run, .run]

/-- The operation is executed before `run` returns. -/
theorem flushed_stopAsleep : ∃ d, exec step start stopAsleep = some d ∧ Flushed d := by
  have last : ∃ d, exec step start stopAsleep = some d := ⟨_, rfl⟩
  obtain ⟨d, run⟩ := last
  have inTime : Along step StopInTime start stopAsleep := by
    simp [stopAsleep, Along, StopInTime, step, start, delay, stop, SqlDelayThread.run]
  exact ⟨d, run, flushed_of_reaches (reaches_of_exec _ inTime run)⟩

/-- The thread finds its queue empty; before it tests the flag an operation is delayed and it is stopped. -/
def stopAtFlag : List (Tick Nat) := [.run, .run, .run, .delay 7, .stop, .run]

/-- `run` returns and the operation was not executed. -/
theorem not_flushed_stopAtFlag :
    ∃ d : SqlDelayThread Nat, Reaches step (fun _ _ => True) start d ∧ ¬Flushed d := by
  have last : ∃ d, exec step start stopAtFlag = some d ∧ d.line = .returned ∧ d.due = some [7] ∧ d.executed = [] :=
    ⟨_, rfl, rfl, rfl, rfl⟩
  obtain ⟨d, run, returned, wanted, executed⟩ := last
  refine ⟨d, reaches_of_exec _ (along_true _ _) run, fun flushed => ?_⟩
  obtain ⟨due, known, done⟩ := flushed.2 returned
  cases wanted.symm.trans known
  rw [executed] at done
  exact absurd (List.prefix_nil.mp done) (List.cons_ne_nil _ _)

end SqlDelayThread

end Legacy.Sql
