import Mathlib.Tactic.Common

/-!
# Operations of the delay queue

The connection is in autocommit mode: a statement outside a transaction is durable at once, one inside it
when the transaction is committed. `SqlTransaction.execute` sends its statements between
`START TRANSACTION` and `COMMIT` and looks at no result but that of the statements;
`allOrNothing_iff` says for which failures its effect is all or nothing.
-/

namespace Legacy.Sql

universe u

variable {α : Type u}

/-- What is sent to the server. -/
inductive Command (α : Type u) where
  | startTransaction
  | commit
  | rollback
  | statement (sql : α)

/-- A connection in autocommit mode: the statements whose effect is durable, those of the open transaction,
and how many commands were sent. -/
structure Connection (α : Type u) where
  durable : List α
  transaction : Option (List α)
  sent : Nat
  deriving DecidableEq

namespace Connection

/-- A statement that succeeds. -/
def state (db : Connection α) (sql : α) : Connection α :=
  match db.transaction with
  | none => { db with durable := db.durable ++ [sql] }
  | some statements => { db with transaction := some (statements ++ [sql]) }

/-- A command that succeeds. `START TRANSACTION` commits the transaction that is open. -/
def perform (db : Connection α) : Command α → Connection α
  | .startTransaction =>
    { db with durable := db.durable ++ db.transaction.getD [], transaction := some [] }
  | .commit => { db with durable := db.durable ++ db.transaction.getD [], transaction := none }
  | .rollback => { db with transaction := none }
  | .statement sql => db.state sql

/-- `DatabaseMysql::DirectExecute`, where the commands that fail are given by their number. -/
def directExecute (fails : Nat → Bool) (db : Connection α) (sql : Command α) : Bool × Connection α :=
  if fails db.sent then (false, { db with sent := db.sent + 1 })
  else (true, { db.perform sql with sent := db.sent + 1 })

end Connection

/-- `SqlTransaction`: the statements in the order of their execution. -/
structure SqlTransaction (α : Type u) where
  m_queue : List α
  deriving DecidableEq

/-- `SqlOperation`, by its subclasses that write. -/
inductive SqlOperation (α : Type u) where
  | sqlStatement (m_sql : α)
  | sqlTransaction (transaction : SqlTransaction α)
  deriving DecidableEq

namespace SqlTransaction

/-- source `SqlTransaction::DelayExecute` -/
def delayExecute (t : SqlTransaction α) (sql : α) : SqlTransaction α := ⟨t.m_queue ++ [sql]⟩

/-- The loop of `SqlTransaction::Execute` with the `COMMIT` after it. -/
def executeQueue (fails : Nat → Bool) : List α → Connection α → Connection α
  | [], db => (db.directExecute fails .commit).2
  | sql :: m_queue, db =>
    let executed := db.directExecute fails (.statement sql)
    if executed.1 then executeQueue fails m_queue executed.2
    else (executed.2.directExecute fails .rollback).2

/-- `SqlTransaction::Execute`. -/
def execute (fails : Nat → Bool) (t : SqlTransaction α) (db : Connection α) : Connection α :=
  if t.m_queue.isEmpty then db
  else executeQueue fails t.m_queue (db.directExecute fails .startTransaction).2

end SqlTransaction

/-- `SqlOperation::Execute`. -/
def SqlOperation.execute (fails : Nat → Bool) (db : Connection α) : SqlOperation α → Connection α
  | .sqlStatement m_sql => (db.directExecute fails (.statement m_sql)).2
  | .sqlTransaction t => t.execute fails db

namespace Connection

/-- Some statements that succeed. -/
def states (db : Connection α) (statements : List α) : Connection α :=
  match db.transaction with
  | none => { db with durable := db.durable ++ statements, sent := db.sent + statements.length }
  | some before => { db with transaction := some (before ++ statements), sent := db.sent + statements.length }

/-- Without statements the database stays as it is. -/
lemma states_nil (db : Connection α) : db.states [] = db := by
  obtain ⟨durable, transaction, sent⟩ := db
  cases transaction with
  | none => simp only [states, List.append_nil, List.length_nil, Nat.add_zero]
  | some before => simp only [states, List.append_nil, List.length_nil, Nat.add_zero]

/-- Statements one after the other. -/
lemma states_cons (db : Connection α) (sql : α) (statements : List α) :
    db.states (sql :: statements) = { db.state sql with sent := db.sent + 1 }.states statements := by
  obtain ⟨durable, transaction, sent⟩ := db
  cases transaction with
  | none => simp only [states, state, List.append_assoc, List.singleton_append, List.length_cons,
      Nat.add_assoc, Nat.add_comm 1]
  | some before => simp only [states, state, List.append_assoc, List.singleton_append, List.length_cons,
      Nat.add_assoc, Nat.add_comm 1]

/-- A statement that fails is sent and changes nothing. -/
lemma directExecute_of_fails {fails : Nat → Bool} {db : Connection α} (h : fails db.sent = true)
    (sql : Command α) : db.directExecute fails sql = (false, { db with sent := db.sent + 1 }) :=
  if_pos h

/-- A statement that does not fail is sent and performed. -/
lemma directExecute_of_not_fails {fails : Nat → Bool} {db : Connection α} (h : fails db.sent = false)
    (sql : Command α) : db.directExecute fails sql = (true, { db.perform sql with sent := db.sent + 1 }) := by
  rw [directExecute, h]
  rfl

end Connection

/-- The number of the first command that fails among the next `n` from `k`. -/
def firstFailure (fails : Nat → Bool) : Nat → Nat → Option Nat
  | _, 0 => none
  | k, n + 1 => if fails k then some k else firstFailure fails (k + 1) n

/-- The first failure is one of the statements. -/
lemma firstFailure_spec {fails : Nat → Bool} {k n j : Nat} (h : firstFailure fails k n = some j) :
    k ≤ j ∧ j < k + n := by
  induction n generalizing k with
  | zero => cases h
  | succ n ih =>
    rw [firstFailure] at h
    split at h
    · cases h
      exact ⟨Nat.le_refl _, Nat.lt_add_of_pos_right (Nat.succ_pos n)⟩
    · obtain ⟨lo, hi⟩ := ih h
      exact ⟨Nat.le_of_succ_le lo, by omega⟩

/-- The loop executes the statements before the first one that fails and then ends the transaction. -/
lemma SqlTransaction.executeQueue_eq (fails : Nat → Bool) (m_queue : List α) (db : Connection α) :
    executeQueue fails m_queue db =
      match firstFailure fails db.sent m_queue.length with
      | none => ((db.states m_queue).directExecute fails .commit).2
      | some j =>
        ({ db.states (m_queue.take (j - db.sent)) with sent := j + 1 }.directExecute fails .rollback).2 := by
  induction m_queue generalizing db with
  | nil => rw [db.states_nil]; rfl
  | cons sql m_queue ih =>
    rw [executeQueue, List.length_cons, firstFailure]
    cases first : fails db.sent with
    | true =>
      rw [Connection.directExecute_of_fails first]
      simp only [Bool.false_eq_true, if_false, if_true, Nat.sub_self, List.take_zero, db.states_nil]
    | false =>
      rw [Connection.directExecute_of_not_fails first]
      simp only [Bool.false_eq_true, if_false, if_true]
      rw [ih]
      simp only [Connection.perform]
      cases rest : firstFailure fails (db.sent + 1) m_queue.length with
      | none => simp only [db.states_cons]
      | some j =>
        have later := (firstFailure_spec rest).1
        have take : (sql :: m_queue).take (j - db.sent) = sql :: m_queue.take (j - (db.sent + 1)) := by
          rw [show j - db.sent = (j - (db.sent + 1)) + 1 by omega, List.take_succ_cons]
        simp only [take, db.states_cons]

/-- Every statement is durable or none is, and no transaction is open. -/
def AllOrNothing (statements : List α) (before : List α) (after : Connection α) : Prop :=
  (after.durable = before ∨ after.durable = before ++ statements) ∧ after.transaction = none

instance [DecidableEq α] (statements : List α) (before : List α) (after : Connection α) :
    Decidable (AllOrNothing statements before after) :=
  inferInstanceAs (Decidable (_ ∧ _))

/-- The failures, by the number `k` of the first command, that do no harm to `n` statements. After a failed
`START TRANSACTION` the statements are durable one by one, so that either all or the first one must be the
last; in a transaction the command that ends it must not fail. -/
def Harmless (fails : Nat → Bool) (k n : Nat) : Prop :=
  n = 0 ∨
    match firstFailure fails (k + 1) n with
    | none => fails k ∨ ¬fails (k + n + 1)
    | some j => if fails k then j = k + 1 else ¬fails (j + 1)

namespace SqlTransaction

/-- In a transaction the effect is all or nothing exactly when the command that ends it succeeds. -/
lemma executeQueue_inside {fails : Nat → Bool} {db : Connection α} (opened : db.transaction = some [])
    (m_queue : List α) :
    AllOrNothing m_queue db.durable (executeQueue fails m_queue db) ↔
      match firstFailure fails db.sent m_queue.length with
      | none => ¬fails (db.sent + m_queue.length)
      | some j => ¬fails (j + 1) := by
  obtain ⟨durable, transaction, sent⟩ := db
  cases opened
  rw [executeQueue_eq]
  cases firstFailure fails sent m_queue.length with
  | none =>
    cases last : fails (sent + m_queue.length) with
    | true => simp [AllOrNothing, Connection.states, Connection.directExecute, last]
    | false => simp [AllOrNothing, Connection.states, Connection.directExecute, Connection.perform, last]
  | some j =>
    cases last : fails (j + 1) with
    | true => simp [AllOrNothing, Connection.states, Connection.directExecute, last]
    | false => simp [AllOrNothing, Connection.states, Connection.directExecute, Connection.perform, last]

/-- Outside a transaction it is all or nothing exactly when no statement fails or the first one does. -/
lemma executeQueue_outside {fails : Nat → Bool} {db : Connection α} (closed : db.transaction = none)
    (m_queue : List α) :
    AllOrNothing m_queue db.durable (executeQueue fails m_queue db) ↔
      match firstFailure fails db.sent m_queue.length with
      | none => True
      | some j => j = db.sent := by
  obtain ⟨durable, transaction, sent⟩ := db
  cases closed
  rw [executeQueue_eq]
  cases first : firstFailure fails sent m_queue.length with
  | none =>
    cases last : fails (sent + m_queue.length) with
    | true => simp [AllOrNothing, Connection.states, Connection.directExecute, last]
    | false => simp [AllOrNothing, Connection.states, Connection.directExecute, Connection.perform, last]
  | some j =>
    obtain ⟨lo, hi⟩ := firstFailure_spec first
    have part : m_queue.take (j - sent) = [] ∨ m_queue.take (j - sent) = m_queue ↔ j = sent := by
      constructor
      · intro h
        cases h with
        | inl h =>
          have length := congrArg List.length h
          rw [List.length_take, List.length_nil] at length
          omega
        | inr h =>
          have length := congrArg List.length h
          rw [List.length_take] at length
          omega
      · intro h
        subst h
        rw [Nat.sub_self]
        exact Or.inl List.take_zero
    cases last : fails (j + 1) with
    | true => simpa [AllOrNothing, Connection.states, Connection.directExecute, last] using part
    | false =>
      simpa [AllOrNothing, Connection.states, Connection.directExecute, Connection.perform, last] using part

/-- On a connection without an open transaction, the effect of the statements is all or nothing exactly when
the failures are harmless. -/
theorem allOrNothing_iff (fails : Nat → Bool) (t : SqlTransaction α) {db : Connection α}
    (closed : db.transaction = none) :
    AllOrNothing t.m_queue db.durable (t.execute fails db) ↔ Harmless fails db.sent t.m_queue.length := by
  rw [execute, Harmless]
  cases queue : t.m_queue with
  | nil => simp [AllOrNothing, closed]
  | cons sql m_queue =>
    rw [← queue]
    have nonempty : t.m_queue.isEmpty = false := by rw [queue]; rfl
    have length : t.m_queue.length ≠ 0 := by rw [queue]; exact Nat.succ_ne_zero _
    rw [nonempty, if_neg Bool.false_ne_true, or_iff_right length]
    cases start : fails db.sent with
    | true =>
      rw [Connection.directExecute_of_fails start]
      have closed' : { db with sent := db.sent + 1 }.transaction = none := closed
      refine Iff.trans (executeQueue_outside closed' t.m_queue) ?_
      cases firstFailure fails (db.sent + 1) t.m_queue.length with
      | none => simp only [true_or]
      | some j => simp only [if_true]
    | false =>
      rw [Connection.directExecute_of_not_fails start]
      have durable : db.durable ++ db.transaction.getD [] = db.durable := by
        rw [closed]
        exact List.append_nil _
      have same : AllOrNothing t.m_queue (db.durable ++ db.transaction.getD [])
          (executeQueue fails t.m_queue { db.perform .startTransaction with sent := db.sent + 1 }) ↔ _ :=
        executeQueue_inside rfl t.m_queue
      simp only [Connection.perform, durable] at same ⊢
      refine Iff.trans same ?_
      cases firstFailure fails (db.sent + 1) t.m_queue.length with
      | none => simp only [Bool.false_eq_true, false_or, Nat.add_right_comm]
      | some j => simp only [Bool.false_eq_true, if_false]

/-- No command fails. -/
theorem allOrNothing_twoStatements :
    AllOrNothing [1, 2] [] (execute (fun _ => false) ⟨[1, 2]⟩ ⟨[], none, 0⟩) :=
  (allOrNothing_iff (fun _ => false) ⟨[1, 2]⟩ rfl).mpr (Or.inr (Or.inr Bool.false_ne_true))

/-- `START TRANSACTION` and the second statement fail: the first statement is durable alone. -/
theorem not_allOrNothing_failedStart :
    ¬AllOrNothing [1, 2] [] (execute (fun k => k == 0 || k == 2) ⟨[1, 2]⟩ ⟨[], none, 0⟩) := by
  decide

/-- `COMMIT` fails: the transaction stays open. -/
example : (execute (fun k => k == 3) ⟨[1, 2]⟩ ⟨[], none, 0⟩).transaction = some [1, 2] := by decide

end SqlTransaction

end Legacy.Sql
