import Legacy.Sql.DelayThread
import Legacy.Sql.Operations
import Mathlib.Logic.Function.Basic

/-!
# Asynchronous queries

Queries wait with the writes in the queue of the delay thread, which puts each callback with its result into the
result queue of the thread that asked; that thread runs the callbacks (`SqlOperation` and `SqlResultQueue` of
`src/src/shared/Database/SqlOperations.cpp`, `src/src/shared/Database/DatabaseImpl.h`). Nothing but the delay thread
writes through the connection, so that the execution of one operation is one step here; the queries of other threads
come between them. `conserved_of_reaches` says that every callback runs at most once and in the order in which it was
asked for, `reply_reads_earlier` that its result is that of all operations that were delayed before it.
-/

namespace Legacy.Sql
open Legacy.Lib

/-- A holder of queries, each with its result (source `SqlQueryHolder`). -/
structure SqlQueryHolder (α ρ : Type) where
  m_queries : List (Option α × Option ρ)
  deriving DecidableEq

/-- A callback with the result that it was given, and the holder that it passes on (source `QueryCallback`). -/
structure QueryCallback (κ α ρ : Type) where
  method : κ
  m_result : Option ρ
  holder : Option (SqlQueryHolder α ρ)
  deriving DecidableEq

/-- `SqlOperation`, by all its subclasses. The holder of a `SqlQueryHolderEx` is that which its caller left it with,
who does not touch it before the callback. -/
inductive AsyncOperation (φ κ α ρ : Type) where
  | write (operation : SqlOperation α)
  | sqlQuery (m_sql : α) (m_callback : κ) (m_queue : φ)
  | sqlQueryHolderEx (m_holder : SqlQueryHolder α ρ) (m_callback : κ) (m_queue : φ)

namespace SqlQueryHolder

variable {α ρ : Type} (h : SqlQueryHolder α ρ)

/-- Source `SqlQueryHolder::SetSize`. -/
def setSize (size : Nat) : SqlQueryHolder α ρ :=
  ⟨h.m_queries.take size ++ List.replicate (size - h.m_queries.length) (none, none)⟩

/-- Source `SqlQueryHolder::SetQuery`. -/
def setQuery (index : Nat) (sql : α) : Bool × SqlQueryHolder α ρ :=
  match h.m_queries[index]? with
  | none => (false, h)
  | some (some _, _) => (false, h)
  | some (none, _) => (true, ⟨h.m_queries.set index (some sql, none)⟩)

/-- Source `SqlQueryHolder::GetResult`. -/
def getResult (index : Nat) : Option ρ × SqlQueryHolder α ρ :=
  match h.m_queries[index]? with
  | none => (none, h)
  | some (_, result) => (result, ⟨h.m_queries.set index (none, result)⟩)

/-- Source `SqlQueryHolder::SetResult`. -/
def setResult (index : Nat) (result : Option ρ) : SqlQueryHolder α ρ :=
  match h.m_queries[index]? with
  | none => h
  | some (sql, _) => ⟨h.m_queries.set index (sql, result)⟩

end SqlQueryHolder

section Execution

variable {φ κ α ρ : Type} (fails : Nat → Bool) (answer : List α → α → Option ρ)

/-- The statements that a query on the connection sees. -/
def Connection.visible (db : Connection α) : List α := db.durable ++ db.transaction.getD []

/-- `DatabaseMysql::Query`: a query that fails or finds nothing has no result. `answer` is what the server finds after
the statements that it has executed. -/
def Connection.query (db : Connection α) (sql : α) : Option ρ × Connection α :=
  (if fails db.sent then none else answer db.visible sql, { db with sent := db.sent + 1 })

/-- One round of the loop of `SqlQueryHolderEx::Execute`. -/
def holderRound (state : SqlQueryHolder α ρ × Connection α) (i : Nat) : SqlQueryHolder α ρ × Connection α :=
  match state.1.m_queries[i]? with
  | some (some sql, _) =>
    let asked := state.2.query fails answer sql
    (state.1.setResult i asked.1, asked.2)
  | _ => state

/-- The loop of `SqlQueryHolderEx::Execute`. -/
def executeHolder (m_holder : SqlQueryHolder α ρ) (db : Connection α) : SqlQueryHolder α ρ × Connection α :=
  (List.range m_holder.m_queries.length).foldl (holderRound fails answer) (m_holder, db)

/-- `SqlOperation::Execute`: what becomes of the connection, and the callback that is put into a result queue. -/
def AsyncOperation.execute (db : Connection α) :
    AsyncOperation φ κ α ρ → Connection α × Option (φ × QueryCallback κ α ρ)
  | .write operation => (operation.execute fails db, none)
  | .sqlQuery m_sql m_callback m_queue =>
    let asked := db.query fails answer m_sql
    (asked.2, some (m_queue, ⟨m_callback, asked.1, none⟩))
  | .sqlQueryHolderEx m_holder m_callback m_queue =>
    let asked := executeHolder fails answer m_holder db
    (asked.2, some (m_queue, ⟨m_callback, none, some asked.1⟩))

end Execution

/-- The callback that an operation owes, and the queue that it is for. -/
def AsyncOperation.owes {φ κ α ρ : Type} : AsyncOperation φ κ α ρ → Option (φ × κ)
  | .write _ => none
  | .sqlQuery _ m_callback m_queue => some (m_queue, m_callback)
  | .sqlQueryHolderEx _ m_callback m_queue => some (m_queue, m_callback)

/-- A database with its delay thread and the result queues of the threads, with the callbacks that each queue has run
and all that were ever added to one. -/
structure AsyncDatabase (τ φ κ α ρ : Type) where
  thread : SqlDelayThread (AsyncOperation φ κ α ρ)
  connection : Connection α
  m_queryQueues : τ → Option φ
  queues : φ → List (QueryCallback κ α ρ)
  ran : φ → List (QueryCallback κ α ρ)
  replies : List (φ × QueryCallback κ α ρ)

namespace AsyncDatabase

variable {τ φ κ α ρ : Type} [DecidableEq φ]

/-- The database after `InitDelayThread`. -/
def start : AsyncDatabase τ φ κ α ρ := ⟨.start, ⟨[], none, 0⟩, fun _ => none, fun _ => [], fun _ => [], []⟩

variable (s : AsyncDatabase τ φ κ α ρ)

/-- Source `Database::SetResultQueue`. -/
def setResultQueue [DecidableEq τ] (t : τ) (queue : φ) : AsyncDatabase τ φ κ α ρ :=
  { s with m_queryQueues := Function.update s.m_queryQueues t (some queue) }

/-- Source `SqlDelayThread::Delay`. -/
def delay (operation : AsyncOperation φ κ α ρ) : AsyncDatabase τ φ κ α ρ :=
  { s with thread := s.thread.delay operation }

/-- Source `Database::AsyncQuery`, called by thread `t`. -/
def asyncQuery (t : τ) (callback : κ) (sql : Option α) : Bool × AsyncDatabase τ φ κ α ρ :=
  match sql, s.m_queryQueues t with
  | some sql, some queue => (true, s.delay (.sqlQuery sql callback queue))
  | _, _ => (false, s)

/-- Source `Database::DelayQueryHolder` with `SqlQueryHolder::Execute`, called by thread `t`. -/
def delayQueryHolder (t : τ) (callback : κ) (holder : Option (SqlQueryHolder α ρ)) : Bool × AsyncDatabase τ φ κ α ρ :=
  match holder, s.m_queryQueues t with
  | some holder, some queue => (true, s.delay (.sqlQueryHolderEx holder callback queue))
  | _, _ => (false, s)

/-- Source `SqlResultQueue::add`. -/
def add (reply : φ × QueryCallback κ α ρ) : AsyncDatabase τ φ κ α ρ :=
  { s with
    queues := Function.update s.queues reply.1 (s.queues reply.1 ++ [reply.2])
    replies := s.replies ++ [reply] }

/-- One step of `SqlDelayThread::run`. -/
def run (fails : Nat → Bool) (answer : List α → α → Option ρ) : Option (AsyncDatabase τ φ κ α ρ) :=
  match s.thread.line with
  | .execute operation =>
    let done := operation.execute fails answer s.connection
    s.thread.run.map fun thread =>
      let s := { s with thread := thread, connection := done.1 }
      match done.2 with
      | some reply => s.add reply
      | none => s
  | _ => s.thread.run.map fun thread => { s with thread := thread }

/-- One round of `SqlResultQueue::Update`. -/
def callback (queue : φ) : Option (AsyncDatabase τ φ κ α ρ) :=
  match s.queues queue with
  | [] => none
  | callback :: rest => some
    { s with
      queues := Function.update s.queues queue rest
      ran := Function.update s.ran queue (s.ran queue ++ [callback]) }

end AsyncDatabase

/-- A call of a thread, a round of `SqlResultQueue::Update`, or the next step of the delay thread. -/
inductive AsyncEvent (τ φ κ α ρ : Type) where
  | setResultQueue (t : τ) (queue : φ)
  | execute (operation : SqlOperation α)
  | asyncQuery (t : τ) (callback : κ) (sql : Option α)
  | delayQueryHolder (t : τ) (callback : κ) (holder : Option (SqlQueryHolder α ρ))
  /-- Another thread asks the server itself (source `Database::Query`). -/
  | query (sql : α)
  | stop
  | run
  | callback (queue : φ)

/-- The queries of a login in the order of their indices (source `LoginQueryHolder::Initialize`). -/
def loginQueries (m_accountId guid : Nat) : List String :=
  ["SELECT * FROM characters WHERE accountid = '" ++ toString m_accountId ++ "'",
    "SELECT guid, petslot FROM character_pet WHERE owner_guid = '" ++ toString guid ++ "' ORDER BY petslot",
    "SELECT data, pet, slot, item, entry FROM character_inventory ci JOIN item_instance ii ON ci.item = ii.guid " ++
      "WHERE ci.guid = '" ++ toString guid ++ "' ORDER BY ci.slot",
    "SELECT entry, level FROM character_spell where owner_guid = '" ++ toString guid ++ "' ORDER BY entry"]

/-- The calls of `SetPQuery`, one for each index. -/
def setQueries {α ρ : Type} : Nat → List α → Bool × SqlQueryHolder α ρ → Bool × SqlQueryHolder α ρ
  | _, [], state => state
  | index, sql :: queries, state =>
    let set := state.2.setQuery index sql
    setQueries (index + 1) queries (state.1 && set.1, set.2)

/-- Source `LoginQueryHolder::Initialize`: whether all queries were set, and the holder. -/
def loginQueryHolder {ρ : Type} (m_accountId guid : Nat) : Bool × SqlQueryHolder String ρ :=
  setQueries 0 (loginQueries m_accountId guid) (true, SqlQueryHolder.setSize ⟨[]⟩ 4)

section System

variable {τ φ κ α ρ : Type} [DecidableEq φ] (fails : Nat → Bool) (answer : List α → α → Option ρ)

/-- One event. -/
def AsyncDatabase.step [DecidableEq τ] (s : AsyncDatabase τ φ κ α ρ) :
    AsyncEvent τ φ κ α ρ → Option (AsyncDatabase τ φ κ α ρ)
  | .setResultQueue t queue => some (s.setResultQueue t queue)
  | .execute operation => some (s.delay (.write operation))
  | .asyncQuery t callback sql => some (s.asyncQuery t callback sql).2
  | .delayQueryHolder t callback holder => some (s.delayQueryHolder t callback holder).2
  | .query sql => some { s with connection := (s.connection.query fails answer sql).2 }
  | .stop => some { s with thread := s.thread.stop }
  | .run => s.run fails answer
  | .callback queue => s.callback queue

/-- Operations executed one after the other, with queries of other threads between them: what is left of the
connection, and the callbacks with their results in the order of the operations. -/
inductive Serial : List (AsyncOperation φ κ α ρ) → Connection α → List (φ × QueryCallback κ α ρ) → Prop where
  | nil : Serial [] ⟨[], none, 0⟩ []
  | query {operations db replies} (sql : α) :
    Serial operations db replies →
    Serial operations (db.query fails answer sql).2 replies
  | operation {operations db replies} (operation : AsyncOperation φ κ α ρ) :
    Serial operations db replies →
    Serial (operations ++ [operation]) (operation.execute fails answer db).1
      (replies ++ (operation.execute fails answer db).2.toList)

variable {fails answer} {s s' : AsyncDatabase τ φ κ α ρ}

/-- The callbacks that operations owe to a queue. -/
def owed (queue : φ) (operations : List (AsyncOperation φ κ α ρ)) : List κ :=
  operations.filterMap fun operation => operation.owes.bind fun owes => if owes.1 = queue then some owes.2 else none

/-- The callbacks that were put into a queue. -/
def repliesTo (queue : φ) (replies : List (φ × QueryCallback κ α ρ)) : List (QueryCallback κ α ρ) :=
  replies.filterMap fun reply => if reply.1 = queue then some reply.2 else none

omit [DecidableEq φ] in
/-- An operation gives the callback that it owes. -/
lemma execute_owes (operation : AsyncOperation φ κ α ρ) (db : Connection α) :
    (operation.execute fails answer db).2.map (fun reply => (reply.1, reply.2.method)) = operation.owes := by
  cases operation with
  | write operation => rfl
  | sqlQuery m_sql m_callback m_queue => rfl
  | sqlQueryHolderEx m_holder m_callback m_queue => rfl

omit [DecidableEq φ] in

/-- The replies are those that the operations owe, in their order. -/
lemma Serial.owes {operations : List (AsyncOperation φ κ α ρ)} {db : Connection α}
    {replies : List (φ × QueryCallback κ α ρ)} (serial : Serial fails answer operations db replies) :
    replies.map (fun reply => (reply.1, reply.2.method)) = operations.filterMap AsyncOperation.owes := by
  induction serial with
  | nil => rfl
  | query sql _ ih => exact ih
  | @operation operations db replies operation _ ih =>
    rw [List.map_append, List.filterMap_append, ih, List.filterMap_cons, ← execute_owes operation db]
    cases (operation.execute fails answer db).2 <;> rfl

/-- The callbacks of a queue are those that the operations owe to it, in their order. -/
lemma Serial.repliesTo {operations : List (AsyncOperation φ κ α ρ)} {db : Connection α}
    {replies : List (φ × QueryCallback κ α ρ)} (serial : Serial fails answer operations db replies) (queue : φ) :
    (Sql.repliesTo queue replies).map QueryCallback.method = owed queue operations := by
  have same := congrArg (List.filterMap fun owes : φ × κ => if owes.1 = queue then some owes.2 else none) serial.owes
  rw [List.filterMap_map, List.filterMap_filterMap] at same
  rw [Sql.repliesTo, List.map_filterMap, owed, ← same]
  congr 1
  funext reply
  show Option.map _ (if reply.1 = queue then some reply.2 else none) =
    if reply.1 = queue then some reply.2.method else none
  split_ifs <;> rfl

omit [DecidableEq φ] in
/-- The operations before one of them were executed before it, and it was executed on what they left. -/
lemma Serial.at {operations : List (AsyncOperation φ κ α ρ)} {db : Connection α}
    {replies : List (φ × QueryCallback κ α ρ)} (serial : Serial fails answer operations db replies) {n : Nat}
    {operation : AsyncOperation φ κ α ρ} (nth : operations[n]? = some operation) : ∃ db' before after,
      Serial fails answer (operations.take n) db' before ∧
      replies = before ++ (operation.execute fails answer db').2.toList ++ after := by
  induction serial with
  | nil => cases nth
  | query sql _ ih => exact ih nth
  | @operation operations db replies last serial ih =>
    rcases Nat.lt_or_ge n operations.length with lt | ge
    · rw [List.getElem?_append_left lt] at nth
      obtain ⟨db', before, after, serial', eq⟩ := ih nth
      refine ⟨db', before, after ++ (last.execute fails answer db).2.toList, ?_, ?_⟩
      · rw [List.take_append_of_le_length (Nat.le_of_lt lt)]
        exact serial'
      · rw [eq, List.append_assoc]
    · rw [List.getElem?_append_right ge] at nth
      rw [List.getElem?_singleton] at nth
      split_ifs at nth with here
      cases nth
      obtain rfl := Nat.le_antisymm (Nat.sub_eq_zero_iff_le.mp here) ge
      refine ⟨db, replies, [], ?_, ?_⟩
      · rw [List.take_left]
        exact serial
      · rw [List.append_nil]

omit [DecidableEq φ] in
/-- What was delayed is executed, being executed or queued. -/
lemma ordered_run {d d' : SqlDelayThread (AsyncOperation φ κ α ρ)}
    (all : d.delayed = d.executed ++ d.line.current ++ d.m_sqlQueue) (next : d.run = some d') :
    d'.delayed = d'.executed ++ d'.line.current ++ d'.m_sqlQueue := by
  obtain ⟨m_sqlQueue, m_running, line, delayed, executed, due⟩ := d
  cases line with
  | flag =>
    cases next
    cases m_running <;> exact all
  | sleep =>
    cases next
    exact all
  | empty =>
    cases next
    cases m_sqlQueue <;> exact all
  | next =>
    cases m_sqlQueue with
    | nil =>
      cases next
      exact all
    | cons operation m_sqlQueue =>
      cases next
      exact all.trans (by simp only [Line.current, List.append_nil, List.append_assoc, List.singleton_append])
  | execute operation =>
    cases next
    exact all.trans (by simp only [Line.current, List.append_nil])
  | returned => cases next
  | thrown => cases next

omit [DecidableEq φ] in
/-- What is executed by a step is what the thread is at. -/
lemma executed_run {d d' : SqlDelayThread (AsyncOperation φ κ α ρ)} (next : d.run = some d') :
    d'.executed = d.executed ++ d.line.current := by
  obtain ⟨m_sqlQueue, m_running, line, delayed, executed, due⟩ := d
  cases line with
  | next =>
    cases m_sqlQueue with
    | nil =>
      cases next
      exact (List.append_nil _).symm
    | cons operation m_sqlQueue =>
      cases next
      exact (List.append_nil _).symm
  | execute operation =>
    cases next
    rfl
  | returned => cases next
  | thrown => cases next
  | _ =>
    cases next
    exact (List.append_nil _).symm

/-- Nothing is lost, and the callbacks have the results of the operations in their order. -/
structure Conserves (fails : Nat → Bool) (answer : List α → α → Option ρ) (s : AsyncDatabase τ φ κ α ρ) : Prop where
  all : s.thread.delayed = s.thread.executed ++ s.thread.line.current ++ s.thread.m_sqlQueue
  serial : Serial fails answer s.thread.executed s.connection s.replies
  queues : ∀ queue, s.ran queue ++ s.queues queue = repliesTo queue s.replies

/-- At the start nothing is under way. -/
lemma conserves_start : Conserves fails answer (AsyncDatabase.start : AsyncDatabase τ φ κ α ρ) :=
  ⟨rfl, .nil, fun _ => rfl⟩

/-- A delayed operation is conserved. -/
lemma Conserves.delay (c : Conserves fails answer s) (operation : AsyncOperation φ κ α ρ) :
    Conserves fails answer (s.delay operation) := by
  refine ⟨?_, c.serial, c.queues⟩
  show s.thread.delayed ++ [operation] = _ ++ (s.thread.m_sqlQueue ++ [operation])
  rw [c.all, List.append_assoc _ s.thread.m_sqlQueue]
  rfl

/-- A callback that is added to its queue comes last in it. -/
lemma queues_add (queues : ∀ queue, s.ran queue ++ s.queues queue = repliesTo queue s.replies)
    (reply : φ × QueryCallback κ α ρ) (queue : φ) :
    (s.add reply).ran queue ++ (s.add reply).queues queue = repliesTo queue (s.add reply).replies := by
  show s.ran queue ++ Function.update s.queues reply.1 (s.queues reply.1 ++ [reply.2]) queue =
    repliesTo queue (s.replies ++ [reply])
  rw [repliesTo, List.filterMap_append, ← repliesTo, ← queues queue, List.filterMap_cons, List.filterMap_nil]
  rcases eq_or_ne queue reply.1 with rfl | other
  · rw [Function.update_self, if_pos rfl, List.append_assoc]
  · rw [Function.update_of_ne other, if_neg other.symm, List.append_nil]

/-- An executed operation is conserved. -/
lemma Conserves.run (c : Conserves fails answer s) (next : s.run fails answer = some s') :
    Conserves fails answer s' := by
  rw [AsyncDatabase.run] at next
  cases line : s.thread.line with
  | execute operation =>
    rw [line] at next
    obtain ⟨thread, ran, rfl⟩ := Option.map_eq_some_iff.mp next
    have all := ordered_run c.all ran
    have executed := executed_run ran
    rw [line, Line.current] at executed
    have serial := Serial.operation operation c.serial
    rw [← executed] at serial
    cases reply : (operation.execute fails answer s.connection).2 with
    | none =>
      rw [reply, Option.toList_none, List.append_nil] at serial
      exact ⟨all, serial, c.queues⟩
    | some reply' =>
      rw [reply] at serial
      refine ⟨all, serial, ?_⟩
      exact queues_add (s := { s with thread := thread, connection := (operation.execute fails answer s.connection).1 })
        c.queues reply'
  | _ =>
    rw [line] at next
    obtain ⟨thread, ran, rfl⟩ := Option.map_eq_some_iff.mp next
    have all := ordered_run c.all ran
    have executed : thread.executed = s.thread.executed := by
      rw [executed_run ran, line]
      exact List.append_nil _
    have serial := c.serial
    rw [← executed] at serial
    exact ⟨all, serial, c.queues⟩

/-- A round of `Update` takes the first callback of the queue. -/
lemma Conserves.callback (c : Conserves fails answer s) (queue : φ) (next : s.callback queue = some s') :
    Conserves fails answer s' := by
  rw [AsyncDatabase.callback] at next
  cases waiting : s.queues queue with
  | nil =>
    rw [waiting] at next
    cases next
  | cons callback rest =>
    rw [waiting] at next
    cases next
    refine ⟨c.all, c.serial, fun queue' => ?_⟩
    show Function.update s.ran queue (s.ran queue ++ [callback]) queue' ++
      Function.update s.queues queue rest queue' = _
    rw [← c.queues queue']
    rcases eq_or_ne queue' queue with rfl | other
    · rw [Function.update_self, Function.update_self, waiting, List.append_assoc]
      rfl
    · rw [Function.update_of_ne other, Function.update_of_ne other]

/-- Every step conserves the operations. -/
lemma Conserves.step [DecidableEq τ] (c : Conserves fails answer s) {e : AsyncEvent τ φ κ α ρ}
    (next : s.step fails answer e = some s') : Conserves fails answer s' := by
  cases e with
  | setResultQueue t queue =>
    cases next
    exact ⟨c.all, c.serial, c.queues⟩
  | execute operation =>
    cases next
    exact c.delay (.write operation)
  | asyncQuery t callback sql =>
    cases next
    unfold AsyncDatabase.asyncQuery
    split
    · exact c.delay _
    · exact c
  | delayQueryHolder t callback holder =>
    cases next
    unfold AsyncDatabase.delayQueryHolder
    split
    · exact c.delay _
    · exact c
  | query sql =>
    cases next
    exact ⟨c.all, c.serial.query sql, c.queues⟩
  | stop =>
    cases next
    exact ⟨c.all, c.serial, c.queues⟩
  | run => exact c.run next
  | callback queue => exact c.callback queue next

/-- Every run conserves the operations. -/
lemma conserves_of [DecidableEq τ] {s : AsyncDatabase τ φ κ α ρ}
    (run : Reaches (AsyncDatabase.step fails answer) (fun _ _ => True) AsyncDatabase.start s) :
    Conserves fails answer s :=
  run.invariant conserves_start fun c _ next => Conserves.step c next

/-- In every interleaving of the threads, the callbacks that a queue has run, those that wait in it and those of the
operations that are not executed yet are the callbacks that were asked for, each once and in the order of the calls;
and they have the results of the operations executed one after the other in that order. -/
theorem conserved_of_reaches [DecidableEq τ] {s : AsyncDatabase τ φ κ α ρ}
    (run : Reaches (AsyncDatabase.step fails answer) (fun _ _ => True) AsyncDatabase.start s) :
    (∀ queue, (s.ran queue ++ s.queues queue).map QueryCallback.method ++
      owed queue (s.thread.line.current ++ s.thread.m_sqlQueue) = owed queue s.thread.delayed) ∧
    s.thread.executed <+: s.thread.delayed ∧
    Serial fails answer s.thread.executed s.connection s.replies ∧
    ∀ queue, s.ran queue ++ s.queues queue = repliesTo queue s.replies := by
  have c := conserves_of run
  refine ⟨fun queue => ?_, ?_, c.serial, c.queues⟩
  · rw [c.queues, c.serial.repliesTo, c.all, List.append_assoc]
    exact (List.filterMap_append ..).symm
  · rw [c.all, List.append_assoc]
    exact List.prefix_append _ _

end System

section Holders

variable {φ κ α ρ : Type} {fails : Nat → Bool} {answer : List α → α → Option ρ}

/-- Entries of a holder with the results of their queries, asked one after the other. -/
def asked (fails : Nat → Bool) (answer : List α → α → Option ρ) (db : Connection α) :
    List (Option α × Option ρ) → List (Option α × Option ρ) × Connection α
  | [] => ([], db)
  | (none, result) :: entries =>
    let rest := asked fails answer db entries
    ((none, result) :: rest.1, rest.2)
  | (some sql, _) :: entries =>
    let result := db.query fails answer sql
    let rest := asked fails answer result.2 entries
    ((some sql, result.1) :: rest.1, rest.2)

/-- The loop goes on behind the entries that it has done. -/
lemma foldl_holderRound (entries before : List (Option α × Option ρ)) (db : Connection α) :
    (List.range' before.length entries.length).foldl (holderRound fails answer) (⟨before ++ entries⟩, db) =
      (⟨before ++ (asked fails answer db entries).1⟩, (asked fails answer db entries).2) := by
  induction entries generalizing before db with
  | nil => rfl
  | cons entry entries ih =>
    have here : (before ++ entry :: entries)[before.length]? = some entry := by
      rw [List.getElem?_append_right (Nat.le_refl _), Nat.sub_self, List.getElem?_cons_zero]
    have rest := fun (entry : Option α × Option ρ) (db : Connection α) => ih (before ++ [entry]) db
    simp only [List.length_append, List.length_singleton, List.append_assoc, List.singleton_append] at rest
    rw [List.length_cons, List.range'_succ, List.foldl_cons]
    obtain ⟨sql, result⟩ := entry
    cases sql with
    | none =>
      have round : holderRound fails answer (⟨before ++ (none, result) :: entries⟩, db) before.length =
          (⟨before ++ (none, result) :: entries⟩, db) := by
        simp only [holderRound, here]
      rw [round, rest]
      rfl
    | some sql =>
      have set : (before ++ (some sql, result) :: entries).set before.length (some sql, (db.query fails answer sql).1) =
          before ++ (some sql, (db.query fails answer sql).1) :: entries := by
        rw [List.set_append_right _ _ (Nat.le_refl _), Nat.sub_self, List.set_cons_zero]
      have round : holderRound fails answer (⟨before ++ (some sql, result) :: entries⟩, db) before.length =
          (⟨before ++ (some sql, (db.query fails answer sql).1) :: entries⟩, (db.query fails answer sql).2) := by
        simp only [holderRound, SqlQueryHolder.setResult, here, set]
      rw [round, rest]
      rfl

/-- A holder asks its queries one after the other. -/
lemma executeHolder_eq (h : SqlQueryHolder α ρ) (db : Connection α) :
    executeHolder fails answer h db =
      (⟨(asked fails answer db h.m_queries).1⟩, (asked fails answer db h.m_queries).2) := by
  rw [executeHolder, List.range_eq_range']
  exact foldl_holderRound h.m_queries [] db

/-- The number of queries that were set at the first `i` indices. -/
def setBefore (entries : List (Option α × Option ρ)) (i : Nat) : Nat :=
  (entries.take i).countP fun entry => entry.1.isSome

variable (fails answer) in
/-- Every query has its own result, on the statements that the first one saw, when the queries before it were sent. -/
lemma getElem?_asked (entries : List (Option α × Option ρ)) (db : Connection α) {i : Nat} {sql : α} {r : Option ρ}
    (nth : entries[i]? = some (some sql, r)) : (asked fails answer db entries).1[i]? =
      some (some sql, ({ db with sent := db.sent + setBefore entries i }.query fails answer sql).1) := by
  induction entries generalizing i db with
  | nil => cases nth
  | cons entry entries ih =>
    obtain ⟨sql', result⟩ := entry
    cases i with
    | zero =>
      cases nth
      rfl
    | succ i =>
      rw [List.getElem?_cons_succ] at nth
      cases sql' with
      | none =>
        have none : setBefore ((none, result) :: entries) (i + 1) = setBefore entries i :=
          List.countP_cons_of_neg Bool.false_ne_true
        rw [none]
        exact ih db nth
      | some sql' =>
        have one : db.sent + setBefore ((some sql', result) :: entries) (i + 1) =
            db.sent + 1 + setBefore entries i := by
          rw [setBefore, List.take_succ_cons, List.countP_cons_of_pos rfl, Nat.add_assoc, Nat.add_comm 1]
          rfl
        rw [one]
        exact ih (db.query fails answer sql').2 nth

/-- The result that is taken out of a holder is that of the query at its index. -/
lemma getResult_executeHolder (h : SqlQueryHolder α ρ) (db : Connection α) {i : Nat} {sql : α} {r : Option ρ}
    (nth : h.m_queries[i]? = some (some sql, r)) : ((executeHolder fails answer h db).1.getResult i).1 =
      ({ db with sent := db.sent + setBefore h.m_queries i }.query fails answer sql).1 := by
  have there := getElem?_asked fails answer h.m_queries db nth
  rw [executeHolder_eq, SqlQueryHolder.getResult]
  dsimp only
  rw [there]

end Holders

section Replies

variable {τ φ κ α ρ : Type} [DecidableEq τ] [DecidableEq φ] {fails : Nat → Bool} {answer : List α → α → Option ρ}

/-- The callback of the `n`th operation has the result that the operation has after all operations that were delayed
before it, by whatever thread, and after no other; and in a holder every index has the result of its own query, after
those that were set at the smaller indices. -/
def ReadsEarlier (fails : Nat → Bool) (answer : List α → α → Option ρ) (s : AsyncDatabase τ φ κ α ρ) (n : Nat)
    (operation : AsyncOperation φ κ α ρ) : Prop :=
  ∃ db before after, Serial fails answer (s.thread.delayed.take n) db before ∧
    s.replies = before ++ (operation.execute fails answer db).2.toList ++ after ∧
    ∀ m_holder m_callback m_queue, operation = .sqlQueryHolderEx m_holder m_callback m_queue →
      ∃ holder, (operation.execute fails answer db).2 = some (m_queue, ⟨m_callback, none, some holder⟩) ∧
        ∀ i sql r, m_holder.m_queries[i]? = some (some sql, r) →
          (holder.getResult i).1 =
            ({ db with sent := db.sent + setBefore m_holder.m_queries i }.query fails answer sql).1

omit [DecidableEq τ] in
/-- What an executed operation read does not depend on what was delayed after it. -/
lemma Conserves.readsEarlier {s : AsyncDatabase τ φ κ α ρ} {n : Nat} {operation : AsyncOperation φ κ α ρ}
    (c : Conserves fails answer s) (nth : s.thread.delayed[n]? = some operation) (done : n < s.thread.executed.length) :
    ReadsEarlier fails answer s n operation := by
  have split : s.thread.delayed = s.thread.executed ++ (s.thread.line.current ++ s.thread.m_sqlQueue) := by
    rw [c.all, List.append_assoc]
  have nth' : s.thread.executed[n]? = some operation := by
    rw [split, List.getElem?_append_left done] at nth
    exact nth
  obtain ⟨db, before, after, serial, eq⟩ := c.serial.at nth'
  refine ⟨db, before, after, ?_, eq, ?_⟩
  · rw [split, List.take_append_of_le_length (Nat.le_of_lt done)]
    exact serial
  · rintro m_holder m_callback m_queue rfl
    exact ⟨_, rfl, fun i sql r there => getResult_executeHolder m_holder db there⟩

/-- In every interleaving of the threads every operation that was executed reads what was delayed before it. -/
theorem reply_reads_earlier {s : AsyncDatabase τ φ κ α ρ} {n : Nat} {operation : AsyncOperation φ κ α ρ}
    (run : Reaches (AsyncDatabase.step fails answer) (fun _ _ => True) AsyncDatabase.start s)
    (nth : s.thread.delayed[n]? = some operation) (done : n < s.thread.executed.length) :
    ReadsEarlier fails answer s n operation :=
  (conserves_of run).readsEarlier nth done

end Replies

section Login

variable {τ φ κ ρ : Type} [DecidableEq τ] [DecidableEq φ] {fails : Nat → Bool}
  {answer : List String → String → Option ρ}

/-- The holder of a login has each of its queries at its own index. -/
lemma loginQueryHolder_eq (m_accountId guid : Nat) :
    (loginQueryHolder m_accountId guid : Bool × SqlQueryHolder String ρ) =
      (true, ⟨(loginQueries m_accountId guid).map fun sql => (some sql, none)⟩) := rfl

/-- Where a query was set at every index, there are as many before an index as it says. -/
lemma setBefore_all {queries : List String} {i : Nat} (le : i ≤ queries.length) :
    setBefore (queries.map fun sql => (some sql, (none : Option ρ))) i = i := by
  rw [setBefore, ← List.map_take, List.countP_map]
  exact (List.countP_eq_length.mpr fun _ _ => rfl).trans (List.length_take_of_le le)

/-- A login finds at each index what the query of that index finds after all that was saved before it. -/
theorem login_reads {s : AsyncDatabase τ φ κ String ρ} {n m_accountId guid : Nat} {m_callback : κ} {m_queue : φ}
    (run : Reaches (AsyncDatabase.step fails answer) (fun _ _ => True) AsyncDatabase.start s)
    (nth : s.thread.delayed[n]? = some (.sqlQueryHolderEx (loginQueryHolder m_accountId guid).2 m_callback m_queue))
    (done : n < s.thread.executed.length) : ∃ db before after holder,
    Serial fails answer (s.thread.delayed.take n) db before ∧
      s.replies = before ++ (m_queue, ⟨m_callback, none, some holder⟩) :: after ∧
      ∀ i sql, (loginQueries m_accountId guid)[i]? = some sql →
        (holder.getResult i).1 = ({ db with sent := db.sent + i }.query fails answer sql).1 := by
  obtain ⟨db, before, after, serial, eq, results⟩ := (conserves_of run).readsEarlier nth done
  obtain ⟨holder, reply, own⟩ := results _ _ _ rfl
  refine ⟨db, before, after, holder, serial, ?_, fun i sql there => ?_⟩
  · rw [eq, reply, Option.toList_some, List.append_assoc, List.singleton_append]
  · have set := own i sql none (by
      rw [loginQueryHolder_eq, List.getElem?_map, there]
      rfl)
    rwa [loginQueryHolder_eq, setBefore_all (Nat.le_of_lt (List.getElem?_eq_some_iff.mp there).1)] at set

end Login

/-- A player is saved and logs in again, and the delay thread runs until the callback is due. -/
def relogin : List (AsyncEvent Nat Nat Nat String Nat) :=
  [.setResultQueue 0 0, .execute (.sqlStatement "UPDATE characters SET online = 0 WHERE accountid = '1'"),
    .delayQueryHolder 0 7 (some (loginQueryHolder 1 2).2), .run, .run, .run, .run, .query "SELECT 1", .run, .run, .run,
    .run, .callback 0]

/-- A server that tells how many statements it has executed. -/
def counting (statements : List String) (_ : String) : Option Nat := some statements.length

/-- Every callback of the login is called or due. -/
theorem conserved_relogin : ∃ s : AsyncDatabase Nat Nat Nat String Nat,
    exec (AsyncDatabase.step (fun _ => false) counting) AsyncDatabase.start relogin = some s ∧
    (∀ queue, (s.ran queue ++ s.queues queue).map QueryCallback.method ++
      owed queue (s.thread.line.current ++ s.thread.m_sqlQueue) = owed queue s.thread.delayed) ∧
    s.thread.executed <+: s.thread.delayed ∧
    Serial (fun _ => false) counting s.thread.executed s.connection s.replies ∧
    ∀ queue, s.ran queue ++ s.queues queue = repliesTo queue s.replies := by
  have last : ∃ s : AsyncDatabase Nat Nat Nat String Nat,
      exec (AsyncDatabase.step (fun _ => false) counting) AsyncDatabase.start relogin = some s := ⟨_, rfl⟩
  obtain ⟨s, run⟩ := last
  exact ⟨s, run, conserved_of_reaches (reaches_of_exec _ (along_true _ _) run)⟩

/-- The login reads the database after the save. -/
theorem reply_relogin : ∃ s : AsyncDatabase Nat Nat Nat String Nat,
    exec (AsyncDatabase.step (fun _ => false) counting) AsyncDatabase.start relogin = some s ∧
    ReadsEarlier (fun _ => false) counting s 1 (.sqlQueryHolderEx (loginQueryHolder 1 2).2 7 0) := by
  have last : ∃ s : AsyncDatabase Nat Nat Nat String Nat,
      exec (AsyncDatabase.step (fun _ => false) counting) AsyncDatabase.start relogin = some s ∧
      s.thread.delayed[1]? = some (.sqlQueryHolderEx (loginQueryHolder 1 2).2 7 0) ∧
      s.thread.executed.length = 2 := ⟨_, rfl, rfl, rfl⟩
  obtain ⟨s, run, nth, executed⟩ := last
  exact ⟨s, run, reply_reads_earlier (reaches_of_exec _ (along_true _ _) run) nth (executed ▸ Nat.one_lt_two)⟩

end Legacy.Sql
