import Legacy.Sql.Operations
import Mathlib.Data.List.Induction
import Mathlib.Logic.Function.Basic

/-!
# Transactions of several threads

The asynchronous `DatabaseMysql` keeps one open transaction for each thread and puts it in the queue of the
delay thread when it is committed. What a thread issues by its own calls is said by `Issues` without the
map; `issues_of_disciplined` says that the queue is an interleaving of what the threads issue.
-/

namespace Legacy.Sql

universe u v

variable {τ : Type u} {α : Type v}

/-- A call of `DatabaseMysql`. -/
inductive Call (α : Type v) where
  | execute (sql : α)
  | beginTransaction
  | commitTransaction
  | rollbackTransaction
  deriving DecidableEq

/-- `DatabaseMysql` once `InitDelayThread` has run, for threads `τ`: an entry of the map is missing, null or a
transaction. What is added to the queue of the delay thread stays in `m_sqlQueue`. -/
structure DatabaseMysql (τ : Type u) (α : Type v) where
  tranThread : Option τ
  m_tranQueues : τ → Option (Option (SqlTransaction α))
  m_sqlQueue : List (SqlOperation α)

namespace DatabaseMysql

/-- The database after `Initialize`. -/
def initial : DatabaseMysql τ α := ⟨none, fun _ => none, []⟩

/-- `SqlDelayThread::Delay`. -/
def delay (db : DatabaseMysql τ α) (operation : SqlOperation α) : DatabaseMysql τ α :=
  { db with m_sqlQueue := db.m_sqlQueue ++ [operation] }

variable [DecidableEq τ]

/-- The open transaction of a thread is changed. -/
def setTransaction (db : DatabaseMysql τ α) (t : τ) (transaction : Option (SqlTransaction α)) :
    DatabaseMysql τ α :=
  { db with m_tranQueues := Function.update db.m_tranQueues t (some transaction) }

/-- source `DatabaseMysql::Execute` -/
def execute (db : DatabaseMysql τ α) (current : τ) (sql : α) : Bool × DatabaseMysql τ α :=
  let db := { db with tranThread := some current }
  match db.m_tranQueues current with
  | some (some transaction) => (true, db.setTransaction current (some (transaction.delayExecute sql)))
  | _ => (true, db.delay (.sqlStatement sql))

/-- A transaction that is already open is deleted. -/
def beginTransaction (db : DatabaseMysql τ α) (current : τ) : Bool × DatabaseMysql τ α :=
  let db := { db with tranThread := some current }
  (true, db.setTransaction current (some ⟨[]⟩))

/-- source `DatabaseMysql::CommitTransaction` -/
def commitTransaction (db : DatabaseMysql τ α) (current : τ) : Bool × DatabaseMysql τ α :=
  let db := { db with tranThread := some current }
  match db.m_tranQueues current with
  | some (some transaction) => (true, (db.delay (.sqlTransaction transaction)).setTransaction current none)
  | _ => (false, db)

/-- source `DatabaseMysql::RollbackTransaction` -/
def rollbackTransaction (db : DatabaseMysql τ α) (current : τ) : Bool × DatabaseMysql τ α :=
  let db := { db with tranThread := some current }
  match db.m_tranQueues current with
  | some (some _) => (true, db.setTransaction current none)
  | _ => (true, db)

/-- What a call of a thread does. -/
def call (db : DatabaseMysql τ α) (current : τ) : Call α → Bool × DatabaseMysql τ α
  | .execute sql => db.execute current sql
  | .beginTransaction => db.beginTransaction current
  | .commitTransaction => db.commitTransaction current
  | .rollbackTransaction => db.rollbackTransaction current

/-- The calls of all threads in the order in which they happen. -/
def run (history : List (τ × Call α)) : DatabaseMysql τ α :=
  history.foldl (fun db c => (db.call c.1 c.2).2) initial

end DatabaseMysql

/-- The entries that belong to one thread, in their order. -/
def own [DecidableEq τ] {β : Type v} (t : τ) (entries : List (τ × β)) : List β :=
  (entries.filter fun e => e.1 = t).map Prod.snd

/-- The calls of a thread between `BeginTransaction` and the end of the transaction. -/
def opening (statements : List α) : List (Call α) := .beginTransaction :: statements.map .execute

/-- What a thread puts in the queue by calls after which it is in no transaction. -/
inductive Closed : List (Call α) → List (SqlOperation α) → Prop where
  | nil : Closed [] []
  | execute {calls issued} (sql : α) : Closed calls issued →
    Closed (calls ++ [.execute sql]) (issued ++ [.sqlStatement sql])
  | committed {calls issued} (statements : List α) : Closed calls issued →
    Closed (calls ++ opening statements ++ [.commitTransaction])
      (issued ++ [.sqlTransaction ⟨statements⟩])
  | rolledBack {calls issued} (statements : List α) : Closed calls issued →
    Closed (calls ++ opening statements ++ [.rollbackTransaction]) issued
  | commitNothing {calls issued} : Closed calls issued → Closed (calls ++ [.commitTransaction]) issued
  | rollbackNothing {calls issued} : Closed calls issued → Closed (calls ++ [.rollbackTransaction]) issued

/-- What a thread puts in the queue; the statements of a transaction that is open are not in it yet. -/
inductive Issues (calls : List (Call α)) (issued : List (SqlOperation α)) : Prop where
  | closed : Closed calls issued → Issues calls issued
  | opened (before : List (Call α)) (statements : List α) : calls = before ++ opening statements →
    Closed before issued → Issues calls issued

/-- No thread begins a transaction while one of its own is open. -/
def Disciplined [DecidableEq τ] (history : List (τ × Call α)) : Prop :=
  ∀ before t after, history = before ++ (t, .beginTransaction) :: after →
    ∀ calls statements, own t before ≠ calls ++ opening statements

section own

variable [DecidableEq τ] {β : Type v}

/-- The entries of a thread in two lists. -/
lemma own_append (t : τ) (entries entries' : List (τ × β)) :
    own t (entries ++ entries') = own t entries ++ own t entries' := by
  rw [own, List.filter_append, List.map_append, own, own]

/-- An entry of the thread is its own. -/
lemma own_self (t : τ) (b : β) : own t [(t, b)] = [b] := by
  simp only [own, List.filter_cons, decide_true, if_true, List.filter_nil, List.map_cons, List.map_nil]

/-- An entry of another thread is not its own. -/
lemma own_of_ne {t u : τ} (ne : t ≠ u) (b : β) : own u [(t, b)] = [] := by
  simp only [own, List.filter_cons, ne, decide_false, Bool.false_eq_true, if_false, List.filter_nil,
    List.map_nil]

/-- What one thread adds is its own and nobody else's. -/
lemma own_map_pair_self (t : τ) (bs : List β) : own t (bs.map (Prod.mk t)) = bs := by
  induction bs with
  | nil => rfl
  | cons b bs ih =>
    rw [List.map_cons, ← List.singleton_append, own_append, own_self, ih]
    rfl

/-- The entries of another thread are not its own. -/
lemma own_map_pair_of_ne {t u : τ} (ne : t ≠ u) (bs : List β) : own u (bs.map (Prod.mk t)) = [] := by
  induction bs with
  | nil => rfl
  | cons b bs ih =>
    rw [List.map_cons, ← List.singleton_append, own_append, own_of_ne ne, ih]
    rfl

end own

/-- The entry of a thread in the map agrees with its calls and with what it has issued. -/
def Tracks (calls : List (Call α)) (issued : List (SqlOperation α)) : Option (Option (SqlTransaction α)) → Prop
  | some (some transaction) => ∃ before, calls = before ++ opening transaction.m_queue ∧ Closed before issued
  | _ => Closed calls issued

/-- What is tracked gives the property of the calls. -/
lemma Tracks.issues {calls : List (Call α)} {issued : List (SqlOperation α)}
    {entry : Option (Option (SqlTransaction α))} (h : Tracks calls issued entry) : Issues calls issued := by
  cases entry with
  | none => exact Issues.closed h
  | some pointer =>
    cases pointer with
    | none => exact Issues.closed h
    | some transaction =>
      obtain ⟨before, split, closed⟩ := h
      exact Issues.opened before transaction.m_queue split closed

/-- One more statement in an open transaction. -/
lemma opening_append (statements : List α) (sql : α) :
    opening (statements ++ [sql]) = opening statements ++ [.execute sql] := by
  simp only [opening, List.map_append, List.map_cons, List.map_nil, List.cons_append]

namespace DatabaseMysql

variable [DecidableEq τ]

/-- What a call of one thread does: it adds to the queue and changes the thread's own entry. -/
structure Called (db db' : DatabaseMysql τ α) (t : τ) (c : Call α) (added : List (SqlOperation α)) : Prop where
  queue : db'.m_sqlQueue = db.m_sqlQueue ++ added
  others : ∀ u, t ≠ u → db'.m_tranQueues u = db.m_tranQueues u
  tracks : ∀ calls issued, (∀ before statements, c = .beginTransaction → calls ≠ before ++ opening statements) →
    Tracks calls issued (db.m_tranQueues t) → Tracks (calls ++ [c]) (issued ++ added) (db'.m_tranQueues t)

omit [DecidableEq τ] in
/-- A call outside of a transaction leaves all entries as they are. -/
lemma called_closed {db db' : DatabaseMysql τ α} {t : τ} {c : Call α} {added : List (SqlOperation α)}
    (outside : ∀ transaction, db.m_tranQueues t ≠ some (some transaction))
    (queue : db'.m_sqlQueue = db.m_sqlQueue ++ added) (same : db'.m_tranQueues = db.m_tranQueues)
    (closes : ∀ {calls issued}, Closed calls issued → Closed (calls ++ [c]) (issued ++ added)) :
    Called db db' t c added := by
  refine ⟨queue, fun u _ => congrFun same u, fun calls issued _ => ?_⟩
  rw [same]
  cases entry : db.m_tranQueues t with
  | none => exact closes
  | some pointer =>
    cases pointer with
    | none => exact closes
    | some transaction => exact absurd entry (outside transaction)

/-- A statement is queued, or joins the transaction of its thread. -/
lemma called_execute (db : DatabaseMysql τ α) (t : τ) (sql : α) :
    ∃ added, Called db (db.execute t sql).2 t (.execute sql) added := by
  simp only [execute]
  split
  case h_1 transaction entry =>
    refine ⟨[], (List.append_nil _).symm, fun u ne => Function.update_of_ne ne.symm _ _, ?_⟩
    simp only [setTransaction, Function.update_self, List.append_nil, entry]
    rintro _ issued - ⟨before, rfl, closed⟩
    refine ⟨before, ?_, closed⟩
    rw [SqlTransaction.delayExecute, opening_append, List.append_assoc]
  case h_2 outside => exact ⟨_, called_closed outside rfl rfl (Closed.execute sql)⟩

/-- A transaction is opened for its thread. -/
lemma called_beginTransaction (db : DatabaseMysql τ α) (t : τ) :
    ∃ added, Called db (db.beginTransaction t).2 t .beginTransaction added := by
  refine ⟨[], ?_, ?_, ?_⟩
  all_goals simp only [beginTransaction, setTransaction, List.append_nil, Function.update_self]
  · intro u ne
    exact Function.update_of_ne ne.symm _ _
  · intro calls issued allowed tracks
    refine ⟨calls, rfl, ?_⟩
    cases tracks.issues with
    | closed closed => exact closed
    | opened before statements split => exact absurd split (allowed before statements trivial)

/-- A commit issues the transaction of its thread. -/
lemma called_commitTransaction (db : DatabaseMysql τ α) (t : τ) :
    ∃ added, Called db (db.commitTransaction t).2 t .commitTransaction added := by
  simp only [commitTransaction]
  split
  case h_1 transaction entry =>
    refine ⟨[.sqlTransaction transaction], rfl, fun u ne => Function.update_of_ne ne.symm _ _, ?_⟩
    simp only [setTransaction, Function.update_self, entry]
    rintro _ issued - ⟨before, rfl, closed⟩
    exact Closed.committed transaction.m_queue closed
  case h_2 outside =>
    refine ⟨[], called_closed outside (List.append_nil _).symm rfl fun closed => ?_⟩
    rw [List.append_nil]
    exact Closed.commitNothing closed

/-- A rollback drops the transaction of its thread. -/
lemma called_rollbackTransaction (db : DatabaseMysql τ α) (t : τ) :
    ∃ added, Called db (db.rollbackTransaction t).2 t .rollbackTransaction added := by
  simp only [rollbackTransaction]
  split
  case h_1 transaction entry =>
    refine ⟨[], (List.append_nil _).symm, fun u ne => Function.update_of_ne ne.symm _ _, ?_⟩
    simp only [setTransaction, Function.update_self, List.append_nil, entry]
    rintro _ issued - ⟨before, rfl, closed⟩
    exact Closed.rolledBack transaction.m_queue closed
  case h_2 outside =>
    refine ⟨[], called_closed outside (List.append_nil _).symm rfl fun closed => ?_⟩
    rw [List.append_nil]
    exact Closed.rollbackNothing closed

/-- A call adds to the queue and changes the entry of its own thread only. -/
lemma called (db : DatabaseMysql τ α) (t : τ) (c : Call α) : ∃ added, Called db (db.call t c).2 t c added := by
  cases c with
  | execute sql => exact db.called_execute t sql
  | beginTransaction => exact db.called_beginTransaction t
  | commitTransaction => exact db.called_commitTransaction t
  | rollbackTransaction => exact db.called_rollbackTransaction t

/-- One more call comes last. -/
lemma run_append (history : List (τ × Call α)) (t : τ) (c : Call α) :
    run (history ++ [(t, c)]) = ((run history).call t c).2 := by
  rw [run, List.foldl_append, run]
  rfl

end DatabaseMysql

/-- The beginning of a disciplined history is disciplined. -/
lemma Disciplined.init [DecidableEq τ] {history : List (τ × Call α)} {last : τ × Call α}
    (h : Disciplined (history ++ [last])) : Disciplined history := by
  intro before t after split
  apply h before t (after ++ [last])
  rw [split, List.append_assoc, List.cons_append]

/-- A call may come next that is no `BeginTransaction` or that of a thread outside a transaction. -/
lemma Disciplined.snoc [DecidableEq τ] {history : List (τ × Call α)} (h : Disciplined history) {t : τ}
    {c : Call α} (allowed : c = .beginTransaction → ∀ calls statements, own t history ≠ calls ++ opening statements) :
    Disciplined (history ++ [(t, c)]) := by
  intro before u after split
  induction after using List.reverseRecOn with
  | nil =>
    obtain ⟨rfl, last⟩ := List.append_inj' split rfl
    cases last
    exact allowed rfl
  | append_singleton after last _ =>
    rw [← List.cons_append, ← List.append_assoc] at split
    exact h before u after (List.append_inj' split rfl).1

/-- A history without calls is disciplined. -/
lemma disciplined_nil [DecidableEq τ] : Disciplined ([] : List (τ × Call α)) := by
  intro before t after split
  cases before <;> cases split

/-- A thread that never began a transaction is in none. -/
lemma ne_opening {calls : List (Call α)} (never : .beginTransaction ∉ calls) (before : List (Call α))
    (statements : List α) : calls ≠ before ++ opening statements := by
  rintro rfl
  exact never (List.mem_append_right _ List.mem_cons_self)

namespace DatabaseMysql

variable [DecidableEq τ]

/-- The queue is an interleaving of what the threads issue, and the map holds their open transactions. -/
lemma tracks_of_disciplined {history : List (τ × Call α)} (disciplined : Disciplined history) :
    ∃ entries : List (τ × SqlOperation α), (run history).m_sqlQueue = entries.map Prod.snd ∧
      ∀ t, Tracks (own t history) (own t entries) ((run history).m_tranQueues t) := by
  induction history using List.reverseRecOn with
  | nil => exact ⟨[], rfl, fun t => Closed.nil⟩
  | append_singleton history last ih =>
    obtain ⟨entries, queue, tracks⟩ := ih disciplined.init
    obtain ⟨t, c⟩ := last
    obtain ⟨added, called⟩ := (run history).called t c
    rw [run_append]
    refine ⟨entries ++ added.map (Prod.mk t), ?_, fun u => ?_⟩
    · rw [called.queue, queue, List.map_append, List.map_map]
      exact congrArg (_ ++ ·) (List.map_id added).symm
    · rw [own_append, own_append]
      by_cases same : t = u
      · subst same
        rw [own_self, own_map_pair_self]
        apply called.tracks _ _ _ (tracks t)
        rintro before statements rfl
        exact disciplined history t [] rfl before statements
      · rw [own_of_ne same, own_map_pair_of_ne same, called.others u same, List.append_nil, List.append_nil]
        exact tracks u

/-- The delay queue is an interleaving of what the threads issue by their own calls. -/
theorem issues_of_disciplined {history : List (τ × Call α)} (disciplined : Disciplined history) :
    ∃ entries : List (τ × SqlOperation α), (run history).m_sqlQueue = entries.map Prod.snd ∧
      ∀ t, Issues (own t history) (own t entries) := by
  obtain ⟨entries, queue, tracks⟩ := tracks_of_disciplined disciplined
  exact ⟨entries, queue, fun t => (tracks t).issues⟩

/-- Two threads, one in a transaction while the other one executes a statement and begins its own. -/
def twoThreads : List (Nat × Call Nat) :=
  [(1, .beginTransaction), (2, .execute 7), (1, .execute 8), (2, .beginTransaction), (2, .execute 9),
    (1, .commitTransaction), (2, .rollbackTransaction)]

/-- Each thread finds its own operations in the queue. -/
theorem issues_twoThreads :
    ∃ entries : List (Nat × SqlOperation Nat), (run twoThreads).m_sqlQueue = entries.map Prod.snd ∧
      ∀ t, Issues (own t twoThreads) (own t entries) := by
  have first : Disciplined ([] ++ [((1 : Nat), (Call.beginTransaction : Call Nat))]) :=
    disciplined_nil.snoc fun _ => ne_opening (by decide)
  have second := ((first.snoc (t := 2) (c := .execute 7) (by simp)).snoc (t := 1) (c := .execute 8) (by simp)).snoc
    (t := 2) (c := .beginTransaction) fun _ => ne_opening (by decide)
  have third := ((second.snoc (t := 2) (c := .execute 9) (by simp)).snoc (t := 1) (c := .commitTransaction)
    (by simp)).snoc (t := 2) (c := .rollbackTransaction) (by simp)
  exact issues_of_disciplined third

example : (run twoThreads).m_sqlQueue = [.sqlStatement 7, .sqlTransaction ⟨[8]⟩] := by decide

end DatabaseMysql

end Legacy.Sql
