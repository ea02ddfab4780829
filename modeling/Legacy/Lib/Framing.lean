import Mathlib.Data.List.Basic
import Mathlib.Tactic.Common

/-!
# Readers of a byte queue

A reader is a loop over a FIFO of input: each pass either waits, because the queue is too short, or
takes a prefix of the queue and emits one output. `Framer` states what makes such a loop independent
of the way its input was cut into chunks: an emitting pass does not look beyond the prefix it takes
(`emit_append`), and a waiting pass may keep a partial header in its state but loses nothing by
waiting (`wait_append`). The main results are `Framer.drain_append`, `Framer.feedAll_flatten` (chunks
and their concatenation give the same run) and `Framer.feedAll_frames` (the frames of a list of
messages are read back as those messages, with an empty queue).
-/

namespace Legacy.Lib

/-- What one pass of a reading loop does with the loop's state and its queue. -/
inductive Pass (σ α β : Type*) where
  /-- The queue is too short: the loop ends with this state and queue. -/
  | wait (s : σ) (buf : List α)
  /-- One output was produced, and the loop goes on with this state and queue. -/
  | emit (s : σ) (buf : List α) (out : β)

/-- A reading loop whose passes are insensitive to input that arrives later. -/
structure Framer (σ α β : Type*) where
  /-- The body of the loop. -/
  pass : σ → List α → Pass σ α β
  /-- Every output consumes input. -/
  emit_length : ∀ {s buf s' buf' out},
    pass s buf = .emit s' buf' out → buf'.length < buf.length
  /-- An emitting pass emits the same whatever follows in the queue. -/
  emit_append : ∀ {s buf s' buf' out} (more : List α),
    pass s buf = .emit s' buf' out → pass s (buf ++ more) = .emit s' (buf' ++ more) out
  /-- Waiting first and reading later is reading at once. -/
  wait_append : ∀ {s buf s' buf'} (more : List α),
    pass s buf = .wait s' buf' → pass s (buf ++ more) = pass s' (buf' ++ more)

/-- A run of a reader: its state, the queue that is left and the outputs so far. -/
@[ext]
structure Run (σ α β : Type*) where
  /-- The state of the loop between two calls. -/
  state : σ
  /-- The input not consumed yet. -/
  buf : List α
  /-- The outputs, oldest first. -/
  outs : List β

namespace Framer

variable {σ α β : Type*} (F : Framer σ α β)

/-- The loop, bounded to `n` passes. -/
def drainFor : Nat → σ → List α → Run σ α β
  | 0, s, buf => ⟨s, buf, []⟩
  | n + 1, s, buf =>
    match F.pass s buf with
    | .wait s' buf' => ⟨s', buf', []⟩
    | .emit s' buf' out =>
      let r := drainFor n s' buf'
      ⟨r.state, r.buf, out :: r.outs⟩

/-- The loop run until it waits: a queue of length `n` allows at most `n` emitting passes. -/
def drain (s : σ) (buf : List α) : Run σ α β :=
  F.drainFor (buf.length + 1) s buf

/-- One call of the reader: the chunk joins the queue and the loop runs until it waits. -/
def feed (r : Run σ α β) (chunk : List α) : Run σ α β :=
  let d := F.drain r.state (r.buf ++ chunk)
  ⟨d.state, d.buf, r.outs ++ d.outs⟩

/-- Successive calls of the reader, one for each chunk. -/
def feedAll (r : Run σ α β) (chunks : List (List α)) : Run σ α β :=
  chunks.foldl F.feed r

/-- Any bound above the length of the queue gives the same run. -/
lemma drainFor_eq {n m : Nat} {s : σ} {buf : List α} (hn : buf.length < n) (hm : buf.length < m) :
    F.drainFor n s buf = F.drainFor m s buf := by
  induction n generalizing m s buf with
  | zero => omega
  | succ n ih =>
    cases m with
    | zero => omega
    | succ m =>
      simp only [drainFor]
      cases e : F.pass s buf with
      | wait s' buf' => rfl
      | emit s' buf' out =>
        have lt := F.emit_length e
        have eq : F.drainFor n s' buf' = F.drainFor m s' buf' := ih (by omega) (by omega)
        simp only [eq]

/-- The loop on a queue where its first pass waits. -/
lemma drain_wait {s s' : σ} {buf buf' : List α} (e : F.pass s buf = .wait s' buf') :
    F.drain s buf = ⟨s', buf', []⟩ := by
  simp only [drain, drainFor, e]

/-- The loop on a queue where its first pass emits. -/
lemma drain_emit {s s' : σ} {buf buf' : List α} {out : β} (e : F.pass s buf = .emit s' buf' out) :
    F.drain s buf =
      ⟨(F.drain s' buf').state, (F.drain s' buf').buf, out :: (F.drain s' buf').outs⟩ := by
  have lt := F.emit_length e
  have eq : F.drainFor buf.length s' buf' = F.drainFor (buf'.length + 1) s' buf' :=
    F.drainFor_eq lt (by omega)
  simp only [drain, drainFor, e, eq]

/-- Reading a queue in two parts gives the outputs of reading it at once. -/
theorem drain_append (s : σ) (buf more : List α) :
    F.drain s (buf ++ more) =
      ⟨(F.drain (F.drain s buf).state ((F.drain s buf).buf ++ more)).state,
       (F.drain (F.drain s buf).state ((F.drain s buf).buf ++ more)).buf,
       (F.drain s buf).outs ++
        (F.drain (F.drain s buf).state ((F.drain s buf).buf ++ more)).outs⟩ := by
  induction hn : buf.length using Nat.strongRecOn generalizing s buf with
  | _ n ih =>
    cases e : F.pass s buf with
    | wait s' buf' =>
      -- The two loops enter the same pass: the waiting one kept its partial header in `s'`.
      have e' := F.wait_append more e
      rw [F.drain_wait e]
      simp only [drain, drainFor, e', List.nil_append]
      cases e'' : F.pass s' (buf' ++ more) with
      | wait => rfl
      | emit t b out =>
        have lt := F.emit_length e''
        have lt' := F.emit_length (e'.trans e'')
        have eq : F.drainFor (buf ++ more).length t b = F.drainFor (buf' ++ more).length t b :=
          F.drainFor_eq lt' lt
        simp only [eq]
    | emit s' buf' out =>
      have lt := F.emit_length e
      rw [F.drain_emit (F.emit_append more e), F.drain_emit e, ih _ (hn ▸ lt) s' buf' rfl]
      simp only [List.cons_append]

/-- Two chunks in two calls give the run of their concatenation in one call. -/
lemma feed_feed (r : Run σ α β) (c d : List α) :
    F.feed (F.feed r c) d = F.feed r (c ++ d) := by
  have h := F.drain_append r.state (r.buf ++ c) d
  simp only [feed]
  rw [← List.append_assoc r.buf c d, h]
  simp only [List.append_assoc]

/-- A reader that has returned is waiting: calling it without input changes nothing. -/
lemma feed_nil (r : Run σ α β) (chunk : List α) :
    F.feed (F.feed r chunk) [] = F.feed r chunk := by
  rw [F.feed_feed, List.append_nil]

/-- A waiting reader: a call without input leaves it as it is. -/
def Waiting (r : Run σ α β) : Prop := F.feed r [] = r

/-- Chunk independence: the calls for a list of chunks amount to one call for all their bytes. -/
theorem feedAll_flatten {r : Run σ α β} (w : F.Waiting r) (chunks : List (List α)) :
    F.feedAll r chunks = F.feed r chunks.flatten := by
  induction chunks generalizing r with
  | nil => exact w.symm
  | cons c cs ih =>
    have w' : F.Waiting (F.feed r c) := F.feed_nil r c
    calc F.feedAll r (c :: cs) = F.feedAll (F.feed r c) cs := rfl
      _ = F.feed (F.feed r c) cs.flatten := ih w'
      _ = F.feed r (c ++ cs.flatten) := F.feed_feed r c cs.flatten
      _ = F.feed r (c :: cs).flatten := by rw [List.flatten_cons]

section Frames

variable {μ : Type*} {F} {Ready : σ → Prop} {frame : μ → List α} {out : μ → β} {ok : μ → Prop}
  (empty : ∀ s, Ready s → F.pass s [] = .wait s [])
  (read : ∀ s m rest, Ready s → ok m →
    ∃ s', Ready s' ∧ F.pass s (frame m ++ rest) = .emit s' rest (out m))

include empty in
/-- A ready reader waits on an empty queue. -/
lemma waiting_ready {s : σ} (rdy : Ready s) : F.Waiting ⟨s, [], []⟩ := by
  simp only [Waiting, feed, List.append_nil, F.drain_wait (empty s rdy)]

include empty read in
/-- The frames of a list of messages are read back as these messages. -/
lemma drain_frames {s : σ} (rdy : Ready s) (ms : List μ) (hok : ∀ m ∈ ms, ok m) :
    ∃ s', Ready s' ∧ F.drain s (ms.map frame).flatten = ⟨s', [], ms.map out⟩ := by
  induction ms generalizing s with
  | nil => exact ⟨s, rdy, F.drain_wait (empty s rdy)⟩
  | cons m ms ih =>
    obtain ⟨s₁, rdy₁, e⟩ := read s m (ms.map frame).flatten rdy (hok m List.mem_cons_self)
    obtain ⟨s₂, rdy₂, e'⟩ := ih rdy₁ fun m' h => hok m' (List.mem_cons_of_mem _ h)
    refine ⟨s₂, rdy₂, ?_⟩
    rw [List.map_cons, List.flatten_cons, F.drain_emit e, e']
    rfl

include empty read in
/-- The frames of a list of messages, in chunks cut anywhere, are read back as these messages in
order, and the reader ends ready with nothing left in the queue. -/
theorem feedAll_frames {s : σ} (rdy : Ready s) (ms : List μ) (hok : ∀ m ∈ ms, ok m)
    (chunks : List (List α)) (cut : chunks.flatten = (ms.map frame).flatten) :
    ∃ s', Ready s' ∧ F.feedAll ⟨s, [], []⟩ chunks = ⟨s', [], ms.map out⟩ := by
  obtain ⟨s', rdy', e⟩ := drain_frames empty read rdy ms hok
  refine ⟨s', rdy', ?_⟩
  rw [F.feedAll_flatten (waiting_ready empty rdy), cut]
  simp only [feed, List.nil_append, e]

end Frames

end Framer

end Legacy.Lib
