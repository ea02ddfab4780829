import Legacy.Lib.LittleEndian

/-!
# Readers

A reader takes symbols from the front of a list, or refuses. `Reads r xs b` says that it takes exactly `xs` and
returns `b`, whatever follows, and `Ends r xs b` that it does so when nothing follows; the rules are those of the
programs that readers are written as. A reader that is repeated until its input is exhausted gives back the
messages whose frames it is given (`ends_exhaust`), and so does one behind a length (`reads_region`).
-/

namespace Legacy.Lib

/-- Takes symbols from the front of a list and returns a value, or refuses. -/
abbrev Reader (α β : Type) := StateT (List α) Option β

/-- The reader takes exactly `xs` and returns `b`, whatever follows. -/
def Reads {α β : Type} (r : Reader α β) (xs : List α) (b : β) : Prop := ∀ rest, r (xs ++ rest) = some (b, rest)

/-- The reader takes all of `xs` and returns `b`. -/
def Ends {α β : Type} (r : Reader α β) (xs : List α) (b : β) : Prop := r xs = some (b, [])

namespace Reader

variable {α β γ μ : Type}

/-- The next `n` symbols. -/
def take (n : Nat) : Reader α (List α) := fun xs => if n ≤ xs.length then some (xs.take n, xs.drop n) else none

/-- A little-endian word of `w` bytes. -/
def word (w : Nat) : Reader UInt8 Nat := ofBytes <$> take w

/-- As many values as a count says. -/
def times (r : Reader α β) : Nat → Reader α (List β)
  | 0 => pure []
  | n + 1 => do
    let b ← r
    (b :: ·) <$> times r n

/-- Values until the input is exhausted, at most `n`. -/
def exhaustFor (r : Reader α β) : Nat → Reader α (List β)
  | _, [] => some ([], [])
  | 0, _ :: _ => none
  | n + 1, x :: xs => do
    let (b, rest) ← r (x :: xs)
    let (bs, rest) ← exhaustFor r n rest
    return (b :: bs, rest)

/-- Values until the input is exhausted; each of them has a symbol of its own. -/
def exhaust (r : Reader α β) : Reader α (List β) := fun xs => exhaustFor r xs.length xs

/-- What a reader returns on exactly the bytes that a length of `w` bytes counts. -/
def region (w : Nat) (r : Reader UInt8 β) : Reader UInt8 β := do
  let n ← word w
  let bs ← take n
  match r bs with
  | some (b, []) => return b
  | _ => failure

variable {r : Reader α β} {xs ys : List α} {b : β}

/-- A value is read from nothing. -/
lemma reads_pure (b : β) : Reads (pure b : Reader α β) [] b := fun _ => rfl

/-- Two values are read one behind the other. -/
lemma reads_bind {k : β → Reader α γ} {c : γ} (first : Reads r xs b) (next : Reads (k b) ys c) :
    Reads (r >>= k) (xs ++ ys) c := by
  intro rest
  rw [List.append_assoc]
  have read := first (ys ++ rest)
  calc (r >>= k) (xs ++ (ys ++ rest)) = (r (xs ++ (ys ++ rest))).bind fun p => k p.1 p.2 := rfl
    _ = k b (ys ++ rest) := by rw [read, Option.bind_some]
    _ = some (c, rest) := next rest

/-- A function of what is read. -/
lemma reads_map (f : β → γ) (read : Reads r xs b) : Reads (f <$> r) xs (f b) := by
  intro rest
  calc (f <$> r) (xs ++ rest) = (r (xs ++ rest)).bind fun p => some (f p.1, p.2) := rfl
    _ = some (f b, rest) := by rw [read rest, Option.bind_some]

/-- What is read in front of any rest is read at the end. -/
lemma Reads.ends (read : Reads r xs b) : Ends r xs b := by
  have all := read []
  rwa [List.append_nil] at all

/-- A value is read before the end. -/
lemma ends_bind {k : β → Reader α γ} {c : γ} (first : Reads r xs b) (next : Ends (k b) ys c) :
    Ends (r >>= k) (xs ++ ys) c := by
  calc (r >>= k) (xs ++ ys) = (r (xs ++ ys)).bind fun p => k p.1 p.2 := rfl
    _ = k b ys := by rw [first ys, Option.bind_some]
    _ = some (c, []) := next

/-- A function of what is read at the end. -/
lemma ends_map (f : β → γ) (read : Ends r xs b) : Ends (f <$> r) xs (f b) := by
  calc (f <$> r) xs = (r xs).bind fun p => some (f p.1, p.2) := rfl
    _ = some (f b, []) := by rw [read, Option.bind_some]

/-- As many elements as are asked for. -/
lemma reads_take (xs : List α) : Reads (take xs.length) xs xs := by
  intro rest
  rw [take, if_pos (by rw [List.length_append]; exact Nat.le_add_right ..), List.take_left, List.drop_left]

/-- A word is read modulo its width. -/
lemma reads_word (w n : Nat) : Reads (word w) (toBytes w n) (n % 256 ^ w) := by
  have read := reads_map ofBytes (reads_take (toBytes w n))
  rw [length_toBytes, ofBytes_toBytes_mod] at read
  exact read

/-- As many values as are asked for. -/
lemma reads_times {frame : μ → List α} {out : μ → β} {ms : List μ}
    (read : ∀ m ∈ ms, Reads r (frame m) (out m)) :
    Reads (times r ms.length) (ms.flatMap frame) (ms.map out) := by
  induction ms with
  | nil => exact reads_pure []
  | cons m ms ih =>
    obtain ⟨first, others⟩ := List.forall_mem_cons.mp read
    exact reads_bind first (reads_map (out m :: ·) (ih others))

/-- The bound is large enough. -/
lemma exhaustFor_flatMap {frame : μ → List α} {out : μ → β} {ms : List μ}
    (read : ∀ m ∈ ms, Reads r (frame m) (out m) ∧ frame m ≠ []) {n : Nat} (le : ms.length ≤ n) :
    exhaustFor r n (ms.flatMap frame) = some (ms.map out, []) := by
  induction ms generalizing n with
  | nil => cases n <;> rfl
  | cons m ms ih =>
    obtain ⟨⟨first, some⟩, others⟩ := List.forall_mem_cons.mp read
    obtain ⟨x, xs, frame_eq⟩ := List.exists_cons_of_ne_nil some
    cases n with
    | zero => cases le
    | succ n =>
      have here := first (ms.flatMap frame)
      rw [frame_eq, List.cons_append] at here
      rw [List.flatMap_cons, frame_eq, List.cons_append]
      calc exhaustFor r (n + 1) (x :: (xs ++ ms.flatMap frame))
          = (r (x :: (xs ++ ms.flatMap frame))).bind fun p =>
              (exhaustFor r n p.2).bind fun q => Option.some (p.1 :: q.1, q.2) := rfl
        _ = Option.some (out m :: ms.map out, []) := by
          rw [here, Option.bind_some, ih others (Nat.le_of_succ_le_succ le), Option.bind_some]

/-- The frames of a list of messages are read back as these messages, up to the end of the input. -/
lemma ends_exhaust {frame : μ → List α} {out : μ → β} {ms : List μ}
    (read : ∀ m ∈ ms, Reads r (frame m) (out m) ∧ frame m ≠ []) :
    Ends (exhaust r) (ms.flatMap frame) (ms.map out) := by
  refine exhaustFor_flatMap read ?_
  induction ms with
  | nil => exact Nat.zero_le _
  | cons m ms ih =>
    obtain ⟨⟨-, some⟩, others⟩ := List.forall_mem_cons.mp read
    have pos := List.length_pos_of_ne_nil some
    have le := ih others
    rw [List.flatMap_cons, List.length_cons, List.length_append]
    omega

/-- The bytes behind their length are read to their end. -/
lemma reads_region {r : Reader UInt8 β} {w : Nat} {body : List UInt8} (fits : body.length < 256 ^ w)
    (read : Ends r body b) : Reads (region w r) (toBytes w body.length ++ body) b := by
  have length := reads_word w body.length
  rw [Nat.mod_eq_of_lt fits] at length
  refine reads_bind length ?_
  have inside : Reads (do
      let bs ← take body.length
      match r bs with
      | some (b, []) => return b
      | _ => failure) (body ++ []) b := by
    refine reads_bind (reads_take body) ?_
    rw [read]
    exact reads_pure b
  rwa [List.append_nil] at inside

end Reader

end Legacy.Lib
