import Legacy.Wire.Fields
import Legacy.Wire.Items

/-!
# Strings in a byte buffer

`Encoding::Encode` of a string (`src/src/shared/Encoding.cpp`) and the operators of `ByteBuffer` for strings
(`src/src/shared/ByteBuffer.h`). A string is written without a terminator, and read up to a zero byte or the end of
the buffer. The character `0xAD` has the wire form zero, where the reader stops and a second encoding does too: a
string comes back from a buffer, or from its encoding, exactly when it has no such character and the encoder's `int`
can count its characters (`comesBack_iff`).
-/

namespace Legacy.Wire
open Legacy.Lib

namespace ByteBuffer

/-- The loop of `Encoding::Encode`, from its character `i` on; without a result its `int` overflows. -/
def encodeLoop (i : Nat) : List UInt8 → Option (List UInt8)
  | [] => some []
  | c :: cs =>
    -- the test sees the characters not yet encoded, never a zero that the encoding made
    if c = 0 then some (c :: cs)
    else if i + 1 < 2 ^ 31 then (encodeLoop (i + 1) cs).map (encodeByte c :: ·)
    else none

/-- An encoded string (source `Encoding::Encode(const std::string)`). -/
def encodeString (str : List UInt8) : Option (List UInt8) := encodeLoop 0 str

/-- source `ByteBuffer::operator<<(const std::string&)` -/
def writeString (b : ByteBuffer) (value : List UInt8) : Option (Except Fault ByteBuffer) :=
  (encodeString value).map fun e => b.appendBytes (e.take value.length)

/-- A string written behind the contents of a buffer is read from there. -/
def ReadsBack (b : ByteBuffer) (s : List UInt8) : Prop :=
  ∃ b' r, b.writeString s = some (.ok b') ∧ readString { b' with rpos := b.size } = .ok (s, r)

/-- A string is the encoding of its encoding. -/
def EncodesBack (s : List UInt8) : Prop := encodeString s >>= encodeString = some s

/-- Only one character has the wire form zero. -/
lemma encodeByte_eq_zero {c : UInt8} : encodeByte c = 0 ↔ c = 0xAD := by
  constructor
  · intro zero
    calc c = encodeByte (encodeByte c) := (encodeByte_encodeByte c).symm
      _ = encodeByte 0 := by rw [zero]
      _ = 0xAD := rfl
  · rintro rfl
    rfl

/-- The zero byte comes from `0xAD` when it is encoded. -/
lemma zero_mem_map {s : List UInt8} : 0 ∈ s.map encodeByte ↔ 0xAD ∈ s := by
  rw [List.mem_map]
  constructor
  · rintro ⟨c, mem, zero⟩
    rwa [encodeByte_eq_zero.mp zero] at mem
  · intro mem
    exact ⟨0xAD, mem, rfl⟩

/-- Encoding twice leaves the bytes. -/
lemma map_encodeByte (s : List UInt8) : (s.map encodeByte).map encodeByte = s := by
  have twice : encodeByte ∘ encodeByte = id := funext encodeByte_encodeByte
  rw [List.map_map, twice, List.map_id]

/-- Without a zero, every character is encoded, as far as the counter goes. -/
lemma encodeLoop_eq {s : List UInt8} (nul : 0 ∉ s) (i : Nat) (fits : i < 2 ^ 31) :
    encodeLoop i s = if i + s.length < 2 ^ 31 then some (s.map encodeByte) else none := by
  induction s generalizing i with
  | nil => rw [encodeLoop, List.length_nil, Nat.add_zero, if_pos fits, List.map_nil]
  | cons c cs ih =>
    obtain ⟨ne, nul'⟩ := List.ne_and_not_mem_of_not_mem_cons nul
    rw [encodeLoop, if_neg (Ne.symm ne), List.length_cons, List.map_cons]
    by_cases next : i + 1 < 2 ^ 31
    · rw [if_pos next, ih nul' (i + 1) next, Nat.add_right_comm, Nat.add_assoc]
      split
      · rfl
      · rfl
    · rw [if_neg next, if_neg (by omega)]

/-- A string without a zero byte is encoded whole, while its length fits. -/
lemma encodeString_eq {s : List UInt8} (nul : 0 ∉ s) :
    encodeString s = if s.length < 2 ^ 31 then some (s.map encodeByte) else none := by
  rw [encodeString, encodeLoop_eq nul 0 (by decide), Nat.zero_add]

/-- A zero stays where the loop stops. -/
lemma zero_mem_encodeLoop {s e : List UInt8} {i : Nat} (run : encodeLoop i s = some e) (mem : 0 ∈ s) : 0 ∈ e := by
  induction s generalizing i e with
  | nil => exact absurd mem List.not_mem_nil
  | cons c cs ih =>
    rw [encodeLoop] at run
    split at run
    · cases run
      exact mem
    · next ne =>
      split at run
      · obtain ⟨e', run', rfl⟩ := Option.map_eq_some_iff.mp run
        obtain zero | mem' := List.mem_cons.mp mem
        · exact absurd zero.symm ne
        · exact List.mem_cons_of_mem _ (ih run' mem')
      · cases run

/-- What the reader returns ends before a zero. -/
lemma length_stringLoop_lt {s : List UInt8} (mem : 0 ∈ s) : (stringLoop s).1.length < s.length := by
  induction s with
  | nil => exact absurd mem List.not_mem_nil
  | cons c cs ih =>
    rw [stringLoop]
    split
    · exact Nat.zero_lt_succ _
    · next ne =>
      obtain zero | mem' := List.mem_cons.mp mem
      · exact absurd zero.symm ne
      · exact Nat.succ_lt_succ (ih mem')

/-- Without a zero, every byte is decoded. -/
lemma stringLoop_eq {s : List UInt8} (nul : 0 ∉ s) : stringLoop s = (s.map encodeByte, s.length) := by
  induction s with
  | nil => rfl
  | cons c cs ih =>
    obtain ⟨ne, nul'⟩ := List.ne_and_not_mem_of_not_mem_cons nul
    rw [stringLoop, if_neg (Ne.symm ne), ih nul', List.map_cons, List.length_cons]

/-- A string is its encoding's encoding when nothing in it becomes a zero. -/
lemma encodesBack_iff {s : List UInt8} (nul : 0 ∉ s) : EncodesBack s ↔ 0xAD ∉ s ∧ s.length < 2 ^ 31 := by
  rw [EncodesBack, encodeString_eq nul]
  split
  · next fits =>
    constructor
    · intro twice
      refine ⟨fun mem => ?_, fits⟩
      exact nul (zero_mem_encodeLoop twice (zero_mem_map.mpr mem))
    · rintro ⟨mask, -⟩
      have nul' : 0 ∉ s.map encodeByte := fun mem => mask (zero_mem_map.mp mem)
      calc encodeString (s.map encodeByte)
          = some ((s.map encodeByte).map encodeByte) := by
            rw [encodeString_eq nul', List.length_map, if_pos fits]
        _ = some s := by rw [map_encodeByte]
  · next long =>
    constructor
    · intro twice
      cases twice
    · rintro ⟨-, fits⟩
      exact absurd fits long

/-- A string is written with all its characters encoded. -/
lemma writeString_ok {b : ByteBuffer} (atEnd : b.AtEnd) (room : b.size < 10000000) {s : List UInt8} (nul : 0 ∉ s)
    (fits : s.length < 2 ^ 31) :
    b.writeString s = some (.ok ⟨b.storage ++ s.map encodeByte, b.rpos, b.wpos + s.length⟩) := by
  have all : (s.map encodeByte).take s.length = s.map encodeByte :=
    List.take_of_length_le (Nat.le_of_eq (List.length_map _))
  rw [writeString, encodeString_eq nul, if_pos fits, Option.map_some, all, appendBytes_ok atEnd room,
    List.length_map]

/-- A string is read back when nothing in it becomes a zero. -/
lemma readsBack_iff {b : ByteBuffer} (atEnd : b.AtEnd) (room : b.size < 10000000) {s : List UInt8} (nul : 0 ∉ s) :
    b.ReadsBack s ↔ 0xAD ∉ s ∧ s.length < 2 ^ 31 := by
  constructor
  · rintro ⟨b', r, written, same⟩
    have fits : s.length < 2 ^ 31 := by
      by_contra long
      rw [writeString, encodeString_eq nul, if_neg long] at written
      cases written
    refine ⟨fun mem => ?_, fits⟩
    have shorter := length_stringLoop_lt (zero_mem_map.mpr mem)
    rw [writeString_ok atEnd room nul fits] at written
    cases written
    rw [readString, size, List.drop_left] at same
    have whole : (stringLoop (s.map encodeByte)).1 = s := congrArg Prod.fst (Except.ok.inj same)
    rw [whole, List.length_map] at shorter
    exact Nat.lt_irrefl _ shorter
  · rintro ⟨mask, fits⟩
    have nul' : 0 ∉ s.map encodeByte := fun mem => mask (zero_mem_map.mp mem)
    have written := writeString_ok atEnd room nul fits
    refine ⟨_, ⟨b.storage ++ s.map encodeByte, b.size + s.length, b.wpos + s.length⟩, written, ?_⟩
    rw [readString, size, List.drop_left, stringLoop_eq nul', map_encodeByte, List.length_map]

/-- The program leaves no gap behind what it writes. -/
def KeepsEnd (write : ByteBuffer → Except Fault ByteBuffer) : Prop :=
  ∀ b b' : ByteBuffer, b.AtEnd → write b = .ok b' → b'.AtEnd

/-- A plain value keeps the end. -/
lemma keepsEnd_append (w : Width) (value : Nat) : KeepsEnd (fun b => b.append w value) := by
  intro b b' atEnd run
  by_cases room : b.size < 10000000
  · obtain rfl := Except.ok.inj ((append_ok atEnd room w value).symm.trans run)
    rw [AtEnd, size, List.length_append, length_toBytes, atEnd, size]
  · have some : (toBytes w.sizeof value).length ≠ 0 := by
      rw [length_toBytes]
      cases w <;> decide
    have failed : b.append w value = .error (.full b.size) := by
      rw [append, appendBytes, if_neg some, if_pos room]
    cases failed.symm.trans run

/-- Writers one after the other keep the end. -/
lemma KeepsEnd.bind {first next : ByteBuffer → Except Fault ByteBuffer} (h : KeepsEnd first) (h' : KeepsEnd next) :
    KeepsEnd (fun b => first b >>= next) := by
  intro b b' atEnd run
  obtain ⟨b₁, run₁, run₂⟩ := bind_eq_ok.mp run
  exact h' b₁ b' (h b b₁ atEnd run₁) run₂

/-- Elements keep the end. -/
lemma keepsEnd_writeElements {α : Type} {write : α → ByteBuffer → Except Fault ByteBuffer}
    (h : ∀ x, KeepsEnd (write x)) (xs : List α) : KeepsEnd (writeElements write xs) := by
  induction xs with
  | nil =>
    intro b b' atEnd run
    cases run
    exact atEnd
  | cons x xs ih => exact (h x).bind ih

/-- A value keeps the end. -/
lemma keepsEnd_writeValue (t : ItemType) (value : Value t) : KeepsEnd (writeValue t value) := by
  induction t with
  | bool => exact keepsEnd_append .uint8 _
  | unsigned w | signed w => exact keepsEnd_append w _
  | vector t ih | list t ih => exact (keepsEnd_append .uint32 _).bind (keepsEnd_writeElements ih _)
  | map k v ihk ihv =>
    have entry (i : Value k × Value v) := (ihk i.1).bind (ihv i.2)
    exact (keepsEnd_append .uint32 _).bind (keepsEnd_writeElements entry _)

/-- A string behind any items is read back as it was, and is the encoding of its encoding, exactly when it has no
character whose wire form is zero and the encoder can count it. (A `float` or a `double` before it is appended as the
signed integer of the same bits is.) -/
theorem comesBack_iff {items : List Item} {b : ByteBuffer} (written : writeItems items clear = .ok b)
    (room : b.size < 10000000) {s : List UInt8} (nul : 0 ∉ s) :
    b.ReadsBack s ∧ EncodesBack s ↔ 0xAD ∉ s ∧ s.length < 2 ^ 31 := by
  have atEnd : b.AtEnd :=
    keepsEnd_writeElements (fun item : Item => keepsEnd_writeValue item.1 item.2) items clear b rfl written
  rw [readsBack_iff atEnd room nul, encodesBack_iff nul, and_self]

/-- A truth value before the string `Hi`. -/
theorem comesBack_hi : (⟨[1], 0, 1⟩ : ByteBuffer).ReadsBack [72, 105] ∧ EncodesBack [72, 105] := by
  have written : writeItems [⟨.bool, true⟩] clear = .ok ⟨[1], 0, 1⟩ := rfl
  exact (comesBack_iff written (by decide) (by decide)).mpr (by decide)

/-- The character `0xAD` alone, in an empty buffer, is neither read back nor decoded. -/
theorem not_comesBack : writeItems [] clear = .ok clear ∧ ¬ clear.ReadsBack [0xAD] ∧ ¬ EncodesBack [0xAD] := by
  refine ⟨rfl, ?_, ?_⟩
  · rintro ⟨b', r, written, same⟩
    cases written
    cases same
  · rw [EncodesBack]
    decide

end ByteBuffer

end Legacy.Wire
