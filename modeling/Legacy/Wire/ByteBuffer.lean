import Legacy.Lib.LittleEndian
import Mathlib.Data.Nat.Bitwise

/-!
# Byte buffers and the wire encoding

Model of `src/src/shared/Encoding.cpp` and `src/src/shared/ByteBuffer.h`. A buffer is its storage
with a read and a write position; values are natural numbers that a `Width` gives a size. Every
access that the source guards with `ASSERT` returns the failed assertion as a `Fault`, so that "the
assertion is unreachable" is the statement that no `Fault` is returned.

The encoding exchanges each word with an all-`0xAD` mask, which makes it its own inverse
(`ENCODE_ENCODE`). The main results are the specifications of `append`, `put` and `read` on buffers
of known contents, and `ByteBuffer.readBytes_encoded`: encoded bytes are read back as they were.
-/

namespace Legacy.Wire
open Legacy.Lib

/-- The fixed-width unsigned integers of the source (source `Common.h`). -/
inductive Width where
  | uint8 | uint16 | uint32 | uint64
  deriving DecidableEq, Repr

/-- The size of an integer in bytes (source `sizeof`). -/
@[simp]
def Width.sizeof : Width → Nat
  | .uint8 => 1
  | .uint16 => 2
  | .uint32 => 4
  | .uint64 => 8

/-- The masks of the encoding (source `UINT8_ENCODER` to `UINT64_ENCODER`; the last one has 32 bits). -/
def encoder : Width → Nat
  | .uint8 => 0xAD
  | .uint16 => 0xADAD
  | .uint32 => 0xADADADAD
  | .uint64 => 0xADADADAD

/-- Encoding of one integer (source `Encoding::Encode`). -/
def ENCODE (w : Width) (x : Nat) : Nat := x ^^^ encoder w

/-- The encoding is its own inverse. -/
@[simp]
lemma ENCODE_ENCODE (w : Width) (x : Nat) : ENCODE w (ENCODE w x) = x := by
  simp only [ENCODE, Nat.xor_assoc, Nat.xor_self, Nat.xor_zero]

/-- A mask has the width of the integers it encodes. -/
lemma encoder_lt (w : Width) : encoder w < 256 ^ w.sizeof := by
  cases w <;> decide

/-- Encoding keeps an integer within its width. -/
lemma ENCODE_lt {w : Width} {x : Nat} (fits : x < 256 ^ w.sizeof) : ENCODE w x < 256 ^ w.sizeof := by
  have base : (256 : Nat) ^ w.sizeof = 2 ^ (8 * w.sizeof) := by
    rw [Nat.pow_mul]
  have mask := encoder_lt w
  rw [base] at fits mask ⊢
  exact Nat.xor_lt_two_pow fits mask

/-- The failed assertions of a byte buffer, with what `PrintPosError` reports. -/
inductive Fault where
  /-- A read of `esize` bytes at `pos` beyond `size` (source `ByteBuffer::read`). -/
  | get (pos size esize : Nat)
  /-- A write of `esize` bytes at `pos` beyond `size` (source `ByteBuffer::put`). -/
  | put (pos size esize : Nat)
  /-- Growing a buffer of ten million bytes or more (source `ByteBuffer::append`). -/
  | full (size : Nat)
  deriving DecidableEq, Repr

/-- A byte buffer (source `class ByteBuffer`). -/
@[ext]
structure ByteBuffer where
  /-- The bytes (source `_storage`). -/
  storage : List UInt8
  /-- Where the next read starts (source `_rpos`). -/
  rpos : Nat
  /-- Where the next appended byte goes (source `_wpos`). -/
  wpos : Nat
  deriving DecidableEq, Repr

namespace ByteBuffer

/-- An empty buffer (source `ByteBuffer::clear`). -/
def clear : ByteBuffer := ⟨[], 0, 0⟩

/-- The number of bytes stored (source `ByteBuffer::size`). -/
def size (b : ByteBuffer) : Nat := b.storage.length

/-- Appends bytes at the write position (source `ByteBuffer::append(const uint8*, size_t)`). -/
def appendBytes (b : ByteBuffer) (src : List UInt8) : Except Fault ByteBuffer :=
  if src.length = 0 then .ok b
  else if ¬ b.size < 10000000 then .error (.full b.size)
  else
    -- `resize` fills what is missing before the copy with zeros
    let storage := b.storage ++ List.replicate (b.wpos + src.length - b.size) 0
    .ok { b with
      storage := storage.take b.wpos ++ src ++ storage.drop (b.wpos + src.length)
      wpos := b.wpos + src.length }

/-- Appends an integer without encoding it (source `ByteBuffer::append<T>`). -/
def append (b : ByteBuffer) (w : Width) (value : Nat) : Except Fault ByteBuffer :=
  b.appendBytes (toBytes w.sizeof value)

/-- Appends an encoded integer (source `ByteBuffer::operator<<`). -/
def write (b : ByteBuffer) (w : Width) (value : Nat) : Except Fault ByteBuffer :=
  b.append w (ENCODE w value)

/-- Overwrites stored bytes with an integer (source `ByteBuffer::put<T>`). -/
def put (b : ByteBuffer) (pos : Nat) (w : Width) (value : Nat) : Except Fault ByteBuffer :=
  if pos + w.sizeof ≤ b.size then
    .ok { b with
      storage := b.storage.take pos ++ toBytes w.sizeof value ++ b.storage.drop (pos + w.sizeof) }
  else .error (.put pos b.size w.sizeof)

/-- The stored integer at a position (source `ByteBuffer::read<T>(size_t)`). -/
def readAt (b : ByteBuffer) (w : Width) (pos : Nat) : Except Fault Nat :=
  if pos + w.sizeof ≤ b.size then .ok (ofBytes ((b.storage.drop pos).take w.sizeof))
  else .error (.get pos b.size w.sizeof)

/-- The stored integer at the read position, which moves past it (source `ByteBuffer::read<T>()`). -/
def readRaw (w : Width) : StateT ByteBuffer (Except Fault) Nat := fun b => do
  let r ← b.readAt w b.rpos
  return (r, { b with rpos := b.rpos + w.sizeof })

/-- The decoded integer at the read position (source `ByteBuffer::operator>>`). -/
def read (w : Width) : StateT ByteBuffer (Except Fault) Nat := do
  let r ← readRaw w
  return ENCODE w r

/-- Decodes the next `n` bytes, one `uint8` after the other. -/
def readBytes : Nat → StateT ByteBuffer (Except Fault) (List UInt8)
  | 0 => pure []
  | n + 1 => do
    let c ← read .uint8
    let cs ← readBytes n
    return UInt8.ofNat c :: cs

/-- A buffer whose storage ends at its write position: what appending alone builds. -/
def AtEnd (b : ByteBuffer) : Prop := b.wpos = b.size

/-- Appending to a buffer written so far without gaps adds the bytes at the end. -/
lemma appendBytes_ok {b : ByteBuffer} (atEnd : b.AtEnd) (room : b.size < 10000000)
    (src : List UInt8) :
    b.appendBytes src =
      .ok ⟨b.storage ++ src, b.rpos, b.wpos + src.length⟩ := by
  simp only [AtEnd, size] at atEnd
  simp only [size] at room
  by_cases h : src.length = 0
  · have nil := List.length_eq_zero_iff.mp h
    simp only [appendBytes, nil, List.length_nil, if_pos, List.append_nil, Nat.add_zero]
  · have grow : b.wpos + src.length - b.storage.length = src.length := by omega
    simp only [appendBytes, size, h, if_false, room, not_true, grow]
    rw [atEnd, List.take_left, List.drop_eq_nil_of_le (by simp), List.append_nil]

/-- Appending an integer adds its bytes at the end. -/
lemma append_ok {b : ByteBuffer} (atEnd : b.AtEnd) (room : b.size < 10000000) (w : Width)
    (value : Nat) :
    b.append w value =
      .ok ⟨b.storage ++ toBytes w.sizeof value, b.rpos, b.wpos + w.sizeof⟩ := by
  rw [append, appendBytes_ok atEnd room, length_toBytes]

/-- Overwriting the middle part of a buffer. -/
lemma put_ok (pre old post : List UInt8) (rpos wpos : Nat) (w : Width) (value : Nat)
    (len : old.length = w.sizeof) :
    put ⟨pre ++ old ++ post, rpos, wpos⟩ pre.length w value =
      .ok ⟨pre ++ toBytes w.sizeof value ++ post, rpos, wpos⟩ := by
  have inside : pre.length + w.sizeof ≤ (pre ++ old ++ post).length := by
    simp only [List.length_append]; omega
  simp only [put, size, inside, if_true]
  rw [List.append_assoc pre old post, List.take_left, ← List.append_assoc pre old post, ← len,
    ← List.length_append, List.drop_left]

/-- Reading an integer that starts at the read position. -/
lemma readRaw_ok (pre post : List UInt8) (wpos : Nat) (w : Width) (value : Nat)
    (fits : value < 256 ^ w.sizeof) :
    readRaw w ⟨pre ++ toBytes w.sizeof value ++ post, pre.length, wpos⟩ =
      .ok (value, ⟨pre ++ toBytes w.sizeof value ++ post, pre.length + w.sizeof, wpos⟩) := by
  have inside : pre.length + w.sizeof ≤ (pre ++ toBytes w.sizeof value ++ post).length := by
    simp only [List.length_append, length_toBytes]; omega
  have here : ((pre ++ toBytes w.sizeof value ++ post).drop pre.length).take w.sizeof
      = toBytes w.sizeof value := by
    rw [List.append_assoc, List.drop_left]
    exact List.take_left' (length_toBytes _ _)
  simp only [readRaw, readAt, size, inside, if_true, here, ofBytes_toBytes fits]
  rfl

/-- Decoding an encoded integer that starts at the read position. -/
lemma read_ok (pre post : List UInt8) (wpos : Nat) (w : Width) (value : Nat)
    (fits : value < 256 ^ w.sizeof) :
    read w ⟨pre ++ toBytes w.sizeof (ENCODE w value) ++ post, pre.length, wpos⟩ =
      .ok (value,
        ⟨pre ++ toBytes w.sizeof (ENCODE w value) ++ post, pre.length + w.sizeof, wpos⟩) := by
  simp only [read, bind, StateT.bind, readRaw_ok _ _ _ _ _ (ENCODE_lt fits), Except.bind, ENCODE_ENCODE]
  rfl

/-- The wire form of a decoded byte. -/
def encodeByte (c : UInt8) : UInt8 := UInt8.ofNat (ENCODE .uint8 c.toNat)

/-- An encoded `uint8` is the wire form of its byte. -/
lemma toBytes_encode (c : UInt8) : toBytes 1 (ENCODE .uint8 c.toNat) = [encodeByte c] := rfl

/-- Reading as many bytes as were encoded gives back the bytes that were written. -/
theorem readBytes_encoded (cs pre post : List UInt8) (wpos : Nat) :
    readBytes cs.length ⟨pre ++ cs.map encodeByte ++ post, pre.length, wpos⟩ =
      .ok (cs, ⟨pre ++ cs.map encodeByte ++ post, pre.length + cs.length, wpos⟩) := by
  induction cs generalizing pre with
  | nil => rfl
  | cons c cs ih =>
    have first := read_ok pre (cs.map encodeByte ++ post) wpos .uint8 c.toNat c.toNat_lt
    have rest := ih (pre ++ [encodeByte c])
    simp only [Width.sizeof, toBytes_encode, List.append_assoc, List.cons_append, List.nil_append,
      List.length_append, List.length_cons, List.length_nil] at first rest
    simp only [readBytes, List.length_cons, List.map_cons, List.append_assoc, List.cons_append,
      bind, StateT.bind, first, Except.bind, rest, UInt8.ofNat_toNat]
    have rpos' : pre.length + (cs.length + 1) = pre.length + 1 + cs.length := by omega
    rw [rpos']
    rfl

end ByteBuffer

end Legacy.Wire
