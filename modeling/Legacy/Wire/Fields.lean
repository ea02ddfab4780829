import Legacy.Wire.WorldPacket
import Legacy.Lib.Faulting

/-!
# Fields of a packet

The bodies of most packets are written with `operator<<`, one `uint8` or `uint16` after the other. `writeAll` writes
a list of such fields; on the wire they are the encoded bytes of the list (`writeAll_ok`).
-/

namespace Legacy.Wire
open Legacy.Lib

/-- A field, of at most 32 bits: all of its bytes are encoded. -/
structure Field where
  width : Width
  value : Nat
  narrow : width.sizeof ≤ 4

namespace Field

/-- A `uint8`; the value is cut when it is written. -/
def uint8 (value : Nat) : Field := ⟨.uint8, value, by decide⟩

/-- A `uint16` -/
def uint16 (value : Nat) : Field := ⟨.uint16, value, by decide⟩

/-- The bytes of a field before they are encoded. -/
def bytes (f : Field) : List UInt8 := toBytes f.width.sizeof f.value

/-- A byte is itself. -/
lemma bytes_uint8 (value : Nat) : (uint8 value).bytes = toBytes 1 value := rfl

/-- A word is its two bytes. -/
lemma bytes_uint16 (value : Nat) : (uint16 value).bytes = toBytes 2 value := rfl

/-- Every field has a byte. -/
lemma bytes_length_pos (f : Field) : 0 < f.bytes.length := by
  rw [bytes, length_toBytes]
  cases f.width <;> decide

end Field

namespace ByteBuffer

/-- The low byte of an encoded word is encoded, and the others are an encoded word. -/
lemma toBytes_xor (w x m : Nat) :
    toBytes (w + 1) (x ^^^ (0xAD + 256 * m)) = encodeByte (UInt8.ofNat x) :: toBytes w (x / 256 ^^^ m) := by
  have low : UInt8.ofNat (x ^^^ (0xAD + 256 * m)) = encodeByte (UInt8.ofNat x) := by
    have mask : UInt8.ofNat (0xAD + 256 * m) = UInt8.ofNat 0xAD := by
      apply UInt8.toNat_inj.mp
      rw [UInt8.toNat_ofNat', UInt8.toNat_ofNat']
      omega
    rw [encodeByte, ENCODE, encoder, UInt8.ofNat_xor, UInt8.ofNat_xor, mask, UInt8.ofNat_toNat]
  have high : (x ^^^ (0xAD + 256 * m)) / 256 = x / 256 ^^^ m := by
    have shift : (0xAD + 256 * m) / 2 ^ 8 = m := by omega
    calc (x ^^^ (0xAD + 256 * m)) / 2 ^ 8 = x / 2 ^ 8 ^^^ (0xAD + 256 * m) / 2 ^ 8 := Nat.xor_div_two_pow ..
      _ = x / 256 ^^^ m := by rw [shift]
  rw [toBytes, low, high]

/-- The encoding of a narrow field encodes each of its bytes. -/
lemma toBytes_ENCODE {w : Width} (narrow : w.sizeof ≤ 4) (x : Nat) :
    toBytes w.sizeof (ENCODE w x) = (toBytes w.sizeof x).map encodeByte := by
  cases w with
  | uint8 => exact toBytes_xor 0 x 0
  | uint16 =>
    calc toBytes 2 (x ^^^ 0xADAD) = encodeByte (UInt8.ofNat x) :: toBytes 1 (x / 256 ^^^ 0xAD) := toBytes_xor 1 x 0xAD
      _ = (toBytes 2 x).map encodeByte := by rw [toBytes_xor 0 (x / 256) 0]; rfl
  | uint32 =>
    calc toBytes 4 (x ^^^ 0xADADADAD)
        = encodeByte (UInt8.ofNat x) :: toBytes 3 (x / 256 ^^^ 0xADADAD) := toBytes_xor 3 x 0xADADAD
      _ = (toBytes 4 x).map encodeByte := by
        rw [toBytes_xor 2 (x / 256) 0xADAD, toBytes_xor 1 (x / 256 / 256) 0xAD, toBytes_xor 0 (x / 256 / 256 / 256) 0]
        rfl
  | uint64 => exact absurd narrow (by decide)

/-- A byte is decoded as it is encoded. -/
lemma encodeByte_encodeByte (c : UInt8) : encodeByte (encodeByte c) = c := by
  apply UInt8.toNat_inj.mp
  have lt := ENCODE_lt (w := .uint8) c.toNat_lt
  have low : (encodeByte c).toNat = ENCODE .uint8 c.toNat := UInt8.toNat_ofNat'.trans (Nat.mod_eq_of_lt lt)
  rw [encodeByte, low, ENCODE_ENCODE, UInt8.ofNat_toNat]

/-- Writes one field after the other. -/
def writeAll (b : ByteBuffer) : List Field → Except Fault ByteBuffer
  | [] => .ok b
  | f :: fs => do
    let b ← b.write f.width f.value
    writeAll b fs

/-- A field goes to the end of the buffer, in its wire form. -/
lemma write_ok {b : ByteBuffer} (atEnd : b.AtEnd) (room : b.size < 10000000) (f : Field) :
    b.write f.width f.value =
      .ok ⟨b.storage ++ f.bytes.map encodeByte, b.rpos, b.wpos + f.bytes.length⟩ := by
  rw [write, append_ok atEnd room, toBytes_ENCODE f.narrow, Field.bytes, length_toBytes]

/-- What is appended ends the buffer. -/
lemma atEnd_append {b : ByteBuffer} (atEnd : b.AtEnd) (cs : List UInt8) :
    AtEnd ⟨b.storage ++ cs.map encodeByte, b.rpos, b.wpos + cs.length⟩ := by
  rw [AtEnd, size] at atEnd ⊢
  rw [List.length_append, List.length_map, atEnd]

/-- Fields go to the end of the buffer, in their wire form. -/
lemma writeAll_ok {b : ByteBuffer} (atEnd : b.AtEnd) (fs : List Field)
    (room : b.size + (fs.flatMap Field.bytes).length ≤ 10000000) :
    b.writeAll fs = .ok ⟨b.storage ++ (fs.flatMap Field.bytes).map encodeByte, b.rpos,
      b.wpos + (fs.flatMap Field.bytes).length⟩ := by
  induction fs generalizing b with
  | nil => rw [writeAll, List.flatMap_nil, List.map_nil, List.append_nil, List.length_nil, Nat.add_zero]
  | cons f fs ih =>
    have pos := f.bytes_length_pos
    rw [List.flatMap_cons, List.length_append] at room
    have later := ih (atEnd_append atEnd f.bytes) (by
      rw [size] at *
      rw [List.length_append, List.length_map]
      omega)
    rw [writeAll, write_ok atEnd (by omega), ok_bind, later, List.flatMap_cons, List.map_append, List.append_assoc,
      List.length_append, Nat.add_assoc]

/-- However much is written, the buffer grows by it. -/
lemma writeAll_size {b b' : ByteBuffer} {fs : List Field} (atEnd : b.AtEnd) (run : b.writeAll fs = .ok b') :
    b'.AtEnd ∧ b'.size = b.size + (fs.flatMap Field.bytes).length := by
  induction fs generalizing b with
  | nil =>
    cases run
    exact ⟨atEnd, rfl⟩
  | cons f fs ih =>
    obtain ⟨b₁, first, later⟩ := bind_eq_ok.mp run
    by_cases room : b.size < 10000000
    · rw [write_ok atEnd room] at first
      cases first
      obtain ⟨atEnd', length⟩ := ih (atEnd_append atEnd f.bytes) later
      refine ⟨atEnd', ?_⟩
      rw [length, size, size, List.length_append, List.length_map, List.flatMap_cons, List.length_append,
        Nat.add_assoc]
    · have some : (toBytes f.width.sizeof (ENCODE f.width f.value)).length ≠ 0 := by
        rw [length_toBytes]
        cases f.width <;> decide
      rw [write, append, appendBytes, if_neg some, if_pos room] at first
      cases first

/-- Overwriting keeps the length. -/
lemma put_size {b b' : ByteBuffer} {pos value : Nat} {w : Width} (run : b.put pos w value = .ok b') :
    b'.size = b.size ∧ b'.wpos = b.wpos := by
  rw [put] at run
  split at run
  · next inside =>
    cases run
    rw [size] at inside
    refine ⟨?_, rfl⟩
    rw [size, size, List.length_append, List.length_append, List.length_take, List.length_drop, length_toBytes]
    omega
  · cases run

end ByteBuffer

end Legacy.Wire
