import Legacy.Wire.ByteBuffer

/-!
# World packets

Model of `src/src/shared/WorldPacket.h`. A packet starts with a fixed two-byte header, a two-byte
length and the opcode byte; `finalize` fills in the length, which counts the opcode and the payload,
and encodes length and opcode. `build_ok` gives the exact wire bytes of a packet made by
`initializeWith`, one `operator<<` for each payload byte, and `finalize`.
-/

namespace Legacy.Wire
open Legacy.Lib

/-- A packet (source `class WorldPacket`). -/
structure WorldPacket where
  /-- The bytes, with the read and write positions (source base class `ByteBuffer`). -/
  buffer : ByteBuffer
  /-- The opcode (source `m_opcode`). -/
  opcode : UInt8
  /-- Whether the header was written (source `m_prepared`). -/
  prepared : Bool
  deriving DecidableEq, Repr

namespace WorldPacket

/-- The magic bytes `59 E9` of every packet (source `WorldPacket::GetHeader`). -/
def getHeader : Nat := 0xE959

/-- The length written before the payload is known (source `WorldPacket::GuessSize`). -/
def guessSize : Nat := 0

/-- Writes the header of a packet once (source `WorldPacket::Prepare`). -/
def prepare (p : WorldPacket) : Except Fault WorldPacket :=
  if p.prepared then .ok p
  else do
    let b ← p.buffer.append .uint16 getHeader
    let b ← b.append .uint16 guessSize
    let b ← b.append .uint8 p.opcode.toNat
    return { p with buffer := b, prepared := true }

/-- Starts a packet (source `WorldPacket::Initialize`). -/
def initializeWith (opcode : UInt8) : Except Fault WorldPacket :=
  prepare ⟨ByteBuffer.clear, opcode, false⟩

/-- Appends encoded bytes, one after the other (source `ByteBuffer::operator<<(uint8)`). -/
def writeBytes (p : WorldPacket) : List UInt8 → Except Fault WorldPacket
  | [] => .ok p
  | c :: cs => do
    let b ← p.buffer.write .uint8 c.toNat
    writeBytes { p with buffer := b } cs

/-- Fills in the length and encodes length and opcode (source `WorldPacket::Finalize`). -/
def finalize (p : WorldPacket) : Except Fault WorldPacket := do
  let (_, b) ← ByteBuffer.readRaw .uint16 p.buffer
  let (cur_sz, b) ← ByteBuffer.readRaw .uint16 b
  let (_, b) ← ByteBuffer.readRaw .uint8 b
  -- the three reads passed, so `size() - 4` does not wrap before it is cut to 16 bits
  let real_sz := (b.size - 4) % 2 ^ 16
  let b ← if cur_sz ≠ real_sz then b.put 2 .uint16 (ENCODE .uint16 real_sz) else .ok b
  let b ← b.put 4 .uint8 (ENCODE .uint8 p.opcode.toNat)
  return { p with buffer := b }

/-- A packet of one opcode and a payload, ready to be sent. -/
def build (opcode : UInt8) (payload : List UInt8) : Except Fault WorldPacket := do
  let p ← initializeWith opcode
  let p ← p.writeBytes payload
  p.finalize

/-- The bytes before the payload on the wire: header, encoded length and encoded opcode. -/
def wireHeader (opcode : UInt8) (length : Nat) : List UInt8 :=
  toBytes 2 getHeader ++ toBytes 2 (ENCODE .uint16 (length + 1)) ++
    toBytes 1 (ENCODE .uint8 opcode.toNat)

/-- What a packet looks like on the wire. -/
def wire (opcode : UInt8) (payload : List UInt8) : List UInt8 :=
  wireHeader opcode payload.length ++ payload.map ByteBuffer.encodeByte

/-- The header takes five bytes. -/
@[simp]
lemma length_wireHeader (opcode : UInt8) (length : Nat) : (wireHeader opcode length).length = 5 := by
  simp only [wireHeader, List.length_append, length_toBytes]

/-- What `initializeWith` leaves in the buffer. -/
lemma initializeWith_ok (opcode : UInt8) :
    initializeWith opcode =
      .ok ⟨⟨toBytes 2 getHeader ++ toBytes 2 guessSize ++ toBytes 1 opcode.toNat, 0, 5⟩,
        opcode, true⟩ := rfl

/-- Appended bytes go to the end of the buffer in their wire form. -/
lemma writeBytes_ok {p : WorldPacket} (atEnd : p.buffer.AtEnd) (cs : List UInt8)
    (room : p.buffer.size + cs.length ≤ 10000000) :
    p.writeBytes cs =
      .ok { p with buffer :=
        ⟨p.buffer.storage ++ cs.map ByteBuffer.encodeByte, p.buffer.rpos,
          p.buffer.wpos + cs.length⟩ } := by
  induction cs generalizing p with
  | nil => simp only [writeBytes, List.map_nil, List.append_nil, List.length_nil, Nat.add_zero]
  | cons c cs ih =>
    simp only [List.length_cons] at room
    have one : p.buffer.write .uint8 c.toNat = .ok
        ⟨p.buffer.storage ++ [ByteBuffer.encodeByte c], p.buffer.rpos, p.buffer.wpos + 1⟩ :=
      ByteBuffer.append_ok atEnd (by omega) .uint8 _
    have next := ih
      (p := { p with buffer :=
        ⟨p.buffer.storage ++ [ByteBuffer.encodeByte c], p.buffer.rpos, p.buffer.wpos + 1⟩ })
      (by simp only [ByteBuffer.AtEnd, ByteBuffer.size, List.length_append] at atEnd ⊢
          simp only [atEnd, List.length_singleton])
      (by simp only [ByteBuffer.size, List.length_append, List.length_singleton] at room ⊢; omega)
    simp only [writeBytes, one, bind, Except.bind, next, List.map_cons, List.append_assoc,
      List.cons_append, List.nil_append, List.length_cons, Nat.add_assoc, Nat.add_comm 1]

/-- `finalize` replaces the guessed length and the opcode by their encoded values. -/
lemma finalize_ok (opcode : UInt8) (body : List UInt8) (len : body.length ≤ 65534) :
    finalize ⟨⟨toBytes 2 getHeader ++ toBytes 2 guessSize ++ toBytes 1 opcode.toNat ++ body,
        0, 5 + body.length⟩, opcode, true⟩ =
      .ok ⟨⟨wireHeader opcode body.length ++ body, 5, 5 + body.length⟩, opcode, true⟩ := by
  have changed : guessSize ≠ body.length + 1 := by simp only [guessSize]; omega
  -- the three reads, each behind the bytes read before
  have header := ByteBuffer.readRaw_ok []
    (toBytes 2 guessSize ++ toBytes 1 opcode.toNat ++ body) (5 + body.length) .uint16 getHeader
    (by decide)
  have guess := ByteBuffer.readRaw_ok (toBytes 2 getHeader) (toBytes 1 opcode.toNat ++ body)
    (5 + body.length) .uint16 guessSize (by decide)
  have op := ByteBuffer.readRaw_ok (toBytes 2 getHeader ++ toBytes 2 guessSize) body
    (5 + body.length) .uint8 opcode.toNat opcode.toNat_lt
  -- the two overwritten fields
  have putSize := ByteBuffer.put_ok (toBytes 2 getHeader) (toBytes 2 guessSize)
    (toBytes 1 opcode.toNat ++ body) 5 (5 + body.length) .uint16
    (ENCODE .uint16 (body.length + 1)) (length_toBytes _ _)
  have putOp := ByteBuffer.put_ok
    (toBytes 2 getHeader ++ toBytes 2 (ENCODE .uint16 (body.length + 1))) (toBytes 1 opcode.toNat)
    body 5 (5 + body.length) .uint8 (ENCODE .uint8 opcode.toNat) (length_toBytes _ _)
  simp only [Width.sizeof, List.length_append, length_toBytes, List.length_nil, List.nil_append,
    List.append_assoc, Nat.reduceAdd, Nat.zero_add] at header guess op putSize putOp
  have sz : (2 + (2 + (1 + body.length)) - 4) % 2 ^ 16 = body.length + 1 := by omega
  simp only [finalize, bind, Except.bind, wireHeader, List.append_assoc, header, guess, op,
    ByteBuffer.size, List.length_append, length_toBytes, sz, ne_eq, changed, not_false_eq_true,
    if_true, putSize, putOp]
  rfl

/-- A packet of at most 65534 payload bytes is built as the bytes of `wire`. -/
theorem build_ok (opcode : UInt8) (payload : List UInt8) (len : payload.length ≤ 65534) :
    build opcode payload =
      .ok ⟨⟨wire opcode payload, 5, 5 + payload.length⟩, opcode, true⟩ := by
  have body := writeBytes_ok
    (p := ⟨⟨toBytes 2 getHeader ++ toBytes 2 guessSize ++ toBytes 1 opcode.toNat, 0, 5⟩,
      opcode, true⟩) rfl payload (by simp [ByteBuffer.size]; omega)
  have fin := finalize_ok opcode (payload.map ByteBuffer.encodeByte) (by simpa using len)
  simp only [List.length_map] at fin
  simp only [build, initializeWith_ok, bind, Except.bind, body, fin, wire]

end WorldPacket

end Legacy.Wire
