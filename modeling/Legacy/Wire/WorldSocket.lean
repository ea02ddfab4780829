import Legacy.Lib.Framing
import Legacy.Wire.WorldPacket

/-!
# The client socket

Model of `WorldSocket::OnRead` (`src/src/game/WorldSocket.cpp`). The socket keeps `_remaining` and
`_cmd` between calls, and its input buffer is a FIFO of the bytes received so far. One pass of the
`while(1)` of the source is `onReadPass`; the loop and the successive calls are those of the general
reader of `Lib/Framing.lean`, whose side conditions are `onReadPass_length`, `onReadPass_append` and
`onReadPass_wait`. `onRead_framing` is the framing law: whatever way the wire bytes of a list of
packets are cut into chunks, the socket dispatches exactly these packets.
-/

namespace Legacy.Wire
open Legacy.Lib

/-- What the socket remembers of a packet whose header was read (source `class WorldSocket`). -/
structure WorldSocket where
  /-- The opcode of the last header (source `_cmd`). -/
  cmd : UInt8
  /-- The payload bytes still expected, `0` when no header was read (source `_remaining`). -/
  remaining : Nat
  deriving DecidableEq, Repr

/-- The header of a client packet (source `struct ClientPktHeader`). -/
structure ClientPktHeader where
  /-- The magic bytes. -/
  header : Nat
  /-- The encoded length. -/
  size : Nat
  /-- The encoded opcode. -/
  cmd : UInt8
  deriving DecidableEq, Repr

namespace ClientPktHeader

/-- The header as the five bytes are copied over the structure (source `ibuf.Read(&hdr, 5)`). -/
def ofWire (bs : List UInt8) : ClientPktHeader :=
  ⟨ofBytes (bs.take 2), ofBytes ((bs.drop 2).take 2), (bs.drop 4).headD 0⟩

end ClientPktHeader

namespace WorldPacket

/-- The packet that is made of a received payload (source `WorldPacket packet(_cmd, _remaining)`,
`packet.resize(_remaining)` and `ibuf.Read(packet.contents(), _remaining)`). -/
def received (cmd : UInt8) (body : List UInt8) : WorldPacket :=
  ⟨⟨body, 0, body.length⟩, cmd, false⟩

/-- What the reads of a handler see of a packet: all its bytes, decoded. -/
def payload (p : WorldPacket) : Except Fault (List UInt8) :=
  (ByteBuffer.readBytes p.buffer.size).run' p.buffer

/-- A received payload of encoded bytes is read as the bytes that were sent. -/
lemma payload_received (cmd : UInt8) (cs : List UInt8) :
    (received cmd (cs.map ByteBuffer.encodeByte)).payload = .ok cs := by
  have h := ByteBuffer.readBytes_encoded cs [] [] cs.length
  simp only [List.nil_append, List.append_nil, List.length_nil] at h
  simp only [payload, received, ByteBuffer.size, List.length_map, StateT.run', h]
  rfl

end WorldPacket

namespace WorldSocket

/-- A socket that was just accepted (source `WorldSocket::WorldSocket`). -/
def accepted : WorldSocket := ⟨0, 0⟩

/-- The state after reading a header (source `_remaining = ENCODE(hdr.size) - 1`, an `int` that is
cut to 16 bits, and `_cmd = ENCODE(hdr.cmd)`). -/
def ofHeader (hdr : ClientPktHeader) : WorldSocket :=
  ⟨UInt8.ofNat (ENCODE .uint8 hdr.cmd.toNat), (ENCODE .uint16 hdr.size + (2 ^ 16 - 1)) % 2 ^ 16⟩

/-- The second half of a pass: the payload, once it is complete, becomes a dispatched packet. -/
def readBody (s : WorldSocket) (ibuf : List UInt8) : Pass WorldSocket UInt8 WorldPacket :=
  if ibuf.length < s.remaining then .wait s ibuf
  else
    .emit { s with remaining := 0 } (ibuf.drop s.remaining)
      (WorldPacket.received s.cmd (ibuf.take s.remaining))

/-- One pass of the reading loop (source `WorldSocket::OnRead`). -/
def onReadPass (s : WorldSocket) (ibuf : List UInt8) : Pass WorldSocket UInt8 WorldPacket :=
  if s.remaining = 0 then
    if ibuf.length < 5 then .wait s ibuf
    else readBody (ofHeader (ClientPktHeader.ofWire (ibuf.take 5))) (ibuf.drop 5)
  else readBody s ibuf

/-- A dispatched payload was taken from the buffer. -/
lemma readBody_length {s s' : WorldSocket} {ibuf ibuf' : List UInt8} {p : WorldPacket}
    (e : readBody s ibuf = .emit s' ibuf' p) : ibuf'.length + s.remaining = ibuf.length := by
  simp only [readBody] at e
  split at e
  · cases e
  · cases e
    simp only [List.length_drop]
    omega

/-- A complete payload is complete with more bytes behind it. -/
lemma readBody_append {s s' : WorldSocket} {ibuf ibuf' : List UInt8} {p : WorldPacket}
    (more : List UInt8) (e : readBody s ibuf = .emit s' ibuf' p) :
    readBody s (ibuf ++ more) = .emit s' (ibuf' ++ more) p := by
  simp only [readBody] at e ⊢
  split at e
  · cases e
  · rename_i h
    cases e
    have le : s.remaining ≤ ibuf.length := by omega
    have nlt : ¬(ibuf ++ more).length < s.remaining := by
      simp only [List.length_append]; omega
    rw [if_neg nlt, List.drop_append_of_le_length le, List.take_append_of_le_length le]

/-- A header that was read while the payload is incomplete expects at least one byte. -/
lemma readBody_wait {s s' : WorldSocket} {ibuf ibuf' : List UInt8}
    (e : readBody s ibuf = .wait s' ibuf') : s' = s ∧ ibuf' = ibuf ∧ s.remaining ≠ 0 := by
  simp only [readBody] at e
  split at e
  · cases e
    exact ⟨rfl, rfl, by omega⟩
  · cases e

/-- Every dispatched packet consumes input: its payload, or its header when the payload is empty. -/
lemma onReadPass_length {s s' : WorldSocket} {ibuf ibuf' : List UInt8} {p : WorldPacket}
    (e : onReadPass s ibuf = .emit s' ibuf' p) : ibuf'.length < ibuf.length := by
  simp only [onReadPass] at e
  split at e
  · split at e
    · cases e
    · have len := readBody_length e
      simp only [List.length_drop] at len
      omega
  · have len := readBody_length e
    omega

/-- A dispatching pass does not depend on the bytes behind the packet. -/
lemma onReadPass_append {s s' : WorldSocket} {ibuf ibuf' : List UInt8} {p : WorldPacket}
    (more : List UInt8) (e : onReadPass s ibuf = .emit s' ibuf' p) :
    onReadPass s (ibuf ++ more) = .emit s' (ibuf' ++ more) p := by
  simp only [onReadPass] at e ⊢
  split at e
  · rename_i none
    split at e
    · cases e
    · have nlt : ¬(ibuf ++ more).length < 5 := by simp only [List.length_append]; omega
      have le : 5 ≤ ibuf.length := by omega
      rw [if_pos none, if_neg nlt, List.take_append_of_le_length le,
        List.drop_append_of_le_length le]
      exact readBody_append more e
  · rename_i some
    rw [if_neg some]
    exact readBody_append more e

/-- A waiting pass keeps what it has read: the next pass on more bytes is the pass on all bytes. -/
lemma onReadPass_wait {s s' : WorldSocket} {ibuf ibuf' : List UInt8} (more : List UInt8)
    (e : onReadPass s ibuf = .wait s' ibuf') :
    onReadPass s (ibuf ++ more) = onReadPass s' (ibuf' ++ more) := by
  simp only [onReadPass] at e
  split at e
  · rename_i none
    split at e
    · cases e
      rfl
    · -- the header is kept in the state, which now expects at least one payload byte
      obtain ⟨rfl, rfl, pos⟩ := readBody_wait e
      have nlt : ¬(ibuf ++ more).length < 5 := by simp only [List.length_append]; omega
      have le : 5 ≤ ibuf.length := by omega
      simp only [onReadPass]
      rw [if_pos none, if_neg nlt, if_neg pos, List.take_append_of_le_length le,
        List.drop_append_of_le_length le]
  · obtain ⟨rfl, rfl, -⟩ := readBody_wait e
    rfl

/-- The reading loop of the socket, as an instance of the general reader. -/
def reader : Framer WorldSocket UInt8 WorldPacket where
  pass := onReadPass
  emit_length := onReadPass_length
  emit_append := onReadPass_append
  wait_append := onReadPass_wait

/-- One call with a chunk of received bytes (source `WorldSocket::OnRead`): the outputs are the
packets that reached the dispatching `switch(_cmd)`. -/
def onRead (r : Run WorldSocket UInt8 WorldPacket) (chunk : List UInt8) :
    Run WorldSocket UInt8 WorldPacket :=
  reader.feed r chunk

/-- The calls for a list of chunks, on a socket that was just accepted. -/
def onReads (chunks : List (List UInt8)) : Run WorldSocket UInt8 WorldPacket :=
  chunks.foldl onRead ⟨accepted, [], []⟩

/-- The state after reading the header of a sent packet: its opcode and the length of its payload,
the length field counting the opcode byte as well. -/
lemma ofHeader_wireHeader (opcode : UInt8) {length : Nat} (len : length ≤ 65534) :
    ofHeader (ClientPktHeader.ofWire (WorldPacket.wireHeader opcode length)) =
      ⟨opcode, length⟩ := by
  have fits : length + 1 < 256 ^ Width.uint16.sizeof := by simp only [Width.sizeof]; omega
  have size : ofBytes (toBytes 2 (ENCODE .uint16 (length + 1))) = ENCODE .uint16 (length + 1) :=
    ofBytes_toBytes (w := 2) (ENCODE_lt fits)
  have op : ENCODE .uint8 opcode.toNat < 2 ^ 8 := ENCODE_lt (w := .uint8) opcode.toNat_lt
  have hdr : ClientPktHeader.ofWire (WorldPacket.wireHeader opcode length) =
      ⟨ofBytes (toBytes 2 WorldPacket.getHeader),
        ofBytes (toBytes 2 (ENCODE .uint16 (length + 1))),
        UInt8.ofNat (ENCODE .uint8 opcode.toNat)⟩ := rfl
  have wrap : (length + 1 + (2 ^ 16 - 1)) % 2 ^ 16 = length := by omega
  rw [hdr, ofHeader, size, ENCODE_ENCODE, wrap, UInt8.toNat_ofNat_of_lt' op, ENCODE_ENCODE,
    UInt8.ofNat_toNat]

/-- A socket between two packets: no header was read. -/
def Idle (s : WorldSocket) : Prop := s.remaining = 0

/-- An idle socket reads one packet from the front of its buffer. -/
lemma onReadPass_wire {s : WorldSocket} (idle : Idle s) (opcode : UInt8)
    (cs rest : List UInt8) (len : cs.length ≤ 65534) :
    onReadPass s (WorldPacket.wire opcode cs ++ rest) =
      .emit ⟨opcode, 0⟩ rest (.received opcode (cs.map ByteBuffer.encodeByte)) := by
  have nlt : ¬(WorldPacket.wire opcode cs ++ rest).length < 5 := by
    simp only [WorldPacket.wire, List.length_append, WorldPacket.length_wireHeader]; omega
  have complete : ¬(cs.map ByteBuffer.encodeByte ++ rest).length < cs.length := by
    simp only [List.length_append, List.length_map]; omega
  have none : s.remaining = 0 := idle
  rw [onReadPass, if_pos none, if_neg nlt, WorldPacket.wire, List.append_assoc,
    List.take_left' (WorldPacket.length_wireHeader _ _),
    List.drop_left' (WorldPacket.length_wireHeader _ _), ofHeader_wireHeader opcode len, readBody,
    if_neg complete, List.take_left' (List.length_map _), List.drop_left' (List.length_map _)]

/-- Building every packet of a list succeeds when building each one does. -/
lemma build_all (ps : List (UInt8 × List UInt8)) (len : ∀ p ∈ ps, p.2.length ≤ 65534) :
    ps.mapM (fun p => WorldPacket.build p.1 p.2) =
      .ok (ps.map fun p => ⟨⟨WorldPacket.wire p.1 p.2, 5, 5 + p.2.length⟩, p.1, true⟩) := by
  induction ps with
  | nil => rfl
  | cons p ps ih =>
    have head := WorldPacket.build_ok p.1 p.2 (len p List.mem_cons_self)
    have tail := ih fun q h => len q (List.mem_cons_of_mem _ h)
    rw [List.mapM_cons, head, tail]
    rfl

/-- Client packet framing is exact under any fragmentation: the packets built from a list of
opcodes and payloads, cut into chunks in any way, are dispatched as exactly this list, and nothing
is left half-read. -/
theorem onRead_framing (ps : List (UInt8 × List UInt8)) (len : ∀ p ∈ ps, p.2.length ≤ 65534) :
    ∃ packets, ps.mapM (fun p => WorldPacket.build p.1 p.2) = .ok packets ∧
      ∀ chunks : List (List UInt8),
        chunks.flatten = (packets.map fun p => p.buffer.storage).flatten →
        ((onReads chunks).outs.map fun p => (p.opcode, p.payload)) =
            ps.map (fun p => (p.1, .ok p.2)) ∧
          (onReads chunks).state.remaining = 0 ∧ (onReads chunks).buf = [] := by
  refine ⟨_, build_all ps len, fun chunks cut => ?_⟩
  have wires : chunks.flatten = (ps.map fun p => WorldPacket.wire p.1 p.2).flatten := by
    rw [cut, List.map_map]
    rfl
  have waits : ∀ s, Idle s → reader.pass s [] = .wait s [] := by
    intro s idle
    show onReadPass s [] = _
    rw [onReadPass, if_pos (show s.remaining = 0 from idle)]
    rfl
  have reads : ∀ s (p : UInt8 × List UInt8) rest, Idle s → p.2.length ≤ 65534 →
      ∃ s', Idle s' ∧ reader.pass s (WorldPacket.wire p.1 p.2 ++ rest) =
        .emit s' rest (.received p.1 (p.2.map ByteBuffer.encodeByte)) := by
    intro s p rest idle le
    exact ⟨⟨p.1, 0⟩, rfl, onReadPass_wire idle p.1 p.2 rest le⟩
  have start : Idle accepted := rfl
  obtain ⟨s', idle, e⟩ := Framer.feedAll_frames waits reads start ps len chunks wires
  have run : onReads chunks = ⟨s', [], ps.map fun p =>
      WorldPacket.received p.1 (p.2.map ByteBuffer.encodeByte)⟩ := e
  refine ⟨?_, ?_, ?_⟩
  · simp only [run, List.map_map]
    apply List.map_congr_left
    intro p _
    simp only [Function.comp_apply, WorldPacket.payload_received]
    rfl
  · rw [run]
    exact idle
  · rw [run]

/-- Two packets, the second one empty, cut inside a header and inside a payload. -/
theorem onRead_framing_fragments :
    ∃ packets, [((1 : UInt8), [(7 : UInt8), 8]), (2, [])].mapM
        (fun p => WorldPacket.build p.1 p.2) = .ok packets ∧
      ∀ chunks : List (List UInt8),
        chunks.flatten = (packets.map fun p => p.buffer.storage).flatten →
        ((onReads chunks).outs.map fun p => (p.opcode, p.payload)) =
            [((1 : UInt8), [(7 : UInt8), 8]), (2, [])].map (fun p => (p.1, .ok p.2)) ∧
          (onReads chunks).state.remaining = 0 ∧ (onReads chunks).buf = [] :=
  onRead_framing [(1, [7, 8]), (2, [])] (by decide)

end WorldSocket

end Legacy.Wire
