import Legacy.Battle.SendAction
import Legacy.Wire.Fields
import Legacy.Lib.Reading

/-!
# The packet of a list of actions

`SendAction` starts a packet, and `BuildUpdateBlockAction` appends a block for each action: a length that it fills
in when the rest is written, the attacker and its skill, and a record for each hit, whose effects come after their
number. `Block.read` is a client that reads records until the length is exhausted.
-/

namespace Legacy.Battle
open Legacy.Lib Legacy.Lib.Reader
open Legacy.Wire (Field ByteBuffer WorldPacket ENCODE)

namespace Effect

/-- What is written for an effect (source, the end of `BattleSystem::BuildUpdateBlockSpellMod`). -/
def fields (effect : Effect) : List Field := [.uint8 effect.stcode, .uint16 effect.value, .uint8 effect.modifier]

/-- The effect with its fields cut to their widths. -/
def received (effect : Effect) : Effect := ⟨u8 effect.stcode, u16 effect.value, u8 effect.modifier⟩

/-- A code, a value and a modifier are read for an effect. -/
def read : Reader UInt8 Effect := do
  let stcode ← word 1
  let value ← word 2
  let modifier ← word 1
  return ⟨stcode, value, modifier⟩

end Effect

namespace CellRecord

/-- What is written for a hit (source, the loop of `BattleSystem::BuildUpdateBlockAction`). -/
def fields (hit : CellRecord) : List Field :=
  [.uint8 hit.cell.1, .uint8 hit.cell.2, .uint8 hit.record.impact, .uint8 hit.record.target, .uint8 hit.record.count] ++
    hit.record.effects.flatMap Effect.fields

/-- The record of a hit with its fields cut to their widths. -/
def received (hit : CellRecord) : CellRecord :=
  ⟨(u8 hit.cell.1, u8 hit.cell.2), u8 hit.record.impact, u8 hit.record.target, u8 hit.record.count,
    hit.record.effects.map Effect.received⟩

/-- As many effects are read as the record announces. -/
def read : Reader UInt8 CellRecord := do
  let col ← word 1
  let row ← word 1
  let impact ← word 1
  let target ← word 1
  let count ← word 1
  (⟨(col, row), impact, target, count, ·⟩) <$> times Effect.read count

end CellRecord

namespace Block

/-- What is written for an action behind its length (source `BattleSystem::BuildUpdateBlockAction`). -/
def fields (block : Block) : List Field :=
  [.uint8 block.atkCell.1, .uint8 block.atkCell.2] ++ block.skills.map Field.uint16 ++
    [.uint8 0x01, .uint8 block.hit] ++ block.records.flatMap CellRecord.fields

/-- The block is written with a guessed length, which is overwritten by the number of bytes behind it. The position
of the length is kept in a `uint16`. -/
def write (block : Block) (data : ByteBuffer) : Except Wire.Fault ByteBuffer := do
  let data_len := u16 data.size
  let data ← data.writeAll (.uint16 0x000F :: block.fields)
  let sz := u16 (data.size - data_len - 2)
  data.put data_len .uint16 (ENCODE .uint16 sz)

/-- The block with its fields cut to their widths. -/
def received (block : Block) : Block :=
  ⟨(u8 block.atkCell.1, u8 block.atkCell.2), block.skills.map u16, u8 block.hit,
    block.records.map CellRecord.received⟩

/-- One skill is read, and then records until the length is exhausted. -/
def read : Reader UInt8 Block := region 2 do
  let col ← word 1
  let row ← word 1
  let skill ← word 2
  let _ ← word 1
  let hit ← word 1
  (⟨(col, row), [skill], hit, ·⟩) <$> exhaust CellRecord.read

/-- Blocks are written one behind the other. -/
def writeAll : List Block → ByteBuffer → Except Wire.Fault ByteBuffer
  | [], data => .ok data
  | block :: blocks, data => do
    let data ← block.write data
    writeAll blocks data

/-- The packet with these blocks (source, in `BattleSystem::SendAction`). -/
def packet (blocks : List Block) : Except Wire.Fault WorldPacket := do
  let data ← WorldPacket.initializeWith 0x32
  let buffer ← data.buffer.writeAll [.uint8 0x01]
  let buffer ← writeAll blocks buffer
  return { data with buffer := buffer }

/-- The blocks of a packet up to its end. -/
def readAll : Reader UInt8 (List Block) := do
  let _ ← word 1
  exhaust read

/-- The bytes behind the length. -/
def body (block : Block) : List UInt8 := block.fields.flatMap Field.bytes

/-- The bytes of a block, with the number of bytes behind its length. -/
def frame (block : Block) : List UInt8 := toBytes 2 block.body.length ++ block.body

/-- The bytes of a packet behind its header. -/
def payload (blocks : List Block) : List UInt8 := 0x01 :: blocks.flatMap frame

end Block

/-- The blocks of a call, in the order in which they are written. -/
def Sent.blocks (sent : Sent) : List Block :=
  sent.log.filterMap fun entry =>
    match entry.fate with
    | .block block => some block
    | _ => none

/-- The number of effects of a record is the one that it announces. -/
def HitRecord.Counted (record : HitRecord) : Prop := record.count = record.effects.length ∧ record.count ≤ 2

/-- A block has one skill, and its records announce the number of their effects. -/
def Block.Counted (block : Block) : Prop := block.skills.length = 1 ∧ ∀ hit ∈ block.records, hit.record.Counted

/-- The client reads an effect back as it was written. -/
lemma Effect.reads (effect : Effect) : Reads Effect.read (effect.fields.flatMap Field.bytes) effect.received := by
  simp only [fields, List.flatMap_cons, Field.bytes_uint8, Field.bytes_uint16]
  exact reads_bind (reads_word 1 _) (reads_bind (reads_word 2 _) (reads_bind (reads_word 1 _) (reads_pure _)))

/-- The client reads the record of a cell back when its count is right. -/
lemma CellRecord.reads {hit : CellRecord} (counted : hit.record.Counted) :
    Reads CellRecord.read (hit.fields.flatMap Field.bytes) hit.received := by
  obtain ⟨count, small⟩ := counted
  have announced : hit.record.count % 256 ^ 1 = hit.record.effects.length := by omega
  have effects : Reads (times Effect.read hit.record.effects.length)
      (hit.record.effects.flatMap fun effect => effect.fields.flatMap Field.bytes)
      (hit.record.effects.map Effect.received) := reads_times fun effect _ => effect.reads
  rw [← announced] at effects
  rw [fields, List.flatMap_append, List.flatMap_assoc]
  simp only [List.flatMap_cons, List.flatMap_nil, List.append_nil, List.append_assoc, Field.bytes_uint8]
  exact reads_bind (reads_word 1 _) (reads_bind (reads_word 1 _) (reads_bind (reads_word 1 _)
    (reads_bind (reads_word 1 _) (reads_bind (reads_word 1 _) (reads_map _ effects)))))

/-- A record writes at least one byte. -/
lemma CellRecord.fields_ne_nil (hit : CellRecord) : hit.fields.flatMap Field.bytes ≠ [] := by
  intro nil
  have none := List.flatMap_eq_nil_iff.mp nil (.uint8 hit.cell.1) (List.mem_append_left _ List.mem_cons_self)
  exact absurd (congrArg List.length none) (Nat.ne_of_gt (Field.bytes_length_pos _))

namespace Block

variable {block : Block} {blocks : List Block}

/-- The body of a block is read to its end. -/
lemma reads (counted : block.Counted) (fits : block.body.length < 65536) :
    Reads Block.read block.frame block.received := by
  obtain ⟨single, announced⟩ := counted
  obtain ⟨skill, one⟩ := List.length_eq_one_iff.mp single
  refine reads_region fits ?_
  have records : Ends (exhaust CellRecord.read)
      (block.records.flatMap fun hit => hit.fields.flatMap Field.bytes) (block.records.map CellRecord.received) :=
    ends_exhaust fun hit mem => ⟨CellRecord.reads (announced hit mem), hit.fields_ne_nil⟩
  rw [body, fields, received, one, List.flatMap_append, List.flatMap_assoc]
  simp only [List.map_cons, List.map_nil, List.cons_append, List.nil_append, List.flatMap_cons, List.flatMap_nil,
    List.append_nil, List.append_assoc, Field.bytes_uint8, Field.bytes_uint16]
  exact ends_bind (reads_word 1 _) (ends_bind (reads_word 1 _) (ends_bind (reads_word 2 _)
    (ends_bind (reads_word 1 _) (ends_bind (reads_word 1 _) (ends_map _ records)))))

/-- A frame is its body and the two bytes of the length. -/
lemma frame_length (block : Block) : block.frame.length = 2 + block.body.length := by
  rw [frame, List.length_append, length_toBytes]

/-- The blocks of a packet are read to its end. -/
lemma readAll_payload (counted : ∀ block ∈ blocks, block.Counted) (fits : (payload blocks).length < 65536) :
    Ends readAll (payload blocks) (blocks.map received) := by
  have all : Ends (exhaust read) (blocks.flatMap frame) (blocks.map received) := by
    refine ends_exhaust fun block mem => ⟨reads (counted block mem) ?_, ?_⟩
    · have le : block.frame.length ≤ (blocks.flatMap frame).length :=
        (List.sublist_flatten_of_mem (List.mem_map_of_mem mem)).length_le
      rw [frame_length] at le
      rw [payload, List.length_cons] at fits
      omega
    · intro nil
      have none := congrArg List.length nil
      rw [frame_length, List.length_nil] at none
      omega
  exact ends_bind (reads_word 1 1) all

/-- A block goes to the end of the packet, with its length. -/
lemma write_ok {data : ByteBuffer} (atEnd : data.AtEnd) (fits : data.size + block.frame.length < 65536) :
    block.write data = .ok ⟨data.storage ++ block.frame.map ByteBuffer.encodeByte, data.rpos,
      data.wpos + block.frame.length⟩ := by
  rw [frame_length] at fits
  have guess : (Field.uint16 0x000F :: block.fields).flatMap Field.bytes = toBytes 2 0x000F ++ block.body := rfl
  have written := ByteBuffer.writeAll_ok atEnd (.uint16 0x000F :: block.fields) (by
    rw [guess, List.length_append, length_toBytes]
    omega)
  rw [guess, List.map_append, ← List.append_assoc] at written
  have pos : u16 data.size = data.storage.length := by
    rw [ByteBuffer.size] at fits ⊢
    exact Nat.mod_eq_of_lt (by omega)
  have sz : u16 ((data.storage ++ (toBytes 2 0x000F).map ByteBuffer.encodeByte ++
      block.body.map ByteBuffer.encodeByte).length - data.storage.length - 2) = block.body.length := by
    rw [List.length_append, List.length_append, List.length_map, List.length_map, length_toBytes, u16]
    omega
  have put := ByteBuffer.put_ok data.storage ((toBytes 2 0x000F).map ByteBuffer.encodeByte)
    (block.body.map ByteBuffer.encodeByte) data.rpos (data.wpos + (toBytes 2 0x000F ++ block.body).length) .uint16
    (ENCODE .uint16 block.body.length) rfl
  have length : toBytes 2 (ENCODE .uint16 block.body.length) =
      (toBytes 2 block.body.length).map ByteBuffer.encodeByte := ByteBuffer.toBytes_ENCODE (w := .uint16) (by decide) _
  rw [write]
  simp only
  rw [written, ok_bind, pos, ByteBuffer.size, sz, put]
  rw [Wire.Width.sizeof, length, frame, List.map_append, List.append_assoc, List.length_append, List.length_append,
    length_toBytes, length_toBytes]

/-- A block that is written makes the packet longer, even beyond the lengths that its fields can hold. -/
lemma write_size {data data' : ByteBuffer} (atEnd : data.AtEnd) (run : block.write data = .ok data') :
    data'.AtEnd ∧ data'.size = data.size + block.frame.length := by
  rw [write] at run
  obtain ⟨data₁, written, put⟩ := bind_eq_ok.mp run
  obtain ⟨atEnd', size⟩ := ByteBuffer.writeAll_size atEnd written
  have guess : (Field.uint16 0x000F :: block.fields).flatMap Field.bytes = toBytes 2 0x000F ++ block.body := rfl
  rw [guess, List.length_append, length_toBytes, ← frame_length] at size
  obtain ⟨same, wpos⟩ := ByteBuffer.put_size put
  rw [ByteBuffer.AtEnd] at atEnd' ⊢
  rw [wpos, same]
  exact ⟨atEnd', size⟩

/-- The blocks go to the end of the packet. -/
lemma writeAll_ok {data : ByteBuffer} (atEnd : data.AtEnd) (fits : data.size + (blocks.flatMap frame).length < 65536) :
    writeAll blocks data = .ok ⟨data.storage ++ (blocks.flatMap frame).map ByteBuffer.encodeByte, data.rpos,
      data.wpos + (blocks.flatMap frame).length⟩ := by
  induction blocks generalizing data with
  | nil => rw [writeAll, List.flatMap_nil, List.map_nil, List.append_nil, List.length_nil, Nat.add_zero]
  | cons block blocks ih =>
    rw [List.flatMap_cons, List.length_append] at fits
    have later := ih (ByteBuffer.atEnd_append atEnd block.frame) (by
      rw [ByteBuffer.size] at *
      rw [List.length_append, List.length_map]
      omega)
    rw [writeAll, write_ok atEnd (by omega), ok_bind, later, List.flatMap_cons, List.map_append, List.append_assoc,
      List.length_append, Nat.add_assoc]

/-- Writing blocks makes the packet longer by their frames. -/
lemma writeAll_size {data data' : ByteBuffer} (atEnd : data.AtEnd) (run : writeAll blocks data = .ok data') :
    data'.size = data.size + (blocks.flatMap frame).length := by
  induction blocks generalizing data with
  | nil =>
    cases run
    rfl
  | cons block blocks ih =>
    obtain ⟨data₁, first, later⟩ := bind_eq_ok.mp run
    obtain ⟨atEnd', size⟩ := write_size atEnd first
    rw [ih atEnd' later, size, List.flatMap_cons, List.length_append, Nat.add_assoc]

/-- The five bytes of a packet before it is finalized. -/
def header : List UInt8 :=
  toBytes 2 WorldPacket.getHeader ++ toBytes 2 WorldPacket.guessSize ++ toBytes 1 (0x32 : UInt8).toNat

/-- A packet whose size fits into 16 bits is written, as its header and its payload. -/
lemma packet_ok (fits : 5 + (payload blocks).length < 65536) :
    packet blocks = .ok ⟨⟨header ++ (payload blocks).map ByteBuffer.encodeByte, 0, 5 + (payload blocks).length⟩, 0x32,
      true⟩ := by
  have one := ByteBuffer.writeAll_ok (b := ⟨header, 0, 5⟩) rfl [.uint8 0x01] (by decide)
  rw [payload, List.length_cons] at fits
  have begun : (⟨header ++ [ByteBuffer.encodeByte 0x01], 0, 6⟩ : ByteBuffer).AtEnd := rfl
  have size : (⟨header ++ [ByteBuffer.encodeByte 0x01], 0, 6⟩ : ByteBuffer).size = 6 := rfl
  have room : 6 + (blocks.flatMap frame).length < 65536 := by omega
  rw [← size] at room
  have all := writeAll_ok begun room
  have started : WorldPacket.initializeWith 0x32 = .ok ⟨⟨header, 0, 5⟩, 0x32, true⟩ := rfl
  rw [packet, started, ok_bind]
  simp only
  rw [one, ok_bind]
  have written : (⟨header ++ ([Field.uint8 0x01].flatMap Field.bytes).map ByteBuffer.encodeByte, 0,
      5 + ([Field.uint8 0x01].flatMap Field.bytes).length⟩ : ByteBuffer) =
    ⟨header ++ [ByteBuffer.encodeByte 0x01], 0, 6⟩ := rfl
  simp only
  have wpos : 6 + (blocks.flatMap frame).length = 5 + ((blocks.flatMap frame).length + 1) := by omega
  rw [written, all, ok_bind, payload, List.map_cons, List.append_assoc, List.singleton_append, List.length_cons, wpos]
  rfl

/-- The size of the packet is that of its payload behind the header, however long it is. -/
lemma packet_size {data : WorldPacket} (run : packet blocks = .ok data) :
    data.buffer.size = 5 + (payload blocks).length := by
  rw [packet, WorldPacket.initializeWith_ok, ok_bind] at run
  obtain ⟨buffer, one, run⟩ := bind_eq_ok.mp run
  obtain ⟨buffer', all, run⟩ := bind_eq_ok.mp run
  cases run
  have start : ByteBuffer.AtEnd ⟨header, 0, 5⟩ := rfl
  obtain ⟨atEnd, size⟩ := ByteBuffer.writeAll_size start one
  have six : buffer.size = 6 := size
  rw [payload, List.length_cons, writeAll_size atEnd all, six]
  omega

/-- What is sent once the packet is finalized. -/
lemma finalize_packet {data : WorldPacket} (run : packet blocks = .ok data) (fits : data.buffer.size < 65536) :
    ∃ sent, data.finalize = .ok sent ∧ sent.buffer.storage = WorldPacket.wire 0x32 (payload blocks) := by
  rw [packet_size run] at fits
  rw [packet_ok fits] at run
  cases run
  have fin := WorldPacket.finalize_ok 0x32 ((payload blocks).map ByteBuffer.encodeByte) (by
    rw [List.length_map]
    omega)
  rw [List.length_map] at fin
  exact ⟨_, fin, rfl⟩

end Block

namespace HitRecord

/-- The record of a hit counts its effects right. -/
lemma counted_build (missed : Bool) (ani_t stcode : Nat) (damage : Int) (modifier : Nat) :
    (build missed ani_t stcode damage modifier).Counted := by
  rw [build]
  split
  · exact ⟨rfl, Nat.le_refl 2⟩
  · exact ⟨rfl, Nat.le_succ 1⟩

/-- The record of every kind of spell counts its effects right. -/
lemma counted_spellMod (victim : Unit) (sinfo : SpellInfo) (damage : Int) (modifier : Nat) (catched : Bool)
    (dice_missed : ℚ) :
    (victim.buildUpdateBlockSpellMod sinfo damage modifier catched dice_missed).record.Counted := by
  rw [Unit.buildUpdateBlockSpellMod]
  split
  · exact counted_build ..
  · split <;> exact counted_build ..

end HitRecord

namespace Combat

variable {rules : Rules} {dice : SendDice} {s s' : Combat} {v : Sending} {sent : Sent} {sinfo : SpellInfo}
  {catched : Bool} {action : BattleAction}

/-- The record of a strike counts its effects right. -/
lemma strike_counted {hit : BattleAction} {hitDice : HitDice} {record : HitRecord}
    (run : s.strike sinfo catched hit hitDice = .ok (s', record)) : record.Counted := by
  rw [strike] at run
  split at run
  · cases run
    exact HitRecord.counted_spellMod ..
  · cases run

/-- The records of all strikes count their effects right. -/
lemma strikeAll_counted {hitDice : Nat → HitDice} {hits : List BattleAction} {records : List CellRecord}
    (run : strikeAll sinfo catched action hitDice hits s = .ok (s', records)) :
    ∀ hit ∈ records, hit.record.Counted := by
  induction hits generalizing s records with
  | nil =>
    cases run
    intro hit mem
    cases mem
  | cons hit hits ih =>
    obtain ⟨⟨s₁, record⟩, first, run⟩ := bind_eq_ok.mp run
    obtain ⟨⟨s₂, records'⟩, others, run⟩ := bind_eq_ok.mp run
    cases run
    exact List.forall_mem_cons.mpr ⟨strike_counted first, ih others⟩

/-- All blocks that the loop writes count right. -/
lemma sendLoop_counted {l : List BattleAction} (run : sendLoop rules dice l v = .ok sent) :
    ∀ block ∈ sent.blocks, block.Counted := by
  induction l generalizing v sent with
  | nil =>
    cases run
    intro block mem
    cases mem
  | cons action rest ih =>
    obtain ⟨combat, fate, done, ⟨rfl, rfl⟩ | ⟨-, later, loop, rfl⟩⟩ := sendLoop_cons run
    · intro block mem
      cases mem
    · have others := ih loop
      cases perform_inv done with
      | absent | dead | disabled | defended | escaped => exact others
      | block _ _ _ _ _ build =>
        obtain ⟨b, catched, sinfo, records, -, -, strikes, rfl⟩ := buildUpdateBlock_inv build
        exact List.forall_mem_cons.mpr ⟨⟨action.length_skills catched, strikeAll_counted strikes⟩, others⟩

/-- The packet of a call, whatever it performs, is that of its blocks, each behind the number of its bytes, and each
of their records announces the number of its effects; a client that reads records until a length is exhausted reads
back exactly the blocks, to the end of the packet. -/
theorem sendAction_packet (run : s.sendAction rules dice = .ok (some sent)) :
    (∀ data, Block.packet sent.blocks = .ok data → data.buffer.size = 5 + (Block.payload sent.blocks).length) ∧
      (5 + (Block.payload sent.blocks).length < 65536 →
        ∃ data, Block.packet sent.blocks = .ok data ∧
          data.buffer.storage = Block.header ++ (Block.payload sent.blocks).map ByteBuffer.encodeByte ∧
          (∀ block ∈ sent.blocks, ∀ hit ∈ block.records, hit.record.count = hit.record.effects.length) ∧
          Ends Block.readAll ((data.buffer.storage.drop 5).map ByteBuffer.encodeByte)
            (sent.blocks.map Block.received)) := by
  obtain ⟨i, b, g, -, -, loop⟩ := sendAction_some run
  have counted := sendLoop_counted loop
  refine ⟨fun data written => Block.packet_size written, fun fits => ?_⟩
  refine ⟨_, Block.packet_ok fits, rfl, fun block mem hit at' => ((counted block mem).2 hit at').1, ?_⟩
  have decoded : ((Block.header ++ (Block.payload sent.blocks).map ByteBuffer.encodeByte).drop 5).map
      ByteBuffer.encodeByte = Block.payload sent.blocks := by
    rw [List.drop_left' (by rfl), List.map_map]
    exact List.map_id'' ByteBuffer.encodeByte_encodeByte _
  rw [decoded]
  exact Block.readAll_payload counted (by omega)

/-- One attack is one block, and the packet fits. -/
lemma sendAction_struck :
    Sat ((petTurn [⟨3, 2, spellBasic, 0, 2, 20⟩] []).sendAction Engine.basicRules (evenSend 50)) fun called =>
      called.any (fun sent => sent.blocks.length = 1 && 5 + (Block.payload sent.blocks).length < 65536) = true := by
  decide +kernel

/-- The block of an attack is read back. -/
theorem sendAction_packet_petTurn :
    ∃ sent data, (petTurn [⟨3, 2, spellBasic, 0, 2, 20⟩] []).sendAction Engine.basicRules (evenSend 50) =
        .ok (some sent) ∧ sent.blocks.length = 1 ∧ Block.packet sent.blocks = .ok data ∧
      Ends Block.readAll ((data.buffer.storage.drop 5).map ByteBuffer.encodeByte)
        (sent.blocks.map Block.received) := by
  obtain ⟨called, run, checked⟩ := sat_iff.mp sendAction_struck
  obtain ⟨sent, rfl, fits⟩ := (Option.any_eq_true _ _).mp checked
  rw [Bool.and_eq_true, decide_eq_true_eq, decide_eq_true_eq] at fits
  obtain ⟨data, written, -, -, read⟩ := (sendAction_packet run).2 fits.2
  exact ⟨sent, data, run, fits.1, written, read⟩

end Combat

end Legacy.Battle
