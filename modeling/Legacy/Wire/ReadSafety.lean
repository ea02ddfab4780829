import Legacy.Lib.Faulting
import Legacy.Wire.Requests

/-!
# Packet reads inside the packet

Which packets make a handler read beyond its packet, so that the assertion of `ByteBuffer::read`
stops the server. A `Reader` is taken apart by the rules of `Lib/Faulting.lean`: a read needs its
bytes inside the buffer (`inside_read`), and a `CHECK_PACKET_SIZE` guard only has to cover the packets
it lets through (`inside_check`). `ClientHandler.fault_eq_none_iff` gives the exact condition for every
handler; the guards of chat, item use, group, spell add, character creation and of the two dialog
actions do not cover all the reads behind them.
-/

namespace Legacy.Wire
open Legacy.Lib

/-- The decoded byte at a position of a payload, with `0xAD` for a position beyond its end. -/
def byteAt (p : List UInt8) (i : Nat) : Nat := ENCODE .uint8 (p.getD i 0).toNat

namespace ByteBuffer

/-- The decoded integer at the read position. -/
def word (b : ByteBuffer) (w : Width) : Nat :=
  ENCODE w (ofBytes ((b.storage.drop b.rpos).take w.sizeof))

/-- The buffer after a read of `n` bytes. -/
def skip (b : ByteBuffer) (n : Nat) : ByteBuffer := { b with rpos := b.rpos + n }

/-- Skipping keeps the size. -/
@[simp]
lemma skip_size (b : ByteBuffer) (n : Nat) : (b.skip n).size = b.size := rfl

/-- Skipping moves the place of reading. -/
@[simp]
lemma skip_rpos (b : ByteBuffer) (n : Nat) : (b.skip n).rpos = b.rpos + n := rfl

/-- Skipping keeps the bytes. -/
@[simp]
lemma skip_storage (b : ByteBuffer) (n : Nat) : (b.skip n).storage = b.storage := rfl

/-- Skipping twice. -/
lemma skip_skip (b : ByteBuffer) (m n : Nat) : (b.skip m).skip n = b.skip (m + n) := by
  simp only [skip, Nat.add_assoc]

/-- The decoded bytes from the read position on. -/
def bytes (b : ByteBuffer) (n : Nat) : List UInt8 :=
  ((b.storage.drop b.rpos).take n).map encodeByte

/-- A decoded `uint8` is the decoded byte at the read position. -/
lemma word_uint8 (b : ByteBuffer) : b.word .uint8 = byteAt b.storage b.rpos := by
  simp only [word, byteAt, Width.sizeof, List.getD_eq_getElem?_getD]
  cases e : b.storage.drop b.rpos with
  | nil =>
    have out : b.storage[b.rpos]? = none := List.getElem?_eq_none (List.drop_eq_nil_iff.mp e)
    rw [out]
    rfl
  | cons x xs =>
    have at_ : b.storage[b.rpos]? = some x := by
      rw [← Nat.add_zero b.rpos, ← List.getElem?_drop, e]
      rfl
    rw [at_]
    rfl

/-- The first of several decoded bytes. -/
lemma bytes_succ {b : ByteBuffer} (one : b.rpos + 1 ≤ b.size) (n : Nat) :
    b.bytes (n + 1) = UInt8.ofNat (b.word .uint8) :: (b.skip 1).bytes n := by
  have lt : b.rpos < b.storage.length := one
  rw [word_uint8, byteAt, List.getD_eq_getElem _ _ lt]
  simp only [bytes, skip, List.drop_eq_getElem_cons lt, List.take_succ_cons, List.map_cons]
  rfl

/-- A read inside the buffer gives the decoded integer. -/
lemma read_inside {b : ByteBuffer} {w : Width} (h : b.rpos + w.sizeof ≤ b.size) :
    read w b = .ok (b.word w, b.skip w.sizeof) := by
  simp only [read, readRaw, readAt, bind, StateT.bind, if_pos h]
  rfl

/-- A read beyond the buffer fails. -/
lemma read_beyond {b : ByteBuffer} {w : Width} (h : ¬b.rpos + w.sizeof ≤ b.size) :
    read w b = .error (.get b.rpos b.size w.sizeof) := by
  simp only [read, readRaw, readAt, bind, StateT.bind, if_neg h]
  rfl

end ByteBuffer

/-- All reads of a program lie inside the packet: no assertion fails. -/
def Inside {α : Type} (m : Reader α) (b : ByteBuffer) : Prop := Sat (m b) fun _ => True

section Rules

variable {α β : Type} (b : ByteBuffer)

/-- Returning reads nothing. -/
@[simp]
lemma inside_pure (a : α) : Inside (pure a : Reader α) b ↔ True := Iff.rfl

/-- A read needs its bytes inside the packet. -/
lemma inside_read (w : Width) (k : Nat → Reader α) :
    Inside (ByteBuffer.read w >>= k) b ↔
      b.rpos + w.sizeof ≤ b.size ∧ Inside (k (b.word w)) (b.skip w.sizeof) := by
  by_cases h : b.rpos + w.sizeof ≤ b.size
  · simp only [Inside, bind, StateT.bind, ByteBuffer.read_inside h, Except.bind, h, true_and]
  · simp only [Inside, bind, StateT.bind, ByteBuffer.read_beyond h, Except.bind, sat_error, h,
      false_and]

/-- Looking at the buffer reads nothing. -/
@[simp]
lemma inside_get (k : ByteBuffer → Reader α) :
    Inside (get >>= k) b ↔ Inside (k b) b := Iff.rfl

/-- A guard has to cover the packets it lets through. -/
lemma inside_check (s : Nat) (rest : Reader (Option α)) :
    Inside (checkPacketSize s rest) b ↔ (s ≤ b.size → Inside rest b) := by
  by_cases h : b.size < s
  · simp only [Inside, checkPacketSize, if_pos h, sat_ok, true_iff]
    omega
  · have le : s ≤ b.size := by omega
    simp only [Inside, checkPacketSize, if_neg h, le, forall_const]

/-- Both branches have to read inside. -/
lemma inside_ite (c : Prop) [Decidable c] (m n : Reader α) :
    Inside (if c then m else n) b ↔ (c → Inside m b) ∧ (¬c → Inside n b) := by
  by_cases h : c
  · simp only [h, if_true, forall_const, not_true, false_implies, and_true]
  · simp only [h, if_false, false_implies, not_false_eq_true, forall_const, true_and]

/-- Reading a string never leaves the packet. -/
lemma inside_readString (k : List UInt8 → α) :
    Inside (readString >>= fun s => pure (k s)) b ↔ True := Iff.rfl

/-- A run of bytes needs all of them inside the packet. -/
lemma inside_readBytes (n : Nat) (k : List UInt8 → Reader α) :
    Inside (ByteBuffer.readBytes n >>= k) b ↔
      (n = 0 ∨ b.rpos + n ≤ b.size) ∧ Inside (k (b.bytes n)) (b.skip n) := by
  induction n generalizing b k with
  | zero => exact ⟨fun h => ⟨.inl rfl, h⟩, fun h => h.2⟩
  | succ n ih =>
    have assoc : ByteBuffer.readBytes (n + 1) >>= k = ByteBuffer.read .uint8 >>= fun c =>
        ByteBuffer.readBytes n >>= fun cs => k (UInt8.ofNat c :: cs) := by
      simp only [ByteBuffer.readBytes, bind_assoc, pure_bind]
    rw [assoc, inside_read, ih]
    simp only [ByteBuffer.skip_rpos, ByteBuffer.skip_size, ByteBuffer.skip_skip, Width.sizeof,
      Nat.add_comm 1 n]
    constructor
    · rintro ⟨one, all, rest⟩
      rw [ByteBuffer.bytes_succ one]
      exact ⟨by omega, rest⟩
    · rintro ⟨all, rest⟩
      have one : b.rpos + 1 ≤ b.size := by omega
      rw [ByteBuffer.bytes_succ one] at rest
      exact ⟨one, by omega, rest⟩

/-- The loop over the spell entries needs three bytes for each of them. -/
lemma inside_readSpellEntries (n : Nat) (k : List (Nat × Nat) → α) :
    Inside (readSpellEntries n >>= fun es => pure (k es)) b ↔
      (n = 0 ∨ b.rpos + 3 * n ≤ b.size) := by
  induction n generalizing b k with
  | zero => exact ⟨fun _ => .inl rfl, fun _ => trivial⟩
  | succ n ih =>
    have assoc : (readSpellEntries (n + 1) >>= fun es => (pure (k es) : Reader α)) =
        ByteBuffer.read .uint16 >>= fun e => ByteBuffer.read .uint8 >>= fun v =>
          readSpellEntries n >>= fun es => pure (k ((e, v) :: es)) := by
      simp only [readSpellEntries, bind_assoc, pure_bind]
    rw [assoc, inside_read, inside_read, ih]
    simp only [ByteBuffer.skip_rpos, ByteBuffer.skip_size, Width.sizeof]
    omega

end Rules

/-- The packet handlers (source `WorldSession::FillOpcodeHandlerHashTable`). -/
inductive ClientHandler where
  | playerLogin | charCreate | movement | playerAction | enterMapCompleted | messagechat
  | expression | unknownRequest14 | attack | petCommand | petRelease | useItem | group | statAdd
  | spellAdd | transacItem | battleCommand | setupShortkey | enableOptions
  deriving DecidableEq, Repr

/-- The assertion that fails while a program reads a packet. -/
def faultOf {α : Type} (m : Reader α) (b : ByteBuffer) : Option Fault :=
  match m b with
  | .ok _ => none
  | .error f => some f

/-- No assertion fails exactly when all reads lie inside the packet. -/
lemma faultOf_eq_none {α : Type} (m : Reader α) (b : ByteBuffer) :
    faultOf m b = none ↔ Inside m b := by
  simp only [faultOf, Inside]
  cases m b with
  | ok a => simp only [sat_ok]
  | error f => simp only [sat_error, reduceCtorEq]

namespace ClientHandler

/-- The assertion that fails while a handler reads a received packet, if there is one. -/
def fault (h : ClientHandler) (v : SessionView) (p : WorldPacket) : Option Fault :=
  match h with
  | playerLogin => faultOf readPlayerLogin p.buffer
  | charCreate => faultOf (readCharCreate v) p.buffer
  | movement => faultOf (readMovement v) p.buffer
  | playerAction => faultOf (readPlayerAction v) p.buffer
  | enterMapCompleted => faultOf readSubOpcode p.buffer
  | messagechat => faultOf readMessagechat p.buffer
  | expression => faultOf readTwoBytes p.buffer
  | unknownRequest14 => faultOf readSubOpcode p.buffer
  | attack => faultOf readAttack p.buffer
  | petCommand => faultOf readPetCommand p.buffer
  | petRelease => faultOf readPetRelease p.buffer
  | useItem => faultOf readUseItem p.buffer
  | group => faultOf (readGroup v) p.buffer
  | statAdd => faultOf (readStatAdd v) p.buffer
  | spellAdd => faultOf (readSpellAdd v) p.buffer
  | transacItem => faultOf readTransacItem p.buffer
  | battleCommand => faultOf readBattleCommand p.buffer
  | setupShortkey => faultOf readSetupShortkey p.buffer
  | enableOptions => faultOf readTwoBytes p.buffer

/-- Both passwords of a character creation lie inside the packet, unless a length byte exceeds the
size of the whole packet, which is reported. -/
def PasswordsFit (body : List UInt8) : Prop :=
  21 ≤ body.length ∧
    (byteAt body 20 ≤ body.length →
      22 + byteAt body 20 ≤ body.length ∧
        (byteAt body (21 + byteAt body 20) ≤ body.length →
          22 + byteAt body 20 + byteAt body (21 + byteAt body 20) ≤ body.length))

/-- When the guards of a handler cover its reads, on the received payload. -/
def GuardsCover (h : ClientHandler) (v : SessionView) (body : List UInt8) : Prop :=
  match h with
  | messagechat => 1 ≤ body.length ∧ (byteAt body 0 = 3 → 5 ≤ body.length)
  | useItem =>
    (byteAt body 0 = 0x0B → body.length ≠ 1) ∧ (byteAt body 0 = 0x0C → body.length ≠ 2) ∧
      (byteAt body 0 = 0x0F → body.length ≠ 4) ∧ (byteAt body 0 = 0x11 → body.length ≠ 2) ∧
      (byteAt body 0 = 0x12 → body.length ≠ 3)
  | group =>
    (byteAt body 0 = 0x01 → v.isJoinedTeam = false → v.isBattleInProgress = false →
        v.inBattle = false → body.length ≠ 4) ∧
      (byteAt body 0 = 0x03 → v.isJoinedTeam = false → v.isBattleInProgress = false →
        body.length ≠ 5)
  | spellAdd =>
    byteAt body 0 = 2 → (∃ n, v.petSpellPoint ((byteAt body 1 + 255) % 256) = some (n + 1)) →
      (body.length < 4 ∨ 769 ≤ body.length ∨ body.length % 3 ≠ 1)
  | playerAction =>
    (byteAt body 0 = 0x01 → v.isDead = false → body.length ≠ 1) ∧
      (byteAt body 0 = 0x09 → body.length ≠ 1)
  | charCreate =>
    byteAt body 0 = 0x01 → v.newNameEmpty = false → 20 ≤ body.length → PasswordsFit body
  | _ => True

end ClientHandler

section Handlers

variable (v : SessionView) (body : List UInt8)

/-- A received payload with the read position at its start. -/
def start : ByteBuffer := ⟨body, 0, body.length⟩

/-- The size of a packet is that of its body. -/
@[simp]
lemma start_size : (start body).size = body.length := rfl

/-- A packet is read from its beginning. -/
@[simp]
lemma start_rpos : (start body).rpos = 0 := rfl

/-- The bytes of a packet are those of its body. -/
@[simp]
lemma start_storage : (start body).storage = body := rfl

/-- One byte short: a slot, an amount or a target is read behind a guard that forgets the
`useitemtype` (source `WorldSession::HandleUseItemOpcodes`). -/
lemma inside_readUseItem :
    Inside readUseItem (start body) ↔ ClientHandler.useItem.GuardsCover v body := by
  simp only [readUseItem, ClientHandler.GuardsCover, inside_check, inside_read,
    ByteBuffer.word_uint8, start_size, start_rpos, start_storage, Width.sizeof]
  generalize byteAt body 0 = useitemtype
  split
  all_goals
    simp only [inside_check, inside_read, inside_pure, and_true, ByteBuffer.skip_size, ByteBuffer.skip_rpos,
      start_size, start_rpos, Width.sizeof]
    grind

/-- The handler of a trade reads inside. -/
lemma inside_readTransacItem : Inside readTransacItem (start body) := by
  simp only [readTransacItem, inside_check, inside_read, start_size, start_rpos, Width.sizeof]
  generalize (start body).word .uint8 = transac_type
  split
  all_goals
    simp only [inside_check, inside_read, inside_pure, and_true, ByteBuffer.skip_size, ByteBuffer.skip_rpos,
      start_size, start_rpos, Width.sizeof]
    grind

/-- No guard at all (source `WorldSession::HandleMessagechatOpcode`). -/
lemma inside_readMessagechat :
    Inside readMessagechat (start body) ↔ ClientHandler.messagechat.GuardsCover v body := by
  simp only [readMessagechat, ClientHandler.GuardsCover, inside_read, inside_ite, inside_readString,
    ByteBuffer.word_uint8, ByteBuffer.skip_size, ByteBuffer.skip_rpos, start_size, start_rpos,
    start_storage, Width.sizeof, chatMsgWhisper, and_true]
  grind

/-- The handler of the battle commands reads inside. -/
lemma inside_readBattleCommand : Inside readBattleCommand (start body) := by
  simp only [readBattleCommand, inside_check, inside_read, inside_ite, inside_pure,
    ByteBuffer.skip_size, ByteBuffer.skip_rpos, start_size, start_rpos, Width.sizeof]
  grind

/-- The handler of the attacks reads inside. -/
lemma inside_readAttack : Inside readAttack (start body) := by
  simp only [readAttack, inside_check, inside_read, inside_pure, and_true, ByteBuffer.skip_size,
    ByteBuffer.skip_rpos, start_size, start_rpos, Width.sizeof]
  grind

/-- The guards of the first two commands forget the command byte (source
`WorldSession::HandleGroupOpcodes`). -/
lemma inside_readGroup :
    Inside (readGroup v) (start body) ↔ ClientHandler.group.GuardsCover v body := by
  simp only [readGroup, ClientHandler.GuardsCover, inside_check, inside_read, ByteBuffer.word_uint8,
    start_size, start_rpos, start_storage, Width.sizeof]
  generalize byteAt body 0 = groupCommandType
  split
  all_goals
    simp only [inside_check, inside_read, inside_ite, inside_pure, and_true, ByteBuffer.skip_size,
      ByteBuffer.skip_rpos, start_size, start_rpos, Width.sizeof, Bool.or_eq_true]
    cases v.isJoinedTeam <;> cases v.isBattleInProgress <;> cases v.inBattle <;> grind

/-- The handler of the attributes reads inside. -/
lemma inside_readStatAdd : Inside (readStatAdd v) (start body) := by
  simp only [readStatAdd, inside_check, inside_read, inside_ite, inside_pure, and_true,
    ByteBuffer.skip_size, ByteBuffer.skip_rpos, start_size, start_rpos, Width.sizeof]
  grind

/-- The loop reads its entries only for a unit with free points. -/
lemma inside_readSpellAddLoop (b : ByteBuffer) (psize target petslot : Nat)
    (points : Option Nat) :
    Inside (readSpellAddLoop psize target petslot points) b ↔
      ((∃ n, points = some (n + 1)) → psize = 0 ∨ b.rpos + 3 * psize ≤ b.size) := by
  match points with
  | none => simp only [readSpellAddLoop, inside_pure, reduceCtorEq, exists_false, false_implies]
  | some 0 => simp [readSpellAddLoop]
  | some (n + 1) =>
    simp only [readSpellAddLoop, inside_readSpellEntries, Option.some.injEq,
      Nat.add_right_cancel_iff, exists_eq', forall_const]

/-- The count is taken from the whole packet, and the pet slot is read before the entries (source
`WorldSession::HandlePlayerSpellAddOpcodes`). -/
lemma inside_readSpellAdd :
    Inside (readSpellAdd v) (start body) ↔ ClientHandler.spellAdd.GuardsCover v body := by
  simp only [readSpellAdd, inside_check, inside_get]
  generalize e : spellAddCount (start body).size = psize
  simp only [ClientHandler.GuardsCover, inside_read, inside_ite, inside_pure,
    inside_readSpellAddLoop, ByteBuffer.word_uint8, ByteBuffer.skip_size, ByteBuffer.skip_rpos,
    ByteBuffer.skip_storage, start_size, start_rpos, start_storage, Width.sizeof, Nat.reduceAdd,
    Nat.zero_add]
  simp only [spellAddCount, start_size] at e
  have beyond : 4 ≤ body.length → psize ≠ 0 →
      (2 + 3 * psize ≤ body.length ↔ body.length < 4 ∨ 769 ≤ body.length ∨ body.length % 3 ≠ 1) := by
    omega
  grind

/-- The handler of the pet commands reads inside. -/
lemma inside_readPetCommand : Inside readPetCommand (start body) := by
  simp only [readPetCommand, inside_check, inside_read, start_size, start_rpos, Width.sizeof]
  generalize (start body).word .uint8 = command
  split
  all_goals
    simp only [inside_check, inside_read, inside_pure, and_true, ByteBuffer.skip_size,
      ByteBuffer.skip_rpos, start_size, start_rpos, Width.sizeof]
    grind

/-- The handler of the pet releases reads inside. -/
lemma inside_readPetRelease : Inside readPetRelease (start body) := by
  simp only [readPetRelease, inside_check, inside_read, inside_pure, and_true, ByteBuffer.skip_size,
    ByteBuffer.skip_rpos, start_size, start_rpos, Width.sizeof]
  grind

/-- The click and the dialog guards forget the sub-opcode (source
`WorldSession::HandlePlayerClickNpc` and `WorldSession::HandlePlayerSelectDialogOpcodes`). -/
lemma inside_readPlayerAction :
    Inside (readPlayerAction v) (start body) ↔ ClientHandler.playerAction.GuardsCover v body := by
  simp only [readPlayerAction, ClientHandler.GuardsCover, inside_check, inside_read,
    ByteBuffer.word_uint8, start_size, start_rpos, start_storage, Width.sizeof]
  generalize byteAt body 0 = subOpcode
  split
  all_goals
    simp only [readClickNpc, readEnterDoor, readSelectDialog, inside_check, inside_read, inside_ite,
      inside_pure, and_true, ByteBuffer.skip_size, ByteBuffer.skip_rpos, start_size, start_rpos,
      Width.sizeof]
    grind

/-- The handler of the names reads inside. -/
lemma inside_readSelectName {b : ByteBuffer} : Inside readSelectName b := by
  simp only [readSelectName, inside_check, inside_readString, implies_true]

/-- The guard covers the twenty bytes of looks and stats, but not the password lengths, and a
password is only compared with the whole packet (source `Player::Create`). -/
lemma inside_readCreate (guard : 20 ≤ body.length) :
    Inside readCreate ((start body).skip 1) ↔ ClientHandler.PasswordsFit body := by
  simp only [readCreate, ClientHandler.PasswordsFit, inside_readBytes, inside_read, inside_check,
    inside_pure, and_true, ByteBuffer.word_uint8, ByteBuffer.skip_size, ByteBuffer.skip_rpos,
    ByteBuffer.skip_storage, start_size, start_rpos, start_storage, Width.sizeof, Nat.reduceAdd,
    Nat.zero_add]
  grind

/-- The handler of a new character reads inside exactly when the guards cover the body. -/
lemma inside_readCharCreate :
    Inside (readCharCreate v) (start body) ↔ ClientHandler.charCreate.GuardsCover v body := by
  have create := inside_readCreate body
  simp only [readCharCreate, ClientHandler.GuardsCover, inside_check, inside_read,
    ByteBuffer.word_uint8, start_size, start_rpos, start_storage, Width.sizeof]
  generalize byteAt body 0 = subOpcode
  split
  all_goals
    simp only [readCharCreateData, inside_readSelectName, inside_check, inside_ite, inside_pure,
      ByteBuffer.skip_size, start_size]
    grind

/-- The handler of the logins reads inside. -/
lemma inside_readPlayerLogin : Inside readPlayerLogin (start body) := by
  simp only [readPlayerLogin, inside_check, inside_read, inside_readString, and_true,
    ByteBuffer.skip_size, ByteBuffer.skip_rpos, start_size, start_rpos, Width.sizeof]
  grind

/-- The handler of the movements reads inside. -/
lemma inside_readMovement : Inside (readMovement v) (start body) := by
  simp only [readMovement, inside_check, inside_read, inside_ite, inside_pure, and_true,
    ByteBuffer.skip_size, ByteBuffer.skip_rpos, start_size, start_rpos, Width.sizeof]
  grind

/-- The handlers with one code read inside. -/
lemma inside_readSubOpcode : Inside readSubOpcode (start body) := by
  simp only [readSubOpcode, inside_check, inside_read, inside_pure, and_true, start_size, start_rpos,
    Width.sizeof]
  grind

/-- The handlers with two bytes read inside. -/
lemma inside_readTwoBytes : Inside readTwoBytes (start body) := by
  simp only [readTwoBytes, inside_check, inside_read, inside_pure, and_true, ByteBuffer.skip_size,
    ByteBuffer.skip_rpos, start_size, start_rpos, Width.sizeof]
  grind

/-- The handler of the short keys reads inside. -/
lemma inside_readSetupShortkey : Inside readSetupShortkey (start body) := by
  simp only [readSetupShortkey, inside_check, inside_read, inside_pure, and_true,
    ByteBuffer.skip_size, ByteBuffer.skip_rpos, start_size, start_rpos, Width.sizeof]
  grind

end Handlers

namespace ClientHandler

/-- A handler reads only inside a received packet exactly when its guards cover the payload. -/
theorem fault_eq_none_iff (h : ClientHandler) (v : SessionView) (cmd : UInt8) (body : List UInt8) :
    h.fault v (.received cmd body) = none ↔ h.GuardsCover v body := by
  have buffer : (WorldPacket.received cmd body).buffer = start body := rfl
  cases h with
  | messagechat => simpa only [fault, faultOf_eq_none, buffer] using inside_readMessagechat v body
  | useItem => simpa only [fault, faultOf_eq_none, buffer] using inside_readUseItem v body
  | group => simpa only [fault, faultOf_eq_none, buffer] using inside_readGroup v body
  | spellAdd => simpa only [fault, faultOf_eq_none, buffer] using inside_readSpellAdd v body
  | playerAction => simpa only [fault, faultOf_eq_none, buffer] using inside_readPlayerAction v body
  | charCreate => simpa only [fault, faultOf_eq_none, buffer] using inside_readCharCreate v body
  | playerLogin => simp only [fault, faultOf_eq_none, buffer, GuardsCover, inside_readPlayerLogin]
  | movement => simp only [fault, faultOf_eq_none, buffer, GuardsCover, inside_readMovement]
  | enterMapCompleted => simp only [fault, faultOf_eq_none, buffer, GuardsCover, inside_readSubOpcode]
  | expression => simp only [fault, faultOf_eq_none, buffer, GuardsCover, inside_readTwoBytes]
  | unknownRequest14 => simp only [fault, faultOf_eq_none, buffer, GuardsCover, inside_readSubOpcode]
  | attack => simp only [fault, faultOf_eq_none, buffer, GuardsCover, inside_readAttack]
  | petCommand => simp only [fault, faultOf_eq_none, buffer, GuardsCover, inside_readPetCommand]
  | petRelease => simp only [fault, faultOf_eq_none, buffer, GuardsCover, inside_readPetRelease]
  | statAdd => simp only [fault, faultOf_eq_none, buffer, GuardsCover, inside_readStatAdd]
  | transacItem => simp only [fault, faultOf_eq_none, buffer, GuardsCover, inside_readTransacItem]
  | battleCommand => simp only [fault, faultOf_eq_none, buffer, GuardsCover, inside_readBattleCommand]
  | setupShortkey => simp only [fault, faultOf_eq_none, buffer, GuardsCover, inside_readSetupShortkey]
  | enableOptions => simp only [fault, faultOf_eq_none, buffer, GuardsCover, inside_readTwoBytes]

/-- A logged-in player outside of any team and battle. -/
def idleView : SessionView :=
  ⟨false, false, false, false, false, true, 0, 0, fun _ => none⟩

/-- One byte, the encoded `0x0B`, makes the equip command read a slot byte that is not there. -/
theorem fault_useItem_equip :
    ¬∀ (h : ClientHandler) (v : SessionView) (cmd : UInt8) (body : List UInt8),
      h.fault v (.received cmd body) = none := by
  intro inside
  have beyond : useItem.fault idleView (.received 0x17 [0x0B ^^^ 0xAD]) = some (.get 1 1 1) := rfl
  rw [inside useItem idleView 0x17 [0x0B ^^^ 0xAD]] at beyond
  cases beyond

end ClientHandler

end Legacy.Wire
