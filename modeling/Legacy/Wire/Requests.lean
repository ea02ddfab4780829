import Legacy.Wire.WorldSocket

/-!
# What the handlers read

The reads of every client packet handler of `WorldSession::FillOpcodeHandlerHashTable`, in the order
of the source, with the `CHECK_PACKET_SIZE` guards and the early returns between them. A handler's
reads produce the request it then carries out, or nothing when the handler returns before that. The
conditions on the session and its player that decide whether a handler goes on reading are the
fields of `SessionView`.
-/

namespace Legacy.Wire
open Legacy.Lib

/-- A program that reads a packet. -/
abbrev Reader := StateT ByteBuffer (Except Fault)

/-- What the guards between the reads look at. -/
structure SessionView where
  /-- The player is dead (source `Unit::isDead`). -/
  isDead : Bool
  /-- The player may not move (source `Player::GetDontMove`). -/
  dontMove : Bool
  /-- The player is a team member (source `Player::isJoinedTeam`). -/
  isJoinedTeam : Bool
  /-- The player leads a battle (source `Player::isBattleInProgress`). -/
  isBattleInProgress : Bool
  /-- The player takes part in a battle (source `Player::GetBattleMaster`). -/
  inBattle : Bool
  /-- No name was chosen before the character creation (source `new_name.empty()`). -/
  newNameEmpty : Bool
  /-- The free stat points of the player (source `UNIT_FIELD_STAT_POINT`). -/
  statPoint : Nat
  /-- The free spell points of the player (source `UNIT_FIELD_SPELL_POINT`). -/
  spellPoint : Nat
  /-- The free spell points of the pet at a pet slot, if there is one (source `Player::GetPet`). -/
  petSpellPoint : Nat → Option Nat

/-- The guard of the source: a shorter packet is reported and skipped (source
`CHECK_PACKET_SIZE`). -/
def checkPacketSize {α : Type} (s : Nat) (rest : Reader (Option α)) : Reader (Option α) := fun b =>
  if b.size < s then .ok (none, b) else rest b

/-- The bytes of a string up to its end or the end of the packet, and the number of bytes passed. -/
def stringLoop : List UInt8 → List UInt8 × Nat
  | [] => ([], 0)
  | c :: cs =>
    if c = 0 then ([], 1)
    else
      let r := stringLoop cs
      (ByteBuffer.encodeByte c :: r.1, r.2 + 1)

/-- A decoded string (source `ByteBuffer::operator>>(std::string&)`). -/
def readString : Reader (List UInt8) := fun b =>
  let r := stringLoop (b.storage.drop b.rpos)
  .ok (r.1, { b with rpos := b.rpos + r.2 })

/-- The request of a packet to `WorldSession::HandleUseItemOpcodes`. -/
inductive UseItemRequest where
  /-- `0x02`: take an item on the floor. -/
  | take (map_itemid amount : Nat)
  /-- `0x03`: drop an item to the floor. -/
  | drop (invslot amount : Nat)
  /-- `0x0B`: equip an item to the player. -/
  | equip (invslot : Nat)
  /-- `0x0C`: unequip an item of the player. -/
  | unequip (eqslot invslot : Nat)
  /-- `0x0F`: consume items. -/
  | consume (invslot amount target unk1 : Nat)
  /-- `0x11`: equip an item to a pet. -/
  | petEquip (target invslot : Nat)
  /-- `0x12`: unequip an item of a pet. -/
  | petUnequip (target eqslot invslot : Nat)
  /-- Every other `useitemtype`, which the `switch` leaves out. -/
  | other
  deriving DecidableEq, Repr

/-- The reads of `WorldSession::HandleUseItemOpcodes`. -/
def readUseItem : Reader (Option UseItemRequest) :=
  checkPacketSize 1 do
    let useitemtype ← ByteBuffer.read .uint8
    match useitemtype with
    | 0x02 => checkPacketSize (1 + 2 + 1) do
      let map_itemid ← ByteBuffer.read .uint16
      let amount ← ByteBuffer.read .uint8
      return some (.take map_itemid amount)
    | 0x03 => checkPacketSize (1 + 1 + 1) do
      let tmp_invslot ← ByteBuffer.read .uint8
      let amount ← ByteBuffer.read .uint8
      return some (.drop tmp_invslot amount)
    | 0x0B => checkPacketSize 1 do
      let tmp_invslot ← ByteBuffer.read .uint8
      return some (.equip tmp_invslot)
    | 0x0C => checkPacketSize (1 + 1) do
      let tmp_eqslot ← ByteBuffer.read .uint8
      let tmp_invslot ← ByteBuffer.read .uint8
      return some (.unequip tmp_eqslot tmp_invslot)
    | 0x0F => checkPacketSize (1 + 1 + 1 + 1) do
      let tmp_invslot ← ByteBuffer.read .uint8
      let amount ← ByteBuffer.read .uint8
      let target ← ByteBuffer.read .uint8
      let unk1 ← ByteBuffer.read .uint8
      return some (.consume tmp_invslot amount target unk1)
    | 0x11 => checkPacketSize (1 + 1) do
      let target ← ByteBuffer.read .uint8
      let tmp_invslot ← ByteBuffer.read .uint8
      return some (.petEquip target tmp_invslot)
    | 0x12 => checkPacketSize (1 + 1 + 1) do
      let target ← ByteBuffer.read .uint8
      let tmp_eqslot ← ByteBuffer.read .uint8
      let tmp_invslot ← ByteBuffer.read .uint8
      return some (.petUnequip target tmp_eqslot tmp_invslot)
    | _ => return some .other

/-- The request of a packet to `WorldSession::HandlePlayerTransacItemOpcodes`. -/
inductive TransacRequest where
  /-- `0x01`: buy from a vendor. -/
  | buy (vendor_slot buy_count : Nat)
  /-- `0x02`: sell to a vendor. -/
  | sell (player_slot sell_count : Nat)
  | other
  deriving DecidableEq, Repr

/-- The reads of `WorldSession::HandlePlayerTransacItemOpcodes`. -/
def readTransacItem : Reader (Option TransacRequest) :=
  checkPacketSize 1 do
    let transac_type ← ByteBuffer.read .uint8
    match transac_type with
    | 0x01 => checkPacketSize (1 + 1 + 2) do
      let vendor_slot ← ByteBuffer.read .uint8
      let buy_count ← ByteBuffer.read .uint16
      return some (.buy vendor_slot buy_count)
    | 0x02 => checkPacketSize (1 + 1 + 1) do
      let player_slot ← ByteBuffer.read .uint8
      let sell_count ← ByteBuffer.read .uint8
      return some (.sell player_slot sell_count)
    | _ => return some .other

/-- The request of a packet to `WorldSession::HandleMessagechatOpcode`. -/
structure ChatRequest where
  chatType : Nat
  target : Nat
  msg : List UInt8
  deriving DecidableEq, Repr

/-- A private message (source `CHAT_MSG_WHISPER`). -/
@[simp]
def chatMsgWhisper : Nat := 3

/-- The reads of `WorldSession::HandleMessagechatOpcode`, which has no guard. -/
def readMessagechat : Reader (Option ChatRequest) := do
  let chatType ← ByteBuffer.read .uint8
  if chatType = chatMsgWhisper then
    let target ← ByteBuffer.read .uint32
    let msg ← readString
    return some ⟨chatType, target, msg⟩
  else
    let msg ← readString
    return some ⟨chatType, 0, msg⟩

/-- The request of a packet to `WorldSession::HandlePlayerBattleCommandOpcodes`. -/
inductive BattleCommandRequest where
  /-- `0x02`: attack a player or a creature. -/
  | pk (type target map_npcid : Nat)
  | other
  deriving DecidableEq, Repr

/-- The reads of `WorldSession::HandlePlayerBattleCommandOpcodes`. -/
def readBattleCommand : Reader (Option BattleCommandRequest) :=
  checkPacketSize (1 + 1 + 4 + 2) do
    let cmd ← ByteBuffer.read .uint8
    if cmd = 0x02 then
      let type ← ByteBuffer.read .uint8
      let target ← ByteBuffer.read .uint32
      let map_npcid ← ByteBuffer.read .uint16
      return some (.pk type target map_npcid)
    else return some .other

/-- The request of a packet to `WorldSession::HandlePlayerAttackOpcode`. -/
structure AttackRequest where
  type : Nat
  atk_col : Nat
  atk_row : Nat
  tgt_col : Nat
  tgt_row : Nat
  spell : Nat
  deriving DecidableEq, Repr

/-- The reads of `WorldSession::HandlePlayerAttackOpcode`. -/
def readAttack : Reader (Option AttackRequest) :=
  checkPacketSize (1 + 1 + 1 + 1 + 1 + 2) do
    let type ← ByteBuffer.read .uint8
    let atk_col ← ByteBuffer.read .uint8
    let atk_row ← ByteBuffer.read .uint8
    let tgt_col ← ByteBuffer.read .uint8
    let tgt_row ← ByteBuffer.read .uint8
    let spell ← ByteBuffer.read .uint16
    return some ⟨type, atk_col, atk_row, tgt_col, tgt_row, spell⟩

/-- The request of a packet to `WorldSession::HandleGroupOpcodes`. -/
inductive GroupRequest where
  /-- `0x01`: a member asks a leader. -/
  | memberRequest (leaderId : Nat)
  /-- `0x03`: the leader's response. -/
  | leaderResponse (response memberId : Nat)
  /-- `0x04`: leave or dismiss the team. -/
  | leave (teamleaderId : Nat)
  /-- `0x05`: appoint a sub-leader. -/
  | grantSubleader (subleaderId : Nat)
  /-- `0x06`: dismiss a sub-leader. -/
  | revokeSubleader (subleaderId : Nat)
  /-- `0x07`: ask somebody to join. -/
  | invite (targetId : Nat)
  | other
  deriving DecidableEq, Repr

/-- The reads of `WorldSession::HandleGroupOpcodes`. -/
def readGroup (v : SessionView) : Reader (Option GroupRequest) :=
  checkPacketSize 1 do
    let groupCommandType ← ByteBuffer.read .uint8
    match groupCommandType with
    | 0x01 =>
      if v.isJoinedTeam then return none
      else if v.isBattleInProgress || v.inBattle then return none
      else checkPacketSize 4 do
        let leaderId ← ByteBuffer.read .uint32
        return some (.memberRequest leaderId)
    | 0x03 =>
      if v.isJoinedTeam then return none
      else if v.isBattleInProgress then return none
      else checkPacketSize (1 + 4) do
        let response ← ByteBuffer.read .uint8
        let memberId ← ByteBuffer.read .uint32
        return some (.leaderResponse response memberId)
    | 0x04 => checkPacketSize (1 + 4) do
      let teamleaderId ← ByteBuffer.read .uint32
      return some (.leave teamleaderId)
    | 0x05 => checkPacketSize (1 + 4) do
      let subleaderId ← ByteBuffer.read .uint32
      return some (.grantSubleader subleaderId)
    | 0x06 => checkPacketSize (1 + 4) do
      let subleaderId ← ByteBuffer.read .uint32
      return some (.revokeSubleader subleaderId)
    | 0x07 => checkPacketSize (1 + 4) do
      let targetId ← ByteBuffer.read .uint32
      return some (.invite targetId)
    | _ => return some .other

/-- The request of a packet to `WorldSession::HandlePlayerSpellAddOpcodes`: `1` names the player,
`2` the pet at `petslot`. -/
structure SpellAddRequest where
  target : Nat
  petslot : Nat
  entries : List (Nat × Nat)
  deriving DecidableEq, Repr

/-- The reads of the loop of `WorldSession::HandlePlayerSpellAddOpcodes`. -/
def readSpellEntries : Nat → Reader (List (Nat × Nat))
  | 0 => pure []
  | n + 1 => do
    let spell_entry ← ByteBuffer.read .uint16
    let mod_value ← ByteBuffer.read .uint8
    let rest ← readSpellEntries n
    return (spell_entry, mod_value) :: rest

/-- The number of entries announced by the length of the packet (source `psize`, a `uint8`). -/
def spellAddCount (size : Nat) : Nat := (size - 1) / 3 % 2 ^ 8

/-- The loop of the spell add handler on a unit with these free points, `none` for no unit. -/
def readSpellAddLoop (psize target petslot : Nat) (points : Option Nat) :
    Reader (Option SpellAddRequest) :=
  match points with
  | none => return none
  | some 0 => return none
  | some (_ + 1) => do
    let entries ← readSpellEntries psize
    return some ⟨target, petslot, entries⟩

/-- The reads of `WorldSession::HandlePlayerSpellAddOpcodes`. -/
def readSpellAdd (v : SessionView) : Reader (Option SpellAddRequest) :=
  checkPacketSize (1 + 2 + 1) do
    let recv_data ← get
    let psize := spellAddCount recv_data.size
    if psize = 0 then return none
    else
      let target ← ByteBuffer.read .uint8
      if target = 1 then readSpellAddLoop psize target 0 (some v.spellPoint)
      else if target = 2 then
        let petslot ← ByteBuffer.read .uint8
        -- `petslot - 1` is an `int` that the call cuts to a `uint8`
        readSpellAddLoop psize target petslot (v.petSpellPoint ((petslot + 255) % 256))
      else return none

/-- The request of a packet to `WorldSession::HandlePlayerStatAddOpcodes`. -/
structure StatAddRequest where
  modifier : Nat
  upd_stat_flag : Nat
  mod_value : Nat
  deriving DecidableEq, Repr

/-- The reads of `WorldSession::HandlePlayerStatAddOpcodes`. -/
def readStatAdd (v : SessionView) : Reader (Option StatAddRequest) :=
  checkPacketSize (1 + 1 + 1 + 1 + 1 + 4) do
    if v.statPoint = 0 then return none
    else
      let modifier ← ByteBuffer.read .uint8
      let _unk1 ← ByteBuffer.read .uint8
      let _unk2 ← ByteBuffer.read .uint8
      let upd_stat_flag ← ByteBuffer.read .uint8
      let mod_value ← ByteBuffer.read .uint8
      let _unk3 ← ByteBuffer.read .uint32
      return some ⟨modifier, upd_stat_flag, mod_value⟩

/-- The request of a packet to `WorldSession::HandlePetCommandOpcodes`. -/
inductive PetCommandRequest where
  /-- `0x01`: the pet with this model joins the battle. -/
  | battle (petModelId : Nat)
  /-- `0x02`: the battle pet rests. -/
  | rest
  | other
  deriving DecidableEq, Repr

/-- The reads of `WorldSession::HandlePetCommandOpcodes`. -/
def readPetCommand : Reader (Option PetCommandRequest) :=
  checkPacketSize 1 do
    let command ← ByteBuffer.read .uint8
    match command with
    | 0x01 => checkPacketSize (2 + 2) do
      let petModelId ← ByteBuffer.read .uint16
      return some (.battle petModelId)
    | 0x02 => return some .rest
    | _ => return some .other

/-- The reads of `WorldSession::HandlePetReleaseOpcode`: the sub-command and the pet slot. -/
def readPetRelease : Reader (Option (Nat × Nat)) :=
  checkPacketSize (1 + 1) do
    let subcmd ← ByteBuffer.read .uint8
    let petslot ← ByteBuffer.read .uint8
    return some (subcmd, petslot)

/-- The request of a packet to `WorldSession::HandlePlayerActionOpcode`. -/
inductive ActionRequest where
  /-- `0x01`: click on a creature. -/
  | clickNpc (map_npcid : Nat)
  /-- `0x08`: enter a door. -/
  | enterDoor (doorid : Nat)
  /-- `0x09`: select an option of a dialog. -/
  | selectDialog (option : Nat)
  | other (subOpcode : Nat)
  deriving DecidableEq, Repr

/-- The reads of `WorldSession::HandlePlayerClickNpc`. -/
def readClickNpc (v : SessionView) : Reader (Option ActionRequest) :=
  if v.isDead then return none
  else checkPacketSize 1 do
    let map_npcid ← ByteBuffer.read .uint8
    return some (.clickNpc map_npcid)

/-- The reads of `WorldSession::HandlePlayerEnterDoorOpcode`. -/
def readEnterDoor : Reader (Option ActionRequest) :=
  checkPacketSize (1 + 1) do
    let doorid ← ByteBuffer.read .uint8
    return some (.enterDoor doorid)

/-- The reads of `WorldSession::HandlePlayerSelectDialogOpcodes`. -/
def readSelectDialog : Reader (Option ActionRequest) :=
  checkPacketSize 1 do
    let option ← ByteBuffer.read .uint8
    return some (.selectDialog option)

/-- The reads of `WorldSession::HandlePlayerActionOpcode`. -/
def readPlayerAction (v : SessionView) : Reader (Option ActionRequest) :=
  checkPacketSize 1 do
    let subOpcode ← ByteBuffer.read .uint8
    match subOpcode with
    | 0x01 => readClickNpc v
    | 0x08 => if v.dontMove then return some (.other subOpcode) else readEnterDoor
    | 0x09 => readSelectDialog
    | _ => return some (.other subOpcode)

/-- The request of a packet to `WorldSession::HandleCharCreateOpcode`. -/
inductive CharCreateRequest where
  /-- `0x01`: the looks, the element and stats, and the two passwords. -/
  | create (looks stats pass1 pass2 : List UInt8)
  /-- `0x02`: a name is chosen. -/
  | selectName (name : List UInt8)
  | other
  deriving DecidableEq, Repr

/-- The reads of `Player::Create`: eight bytes of looks after `gender`, `face`, `hair` and `reborn`,
the element with six stats, and two passwords with their lengths. -/
def readCreate : Reader (Option CharCreateRequest) := do
  let looks ← ByteBuffer.readBytes 12
  let stats ← ByteBuffer.readBytes 7
  let lenPassword1 ← ByteBuffer.read .uint8
  checkPacketSize lenPassword1 do
    let pass1 ← ByteBuffer.readBytes lenPassword1
    let lenPassword2 ← ByteBuffer.read .uint8
    checkPacketSize lenPassword2 do
      let pass2 ← ByteBuffer.readBytes lenPassword2
      return some (.create looks stats pass1 pass2)

/-- The reads of `WorldSession::HandleCharCreate`. -/
def readCharCreateData (v : SessionView) : Reader (Option CharCreateRequest) :=
  checkPacketSize (1 + 1 + 1 + 1 + 2 + 2 + 2 + 2 + 1 + 1 + 1 + 1 + 1 + 1 + 1 + 1) do
    if v.newNameEmpty then return none else readCreate

/-- The reads of `WorldSession::HandleCharCreateSelectName`. -/
def readSelectName : Reader (Option CharCreateRequest) :=
  checkPacketSize 1 do
    let name ← readString
    return some (.selectName name)

/-- The reads of `WorldSession::HandleCharCreateOpcode`. -/
def readCharCreate (v : SessionView) : Reader (Option CharCreateRequest) :=
  checkPacketSize 1 do
    let subOpcode ← ByteBuffer.read .uint8
    match subOpcode with
    | 0x01 => readCharCreateData v
    | 0x02 => readSelectName
    | _ => return some .other

/-- The request of a packet to `WorldSession::HandlePlayerLoginOpcode`. -/
structure LoginRequest where
  accountId : Nat
  patchVer : Nat
  password : List UInt8
  deriving DecidableEq, Repr

/-- The reads of `WorldSession::HandlePlayerLoginOpcode`. -/
def readPlayerLogin : Reader (Option LoginRequest) :=
  checkPacketSize (1 + 4 + 4) do
    let lenPassword ← ByteBuffer.read .uint8
    checkPacketSize (1 + 4 + 4 + lenPassword) do
      let accountId ← ByteBuffer.read .uint32
      let patchVer ← ByteBuffer.read .uint32
      let password ← readString
      return some ⟨accountId, patchVer, password⟩

/-- The reads of `WorldSession::HandleMovementOpcodes`: orientation, position and its last field. -/
def readMovement (v : SessionView) : Reader (Option (List Nat)) :=
  checkPacketSize (1 + 1 + 2 + 2 + 2) do
    if v.dontMove then return none
    else
      let sub_opcode ← ByteBuffer.read .uint8
      let orientation ← ByteBuffer.read .uint8
      let pos_x ← ByteBuffer.read .uint16
      let pos_y ← ByteBuffer.read .uint16
      let unknown2 ← ByteBuffer.read .uint16
      return some [sub_opcode, orientation, pos_x, pos_y, unknown2]

/-- The reads of `WorldSession::HandlePlayerEnterMapCompletedOpcode`, and those of
`WorldSession::HandleUnknownRequest14Opcode`: a sub-opcode. -/
def readSubOpcode : Reader (Option Nat) :=
  checkPacketSize 1 do
    let subOpcode ← ByteBuffer.read .uint8
    return some subOpcode

/-- The reads of `WorldSession::HandlePlayerExpressionOpcode`, and those of
`WorldSession::HandlePlayerEnableOptionsOpcodes`: two bytes. -/
def readTwoBytes : Reader (Option (Nat × Nat)) :=
  checkPacketSize (1 + 1) do
    let first ← ByteBuffer.read .uint8
    let second ← ByteBuffer.read .uint8
    return some (first, second)

/-- The reads of `WorldSession::HandlePlayerSetupShortkeyOpcodes`: type, spell and key. -/
def readSetupShortkey : Reader (Option (Nat × Nat × Nat)) :=
  checkPacketSize (1 + 1 + 2 + 1) do
    let _unk1 ← ByteBuffer.read .uint8
    let type ← ByteBuffer.read .uint8
    let spellid ← ByteBuffer.read .uint16
    let skslot ← ByteBuffer.read .uint8
    return some (type, spellid, skslot)

end Legacy.Wire
