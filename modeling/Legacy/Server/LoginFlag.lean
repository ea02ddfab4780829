import Legacy.Server.Dispatch
import Legacy.Sql.ValueText

/-!
# The flag of a login under way

`WorldSession::HandlePlayerLoginOpcode` raises `m_playerLoading` before it has read the packet, and the session is not
removed while it is raised (`src/src/game/CharacterHandler.cpp`, `WorldSession.cpp`). Here the handler also says
whether it has scheduled the callback that lowers the flag. `usable_iff` says for which packets and answers every
login that comes to nothing leaves a session that can be removed.
-/

namespace Legacy.Server.Dispatch
open Legacy.Lib Legacy.Wire Legacy.Sql

/-- source `class LoginQueryHolder` -/
structure LoginQueryHolder where
  accountId : Nat
  guid : Nat
  deriving DecidableEq, Repr

/-- What `Player::LoadFromDB` checks of the row of a character. -/
structure CharacterResult where
  accountId : Nat
  data : List Char
  deriving DecidableEq, Repr

/-- source `PLAYER_END` -/
abbrev playerEnd : Nat := 122

/-- source `Player::LoadFromDB`, up to its last check, for the session of an account -/
def loadFromDB (accountId : Nat) (result : Option CharacterResult) : Bool :=
  match result with
  | none => false
  | some f => if f.accountId ≠ accountId then false else ((⟨none⟩ : ObjectValues playerEnd).loadValues f.data).1

namespace WorldSession

/-- source `WorldSession::HandlePlayerLoginOpcode`, with the query whose callback it has scheduled; `delayed` is the
result of `Database::DelayQueryHolder` -/
def loginOpcode (s : WorldSession) (answers : Answers) (delayed : Bool) (recv_data : WorldPacket) :
    Option (WorldSession × Option LoginQueryHolder) :=
  if recv_data.buffer.size < 1 + 4 + 4 then some (s, none)
  else
    let s := { s with playerLoading := true }
    match readPlayerLogin recv_data.buffer with
    | .error _ => none
    | .ok (none, _) => some (s, none)
    | .ok (some request, _) =>
      match answers.character request.accountId with
      | none => some (s, none)
      | some playerGuid =>
        if !answers.initializes then some ({ s with playerLoading := false }, none)
        -- the result of `DelayQueryHolder` is not looked at
        else some (s, if delayed then some ⟨request.accountId, playerGuid⟩ else none)

/-- source `WorldSession::HandlePlayerLogin` -/
def handlePlayerLogin (s : WorldSession) (holder : LoginQueryHolder) (result : Option CharacterResult) : WorldSession :=
  if !loadFromDB s.accountId result then { s with playerLoading := false }
  else { s with player := some holder.guid, playerLoading := false }

end WorldSession

/-- source `CharacterHandler::HandlePlayerLoginCallback`; `sessions` are those of `World::FindSession` -/
def handlePlayerLoginCallback (sessions : Nat → Option WorldSession) (holder : Option LoginQueryHolder)
    (result : Option CharacterResult) : Nat → Option WorldSession :=
  match holder with
  | none => sessions
  | some holder =>
    match sessions holder.accountId with
    | none => sessions
    | some session =>
      Function.update sessions holder.accountId (some (session.handlePlayerLogin holder result))

/-- The account that a login packet names. -/
def accountOf (body : List UInt8) : Nat := ENCODE .uint32 (ofBytes ((body.drop 1).take 4))

namespace WorldSession

/-- The flag is down, and once its socket is gone the session is removed by the next update. -/
def Usable (s : WorldSession) : Prop :=
  s.playerLoading = false ∧
    ∀ answers, ∃ s', update { s with socket := false, recvQueue := [] } answers = some s' ∧ s'.live = false

/-- A login packet that schedules nothing leaves the session usable. -/
def OpcodeUsable (s : WorldSession) (answers : Answers) (delayed : Bool) (recv_data : WorldPacket) : Prop :=
  ∀ s', s.loginOpcode answers delayed recv_data = some (s', none) → s'.Usable

/-- A callback that loads no player leaves the session that it finds usable. -/
def CallbackUsable (sessions : Nat → Option WorldSession) (holder : LoginQueryHolder)
    (result : Option CharacterResult) : Prop :=
  ∀ s, sessions holder.accountId = some s → loadFromDB s.accountId result = false →
    ∃ s', handlePlayerLoginCallback sessions (some holder) result holder.accountId = some s' ∧ s'.Usable

/-- A packet too short for its fixed part comes when no login is under way. Any other has its password inside, and
names an account with a character, whose queries are scheduled if they could be set up. -/
def LoginFits (s : WorldSession) (answers : Answers) (delayed : Bool) (body : List UInt8) : Prop :=
  if body.length < 9 then s.playerLoading = false
  else 9 + byteAt body 0 ≤ body.length ∧ answers.character (accountOf body) ≠ none ∧
    (answers.initializes = true → delayed = true)

variable {s s' : WorldSession} {answers : Answers} {delayed : Bool} {cmd : UInt8} {body : List UInt8}

/-- The handler does to the session what the dispatch says. -/
lemma loginOpcode_session (s : WorldSession) (answers : Answers) (delayed : Bool) (recv_data : WorldPacket) :
    (s.loginOpcode answers delayed recv_data).map Prod.fst = s.handlePlayerLoginOpcode answers recv_data := by
  rw [loginOpcode, handlePlayerLoginOpcode]
  split
  · rfl
  cases readPlayerLogin recv_data.buffer with
  | error f => rfl
  | ok read =>
    obtain ⟨request, b⟩ := read
    cases request with
    | none => rfl
    | some request =>
      dsimp only
      rw [queryLogin]
      cases answers.character request.accountId with
      | none => rfl
      | some playerGuid =>
        dsimp only
        cases answers.initializes with
        | true => rw [if_neg (by decide), Option.map_some]
        | false => rw [if_pos (by decide), Option.map_some]

/-- A session with its flag down can be removed. -/
lemma usable_of_lowered (lowered : s.playerLoading = false) : s.Usable := by
  refine ⟨lowered, fun answers =>
    ⟨{ logoutPlayer { s with socket := false, recvQueue := [] } with live := false }, ?_, rfl⟩⟩
  rw [update, dispatchAll, Option.map_some]
  dsimp only
  rw [if_pos (by rw [lowered]; decide)]

/-- A session whose flag is up stays. -/
lemma not_usable (raised : s.playerLoading = true) : ¬s.Usable := by
  intro usable
  exact Bool.noConfusion (raised.symm.trans usable.1)

/-- The first byte of a packet that has its fixed part. -/
lemma read_lenPassword (fixed : 9 ≤ body.length) :
    ByteBuffer.read .uint8 (start body) = .ok (byteAt body 0, (start body).skip Width.uint8.sizeof) := by
  have inside : (start body).rpos + Width.uint8.sizeof ≤ (start body).size := by
    rw [start_rpos, start_size, Width.sizeof]
    omega
  have length : (start body).word .uint8 = byteAt body 0 := ByteBuffer.word_uint8 _
  rw [ByteBuffer.read_inside inside, length]

/-- The reads of a packet whose password is not inside. -/
lemma readPlayerLogin_cut (fixed : 9 ≤ body.length) (cut : body.length < 9 + byteAt body 0) :
    ∃ b, readPlayerLogin (start body) = .ok (none, b) := by
  have small : ((start body).skip Width.uint8.sizeof).size < 1 + 4 + 4 + byteAt body 0 := by
    rw [ByteBuffer.skip_size, start_size]
    omega
  refine ⟨(start body).skip Width.uint8.sizeof, ?_⟩
  rw [readPlayerLogin, checkPacketSize, if_neg (by rw [start_size]; omega)]
  simp only [bind, StateT.bind, read_lenPassword fixed, Except.bind, checkPacketSize, if_pos small]

/-- The reads of a packet with its password inside. -/
lemma readPlayerLogin_whole (whole : 9 + byteAt body 0 ≤ body.length) :
    ∃ request b, readPlayerLogin (start body) = .ok (some request, b) ∧ request.accountId = accountOf body := by
  have fixed : 9 ≤ body.length := Nat.le_trans (Nat.le_add_right 9 _) whole
  have large : ¬((start body).skip Width.uint8.sizeof).size < 1 + 4 + 4 + byteAt body 0 := by
    rw [ByteBuffer.skip_size, start_size]
    omega
  have second : ((start body).skip Width.uint8.sizeof).rpos + Width.uint32.sizeof ≤
      ((start body).skip Width.uint8.sizeof).size := by
    rw [ByteBuffer.skip_rpos, ByteBuffer.skip_size, start_rpos, start_size, Width.sizeof, Width.sizeof]
    omega
  have third : (((start body).skip Width.uint8.sizeof).skip Width.uint32.sizeof).rpos + Width.uint32.sizeof ≤
      (((start body).skip Width.uint8.sizeof).skip Width.uint32.sizeof).size := by
    rw [ByteBuffer.skip_rpos, ByteBuffer.skip_rpos, ByteBuffer.skip_size, ByteBuffer.skip_size, start_rpos, start_size,
      Width.sizeof, Width.sizeof]
    omega
  let b := ((start body).skip Width.uint8.sizeof).skip Width.uint32.sizeof
  let rest := b.skip Width.uint32.sizeof
  let password := stringLoop (rest.storage.drop rest.rpos)
  refine ⟨⟨accountOf body, b.word .uint32, password.1⟩, { rest with rpos := rest.rpos + password.2 }, ?_, rfl⟩
  rw [readPlayerLogin, checkPacketSize, if_neg (by rw [start_size]; omega)]
  simp only [bind, StateT.bind, read_lenPassword fixed, Except.bind, checkPacketSize, if_neg large,
    ByteBuffer.read_inside second, ByteBuffer.read_inside third]
  rfl

/-- The exact condition on a login packet. -/
lemma opcodeUsable_iff : OpcodeUsable s answers delayed (.received cmd body) ↔ LoginFits s answers delayed body := by
  have buffer : (WorldPacket.received cmd body).buffer = start body := rfl
  rw [OpcodeUsable, LoginFits, loginOpcode, buffer, start_size]
  by_cases short : body.length < 9
  · rw [if_pos short, if_pos short]
    constructor
    · intro usable
      exact (usable s rfl).1
    · intro lowered s' run
      cases run
      exact usable_of_lowered lowered
  · rw [if_neg short, if_neg short]
    by_cases whole : 9 + byteAt body 0 ≤ body.length
    · obtain ⟨request, b, read, account⟩ := readPlayerLogin_whole whole
      simp only [read, account, and_iff_right whole]
      cases answers.character (accountOf body) with
      | none =>
        refine iff_of_false (fun usable => not_usable rfl (usable _ rfl)) ?_
        exact fun fits => fits.1 rfl
      | some playerGuid =>
        rw [and_iff_right (Option.some_ne_none _)]
        cases answers.initializes with
        | false =>
          refine iff_of_true (fun s' run => ?_) fun initialized => absurd initialized Bool.false_ne_true
          cases run
          exact usable_of_lowered rfl
        | true =>
          cases delayed with
          | true =>
            refine iff_of_true (fun s' run => ?_) fun _ => rfl
            cases run
          | false =>
            refine iff_of_false (fun usable => not_usable rfl (usable _ rfl)) ?_
            exact fun fits => Bool.false_ne_true (fits rfl)
    · obtain ⟨b, read⟩ := readPlayerLogin_cut (Nat.not_lt.mp short) (Nat.not_le.mp whole)
      simp only [read]
      refine iff_of_false (fun usable => not_usable rfl (usable _ rfl)) ?_
      exact fun fits => whole fits.1

/-- The callback lowers the flag of the session that it finds. -/
lemma callbackUsable (sessions : Nat → Option WorldSession) (holder : LoginQueryHolder)
    (result : Option CharacterResult) : CallbackUsable sessions holder result := by
  intro s found failed
  refine ⟨{ s with playerLoading := false }, ?_, usable_of_lowered rfl⟩
  rw [handlePlayerLoginCallback, found]
  dsimp only
  rw [Function.update_self, handlePlayerLogin, failed, if_pos (by decide)]

/-- Every login packet that schedules nothing and every callback that loads no player leave a session that can be
removed, exactly if the packet fits the session and the answers: too short for its fixed part while no login is under
way, or with its password inside, for an account with a character, whose queries are scheduled if they could be set
up. -/
theorem usable_iff (s : WorldSession) (answers : Answers) (delayed : Bool) (cmd : UInt8) (body : List UInt8)
    (sessions : Nat → Option WorldSession) (holder : LoginQueryHolder) (result : Option CharacterResult) :
    (OpcodeUsable s answers delayed (.received cmd body) ∧ CallbackUsable sessions holder result) ↔
      LoginFits s answers delayed body := by
  rw [and_iff_left (callbackUsable sessions holder result), opcodeUsable_iff]

/-- A packet of nine bytes with a password of one byte: the second check of the size fails, and the flag stays up. -/
theorem not_opcodeUsable :
    ¬∀ (s : WorldSession) (answers : Answers) (delayed : Bool) (cmd : UInt8) (body : List UInt8),
      s.playerLoading = false → OpcodeUsable s answers delayed (.received cmd body) := by
  intro usable
  have left := usable ⟨7, true, none, false, false, [], [], [], true⟩
    ⟨ClientHandler.idleView, true, fun _ => some 1, true⟩ true 1 [0xAC, 0, 0, 0, 0, 0, 0, 0, 0] rfl _ rfl
  exact Bool.noConfusion left.1

end WorldSession

end Legacy.Server.Dispatch
