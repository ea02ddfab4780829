import Legacy.Lib.Reach
import Legacy.Lib.Table

/-!
# Sockets, sessions and players

Model of the life of a connection: `WorldSocket::OnRead`, `_HandleAuthSession`, `CloseSocket` and `OnDelete`
(`src/src/game/WorldSocket.cpp`), `WorldSession::Update` and `LogoutPlayer` (`WorldSession.cpp`),
`World::RemoveSession` and `AddSession` (`World.cpp`), and the login and character creation of
`CharacterHandler.cpp`. Objects are named by their addresses; a new object gets one that is free. What the
databases answer and whether data loads is part of an event. A step is undefined (`none`) when its event
cannot happen, and when the C++ program would read a deleted object.
-/

namespace Legacy.Server
open Legacy.Lib

/-- A packet in the queue of a session. -/
inductive Packet where
  /-- `CMSG_AUTH_RESPONSE`; `sized` when the password lies inside the packet -/
  | login (accountId : Nat) (sized : Bool)
  /-- `CMSG_CHAR_CREATE` 0x02; `named` when the name is not empty -/
  | selectName (named : Bool)
  /-- `CMSG_CHAR_CREATE` 0x01; `created` is the result of `Player::Create` -/
  | create (created : Bool)
  deriving DecidableEq, Repr

/-- source `class WorldSocket` -/
structure WorldSocket where
  session : Option Nat
  closeAndDelete : Bool
  deriving DecidableEq, Repr

/-- source `class WorldSession`; `named` when `new_name` is not empty -/
structure WorldSession where
  accountId : Nat
  socket : Option Nat
  player : Option Nat
  playerLoading : Bool
  named : Bool
  recvQueue : List Packet
  deriving DecidableEq, Repr

/-- source `class Player`; `inWorld` once it is added to its map -/
structure Player where
  guid : Nat
  session : Nat
  inWorld : Bool
  deriving DecidableEq, Repr

/-- source `class LoginQueryHolder` -/
structure LoginQueryHolder where
  accountId : Nat
  guid : Nat
  deriving DecidableEq, Repr

/-- The objects that are alive, `World::m_sessions`, the players by guid (source `ObjectAccessor`), the
queries under way and the rows of the databases: the accounts that are marked online, and guid and account
of every character. -/
structure World where
  sockets : Nat → Option WorldSocket
  sessions : Nat → Option WorldSession
  sessionMap : Nat → Option Nat
  players : Nat → Option Player
  objectMap : Nat → Option Nat
  holders : List LoginQueryHolder
  online : Nat → Bool
  characters : List (Nat × Nat)
  nextGuid : Nat

/-- What can happen to the server. -/
inductive Event where
  /-- A client connects. -/
  | accept (s : Nat)
  /-- A socket reads `CMSG_AUTH_RESPONSE`: `valid` when the account and the password match, `offline` when
  the account has a character that is not online; `x` is the address of a new session. -/
  | auth (s accountId : Nat) (valid offline sized : Bool) (x : Nat)
  /-- A socket reads another packet. -/
  | receive (s : Nat) (packet : Packet)
  /-- A session handles the first packet of its queue: `guid` is the first row that the account's
  characters give, `initialized` the result of `LoginQueryHolder::Initialize`, `p` the address of a new
  player. -/
  | handle (x guid : Nat) (initialized : Bool) (p : Nat)
  /-- The first login query is answered: `loaded` is the result of `Player::LoadFromDB`. -/
  | callback (loaded : Bool) (p : Nat)
  /-- A session without socket is removed. -/
  | logout (x : Nat)
  /-- The connection of a socket ends. -/
  | close (s : Nat)
  /-- A socket that is to be deleted is deleted. -/
  | delete (s : Nat)
  deriving DecidableEq, Repr

namespace World

/-- A socket is changed, or opened. -/
def setSocket (w : World) (s : Nat) (k : WorldSocket) : World :=
  { w with sockets := Function.update w.sockets s (some k) }

/-- A session is changed, or opened. -/
def setSession (w : World) (x : Nat) (S : WorldSession) : World :=
  { w with sessions := Function.update w.sessions x (some S) }

/-- Writing one socket. -/
lemma setSocket_sockets (w : World) (s : Nat) (k : WorldSocket) :
    (w.setSocket s k).sockets = Function.update w.sockets s (some k) := rfl

/-- Marks a socket for deletion and forgets its session (source `WorldSocket::CloseSocket`). -/
def closeSocket (w : World) (s : Nat) : Option World :=
  (w.sockets s).map fun k => w.setSocket s { k with closeAndDelete := true, session := none }

/-- Takes the player of a session out of the world and deletes it (source
`WorldSession::LogoutPlayer`). -/
def logoutPlayer (w : World) (x : Nat) (S : WorldSession) : Option World :=
  let w := { w with online := Function.update w.online S.accountId false }
  match S.player with
  | none => some w
  | some p =>
    (w.players p).map fun P =>
      { w with
        objectMap := Function.update w.objectMap P.guid none
        players := Function.update w.players p none
        sessions := Function.update w.sessions x (some { S with player := none }) }

/-- Closes the socket of a session, if it has one. -/
def closeSocketOf (w : World) (S : WorldSession) : Option World :=
  match S.socket with
  | none => some w
  | some s => w.closeSocket s

/-- Deletes a session (source `WorldSession::~WorldSession`). -/
def deleteSession (w : World) (x : Nat) (S : WorldSession) : Option World :=
  (if S.player.isSome then w.logoutPlayer x S else some w).bind fun w =>
    (w.closeSocketOf S).map fun w => { w with sessions := Function.update w.sessions x none }

/-- Deletes the session of an account, if there is one (source `World::RemoveSession`). -/
def removeSession (w : World) (accountId : Nat) : Option World :=
  match w.sessionMap accountId with
  | none => some w
  | some x =>
    (w.sessions x).bind fun S =>
      (w.deleteSession x S).map fun w =>
        { w with sessionMap := Function.update w.sessionMap accountId none }

/-- A new session on a socket (source, the end of `WorldSocket::_HandleAuthSession` with
`World::AddSession`); the packet goes to its queue when the account has a character that is not online. -/
def addSession (w : World) (s : Nat) (k : WorldSocket) (accountId : Nat) (offline sized : Bool) (x : Nat) :
    World :=
  { w with
    online := Function.update w.online accountId true
    sessions := Function.update w.sessions x
      (some ⟨accountId, some s, none, false, false, if offline then [.login accountId sized] else []⟩)
    sockets := Function.update w.sockets s (some { k with session := some x })
    sessionMap := Function.update w.sessionMap accountId (some x) }

/-- source `WorldSocket::_HandleAuthSession` -/
def handleAuthSession (w : World) (s accountId : Nat) (valid offline sized : Bool) (x : Nat) :
    Option World :=
  if !valid || w.online accountId then some w
  else
    (w.removeSession accountId).bind fun w =>
      (w.sockets s).bind fun k =>
        if (w.sessions x).isSome then none else some (w.addSession s k accountId offline sized x)

/-- source `WorldSession::HandlePlayerLoginOpcode` -/
def handlePlayerLoginOpcode (w : World) (x : Nat) (S : WorldSession) (accountId : Nat) (sized : Bool)
    (guid : Nat) (initialized : Bool) : Option World :=
  let loading := { S with playerLoading := true }
  if !sized then some (w.setSession x loading)
  else if ∀ row ∈ w.characters, row.2 ≠ accountId then some (w.setSession x loading)
  else if (guid, accountId) ∉ w.characters then none
  else if !initialized then some (w.setSession x { S with playerLoading := false })
  else some { w.setSession x loading with holders := w.holders ++ [⟨accountId, guid⟩] }

/-- source `WorldSession::HandleCharCreate` -/
def handleCharCreate (w : World) (x : Nat) (S : WorldSession) (created : Bool) (guid : Nat)
    (initialized : Bool) (p : Nat) : Option World :=
  if !S.named then
    -- the new player object is not deleted on this path
    if (w.players p).isSome then none
    else some { w.setSession x S with players := Function.update w.players p (some ⟨0, x, false⟩) }
  else if !created then some { w.setSession x S with nextGuid := w.nextGuid + 1 }
  else
    handlePlayerLoginOpcode
      { w with characters := w.characters ++ [(w.nextGuid, S.accountId)], nextGuid := w.nextGuid + 1 }
      x { S with named := false } S.accountId true guid initialized

/-- Calls the handler of a packet. -/
def handlePacket (w : World) (x : Nat) (S : WorldSession) (guid : Nat) (initialized : Bool) (p : Nat) :
    Packet → Option World
  | .login accountId sized => w.handlePlayerLoginOpcode x S accountId sized guid initialized
  | .selectName named => some (w.setSession x { S with named := named })
  | .create created => w.handleCharCreate x S created guid initialized p

/-- Handles the first packet of the queue of a session that is in the map (source, the loop of
`WorldSession::Update`). -/
def updateSession (w : World) (x guid : Nat) (initialized : Bool) (p : Nat) : Option World :=
  (w.sessions x).bind fun S =>
    match S.recvQueue with
    | [] => none
    | packet :: queue =>
      if w.sessionMap S.accountId = some x then
        w.handlePacket x { S with recvQueue := queue } guid initialized p packet
      else none

/-- source `WorldSession::HandlePlayerLogin` -/
def handlePlayerLogin (w : World) (x : Nat) (S : WorldSession) (guid : Nat) (loaded : Bool) (p : Nat) :
    Option World :=
  if !loaded then some (w.setSession x { S with playerLoading := false })
  else if (w.players p).isSome then none
  else
    some { w.setSession x { S with player := some p, playerLoading := false } with
      players := Function.update w.players p (some ⟨guid, x, true⟩)
      objectMap := Function.update w.objectMap guid (some p) }

/-- source `CharacterHandler::HandlePlayerLoginCallback` -/
def handlePlayerLoginCallback (w : World) (loaded : Bool) (p : Nat) : Option World :=
  match w.holders with
  | [] => none
  | holder :: holders =>
    match w.sessionMap holder.accountId with
    | none => some { w with holders := holders }
    | some x =>
      (w.sessions x).bind fun S => handlePlayerLogin { w with holders := holders } x S holder.guid loaded p

/-- Removes a session that lost its socket (source, the end of `WorldSession::Update` and
`World::Update`). -/
def logoutSession (w : World) (x : Nat) : Option World :=
  (w.sessions x).bind fun S =>
    if w.sessionMap S.accountId = some x ∧ S.recvQueue = [] ∧ S.socket = none ∧ S.playerLoading = false then
      (w.logoutPlayer x S).bind fun w =>
        (w.deleteSession x { S with player := none }).map fun w =>
          { w with sessionMap := Function.update w.sessionMap S.accountId none }
    else none

/-- Tells the session of a socket that the socket is gone. -/
def dropSocket (w : World) (k : WorldSocket) : Option World :=
  match k.session with
  | none => some w
  | some x => (w.sessions x).map fun S => w.setSession x { S with socket := none }

/-- Deletes a socket (source `WorldSocket::OnDelete` and `~WorldSocket`). -/
def deleteSocket (w : World) (s : Nat) : Option World :=
  (w.sockets s).bind fun k =>
    if k.closeAndDelete then
      (w.dropSocket k).map fun w => { w with sockets := Function.update w.sockets s none }
    else none

/-- Queues a packet for the session of a socket (source `WorldSession::QueuePacket`). -/
def queuePacket (w : World) (k : WorldSocket) (packet : Packet) : Option World :=
  match k.session with
  | none => some w
  | some x => (w.sessions x).map fun S => w.setSession x { S with recvQueue := S.recvQueue ++ [packet] }

/-- One event. -/
def step (w : World) : Event → Option World
  | .accept s => if (w.sockets s).isSome then none else some (w.setSocket s ⟨none, false⟩)
  | .auth s accountId valid offline sized x =>
    (w.sockets s).bind fun _ => w.handleAuthSession s accountId valid offline sized x
  -- a login packet comes into a queue by authentication alone
  | .receive _ (.login _ _) => none
  | .receive s packet => (w.sockets s).bind fun k => w.queuePacket k packet
  | .handle x guid initialized p => w.updateSession x guid initialized p
  | .callback loaded p => w.handlePlayerLoginCallback loaded p
  | .logout x => w.logoutSession x
  | .close s => (w.sockets s).map fun k => w.setSocket s { k with closeAndDelete := true }
  | .delete s => w.deleteSocket s

/-- The server after its start, with the characters of the database. -/
def start (characters : List (Nat × Nat)) (nextGuid : Nat) : World where
  sockets _ := none
  sessions _ := none
  sessionMap _ := none
  players _ := none
  objectMap _ := none
  holders := []
  online _ := false
  characters := characters
  nextGuid := nextGuid

/-- What taking the player of a session out of the world does. -/
structure LoggedOut (w : World) (x : Nat) (S : WorldSession) (w' : World) : Prop where
  sockets : w'.sockets = w.sockets
  sessions : ∀ v, Function.update w'.sessions x v = Function.update w.sessions x v
  sessionMap : w'.sessionMap = w.sessionMap
  holders : w'.holders = w.holders
  characters : w'.characters = w.characters
  nextGuid : w'.nextGuid = w.nextGuid
  players : ∀ p, S.player = some p → w'.players = Function.update w.players p none
  playersOf : S.player = none → w'.players = w.players

/-- A logout takes the player of the session out of the world. -/
lemma logoutPlayer_loggedOut {w w' : World} {x : Nat} {S : WorldSession}
    (run : w.logoutPlayer x S = some w') : LoggedOut w x S w' := by
  rw [logoutPlayer] at run
  cases player : S.player with
  | none =>
    rw [player] at run
    cases run
    exact ⟨rfl, fun _ => rfl, rfl, rfl, rfl, rfl, fun p eq => (nomatch player.symm.trans eq), fun _ => rfl⟩
  | some p =>
    rw [player] at run
    obtain ⟨P, -, rfl⟩ := Option.map_eq_some_iff.mp run
    refine ⟨rfl, fun _ => Function.update_idem .., rfl, rfl, rfl, rfl, fun q eq => ?_,
      fun eq => (nomatch player.symm.trans eq)⟩
    cases player.symm.trans eq
    rfl

/-- What the deletion of a session does. -/
structure Deleted (w : World) (x : Nat) (S : WorldSession) (w' : World) : Prop where
  sessions : w'.sessions = Function.update w.sessions x none
  sessionMap : w'.sessionMap = w.sessionMap
  holders : w'.holders = w.holders
  characters : w'.characters = w.characters
  nextGuid : w'.nextGuid = w.nextGuid
  players : ∀ p, S.player = some p → w'.players = Function.update w.players p none
  playersOf : S.player = none → w'.players = w.players
  sockets : ∀ s, S.socket = some s →
    w'.sockets = Function.update w.sockets s (some ⟨none, true⟩)
  socketsOf : S.socket = none → w'.sockets = w.sockets

section Deleted

variable {w w' : World} {x : Nat} {S : WorldSession} (deleted : Deleted w x S w')

include deleted

/-- A socket that has a session afterwards is not the one of the session that was deleted. -/
lemma Deleted.socket_live {s y : Nat} {k : WorldSocket} (live : w'.sockets s = some k) (session : k.session = some y) :
    w.sockets s = some k ∧ S.socket ≠ some s := by
  cases own : S.socket with
  | none => exact ⟨deleted.socketsOf own ▸ live, nofun⟩
  | some t =>
    rw [deleted.sockets t own] at live
    rcases update_eq_some.mp live with ⟨rfl, reset⟩ | ⟨ne, live⟩
    · cases reset
      cases session
    · exact ⟨live, fun same => ne (Option.some.inj same).symm⟩

/-- The socket of another session stays. -/
lemma Deleted.socket_kept {s : Nat} {k : WorldSocket} (live : w.sockets s = some k) (other : S.socket ≠ some s) :
    w'.sockets s = some k := by
  cases own : S.socket with
  | none => rw [deleted.socketsOf own, live]
  | some t =>
    rw [deleted.sockets t own]
    refine update_eq_some.mpr (Or.inr ⟨?_, live⟩)
    rintro rfl
    exact other own

/-- The player of the session goes with it. -/
lemma Deleted.player_iff {p : Nat} {P : Player} :
    w'.players p = some P ↔ S.player ≠ some p ∧ w.players p = some P := by
  cases own : S.player with
  | none =>
    rw [deleted.playersOf own]
    exact (and_iff_right nofun).symm
  | some q =>
    rw [deleted.players q own, erase_eq_some]
    exact and_congr_left fun _ => not_congr (eq_comm.trans (Option.some.injEq q p).symm.to_iff)

end Deleted

/-- Deleting a session logs its player out and frees it. -/
lemma deleteSession_deleted {w w' : World} {x : Nat} {S : WorldSession}
    (run : w.deleteSession x S = some w') : Deleted w x S w' := by
  obtain ⟨w₁, first, run⟩ := Option.bind_eq_some_iff.mp run
  obtain ⟨w₂, second, rfl⟩ := Option.map_eq_some_iff.mp run
  have out : LoggedOut w x S w₁ := by
    split at first
    case isTrue => exact logoutPlayer_loggedOut first
    case isFalse absent =>
      cases first
      have player : S.player = none := Option.not_isSome_iff_eq_none.mp absent
      exact ⟨rfl, fun _ => rfl, rfl, rfl, rfl, rfl, fun p eq => (nomatch player.symm.trans eq), fun _ => rfl⟩
  rw [closeSocketOf] at second
  cases socket : S.socket with
  | none =>
    rw [socket] at second
    cases second
    exact ⟨out.sessions none, out.sessionMap, out.holders, out.characters, out.nextGuid, out.players,
      out.playersOf, fun s eq => (nomatch socket.symm.trans eq), fun _ => out.sockets⟩
  | some s =>
    rw [socket] at second
    obtain ⟨k, -, rfl⟩ := Option.map_eq_some_iff.mp second
    refine ⟨out.sessions none, out.sessionMap, out.holders, out.characters, out.nextGuid, out.players,
      out.playersOf, fun t eq => ?_, fun eq => (nomatch socket.symm.trans eq)⟩
    cases socket.symm.trans eq
    rw [← out.sockets]
    rfl

/-- Logging the player out before changes nothing about the deletion. -/
lemma LoggedOut.delete {w w₁ w' : World} {x : Nat} {S : WorldSession} (out : LoggedOut w x S w₁)
    (deleted : Deleted w₁ x { S with player := none } w') : Deleted w x S w' := by
  have players : w'.players = w₁.players := deleted.playersOf rfl
  refine ⟨?_, deleted.sessionMap.trans out.sessionMap, deleted.holders.trans out.holders,
    deleted.characters.trans out.characters, deleted.nextGuid.trans out.nextGuid,
    fun p eq => players.trans (out.players p eq), fun eq => players.trans (out.playersOf eq),
    fun s eq => ?_, fun eq => (deleted.socketsOf eq).trans out.sockets⟩
  · rw [deleted.sessions, out.sessions]
  · rw [deleted.sockets s eq, out.sockets]

section Inversion

variable {w w' : World}

/-- A new session comes to an account that has none, after the old one is removed. -/
lemma handleAuthSession_cases {s a x : Nat} {valid offline sized : Bool}
    (run : w.handleAuthSession s a valid offline sized x = some w') :
    (!valid || w.online a) = true ∧ w' = w ∨
      ¬(!valid || w.online a) = true ∧ ∃ w₁ k, w.removeSession a = some w₁ ∧ w₁.sockets s = some k ∧
        w₁.sessions x = none ∧ w' = w₁.addSession s k a offline sized x := by
  rw [handleAuthSession] at run
  split at run
  case isTrue refused =>
    cases run
    exact Or.inl ⟨refused, rfl⟩
  case isFalse accepted =>
    obtain ⟨w₁, remove, run⟩ := Option.bind_eq_some_iff.mp run
    obtain ⟨k, live, run⟩ := Option.bind_eq_some_iff.mp run
    split at run
    case isTrue => cases run
    case isFalse free =>
      cases run
      exact Or.inr ⟨accepted, w₁, k, remove, live, Option.not_isSome_iff_eq_none.mp free, rfl⟩

/-- Removing the session of an account deletes it, if there is one. -/
lemma removeSession_cases {a : Nat} (run : w.removeSession a = some w') :
    w.sessionMap a = none ∧ w' = w ∨
      ∃ x S w₁, w.sessionMap a = some x ∧ w.sessions x = some S ∧ Deleted w x S w₁ ∧
        w' = { w₁ with sessionMap := Function.update w₁.sessionMap a none } := by
  rw [removeSession] at run
  cases mapped : w.sessionMap a with
  | none =>
    rw [mapped] at run
    cases run
    exact Or.inl ⟨rfl, rfl⟩
  | some x =>
    rw [mapped] at run
    obtain ⟨S, here, run⟩ := Option.bind_eq_some_iff.mp run
    obtain ⟨w₁, delete, rfl⟩ := Option.map_eq_some_iff.mp run
    exact Or.inr ⟨x, S, w₁, rfl, here, deleteSession_deleted delete, rfl⟩

/-- Only the handlers of the packets change anything. -/
lemma updateSession_cases {x guid p : Nat} {initialized : Bool}
    (run : w.updateSession x guid initialized p = some w') :
    ∃ S packet queue, w.sessions x = some S ∧
      w.handlePacket x { S with recvQueue := queue } guid initialized p packet = some w' := by
  obtain ⟨S, here, run⟩ := Option.bind_eq_some_iff.mp run
  split at run
  case h_1 => cases run
  case h_2 packet queue _ =>
    split at run
    case isTrue => exact ⟨S, packet, queue, here, run⟩
    case isFalse => cases run

/-- The first holder is answered, if its account still has a session. -/
lemma handlePlayerLoginCallback_cases {loaded : Bool} {p : Nat}
    (run : w.handlePlayerLoginCallback loaded p = some w') :
    ∃ holder holders, w.holders = holder :: holders ∧
      (w.sessionMap holder.accountId = none ∧ w' = { w with holders := holders } ∨
        ∃ x S, w.sessionMap holder.accountId = some x ∧ w.sessions x = some S ∧
          handlePlayerLogin { w with holders := holders } x S holder.guid loaded p = some w') := by
  rw [handlePlayerLoginCallback] at run
  split at run
  case h_1 => cases run
  case h_2 holder holders queue =>
    refine ⟨holder, holders, queue, ?_⟩
    split at run
    case h_1 unmapped =>
      cases run
      exact Or.inl ⟨unmapped, rfl⟩
    case h_2 x mapped =>
      obtain ⟨S, here, run⟩ := Option.bind_eq_some_iff.mp run
      exact Or.inr ⟨x, S, mapped, here, run⟩

/-- A session that ends is deleted and leaves the table. -/
lemma logoutSession_cases {x : Nat} (run : w.logoutSession x = some w') :
    ∃ S w₁, w.sessions x = some S ∧ Deleted w x S w₁ ∧
      w' = { w₁ with sessionMap := Function.update w₁.sessionMap S.accountId none } := by
  obtain ⟨S, here, run⟩ := Option.bind_eq_some_iff.mp run
  split at run
  case isFalse => cases run
  case isTrue =>
    obtain ⟨w₁, logout, run⟩ := Option.bind_eq_some_iff.mp run
    obtain ⟨w₂, delete, rfl⟩ := Option.map_eq_some_iff.mp run
    exact ⟨S, w₂, here, (logoutPlayer_loggedOut logout).delete (deleteSession_deleted delete), rfl⟩

/-- A socket that is deleted is taken from its session, if it has one. -/
lemma deleteSocket_cases {s : Nat} (run : w.deleteSocket s = some w') :
    ∃ k, w.sockets s = some k ∧
      (k.session = none ∧ w' = { w with sockets := Function.update w.sockets s none } ∨
        ∃ x S, k.session = some x ∧ w.sessions x = some S ∧
          w' = { w.setSession x { S with socket := none } with sockets := Function.update w.sockets s none }) := by
  obtain ⟨k, live, run⟩ := Option.bind_eq_some_iff.mp run
  split at run
  case isFalse => cases run
  case isTrue =>
    obtain ⟨w₁, drop, rfl⟩ := Option.map_eq_some_iff.mp run
    rw [dropSocket] at drop
    split at drop
    case h_1 none =>
      cases drop
      exact ⟨k, live, Or.inl ⟨none, rfl⟩⟩
    case h_2 x own =>
      obtain ⟨S, here, rfl⟩ := Option.map_eq_some_iff.mp drop
      exact ⟨k, live, Or.inr ⟨x, S, own, here, rfl⟩⟩

/-- A packet that is received changes nothing but the queue of one session. -/
lemma receive_cases {s : Nat} {packet : Packet} (run : w.step (.receive s packet) = some w') :
    w' = w ∨ ∃ x S, w.sessions x = some S ∧
      w' = w.setSession x { S with recvQueue := S.recvQueue ++ [packet] } := by
  have queued : ∃ k, w.queuePacket k packet = some w' := by
    cases packet with
    | login a sized => cases run
    | selectName named =>
      obtain ⟨k, -, run⟩ := Option.bind_eq_some_iff.mp run
      exact ⟨k, run⟩
    | create created =>
      obtain ⟨k, -, run⟩ := Option.bind_eq_some_iff.mp run
      exact ⟨k, run⟩
  obtain ⟨k, run⟩ := queued
  rw [queuePacket] at run
  split at run
  case h_1 =>
    cases run
    exact Or.inl rfl
  case h_2 x _ =>
    obtain ⟨S, here, rfl⟩ := Option.map_eq_some_iff.mp run
    exact Or.inr ⟨x, S, here, rfl⟩

end Inversion

end World

end Legacy.Server
