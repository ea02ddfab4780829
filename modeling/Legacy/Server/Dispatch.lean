import Legacy.Lib.Reach
import Legacy.Wire.ReadSafety

/-!
# The dispatch of packets

Model of `WorldSession::FillOpcodeHandlerHashTable` and of the loop of `WorldSession::Update`
(`src/src/game/WorldSession.cpp`) on one session, from its creation to its removal. A handler is recorded
with the player it was called with. `safe_iff_timely` says in which sequences of events every handler that
uses the player is called with one: an opcode that needs a login is dispatched without a player as well.
-/

namespace Legacy.Server.Dispatch
open Legacy.Lib Legacy.Wire

/-- source `STATUS_NOT_LOGGEDIN` and `STATUS_LOGGEDIN` -/
inductive OpcodeStatus where
  | notLoggedin | loggedin
  deriving DecidableEq, Repr

/-- source `class OpcodeHandler` -/
structure OpcodeHandler where
  status : OpcodeStatus
  handler : ClientHandler
  deriving DecidableEq, Repr

/-- The handlers by their opcodes (source `WorldSession::FillOpcodeHandlerHashTable`). -/
def opcodeTable : List (UInt8 × OpcodeHandler) :=
  [(1, ⟨.notLoggedin, .playerLogin⟩),
    (9, ⟨.loggedin, .charCreate⟩),
    (6, ⟨.loggedin, .movement⟩),
    (20, ⟨.loggedin, .playerAction⟩),
    (12, ⟨.loggedin, .enterMapCompleted⟩),
    (2, ⟨.loggedin, .messagechat⟩),
    (32, ⟨.loggedin, .expression⟩),
    (14, ⟨.loggedin, .unknownRequest14⟩),
    (50, ⟨.loggedin, .attack⟩),
    (19, ⟨.loggedin, .petCommand⟩),
    (15, ⟨.loggedin, .petRelease⟩),
    (23, ⟨.loggedin, .useItem⟩),
    (13, ⟨.loggedin, .group⟩),
    (8, ⟨.loggedin, .statAdd⟩),
    (28, ⟨.loggedin, .spellAdd⟩),
    (27, ⟨.loggedin, .transacItem⟩),
    (11, ⟨.loggedin, .battleCommand⟩),
    (40, ⟨.loggedin, .setupShortkey⟩),
    (33, ⟨.loggedin, .enableOptions⟩)]

/-- source `objmgr.opcodeTable.find` -/
def findHandler (opcode : UInt8) : Option OpcodeHandler :=
  (opcodeTable.find? fun entry => entry.1 = opcode).map Prod.snd

/-- The handlers whose code dereferences `_player`. -/
def usesPlayer : ClientHandler → Bool
  | .playerLogin | .charCreate | .unknownRequest14 => false
  | _ => true

/-- A call of a handler, with the `_player` of the session at that time. -/
structure Call where
  handler : ClientHandler
  player : Option Nat
  deriving DecidableEq, Repr

/-- A session (source `class WorldSession`) whose player is given by its guid, the calls of its handlers, and
whether `World::Update` still has it. -/
structure WorldSession where
  accountId : Nat
  socket : Bool
  player : Option Nat
  playerLoading : Bool
  playerRecentlyLogout : Bool
  new_name : List UInt8
  recvQueue : List WorldPacket
  calls : List Call
  live : Bool

/-- What the server and its database answer to the handler of a packet. -/
structure Answers where
  /-- what the guards between the reads look at, besides the name -/
  view : SessionView
  /-- the result of `Player::Create` -/
  creates : Bool
  /-- the first of the characters of an account -/
  character : Nat → Option Nat
  /-- the result of `LoginQueryHolder::Initialize` -/
  initializes : Bool

/-- What can happen to a session. -/
inductive Event where
  /-- The socket reads a packet (source `WorldSession::QueuePacket`). -/
  | receive (packet : WorldPacket)
  /-- source `WorldSession::Update`; `answers n` are for the packet with `n` packets behind it -/
  | update (answers : Nat → Answers)
  /-- A login query is answered, and the player is loaded (source `WorldSession::HandlePlayerLogin`). -/
  | login (guid : Nat)
  /-- A login query is answered, and the player is not loaded. -/
  | failLogin
  /-- The socket is deleted (source `WorldSession::SetSocket`). -/
  | disconnect

namespace WorldSession

/-- The end of `WorldSession::HandlePlayerLoginOpcode`: the queries of the login are issued. -/
def queryLogin (s : WorldSession) (answers : Answers) (accountId : Nat) : WorldSession :=
  match answers.character accountId with
  | none => { s with playerLoading := true }
  | some _ => { s with playerLoading := answers.initializes }

/-- source `WorldSession::HandlePlayerLoginOpcode` -/
def handlePlayerLoginOpcode (s : WorldSession) (answers : Answers) (recv_data : WorldPacket) : Option WorldSession :=
  if recv_data.buffer.size < 1 + 4 + 4 then some s
  else
    match readPlayerLogin recv_data.buffer with
    | .error _ => none
    | .ok (none, _) => some { s with playerLoading := true }
    | .ok (some request, _) => some (s.queryLogin answers request.accountId)

/-- source `WorldSession::HandleCharCreateOpcode`; a created character is logged in at once -/
def handleCharCreateOpcode (s : WorldSession) (answers : Answers) (recv_data : WorldPacket) : Option WorldSession :=
  match readCharCreate { answers.view with newNameEmpty := s.new_name = [] } recv_data.buffer with
  | .error _ => none
  | .ok (some (.selectName name), _) => some { s with new_name := name }
  | .ok (some (.create _ _ _ _), _) =>
    some (if answers.creates then { s with new_name := [] }.queryLogin answers s.accountId else s)
  | .ok (some .other, _) | .ok (none, _) => some s

/-- What a handler does to the session; the others change the player and the world only. -/
def handle (s : WorldSession) (answers : Answers) (recv_data : WorldPacket) : ClientHandler → Option WorldSession
  | .playerLogin => s.handlePlayerLoginOpcode answers recv_data
  | .charCreate => s.handleCharCreateOpcode answers recv_data
  | _ => some s

/-- The call of a handler, with the player that it finds. -/
def record (s : WorldSession) (handler : ClientHandler) : WorldSession :=
  { s with calls := s.calls ++ [⟨handler, s.player⟩] }

/-- Calls a handler. Login and creation stop the server when they read beyond the packet. -/
def call (s : WorldSession) (answers : Answers) (recv_data : WorldPacket) (handler : ClientHandler) :
    Option WorldSession :=
  (s.record handler).handle answers recv_data handler

/-- The body of the loop of `WorldSession::Update`. -/
def dispatch (s : WorldSession) (answers : Answers) (packet : WorldPacket) : Option WorldSession :=
  match findHandler packet.opcode with
  | none => some s
  | some iter =>
    if iter.status = .notLoggedin then s.call answers packet iter.handler
    else if iter.status = .loggedin ∧ s.player.isSome then s.call answers packet iter.handler
    else if iter.status = .loggedin then
      call { s with playerRecentlyLogout := false } answers packet iter.handler
    else some s

/-- The loop of `WorldSession::Update`. -/
def dispatchAll (s : WorldSession) (answers : Nat → Answers) : List WorldPacket → Option WorldSession
  | [] => some s
  | packet :: queue => (s.dispatch (answers queue.length) packet).bind fun s => s.dispatchAll answers queue

/-- source `WorldSession::LogoutPlayer` -/
def logoutPlayer (s : WorldSession) : WorldSession := { s with player := none, playerRecentlyLogout := true }

/-- source `WorldSession::Update`; packets that come during the loop have come before it, since nothing else
happens to the session meanwhile -/
def update (s : WorldSession) (answers : Nat → Answers) : Option WorldSession :=
  (dispatchAll { s with recvQueue := [] } answers s.recvQueue).map fun s =>
    if !s.socket && !s.playerLoading then { s.logoutPlayer with live := false } else s

/-- One event. -/
def step (s : WorldSession) (e : Event) : Option WorldSession :=
  if s.live then
    match e with
    | .receive packet => if s.socket then some { s with recvQueue := s.recvQueue ++ [packet] } else none
    | .update answers => s.update answers
    | .login guid => some { s with player := some guid, playerLoading := false }
    | .failLogin => some { s with playerLoading := false }
    | .disconnect => some { s with socket := false }
  else none

/-- No handler that uses the player was called without one. -/
def Safe (s : WorldSession) : Prop := ∀ c ∈ s.calls, usesPlayer c.handler → c.player.isSome

end WorldSession

/-- The packet is for a handler that uses the player. -/
def NeedsPlayer (packet : WorldPacket) : Prop := ∃ iter, findHandler packet.opcode = some iter ∧ usesPlayer iter.handler

/-- The packets that are received in a sequence of events. -/
def received : List Event → List WorldPacket
  | [] => []
  | .receive packet :: events => packet :: received events
  | _ :: events => received events

/-- No update that comes before the first login has received a packet for a handler that uses the player. -/
def Timely (s : WorldSession) (events : List Event) : Prop :=
  s.player.isSome ∨ ∀ before answers after, events = before ++ .update answers :: after →
    (∀ guid, .login guid ∉ before) → ∀ packet ∈ s.recvQueue ++ received before, ¬NeedsPlayer packet

namespace WorldSession

/-- What the handlers leave alone. -/
structure Untouched (s s' : WorldSession) : Prop where
  player : s'.player = s.player
  recvQueue : s'.recvQueue = s.recvQueue
  calls : s'.calls = s.calls
  live : s'.live = s.live

/-- Asking for a login leaves the player, the packets and the calls alone. -/
lemma untouched_queryLogin (s : WorldSession) (answers : Answers) (accountId : Nat) :
    Untouched s (s.queryLogin answers accountId) := by
  rw [queryLogin]
  split
  · exact ⟨rfl, rfl, rfl, rfl⟩
  · exact ⟨rfl, rfl, rfl, rfl⟩

/-- A handler leaves the player, the packets and the calls alone. -/
lemma untouched_handle {s s' : WorldSession} {answers : Answers} {recv_data : WorldPacket} {handler : ClientHandler}
    (run : s.handle answers recv_data handler = some s') : Untouched s s' := by
  cases handler with
  | playerLogin =>
    rw [handle, handlePlayerLoginOpcode] at run
    split at run
    · cases run
      exact ⟨rfl, rfl, rfl, rfl⟩
    split at run
    · cases run
    · cases run
      exact ⟨rfl, rfl, rfl, rfl⟩
    · cases run
      exact untouched_queryLogin ..
  | charCreate =>
    rw [handle, handleCharCreateOpcode] at run
    split at run
    · cases run
    · cases run
      exact ⟨rfl, rfl, rfl, rfl⟩
    · cases run
      split
      · obtain ⟨player, recvQueue, calls, live⟩ := untouched_queryLogin { s with new_name := [] } answers s.accountId
        exact ⟨player, recvQueue, calls, live⟩
      · exact ⟨rfl, rfl, rfl, rfl⟩
    all_goals
      cases run
      exact ⟨rfl, rfl, rfl, rfl⟩
  | _ =>
    cases run
    exact ⟨rfl, rfl, rfl, rfl⟩

/-- What the session has become after a packet. -/
structure Dispatched (s s' : WorldSession) (packets : List WorldPacket) : Prop where
  player : s'.player = s.player
  recvQueue : s'.recvQueue = s.recvQueue
  live : s'.live = s.live
  calls : Safe s' ↔ Safe s ∧ (s.player.isSome ∨ ∀ packet ∈ packets, ¬NeedsPlayer packet)

/-- A packet with a handler is dispatched to it. -/
lemma dispatched_call {s s' : WorldSession} {answers : Answers} {packet : WorldPacket} {iter : OpcodeHandler}
    (found : findHandler packet.opcode = some iter) (run : s.call answers packet iter.handler = some s') :
    Dispatched s s' [packet] := by
  have same := untouched_handle run
  refine ⟨same.player, same.recvQueue, same.live, ?_⟩
  have calls : s'.calls = s.calls ++ [⟨iter.handler, s.player⟩] := same.calls
  have needs : NeedsPlayer packet ↔ usesPlayer iter.handler := by
    constructor
    · intro ⟨iter', found', uses⟩
      cases found.symm.trans found'
      exact uses
    · exact fun uses => ⟨iter, found, uses⟩
  simp only [Safe, calls, List.forall_mem_append, List.forall_mem_singleton, needs]
  refine and_congr_right fun _ => ?_
  cases s.player with
  | none => simp
  | some guid => simp

/-- One packet: every branch calls the handler with the player that there is. -/
lemma dispatched_dispatch {s s' : WorldSession} {answers : Answers} {packet : WorldPacket}
    (run : s.dispatch answers packet = some s') : Dispatched s s' [packet] := by
  rw [dispatch] at run
  split at run
  case h_1 unknown =>
    cases run
    refine ⟨rfl, rfl, rfl, (and_iff_left (Or.inr fun packet' mem needs => ?_)).symm⟩
    cases List.mem_singleton.mp mem
    obtain ⟨iter, found, -⟩ := needs
    cases unknown.symm.trans found
  case h_2 iter found =>
    split at run
    · exact dispatched_call found run
    split at run
    · exact dispatched_call found run
    split at run
    · obtain ⟨player, recvQueue, live, calls⟩ := dispatched_call found run
      exact ⟨player, recvQueue, live, calls⟩
    case isFalse first _ second =>
      cases status : iter.status with
      | notLoggedin => exact absurd status first
      | loggedin => exact absurd status second

/-- The packets of an update. -/
lemma dispatched_dispatchAll {s s' : WorldSession} {answers : Nat → Answers} {queue : List WorldPacket}
    (run : s.dispatchAll answers queue = some s') : Dispatched s s' queue := by
  induction queue generalizing s with
  | nil =>
    cases run
    exact ⟨rfl, rfl, rfl, (and_iff_left (Or.inr fun _ mem => absurd mem List.not_mem_nil)).symm⟩
  | cons packet queue ih =>
    obtain ⟨s₁, first, rest⟩ := Option.bind_eq_some_iff.mp run
    have head := dispatched_dispatch first
    have tail := ih rest
    refine ⟨tail.player.trans head.player, tail.recvQueue.trans head.recvQueue, tail.live.trans head.live, ?_⟩
    rw [tail.calls, head.calls, head.player, and_assoc, ← or_and_left, List.forall_mem_singleton, List.forall_mem_cons]

/-- What an update does: the session loses its player only when it is removed. -/
lemma update_some {s s' : WorldSession} {answers : Nat → Answers} (run : s.update answers = some s') :
    s'.recvQueue = [] ∧ (s'.live = true → s'.player = s.player) ∧
      (Safe s' ↔ Safe s ∧ (s.player.isSome ∨ ∀ packet ∈ s.recvQueue, ¬NeedsPlayer packet)) := by
  obtain ⟨s₁, all, rfl⟩ := Option.map_eq_some_iff.mp run
  obtain ⟨player, recvQueue, -, calls⟩ := dispatched_dispatchAll all
  split
  · exact ⟨recvQueue, fun live => (by cases live), calls⟩
  · exact ⟨recvQueue, fun _ => player, calls⟩

end WorldSession

/-- An event before the sequence. -/
lemma splits_cons {e : Event} {events : List Event} {P : List Event → Prop} :
    (∀ before answers after, e :: events = before ++ .update answers :: after → P before) ↔
      (∀ answers, e = .update answers → P []) ∧
        ∀ before answers after, events = before ++ .update answers :: after → P (e :: before) := by
  constructor
  · intro all
    constructor
    · intro answers here
      exact all [] answers events (congrArg (· :: events) here)
    · intro before answers after later
      exact all (e :: before) answers after (congrArg (e :: ·) later)
  · intro ⟨now, later⟩ before answers after split
    cases before with
    | nil =>
      cases split
      exact now answers rfl
    | cons first before =>
      cases split
      exact later before answers after rfl

namespace WorldSession

/-- The end of a run is timely. -/
lemma timely_nil (s : WorldSession) : Timely s [] := by
  refine Or.inr fun before answers after split => ?_
  cases before with
  | nil => cases split
  | cons first before => cases split

/-- An event that handles no packet and loads no player. -/
lemma timely_cons {s s₁ : WorldSession} {e : Event} {events : List Event} (waits : ∀ answers, e ≠ .update answers)
    (outside : ∀ guid, e ≠ .login guid) (player : s₁.player = s.player)
    (queue : s₁.recvQueue = s.recvQueue ++ received [e]) : Timely s (e :: events) ↔ Timely s₁ events := by
  have received_cons (before : List Event) : received (e :: before) = received [e] ++ received before := by
    cases e with
    | receive packet => rfl
    | _ => rfl
  rw [Timely, Timely, splits_cons, player, queue]
  refine or_congr_right ⟨fun ⟨_, later⟩ before answers after split apart => ?_, fun later => ⟨?_, ?_⟩⟩
  · have all := later before answers after split fun guid mem => ?_
    · rw [received_cons, ← List.append_assoc] at all
      exact all
    · cases mem with
      | head => exact outside guid rfl
      | tail _ mem => exact apart guid mem
  · exact fun answers here => absurd here (waits answers)
  · intro before answers after split apart
    rw [received_cons, ← List.append_assoc]
    exact later before answers after split fun guid mem => apart guid (List.mem_cons_of_mem _ mem)

/-- An update is timely when its packets find a player or need none. -/
lemma timely_update {s s₁ : WorldSession} {answers : Nat → Answers} {events : List Event}
    (player : s₁.player = s.player) (queue : s₁.recvQueue = []) :
    Timely s (.update answers :: events) ↔
      (s.player.isSome ∨ ∀ packet ∈ s.recvQueue, ¬NeedsPlayer packet) ∧ Timely s₁ events := by
  rw [Timely, Timely, splits_cons, player, queue, ← or_and_left]
  refine or_congr_right ⟨fun ⟨now, later⟩ => ?_, fun ⟨now, later⟩ => ?_⟩
  · refine ⟨fun packet mem => ?_, fun before answers' after split apart packet mem => ?_⟩
    · exact now answers rfl (fun _ h => (by cases h)) packet (List.mem_append_left _ mem)
    · refine later before answers' after split (fun guid h => ?_) packet (List.mem_append_right _ mem)
      cases h with
      | tail _ h => exact apart guid h
  · refine ⟨fun answers' _ _ packet mem => ?_, fun before answers' after split apart packet mem => ?_⟩
    · rw [received, List.append_nil] at mem
      exact now packet mem
    · cases List.mem_append.mp mem with
      | inl waiting => exact now packet waiting
      | inr new =>
        exact later before answers' after split (fun guid h => apart guid (List.mem_cons_of_mem _ h)) packet new

/-- After a login no packet comes too early. -/
lemma timely_login (s : WorldSession) (guid : Nat) (events : List Event) : Timely s (.login guid :: events) := by
  refine Or.inr fun before answers after split apart => ?_
  cases before with
  | nil => cases split
  | cons first before =>
    cases split
    exact absurd List.mem_cons_self (apart guid)

/-- Nothing happens to a session that is removed. -/
lemma live_of_step {s s' : WorldSession} {e : Event} (next : step s e = some s') : s.live = true := by
  unfold step at next
  split at next
  case isTrue live => exact live
  case isFalse => cases next

/-- A run stays safe exactly when it is timely. -/
lemma safe_iff {s s' : WorldSession} {events : List Event} (run : exec step s events = some s') :
    Safe s' ↔ Safe s ∧ Timely s events := by
  induction events generalizing s with
  | nil =>
    cases run
    exact (and_iff_left (timely_nil _)).symm
  | cons e events ih =>
    obtain ⟨s₁, first, rest⟩ := Option.bind_eq_some_iff.mp run
    have live := live_of_step first
    rw [ih rest]
    unfold step at first
    rw [if_pos live] at first
    cases e with
    | receive packet =>
      dsimp only at first
      split at first
      case isFalse => cases first
      case isTrue =>
        cases first
        refine and_congr_right fun _ => (timely_cons ?_ ?_ ?_ ?_).symm
        · exact fun _ h => (by cases h)
        · exact fun _ h => (by cases h)
        · rfl
        · rfl
    | update answers =>
      obtain ⟨queue, player, calls⟩ := update_some first
      rw [calls, and_assoc]
      refine and_congr_right fun _ => ?_
      cases live₁ : s₁.live with
      | true => rw [timely_update (player live₁) queue]
      | false =>
        -- the session is removed, so this was the last event
        have last : events = [] := by
          cases events with
          | nil => rfl
          | cons next events =>
            obtain ⟨s₂, second, -⟩ := Option.bind_eq_some_iff.mp rest
            cases live₁.symm.trans (live_of_step second)
        subst last
        have now : Timely s [.update answers] ↔ _ ∧ Timely { s with recvQueue := [] } [] := timely_update rfl rfl
        rw [now]
        exact and_congr_right fun _ => iff_of_true (timely_nil _) (timely_nil _)
    | login guid =>
      cases first
      exact and_congr_right fun _ => iff_of_true (Or.inl rfl) (timely_login s guid events)
    | failLogin =>
      cases first
      refine and_congr_right fun _ => (timely_cons ?_ ?_ ?_ ?_).symm
      · exact fun _ h => (by cases h)
      · exact fun _ h => (by cases h)
      · rfl
      · exact (List.append_nil _).symm
    | disconnect =>
      cases first
      refine and_congr_right fun _ => (timely_cons ?_ ?_ ?_ ?_).symm
      · exact fun _ h => (by cases h)
      · exact fun _ h => (by cases h)
      · rfl
      · exact (List.append_nil _).symm

/-- In every sequence of events that happens to a session, the handlers that use the player are called with one
exactly when no update before the first login has received a packet for such a handler. -/
theorem safe_iff_timely {s s' : WorldSession} {events : List Event} (fresh : s.calls = [])
    (run : exec step s events = some s') : Safe s' ↔ Timely s events := by
  have safe : Safe s := by
    rw [Safe, fresh]
    exact fun c mem => absurd mem List.not_mem_nil
  rw [safe_iff run, and_iff_right safe]

/-- A session right after `WorldSession::WorldSession`. -/
def connected (accountId : Nat) : WorldSession := ⟨accountId, true, none, false, false, [], [], [], true⟩

/-- A movement, with eight bytes of payload. -/
def movement : WorldPacket := .received 6 [0xAC, 0xAD, 0xAD, 0xAD, 0xAD, 0xAD, 0xAD, 0xAD]

/-- An account without characters. -/
def unanswered (_ : Nat) : Answers := ⟨ClientHandler.idleView, false, fun _ => none, false⟩

/-- The player moves after the login. -/
theorem safe_loginFirst :
    ∃ s, exec step (connected 1) [.login 7, .receive movement, .update unanswered] = some s ∧ Safe s := by
  have ends : (exec step (connected 1) [.login 7, .receive movement, .update unanswered]).isSome := rfl
  obtain ⟨s, run⟩ := Option.isSome_iff_exists.mp ends
  exact ⟨s, run, (safe_iff_timely rfl run).mpr (timely_login ..)⟩

/-- A movement that comes before the login is handled without a player. -/
theorem not_safe_movement :
    ¬∀ (s s' : WorldSession) (events : List Event), s.calls = [] → exec step s events = some s' → Safe s' := by
  intro all
  have calls : (exec step (connected 1) [.receive movement, .update unanswered]).map calls =
      some [⟨.movement, none⟩] := rfl
  obtain ⟨s, run, called⟩ := Option.map_eq_some_iff.mp calls
  have safe := all (connected 1) s _ rfl run
  rw [Safe, called] at safe
  cases safe ⟨.movement, none⟩ List.mem_cons_self rfl

end WorldSession

end Legacy.Server.Dispatch
