import Legacy.Server.Session

/-!
# The link between sessions and sockets

A session points to its socket and the socket back to the session. `Linked` says that the two pointers agree.
`mutual_of_reaches` is the main result: they agree in every state of a run in which no socket authenticates
for a second account while it still has the session of the first one. Such a second authentication leaves
the first session with a socket that does not know it.
-/

namespace Legacy.Server
open Legacy.Lib

namespace World

/-- Sessions and sockets point to each other, and the sessions are those of the map. -/
structure Linked (w : World) : Prop where
  mapped : ∀ a x, w.sessionMap a = some x → ∃ S, w.sessions x = some S ∧ S.accountId = a
  listed : ∀ x S, w.sessions x = some S → w.sessionMap S.accountId = some x
  socket : ∀ x S s, w.sessions x = some S → S.socket = some s →
    ∃ k, w.sockets s = some k ∧ k.session = some x
  session : ∀ s k x, w.sockets s = some k → k.session = some x →
    ∃ S, w.sessions x = some S ∧ S.socket = some s

/-- A session's socket knows it, and a socket's session is still in the map. -/
def Mutual (w : World) : Prop :=
  (∀ a x, w.sessionMap a = some x →
    ∃ S, w.sessions x = some S ∧ ∀ s, S.socket = some s → ∃ k, w.sockets s = some k ∧ k.session = some x) ∧
  ∀ s k x, w.sockets s = some k → k.session = some x → ∃ a, w.sessionMap a = some x

/-- What is kept gives the property of the pointers. -/
lemma Linked.toMutual {w : World} (linked : Linked w) : Mutual w := by
  refine ⟨fun a x mapped => ?_, fun s k x live session => ?_⟩
  · obtain ⟨S, here, -⟩ := linked.mapped a x mapped
    exact ⟨S, here, fun s => linked.socket x S s here⟩
  · obtain ⟨S, here, -⟩ := linked.session s k x live session
    exact ⟨S.accountId, linked.listed x S here⟩

/-- A session is taken out of the map and deleted. -/
lemma Linked.erase {w w₁ : World} {x : Nat} {S : WorldSession} (linked : Linked w)
    (here : w.sessions x = some S) (deleted : Deleted w x S w₁) :
    Linked { w₁ with sessionMap := Function.update w₁.sessionMap S.accountId none } := by
  have mapped := linked.listed x S here
  refine ⟨fun a y eq => ?mapped, fun y T eq => ?listed, fun y T s eq socket => ?socket,
    fun s k y live session => ?session⟩
  all_goals simp only [deleted.sessions, deleted.sessionMap] at *
  case mapped =>
    obtain ⟨ne, eq⟩ := erase_eq_some.mp eq
    obtain ⟨T, there, account⟩ := linked.mapped a y eq
    refine ⟨T, erase_eq_some.mpr ⟨?_, there⟩, account⟩
    rintro rfl
    cases here.symm.trans there
    exact ne account.symm
  case listed =>
    obtain ⟨ne, there⟩ := erase_eq_some.mp eq
    have listed := linked.listed y T there
    refine erase_eq_some.mpr ⟨fun same => ?_, listed⟩
    rw [same, mapped] at listed
    exact ne (Option.some.inj listed).symm
  case socket =>
    obtain ⟨ne, there⟩ := erase_eq_some.mp eq
    obtain ⟨k, live, session⟩ := linked.socket y T s there socket
    refine ⟨k, deleted.socket_kept live fun own => ?_, session⟩
    obtain ⟨k', live', session'⟩ := linked.socket x S s here own
    cases live.symm.trans live'
    exact ne (Option.some.inj (session.symm.trans session'))
  case session =>
    obtain ⟨live, other⟩ := deleted.socket_live live session
    obtain ⟨T, there, socket⟩ := linked.session s k y live session
    refine ⟨T, erase_eq_some.mpr ⟨?_, there⟩, socket⟩
    rintro rfl
    cases here.symm.trans there
    exact other socket

/-- What the link is about: the account and the socket of a session, and the session of a socket. -/
structure SameLinks (w w' : World) : Prop where
  sessionMap : w'.sessionMap = w.sessionMap
  sessions : ∀ x, (w'.sessions x).map (fun S => (S.accountId, S.socket)) =
    (w.sessions x).map fun S => (S.accountId, S.socket)
  sockets : ∀ s, (w'.sockets s).map WorldSocket.session = (w.sockets s).map WorldSocket.session

/-- A session has been there before, with its account and its socket. -/
lemma SameLinks.session {w w' : World} (same : SameLinks w w') {x : Nat} {S : WorldSession}
    (here : w'.sessions x = some S) :
    ∃ T, w.sessions x = some T ∧ T.accountId = S.accountId ∧ T.socket = S.socket := by
  obtain ⟨T, there, pair⟩ := some_of_map_eq (same.sessions x) here
  exact ⟨T, there, (Prod.mk.inj pair).1, (Prod.mk.inj pair).2⟩

/-- Having the same links is symmetric. -/
lemma SameLinks.symm {w w' : World} (same : SameLinks w w') : SameLinks w' w :=
  ⟨same.sessionMap.symm, fun x => (same.sessions x).symm, fun s => (same.sockets s).symm⟩

/-- A socket is there still, with its session. -/
lemma SameLinks.live {w w' : World} (same : SameLinks w w') {s : Nat} {k : WorldSocket}
    (here : w'.sockets s = some k) : ∃ l, w.sockets s = some l ∧ l.session = k.session :=
  some_of_map_eq (same.sockets s) here

/-- The link only depends on these. -/
lemma Linked.congr {w w' : World} (linked : Linked w) (same : SameLinks w w') : Linked w' := by
  refine ⟨fun a x eq => ?mapped, fun x S eq => ?listed, fun x S s eq socket => ?socket,
    fun s k x live session => ?session⟩
  case mapped =>
    rw [same.sessionMap] at eq
    obtain ⟨T, there, account⟩ := linked.mapped a x eq
    obtain ⟨S, here, account', -⟩ := same.symm.session there
    exact ⟨S, here, account'.trans account⟩
  case listed =>
    obtain ⟨T, there, account, -⟩ := same.session eq
    rw [same.sessionMap, ← account]
    exact linked.listed x T there
  case socket =>
    obtain ⟨T, there, -, socket'⟩ := same.session eq
    obtain ⟨k, live, session⟩ := linked.socket x T s there (socket'.trans socket)
    obtain ⟨l, live', session'⟩ := same.symm.live live
    exact ⟨l, live', session'.trans session⟩
  case session =>
    obtain ⟨l, live', session'⟩ := same.live live
    obtain ⟨T, there, socket⟩ := linked.session s l x live' (session'.trans session)
    obtain ⟨S, here, -, socket'⟩ := same.symm.session there
    exact ⟨S, here, socket'.trans socket⟩

/-- A session is changed, but for its account and its socket. -/
lemma sameLinks_of_update {w w' : World} {x : Nat} {S T : WorldSession}
    (sessions : w'.sessions = Function.update w.sessions x (some T)) (here : w.sessions x = some S)
    (account : T.accountId = S.accountId) (socket : T.socket = S.socket)
    (sessionMap : w'.sessionMap = w.sessionMap) (sockets : w'.sockets = w.sockets) : SameLinks w w' := by
  refine ⟨sessionMap, fun y => ?_, fun s => by rw [sockets]⟩
  rcases eq_or_ne y x with rfl | ne
  · rw [sessions, Function.update_self, here, Option.map_some, Option.map_some, account, socket]
  · rw [sessions, Function.update_of_ne ne]

/-- The handling of a packet leaves the links alone. -/
lemma handlePlayerLoginOpcode_sameLinks {w w' : World} {x : Nat} {S T : WorldSession} {accountId guid : Nat}
    {sized initialized : Bool} (run : w.handlePlayerLoginOpcode x T accountId sized guid initialized = some w')
    (here : w.sessions x = some S) (account : T.accountId = S.accountId) (socket : T.socket = S.socket) :
    SameLinks w w' := by
  rw [handlePlayerLoginOpcode] at run
  split_ifs at run
  all_goals cases run
  all_goals exact sameLinks_of_update rfl here account socket rfl rfl

/-- Updating a session changes no link. -/
lemma updateSession_sameLinks {w w' : World} {x guid p : Nat} {initialized : Bool}
    (run : w.updateSession x guid initialized p = some w') : SameLinks w w' := by
  obtain ⟨S, packet, queue, here, run⟩ := updateSession_cases run
  cases packet with
  | login accountId sized =>
    exact handlePlayerLoginOpcode_sameLinks run here rfl rfl
  | selectName named =>
    cases run
    exact sameLinks_of_update rfl here rfl rfl rfl rfl
  | create created =>
    rw [handlePacket, handleCharCreate] at run
    split_ifs at run
    · cases run
      exact sameLinks_of_update rfl here rfl rfl rfl rfl
    · cases run
      exact sameLinks_of_update rfl here rfl rfl rfl rfl
    · have login := handlePlayerLoginOpcode_sameLinks run here rfl rfl
      exact ⟨login.sessionMap, login.sessions, login.sockets⟩

/-- A login changes no link. -/
lemma handlePlayerLoginCallback_sameLinks {w w' : World} {loaded : Bool} {p : Nat}
    (run : w.handlePlayerLoginCallback loaded p = some w') : SameLinks w w' := by
  obtain ⟨holder, holders, -, ⟨-, rfl⟩ | ⟨x, S, -, here, run⟩⟩ := handlePlayerLoginCallback_cases run
  · exact ⟨rfl, fun _ => rfl, fun _ => rfl⟩
  · rw [handlePlayerLogin] at run
    split_ifs at run
    all_goals cases run
    all_goals exact sameLinks_of_update rfl here rfl rfl rfl rfl

/-- A new socket has no session. -/
lemma Linked.accept {w : World} (linked : Linked w) {s : Nat} (free : w.sockets s = none) :
    Linked (w.setSocket s ⟨none, false⟩) := by
  refine ⟨linked.mapped, linked.listed, fun x S t here socket => ?_, fun t k x live session => ?_⟩
  · obtain ⟨k, live, session⟩ := linked.socket x S t here socket
    exact ⟨k, update_of_absent free live, session⟩
  · rcases update_eq_some.mp live with ⟨rfl, new⟩ | ⟨-, live⟩
    · cases new
      cases session
    · exact linked.session t k x live session

/-- A socket that is deleted leaves its session without one. -/
lemma Linked.deleteSocket {w w' : World} (linked : Linked w) {s : Nat}
    (run : w.deleteSocket s = some w') : Linked w' := by
  obtain ⟨k, live, ⟨none, rfl⟩ | ⟨x, S, own, here, rfl⟩⟩ := deleteSocket_cases run
  · refine ⟨linked.mapped, linked.listed, fun x S t here socket => ?_, fun t l x live' session => ?_⟩
    all_goals dsimp only at *
    · obtain ⟨l, live', session⟩ := linked.socket x S t here socket
      refine ⟨l, erase_eq_some.mpr ⟨?_, live'⟩, session⟩
      rintro rfl
      cases live.symm.trans live'
      cases none.symm.trans session
    · exact linked.session t l x (erase_eq_some.mp live').2 session
  · have socket : S.socket = some s := by
      obtain ⟨T, there, socket⟩ := linked.session s k x live own
      cases here.symm.trans there
      exact socket
    refine ⟨fun a y eq => ?mapped, fun y T eq => ?listed, fun y T t eq socket' => ?socket,
      fun t l y live' session => ?session⟩
    all_goals simp only [setSession] at *
    case mapped =>
      obtain ⟨T, there, account⟩ := linked.mapped a y eq
      rcases eq_or_ne y x with rfl | ne
      · cases here.symm.trans there
        exact ⟨_, Function.update_self .., account⟩
      · exact ⟨T, by rw [Function.update_of_ne ne, there], account⟩
    case listed =>
      rcases update_eq_some.mp eq with ⟨rfl, reset⟩ | ⟨-, there⟩
      · cases reset
        exact linked.listed y S here
      · exact linked.listed y T there
    case socket =>
      rcases update_eq_some.mp eq with ⟨rfl, reset⟩ | ⟨ne, there⟩
      · cases reset
        cases socket'
      · obtain ⟨l, live', session⟩ := linked.socket y T t there socket'
        refine ⟨l, erase_eq_some.mpr ⟨?_, live'⟩, session⟩
        rintro rfl
        cases live.symm.trans live'
        -- a socket has one session, and that is the one that was reset
        exact ne (Option.some.inj (session.symm.trans own))
    case session =>
      obtain ⟨ne, live'⟩ := erase_eq_some.mp live'
      obtain ⟨T, there, socket'⟩ := linked.session t l y live' session
      refine ⟨T, update_eq_some.mpr (Or.inr ⟨?_, there⟩), socket'⟩
      rintro rfl
      cases here.symm.trans there
      exact ne (Option.some.inj (socket'.symm.trans socket))

/-- The session of an account is removed, and what is left was there before. -/
lemma Linked.removeSession {w w₁ : World} (linked : Linked w) {a : Nat}
    (run : w.removeSession a = some w₁) : Linked w₁ ∧ w₁.sessionMap a = none ∧
      (∀ x S, w₁.sessions x = some S → w.sessions x = some S) ∧
      ∀ s k x, w₁.sockets s = some k → k.session = some x → w.sockets s = some k := by
  obtain ⟨unmapped, rfl⟩ | ⟨x, S, w', mapped, here, deleted, rfl⟩ := removeSession_cases run
  · exact ⟨linked, unmapped, fun _ _ here => here, fun _ _ _ live _ => live⟩
  · obtain ⟨T, there, account⟩ := linked.mapped a x mapped
    cases here.symm.trans there
    subst account
    refine ⟨linked.erase here deleted, Function.update_self .., fun y T left => ?_, fun s k y live session => ?_⟩
    · exact (erase_eq_some.mp (deleted.sessions ▸ left)).2
    · exact (deleted.socket_live live session).1

/-- A new session on a socket that has none, for an account that has none. -/
lemma Linked.addSession {w : World} (linked : Linked w) {s a x : Nat} {k : WorldSocket} {offline sized : Bool}
    (live : w.sockets s = some k) (none : k.session = none) (unmapped : w.sessionMap a = Option.none)
    (free : w.sessions x = Option.none) : Linked (w.addSession s k a offline sized x) := by
  refine ⟨fun b y eq => ?mapped, fun y T eq => ?listed, fun y T t eq socket => ?socket,
    fun t l y live' session => ?session⟩
  all_goals dsimp only [World.addSession] at *
  case mapped =>
    rcases update_eq_some.mp eq with ⟨rfl, new⟩ | ⟨-, eq⟩
    · cases new
      exact ⟨_, Function.update_self .., rfl⟩
    · obtain ⟨T, there, account⟩ := linked.mapped b y eq
      exact ⟨T, update_of_absent free there, account⟩
  case listed =>
    rcases update_eq_some.mp eq with ⟨rfl, new⟩ | ⟨-, there⟩
    · cases new
      exact Function.update_self ..
    · exact update_of_absent unmapped (linked.listed y T there)
  case socket =>
    rcases update_eq_some.mp eq with ⟨rfl, new⟩ | ⟨-, there⟩
    · cases new
      cases socket
      exact ⟨_, Function.update_self .., rfl⟩
    · obtain ⟨l, live', session⟩ := linked.socket y T t there socket
      refine ⟨l, update_eq_some.mpr (Or.inr ⟨?_, live'⟩), session⟩
      rintro rfl
      cases live.symm.trans live'
      cases none.symm.trans session
  case session =>
    rcases update_eq_some.mp live' with ⟨rfl, new⟩ | ⟨-, live'⟩
    · cases new
      cases session
      exact ⟨_, Function.update_self .., rfl⟩
    · obtain ⟨T, there, socket⟩ := linked.session t l y live' session
      exact ⟨T, update_of_absent free there, socket⟩

/-- An authentication that is accepted comes on a socket without session, or with the session of the same
account. -/
def AuthOnce (w : World) : Event → Prop
  | .auth s a valid _ _ _ =>
    (!valid || w.online a) = true ∨
      ∀ k ∈ w.sockets s, ∀ x ∈ k.session, ∀ S ∈ w.sessions x, S.accountId = a
  | _ => True

instance : ∀ (w : World) (e : Event), Decidable (AuthOnce w e)
  | _, .auth .. => inferInstanceAs (Decidable (_ ∨ _))
  | _, .accept _ | _, .receive .. | _, .handle .. | _, .callback .. | _, .logout _ | _, .close _
  | _, .delete _ => isTrue trivial

/-- A first authentication keeps the pointers mutual. -/
lemma Linked.handleAuthSession {w w' : World} (linked : Linked w) {s a x : Nat} {valid offline sized : Bool}
    (once : AuthOnce w (.auth s a valid offline sized x))
    (run : w.handleAuthSession s a valid offline sized x = some w') : Linked w' := by
  obtain ⟨-, rfl⟩ | ⟨accepted, w₁, k, remove, live, free, rfl⟩ := handleAuthSession_cases run
  · exact linked
  · obtain ⟨linked₁, unmapped, sessions, sockets⟩ := linked.removeSession remove
    refine linked₁.addSession live ?_ unmapped free
    -- a session left on the socket would be of this account, and that one was removed
    cases session : k.session with
    | none => rfl
    | some y =>
      obtain ⟨T, there, -⟩ := linked₁.session s k y live session
      have account := (once.resolve_left accepted) k (sockets s k y live session) y session T
        (sessions y T there)
      have listed := linked₁.listed y T there
      rw [account, unmapped] at listed
      cases listed

/-- One event keeps the link. -/
lemma Linked.step {w w' : World} (linked : Linked w) {e : Event} (once : AuthOnce w e)
    (run : w.step e = some w') : Linked w' := by
  cases e with
  | accept s =>
    rw [World.step] at run
    split at run
    case isTrue => cases run
    case isFalse free =>
      cases run
      exact linked.accept (Option.not_isSome_iff_eq_none.mp free)
  | auth s a valid offline sized x =>
    obtain ⟨k, -, run⟩ := Option.bind_eq_some_iff.mp run
    exact linked.handleAuthSession once run
  | receive s packet =>
    obtain rfl | ⟨x, S, here, rfl⟩ := receive_cases run
    · exact linked
    · exact linked.congr (sameLinks_of_update rfl here rfl rfl rfl rfl)
  | handle x guid initialized p => exact linked.congr (updateSession_sameLinks run)
  | callback loaded p => exact linked.congr (handlePlayerLoginCallback_sameLinks run)
  | logout x =>
    obtain ⟨S, w₁, here, deleted, rfl⟩ := logoutSession_cases run
    exact linked.erase here deleted
  | close s =>
    obtain ⟨k, live, rfl⟩ := Option.map_eq_some_iff.mp run
    refine linked.congr ⟨rfl, fun _ => rfl, fun t => ?_⟩
    rcases eq_or_ne t s with rfl | ne
    · rw [setSocket_sockets, Function.update_self, live]
      rfl
    · rw [setSocket_sockets, Function.update_of_ne ne]
  | delete s => exact linked.deleteSocket run

/-- At the start there is no pointer. -/
lemma linked_start (characters : List (Nat × Nat)) (nextGuid : Nat) : Linked (start characters nextGuid) :=
  ⟨nofun, nofun, nofun, nofun⟩

/-- Sessions and sockets point to each other in every state of a run in which no socket authenticates for an
account while it has the session of another one. -/
theorem mutual_of_reaches (characters : List (Nat × Nat)) (nextGuid : Nat) {w : World}
    (run : Reaches step AuthOnce (start characters nextGuid) w) : Mutual w :=
  (run.invariant (linked_start characters nextGuid) fun linked once next => linked.step once next).toMutual

/-- Two clients connect and authenticate, and the first one leaves. -/
def twoClients : List Event :=
  [.accept 1, .accept 2, .auth 1 7 true true true 1, .auth 2 8 true true true 2, .close 1, .delete 1]

/-- The second session stays linked. -/
theorem mutual_twoClients :
    ∃ w, exec step (start [(1, 7), (2, 8)] 3) twoClients = some w ∧ Mutual w := by
  obtain ⟨w, run⟩ := Option.isSome_iff_exists.mp
    (show (exec step (start [(1, 7), (2, 8)] 3) twoClients).isSome by decide +kernel)
  exact ⟨w, run, mutual_of_reaches _ _ (reaches_of_exec _ (by decide +kernel) run)⟩

/-- One client connects and authenticates for two accounts. -/
def twoAccounts : List Event :=
  [.accept 1, .auth 1 7 true true true 1, .auth 1 8 true true true 2]

/-- The session of the first account keeps a socket that has the session of the second one. -/
theorem not_mutual_twoAccounts :
    ∃ w, Reaches step (fun _ _ => True) (start [(1, 7), (2, 8)] 3) w ∧ ¬Mutual w := by
  have last : ∃ w, exec step (start [(1, 7), (2, 8)] 3) twoAccounts = some w ∧
      w.sessionMap 7 = some 1 ∧ (w.sessions 1).bind WorldSession.socket = some 1 ∧
        (w.sockets 1).bind WorldSocket.session = some 2 :=
    ⟨_, rfl, rfl, rfl, rfl⟩
  obtain ⟨w, run, mapped, socket, session⟩ := last
  refine ⟨w, reaches_of_exec _ (along_true _ _) run, fun both => ?_⟩
  obtain ⟨S, here, linked⟩ := both.1 7 1 mapped
  rw [here] at socket
  obtain ⟨k, live, back⟩ := linked 1 socket
  rw [live] at session
  cases back.symm.trans session

end World

end Legacy.Server
