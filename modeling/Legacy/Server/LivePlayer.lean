import Legacy.Server.Session

/-!
# One live player for every character

A login query that is answered gives its session a new player. `onePlayer_of_reaches` says that every
character has at most one player in the world, and that this player is the one of exactly one session, in
every state of a run in which no login is answered for a session that already has a player. Such an answer
leaves the first player in the world without a session.
-/

namespace Legacy.Server
open Legacy.Lib

namespace World

/-- Every player in the world is the player of one session in the map, and the characters belong to the
accounts of the sessions and queries that use them. -/
structure Hosted (w : World) : Prop where
  mapped : ∀ a x, w.sessionMap a = some x → ∃ S, w.sessions x = some S ∧ S.accountId = a
  listed : ∀ x S, w.sessions x = some S → w.sessionMap S.accountId = some x
  player : ∀ x S p, w.sessions x = some S → S.player = some p →
    ∃ P, w.players p = some P ∧ P.inWorld ∧ (P.guid, S.accountId) ∈ w.characters
  host : ∀ p P, w.players p = some P → P.inWorld → ∃ x S, w.sessions x = some S ∧ S.player = some p
  alone : ∀ x y S T p, w.sessions x = some S → w.sessions y = some T → S.player = some p →
    T.player = some p → x = y
  holder : ∀ h ∈ w.holders, (h.guid, h.accountId) ∈ w.characters
  owner : ∀ g a b, (g, a) ∈ w.characters → (g, b) ∈ w.characters → a = b
  below : ∀ row ∈ w.characters, row.1 < w.nextGuid

/-- A character has at most one player in the world, which is the player of exactly one session. -/
def OnePlayer (w : World) : Prop :=
  (∀ p q P Q, w.players p = some P → w.players q = some Q → P.inWorld → Q.inWorld → P.guid = Q.guid → p = q) ∧
  ∀ p P, w.players p = some P → P.inWorld →
    ∃! x, ∃ a S, w.sessionMap a = some x ∧ w.sessions x = some S ∧ S.player = some p

/-- Where every player has its host, an account has one player. -/
lemma Hosted.onePlayer {w : World} (hosted : Hosted w) : OnePlayer w := by
  refine ⟨fun p q P Q live live' inWorld inWorld' guid => ?_, fun p P live inWorld => ?_⟩
  · obtain ⟨x, S, here, player⟩ := hosted.host p P live inWorld
    obtain ⟨y, T, there, player'⟩ := hosted.host q Q live' inWorld'
    obtain ⟨P', again, -, row⟩ := hosted.player x S p here player
    obtain ⟨Q', again', -, row'⟩ := hosted.player y T q there player'
    cases live.symm.trans again
    cases live'.symm.trans again'
    have account := hosted.owner _ _ _ row (guid ▸ row')
    have same : some x = some y := by
      rw [← hosted.listed x S here, ← hosted.listed y T there, account]
    cases same
    cases here.symm.trans there
    exact Option.some.inj (player.symm.trans player')
  · obtain ⟨x, S, here, player⟩ := hosted.host p P live inWorld
    refine ⟨x, ⟨S.accountId, S, hosted.listed x S here, here, player⟩, ?_⟩
    rintro y ⟨a, T, -, there, player'⟩
    exact hosted.alone y x T S p there here player' player

/-- What the players are about: the account and the player of a session, and the queries under way. -/
structure SameHosts (w w' : World) : Prop where
  sessionMap : w'.sessionMap = w.sessionMap
  sessions : ∀ x, (w'.sessions x).map (fun S => (S.accountId, S.player)) =
    (w.sessions x).map fun S => (S.accountId, S.player)
  players : w'.players = w.players
  holders : ∀ h ∈ w'.holders, h ∈ w.holders ∨ (h.guid, h.accountId) ∈ w.characters
  characters : w'.characters = w.characters
  nextGuid : w.nextGuid ≤ w'.nextGuid

/-- A session has been there before, with its account and its player. -/
lemma SameHosts.session {w w' : World} (same : SameHosts w w') {x : Nat} {S : WorldSession}
    (here : w'.sessions x = some S) :
    ∃ T, w.sessions x = some T ∧ T.accountId = S.accountId ∧ T.player = S.player := by
  obtain ⟨T, there, pair⟩ := some_of_map_eq (same.sessions x) here
  exact ⟨T, there, (Prod.mk.inj pair).1, (Prod.mk.inj pair).2⟩

/-- A session is there still, with its account and its player. -/
lemma SameHosts.session' {w w' : World} (same : SameHosts w w') {x : Nat} {S : WorldSession}
    (here : w.sessions x = some S) :
    ∃ T, w'.sessions x = some T ∧ T.accountId = S.accountId ∧ T.player = S.player := by
  obtain ⟨T, there, pair⟩ := some_of_map_eq (same.sessions x).symm here
  exact ⟨T, there, (Prod.mk.inj pair).1, (Prod.mk.inj pair).2⟩

/-- The players only depend on these. -/
lemma Hosted.congr {w w' : World} (hosted : Hosted w) (same : SameHosts w w') : Hosted w' where
  mapped a x eq := by
    obtain ⟨T, there, account⟩ := hosted.mapped a x (same.sessionMap ▸ eq)
    obtain ⟨S, here, account', -⟩ := same.session' there
    exact ⟨S, here, account'.trans account⟩
  listed x S here := by
    obtain ⟨T, there, account, -⟩ := same.session here
    rw [same.sessionMap, ← account]
    exact hosted.listed x T there
  player x S p here player := by
    obtain ⟨T, there, account, player'⟩ := same.session here
    rw [same.players, same.characters, ← account]
    exact hosted.player x T p there (player'.trans player)
  host p P live inWorld := by
    obtain ⟨x, T, there, player⟩ := hosted.host p P (same.players ▸ live) inWorld
    obtain ⟨S, here, -, player'⟩ := same.session' there
    exact ⟨x, S, here, player'.trans player⟩
  alone x y S T p here there player player' := by
    obtain ⟨S', here', -, eq⟩ := same.session here
    obtain ⟨T', there', -, eq'⟩ := same.session there
    exact hosted.alone x y S' T' p here' there' (eq.trans player) (eq'.trans player')
  holder h mem := by
    rw [same.characters]
    exact (same.holders h mem).elim (hosted.holder h) id
  owner := same.characters ▸ hosted.owner
  below row mem := Nat.lt_of_lt_of_le (hosted.below row (same.characters ▸ mem)) same.nextGuid

/-- A session is changed, but for its account and its player. -/
lemma sameHosts_of_update {w w' : World} {x : Nat} {S T : WorldSession}
    (sessions : w'.sessions = Function.update w.sessions x (some T)) (here : w.sessions x = some S)
    (account : T.accountId = S.accountId) (player : T.player = S.player)
    (sessionMap : w'.sessionMap = w.sessionMap) (players : w'.players = w.players)
    (holders : ∀ h ∈ w'.holders, h ∈ w.holders ∨ (h.guid, h.accountId) ∈ w.characters)
    (characters : w'.characters = w.characters) (nextGuid : w.nextGuid ≤ w'.nextGuid) : SameHosts w w' := by
  refine ⟨sessionMap, fun y => ?_, players, holders, characters, nextGuid⟩
  rcases eq_or_ne y x with rfl | ne
  · rw [sessions, Function.update_self, here, Option.map_some, Option.map_some, account, player]
  · rw [sessions, Function.update_of_ne ne]

/-- A session is taken out of the map and deleted. -/
lemma Hosted.erase {w w₁ : World} {x : Nat} {S : WorldSession} (hosted : Hosted w)
    (here : w.sessions x = some S) (deleted : Deleted w x S w₁) :
    Hosted { w₁ with sessionMap := Function.update w₁.sessionMap S.accountId none } := by
  have other : ∀ y T, w₁.sessions y = some T → y ≠ x ∧ w.sessions y = some T := by
    intro y T there
    rw [deleted.sessions] at there
    exact erase_eq_some.mp there
  have kept : ∀ y T, w.sessions y = some T → y ≠ x → w₁.sessions y = some T := by
    intro y T there ne
    rw [deleted.sessions]
    exact erase_eq_some.mpr ⟨ne, there⟩
  refine ⟨fun a y eq => ?mapped, fun y T eq => ?listed, fun y T p eq player => ?player,
    fun p P live inWorld => ?host, fun y z T U p eq eq' player player' => ?alone, ?holder, ?owner, ?below⟩
  all_goals dsimp only at *
  case mapped =>
    rw [deleted.sessionMap] at eq
    obtain ⟨ne, eq⟩ := erase_eq_some.mp eq
    obtain ⟨T, there, account⟩ := hosted.mapped a y eq
    refine ⟨T, kept y T there ?_, account⟩
    rintro rfl
    cases here.symm.trans there
    exact ne account.symm
  case listed =>
    obtain ⟨ne, there⟩ := other y T eq
    have listed := hosted.listed y T there
    rw [deleted.sessionMap]
    refine erase_eq_some.mpr ⟨fun same => ?_, listed⟩
    rw [same, hosted.listed x S here] at listed
    exact ne (Option.some.inj listed).symm
  case player =>
    obtain ⟨ne, there⟩ := other y T eq
    obtain ⟨P, live, inWorld, row⟩ := hosted.player y T p there player
    refine ⟨P, deleted.player_iff.mpr ⟨fun own => ?_, live⟩, inWorld, deleted.characters.symm ▸ row⟩
    exact ne (hosted.alone y x T S p there here player own)
  case host =>
    obtain ⟨notOwn, live⟩ := deleted.player_iff.mp live
    obtain ⟨y, T, there, player⟩ := hosted.host p P live inWorld
    refine ⟨y, T, kept y T there ?_, player⟩
    rintro rfl
    cases here.symm.trans there
    exact notOwn player
  case alone => exact hosted.alone y z T U p (other y T eq).2 (other z U eq').2 player player'
  case holder =>
    rw [deleted.holders, deleted.characters]
    exact hosted.holder
  case owner =>
    rw [deleted.characters]
    exact hosted.owner
  case below =>
    rw [deleted.characters, deleted.nextGuid]
    exact hosted.below

/-- Removing a session keeps every player with its host. -/
lemma Hosted.removeSession {w w₁ : World} (hosted : Hosted w) {a : Nat}
    (run : w.removeSession a = some w₁) : Hosted w₁ ∧ w₁.sessionMap a = none := by
  obtain ⟨unmapped, rfl⟩ | ⟨x, S, w', mapped, here, deleted, rfl⟩ := removeSession_cases run
  · exact ⟨hosted, unmapped⟩
  · obtain ⟨T, there, rfl⟩ := hosted.mapped a x mapped
    cases here.symm.trans there
    exact ⟨hosted.erase here deleted, Function.update_self ..⟩

/-- A new session has no player. -/
lemma Hosted.addSession {w : World} (hosted : Hosted w) {s a x : Nat} {k : WorldSocket} {offline sized : Bool}
    (unmapped : w.sessionMap a = none) (free : w.sessions x = none) :
    Hosted (w.addSession s k a offline sized x) := by
  have other : ∀ y T p, (w.addSession s k a offline sized x).sessions y = some T → T.player = some p →
      w.sessions y = some T := by
    intro y T p there player
    rcases update_eq_some.mp there with ⟨rfl, new⟩ | ⟨-, there⟩
    · cases new
      cases player
    · exact there
  refine ⟨fun b y eq => ?mapped, fun y T eq => ?listed, fun y T p eq player => ?player, fun p P live inWorld => ?host,
    fun y z T U p eq eq' player player' => ?alone, hosted.holder, hosted.owner, hosted.below⟩
  case mapped =>
    rcases update_eq_some.mp eq with ⟨rfl, new⟩ | ⟨-, eq⟩
    · cases new
      exact ⟨_, Function.update_self .., rfl⟩
    · obtain ⟨T, there, account⟩ := hosted.mapped b y eq
      exact ⟨T, update_of_absent free there, account⟩
  case listed =>
    rcases update_eq_some.mp eq with ⟨rfl, new⟩ | ⟨-, there⟩
    · cases new
      exact Function.update_self ..
    · exact update_of_absent unmapped (hosted.listed y T there)
  case player => exact hosted.player y T p (other y T p eq player) player
  case host =>
    obtain ⟨y, T, there, player⟩ := hosted.host p P live inWorld
    exact ⟨y, T, update_of_absent free there, player⟩
  case alone => exact hosted.alone y z T U p (other y T p eq player) (other z U p eq' player') player player'

/-- An authentication keeps every player with its host. -/
lemma Hosted.handleAuthSession {w w' : World} (hosted : Hosted w) {s a x : Nat} {valid offline sized : Bool}
    (run : w.handleAuthSession s a valid offline sized x = some w') : Hosted w' := by
  obtain ⟨-, rfl⟩ | ⟨-, w₁, k, remove, -, free, rfl⟩ := handleAuthSession_cases run
  · exact hosted
  · obtain ⟨hosted₁, unmapped⟩ := hosted.removeSession remove
    exact hosted₁.addSession unmapped free

/-- Asking for a login keeps every player with its host. -/
lemma Hosted.handlePlayerLoginOpcode {w w' : World} (hosted : Hosted w) {x : Nat} {S T : WorldSession}
    {accountId guid : Nat} {sized initialized : Bool}
    (run : w.handlePlayerLoginOpcode x T accountId sized guid initialized = some w')
    (here : w.sessions x = some S) (account : T.accountId = S.accountId) (player : T.player = S.player) :
    Hosted w' := by
  rw [World.handlePlayerLoginOpcode] at run
  split_ifs at run with _ _ absent
  · cases run
    exact hosted.congr (sameHosts_of_update rfl here account player rfl rfl (fun _ => Or.inl) rfl (Nat.le_refl _))
  · cases run
    exact hosted.congr (sameHosts_of_update rfl here account player rfl rfl (fun _ => Or.inl) rfl (Nat.le_refl _))
  · cases run
    exact hosted.congr (sameHosts_of_update rfl here account player rfl rfl (fun _ => Or.inl) rfl (Nat.le_refl _))
  · cases run
    refine hosted.congr (sameHosts_of_update rfl here account player rfl rfl (fun h mem => ?_) rfl (Nat.le_refl _))
    rcases List.mem_append.mp mem with mem | mem
    · exact Or.inl mem
    · cases List.mem_singleton.mp mem
      exact Or.inr absent

/-- A new character gets a guid that no other one has. -/
lemma Hosted.newCharacter {w : World} (hosted : Hosted w) (a : Nat) :
    Hosted { w with characters := w.characters ++ [(w.nextGuid, a)], nextGuid := w.nextGuid + 1 } := by
  have old : ∀ b, (w.nextGuid, b) ∉ w.characters := fun b mem => Nat.lt_irrefl _ (hosted.below _ mem)
  have cases : ∀ g b, (g, b) ∈ w.characters ++ [(w.nextGuid, a)] →
      (g, b) ∈ w.characters ∨ g = w.nextGuid ∧ b = a := by
    intro g b mem
    rcases List.mem_append.mp mem with mem | mem
    · exact Or.inl mem
    · cases List.mem_singleton.mp mem
      exact Or.inr ⟨rfl, rfl⟩
  refine ⟨hosted.mapped, hosted.listed, fun x S p here player => ?_, hosted.host, hosted.alone,
    fun h mem => List.mem_append_left _ (hosted.holder h mem), fun g b c mem mem' => ?_, fun row mem => ?_⟩
  · obtain ⟨P, live, inWorld, row⟩ := hosted.player x S p here player
    exact ⟨P, live, inWorld, List.mem_append_left _ row⟩
  · rcases cases g b mem with was | ⟨rfl, rfl⟩
    · rcases cases g c mem' with was' | ⟨rfl, rfl⟩
      · exact hosted.owner g b c was was'
      · exact (old b was).elim
    · rcases cases _ c mem' with was' | ⟨-, rfl⟩
      · exact (old c was').elim
      · rfl
  · rcases cases row.1 row.2 mem with mem | ⟨eq, -⟩
    · exact Nat.lt_succ_of_lt (hosted.below row mem)
    · exact eq ▸ Nat.lt_succ_self _

/-- A player object that is not in the world is left over. -/
lemma Hosted.leak {w : World} (hosted : Hosted w) {p : Nat} (free : w.players p = none) {P : Player}
    (out : P.inWorld = false) : Hosted { w with players := Function.update w.players p (some P) } := by
  refine ⟨hosted.mapped, hosted.listed, fun x S q here player => ?_, fun q Q live inWorld => ?_, hosted.alone,
    hosted.holder, hosted.owner, hosted.below⟩
  · obtain ⟨Q, live, inWorld, row⟩ := hosted.player x S q here player
    exact ⟨Q, update_of_absent free live, inWorld, row⟩
  · rcases update_eq_some.mp live with ⟨rfl, new⟩ | ⟨-, live⟩
    · cases new
      cases out.symm.trans inWorld
    · exact hosted.host q Q live inWorld

/-- Creating a character keeps every player with its host. -/
lemma Hosted.handleCharCreate {w w' : World} (hosted : Hosted w) {x : Nat} {S T : WorldSession} {guid p : Nat}
    {created initialized : Bool} (run : w.handleCharCreate x T created guid initialized p = some w')
    (here : w.sessions x = some S) (account : T.accountId = S.accountId) (player : T.player = S.player) :
    Hosted w' := by
  rw [World.handleCharCreate] at run
  have changed : Hosted (w.setSession x T) :=
    hosted.congr (sameHosts_of_update rfl here account player rfl rfl (fun _ => Or.inl) rfl (Nat.le_refl _))
  split_ifs at run with _ taken
  · cases run
    exact changed.leak (Option.not_isSome_iff_eq_none.mp taken) rfl
  · cases run
    exact changed.congr ⟨rfl, fun _ => rfl, rfl, fun _ => Or.inl, rfl, Nat.le_succ _⟩
  · exact (hosted.newCharacter T.accountId).handlePlayerLoginOpcode run here account player

/-- Updating a session keeps every player with its host. -/
lemma Hosted.updateSession {w w' : World} (hosted : Hosted w) {x guid p : Nat} {initialized : Bool}
    (run : w.updateSession x guid initialized p = some w') : Hosted w' := by
  obtain ⟨S, packet, queue, here, run⟩ := updateSession_cases run
  cases packet with
  | login accountId sized => exact hosted.handlePlayerLoginOpcode run here rfl rfl
  | selectName named =>
    cases run
    exact hosted.congr (sameHosts_of_update rfl here rfl rfl rfl rfl (fun _ => Or.inl) rfl (Nat.le_refl _))
  | create created => exact hosted.handleCharCreate run here rfl rfl

/-- A login that is answered finds its session without a player. -/
def LoginOnce (w : World) : Event → Prop
  | .callback loaded _ =>
    loaded = true → ∀ holder ∈ w.holders.head?, ∀ x ∈ w.sessionMap holder.accountId, ∀ S ∈ w.sessions x,
      S.player = none
  | _ => True

instance : ∀ (w : World) (e : Event), Decidable (LoginOnce w e)
  | _, .callback .. => inferInstanceAs (Decidable (_ → _))
  | _, .accept _ | _, .auth .. | _, .receive .. | _, .handle .. | _, .logout _ | _, .close _
  | _, .delete _ => isTrue trivial

/-- A session without a player gets one. -/
lemma Hosted.login {w : World} (hosted : Hosted w) {x p guid : Nat} {S : WorldSession}
    (here : w.sessions x = some S) (none : S.player = Option.none) (free : w.players p = Option.none)
    (row : (guid, S.accountId) ∈ w.characters) (T : WorldSession) (account : T.accountId = S.accountId)
    (player : T.player = some p) :
    Hosted { w.setSession x T with
      players := Function.update w.players p (some ⟨guid, x, true⟩)
      objectMap := Function.update w.objectMap guid (some p) } := by
  refine ⟨fun a y eq => ?mapped, fun y U eq => ?listed, fun y U q eq player' => ?player, fun q Q live inWorld => ?host,
    fun y z U V q eq eq' player' player'' => ?alone, hosted.holder, hosted.owner, hosted.below⟩
  all_goals dsimp only [setSession] at *
  case mapped =>
    obtain ⟨U, there, account'⟩ := hosted.mapped a y eq
    rcases eq_or_ne y x with rfl | ne
    · cases here.symm.trans there
      exact ⟨T, Function.update_self .., account.trans account'⟩
    · exact ⟨U, by rw [Function.update_of_ne ne, there], account'⟩
  case listed =>
    rcases update_eq_some.mp eq with ⟨rfl, new⟩ | ⟨-, there⟩
    · cases new
      exact account ▸ hosted.listed y S here
    · exact hosted.listed y U there
  case player =>
    rcases update_eq_some.mp eq with ⟨rfl, new⟩ | ⟨-, there⟩
    · cases new
      cases player.symm.trans player'
      exact ⟨_, Function.update_self .., rfl, account ▸ row⟩
    · obtain ⟨Q, live, inWorld, row'⟩ := hosted.player y U q there player'
      exact ⟨Q, update_of_absent free live, inWorld, row'⟩
  case host =>
    rcases update_eq_some.mp live with ⟨rfl, -⟩ | ⟨-, live⟩
    · exact ⟨x, T, Function.update_self .., player⟩
    · obtain ⟨y, U, there, player'⟩ := hosted.host q Q live inWorld
      refine ⟨y, U, update_eq_some.mpr (Or.inr ⟨?_, there⟩), player'⟩
      rintro rfl
      cases here.symm.trans there
      cases none.symm.trans player'
  case alone =>
    have dead : ∀ y U, w.sessions y = some U → U.player ≠ some p := by
      intro y U there player'
      obtain ⟨Q, live, -⟩ := hosted.player y U p there player'
      cases free.symm.trans live
    have mine : ∀ y U, Function.update w.sessions x (some T) y = some U → U.player = some q →
        y = x ∧ q = p ∨ w.sessions y = some U := by
      intro y U eq player'
      rcases update_eq_some.mp eq with ⟨rfl, new⟩ | ⟨-, there⟩
      · cases new
        exact Or.inl ⟨rfl, Option.some.inj (player'.symm.trans player)⟩
      · exact Or.inr there
    rcases mine y U eq player' with ⟨rfl, rfl⟩ | there
    · rcases mine z V eq' player'' with ⟨rfl, -⟩ | there'
      · rfl
      · exact absurd player'' (dead z V there')
    · rcases mine z V eq' player'' with ⟨rfl, rfl⟩ | there'
      · exact absurd player' (dead y U there)
      · exact hosted.alone y z U V q there there' player' player''

/-- A login, once at a time, keeps every player with its host. -/
lemma Hosted.handlePlayerLoginCallback {w w' : World} (hosted : Hosted w) {loaded : Bool} {p : Nat}
    (once : LoginOnce w (.callback loaded p)) (run : w.handlePlayerLoginCallback loaded p = some w') :
    Hosted w' := by
  obtain ⟨holder, holders, queue, answer⟩ := handlePlayerLoginCallback_cases run
  have rest : Hosted { w with holders := holders } :=
    hosted.congr ⟨rfl, fun _ => rfl, rfl,
      fun h mem => Or.inl (queue ▸ List.mem_cons_of_mem _ mem), rfl, Nat.le_refl _⟩
  obtain ⟨-, rfl⟩ | ⟨x, S, mapped, here, run⟩ := answer
  · exact rest
  · obtain ⟨T, there, account⟩ := hosted.mapped _ _ mapped
    cases here.symm.trans there
    rw [handlePlayerLogin] at run
    split_ifs at run with failed taken
    · cases run
      exact rest.congr (sameHosts_of_update rfl here rfl rfl rfl rfl (fun _ => Or.inl) rfl (Nat.le_refl _))
    · cases run
      have row : (holder.guid, S.accountId) ∈ w.characters := by
        rw [account]
        exact hosted.holder holder (queue ▸ List.mem_cons_self)
      have none := once (by simpa using failed) holder (by rw [queue]; rfl) x mapped S here
      exact rest.login here none (Option.not_isSome_iff_eq_none.mp taken) row _ rfl rfl

/-- Every step with one login at a time keeps every player with its host. -/
lemma Hosted.step {w w' : World} (hosted : Hosted w) {e : Event} (once : LoginOnce w e)
    (run : w.step e = some w') : Hosted w' := by
  cases e with
  | accept s =>
    rw [World.step] at run
    split at run
    · cases run
    · cases run
      exact hosted.congr ⟨rfl, fun _ => rfl, rfl, fun _ => Or.inl, rfl, Nat.le_refl _⟩
  | auth s a valid offline sized x =>
    obtain ⟨k, -, run⟩ := Option.bind_eq_some_iff.mp run
    exact hosted.handleAuthSession run
  | receive s packet =>
    obtain rfl | ⟨x, S, here, rfl⟩ := receive_cases run
    · exact hosted
    · exact hosted.congr (sameHosts_of_update rfl here rfl rfl rfl rfl (fun _ => Or.inl) rfl (Nat.le_refl _))
  | handle x guid initialized p => exact hosted.updateSession run
  | callback loaded p => exact hosted.handlePlayerLoginCallback once run
  | logout x =>
    obtain ⟨S, w₁, here, deleted, rfl⟩ := logoutSession_cases run
    exact hosted.erase here deleted
  | close s =>
    obtain ⟨k, -, rfl⟩ := Option.map_eq_some_iff.mp run
    exact hosted.congr ⟨rfl, fun _ => rfl, rfl, fun _ => Or.inl, rfl, Nat.le_refl _⟩
  | delete s =>
    obtain ⟨k, -, ⟨-, rfl⟩ | ⟨x, S, -, here, rfl⟩⟩ := deleteSocket_cases run
    · exact hosted.congr ⟨rfl, fun _ => rfl, rfl, fun _ => Or.inl, rfl, Nat.le_refl _⟩
    · exact hosted.congr (sameHosts_of_update rfl here rfl rfl rfl rfl (fun _ => Or.inl) rfl (Nat.le_refl _))

/-- A database whose guids are unique and below the next one. -/
structure Stored (characters : List (Nat × Nat)) (nextGuid : Nat) : Prop where
  owner : ∀ g a b, (g, a) ∈ characters → (g, b) ∈ characters → a = b
  below : ∀ row ∈ characters, row.1 < nextGuid

/-- Every character has at most one player in the world, the player of exactly one session, in every state
of a run in which no login is answered for a session that has a player. -/
theorem onePlayer_of_reaches {characters : List (Nat × Nat)} {nextGuid : Nat}
    (stored : Stored characters nextGuid) {w : World}
    (run : Reaches step LoginOnce (start characters nextGuid) w) : OnePlayer w := by
  have init : Hosted (start characters nextGuid) :=
    ⟨nofun, nofun, nofun, nofun, nofun, nofun, stored.owner, stored.below⟩
  exact (run.invariant init fun hosted once next => hosted.step once next).onePlayer

/-- Two clients log in, and the first one loses its connection and is logged out. -/
def twoLogins : List Event :=
  [.accept 1, .auth 1 7 true true true 1, .accept 2, .auth 2 8 true true true 2, .handle 1 1 true 9,
    .handle 2 2 true 9, .callback true 3, .callback true 4, .close 1, .delete 1, .logout 1]

/-- The player that was logged out is gone, and the other one is on its session. -/
theorem onePlayer_twoLogins :
    ∃ w, exec step (start [(1, 7), (2, 8)] 3) twoLogins = some w ∧ OnePlayer w := by
  obtain ⟨w, run⟩ := Option.isSome_iff_exists.mp
    (show (exec step (start [(1, 7), (2, 8)] 3) twoLogins).isSome by decide +kernel)
  have stored : Stored [(1, 7), (2, 8)] 3 := by
    refine ⟨fun g a b mem mem' => ?_, by decide⟩
    simp only [List.mem_cons, Prod.mk.injEq, List.not_mem_nil, or_false] at mem mem'
    omega
  exact ⟨w, run, onePlayer_of_reaches stored (reaches_of_exec _ (by decide +kernel) run)⟩

/-- A logged-in client chooses a name and creates a character. -/
def createAfterLogin : List Event :=
  [.accept 1, .auth 1 7 true true true 1, .handle 1 1 true 9, .callback true 3,
    .receive 1 (.selectName true), .receive 1 (.create true), .handle 1 1 true 9, .handle 1 1 true 9,
    .callback true 4]

/-- The character has two players in the world. -/
theorem not_onePlayer_createAfterLogin :
    ∃ w, Reaches step (fun _ _ => True) (start [(1, 7)] 2) w ∧ ¬OnePlayer w := by
  have last : ∃ w, exec step (start [(1, 7)] 2) createAfterLogin = some w ∧
      w.players 3 = some ⟨1, 1, true⟩ ∧ w.players 4 = some ⟨1, 1, true⟩ :=
    ⟨_, rfl, rfl, rfl⟩
  obtain ⟨w, run, live, live'⟩ := last
  refine ⟨w, reaches_of_exec _ (along_true _ _) run, fun one => ?_⟩
  cases one.1 3 4 _ _ live live' rfl rfl rfl

end World

end Legacy.Server
