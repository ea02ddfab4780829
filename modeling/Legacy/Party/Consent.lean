import Legacy.Party.Teams

/-!
# Who joins a team

A request to join is a packet of the member that the server passes on to the leader, and an answer one of the
leader that names an account (`WorldSession::HandleGroupOpcodes`). The server remembers neither, so the requests
that wait for an answer are added to the state here. `consented_iff` says that players join by an accepting answer
alone, and that they asked for it exactly if the leaders accept nobody else.
-/

namespace Legacy.Party
open Legacy.Lib

namespace World

variable (w : World)

/-- The request of a member reaches its leader (source, the guards of case 0x01). -/
def forwards (self leaderId : Nat) : Bool :=
  match w.players self, w.findPlayerByAccountId leaderId with
  | some p, some leader =>
    !p.isJoinedTeam && !(p.isBattleInProgress || p.battleMaster.isSome) && !leader.isJoinedTeam
  | _, _ => false

/-- The answer of a leader reaches the account that it names (source, the guards of case 0x03). -/
def relays (self memberId : Nat) : Bool :=
  match w.players self, w.findPlayerByAccountId memberId with
  | some p, some member =>
    !(p.isJoinedTeam || p.isBattleInProgress) &&
      !(member.isJoinedTeam || member.isTeamLeader || member.isBattleInProgress || member.battleMaster.isSome)
  | _, _ => false

/-- A leader with room for another member. -/
def hasRoom (self : Nat) : Bool := (w.players self).any Player.canJoinTeam

/-- The player is in the list of the team. -/
def InTeam (p q : Nat) : Prop := ∃ L, w.links q = some L ∧ p ∈ L.team

/-- The player is led by the other one. -/
def LedBy (p q : Nat) : Prop := q ≠ 0 ∧ ∃ P, w.links p = some P ∧ P.leader = q

/-- The player becomes a member of the team of the other one. -/
def Enrols (w' : World) (p q : Nat) : Prop := ¬w.InTeam p q ∧ w'.InTeam p q ∨ ¬w.LedBy p q ∧ w'.LedBy p q

end World

/-- The world, and who asked whom without an answer so far. -/
structure Parley where
  world : World
  asked : Nat → Nat → Bool

namespace Parley

/-- The requests after an event: one is added when it is passed on, and answered when the answer is. -/
def note (s : Parley) : Event → Nat → Nat → Bool
  | .memberRequest self leaderId => fun p q =>
    if s.world.forwards self leaderId ∧ p = self ∧ q = s.world.guidOf leaderId then true else s.asked p q
  | .leaderResponse self _ memberId => fun p q =>
    if s.world.relays self memberId ∧ p = s.world.guidOf memberId ∧ q = self then false else s.asked p q
  | _ => s.asked

/-- An event, with what it says of the requests. -/
def step (s : Parley) (e : Event) : Option Parley := (Party.step s.world e).map fun w => ⟨w, s.note e⟩

/-- Nobody is in the world, and nobody asked. -/
def start (guidOf : Nat → Nat) : Parley := ⟨World.start guidOf, fun _ _ => false⟩

/-- Whoever becomes a member of a team asked its leader, who now accepts. -/
def Consented (s : Parley) (e : Event) : Prop :=
  ∀ s' ∈ step s e, ∀ p q, s.world.Enrols s'.world p q →
    s.asked p q ∧ ∃ memberId, e = .leaderResponse q 1 memberId ∧ s.world.guidOf memberId = p

/-- A leader with room for it accepts a free player only if that one asked. -/
def Answers (s : Parley) : Event → Prop
  | .leaderResponse self response memberId =>
    response = 1 → s.world.relays self memberId → s.world.hasRoom self → s.asked (s.world.guidOf memberId) self
  | _ => True

end Parley

/-- Teams only become smaller. -/
structure Shrinks (w w' : World) : Prop where
  team : ∀ g L' m, w'.links g = some L' → m ∈ L'.team → ∃ L, w.links g = some L ∧ m ∈ L.team
  leader : ∀ g L', w'.links g = some L' → L'.leader ≠ 0 → ∃ L, w.links g = some L ∧ L.leader = L'.leader
  zero : w.links 0 = none → w'.links 0 = none

namespace Shrinks

variable {w w' w'' : World}

/-- Where the links stay, so do the teams. -/
lemma of_links (same : w'.links = w.links) : Shrinks w w' where
  team _ L' _ live mem := ⟨L', same ▸ live, mem⟩
  leader _ L' live _ := ⟨L', same ▸ live, rfl⟩
  zero none := by rw [same, none]

/-- Teams stay where nothing is done. -/
lemma refl (w : World) : Shrinks w w := of_links rfl

/-- Teams that become smaller twice. -/
lemma trans (first : Shrinks w w') (second : Shrinks w' w'') : Shrinks w w'' where
  team g L' m live mem := by
    obtain ⟨L, live, mem⟩ := second.team g L' m live mem
    exact first.team g L m live mem
  leader g L' live some := by
    obtain ⟨L, live, eq⟩ := second.leader g L' live some
    obtain ⟨K, live, eq'⟩ := first.leader g L live (eq ▸ some)
    exact ⟨K, live, eq'.trans eq⟩
  zero none := second.zero (first.zero none)

/-- Nobody joins by such a change. -/
lemma not_enrols (h : Shrinks w w') (p q : Nat) : ¬w.Enrols w' p q := by
  rintro (⟨out, L', live, mem⟩ | ⟨free, some, P, live, rfl⟩)
  · exact out (h.team q L' p live mem)
  · obtain ⟨K, old, eq⟩ := h.leader p P live some
    exact free ⟨some, K, old, eq⟩

/-- A player that loses members or its leader. -/
lemma setPlayer {g : Nat} {p q : Player} (live : w.players g = some p) (team : ∀ m ∈ q.team, m ∈ p.team)
    (leader : q.leaderGuid = p.leaderGuid ∨ q.leaderGuid = 0) : Shrinks w (w.setPlayer g q) where
  team g' L' m here mem := by
    rw [World.links_setPlayer] at here
    rcases update_eq_some.mp here with ⟨rfl, eq⟩ | ⟨-, old⟩
    · cases eq
      exact ⟨_, World.links_eq_some live, team m mem⟩
    · exact ⟨L', old, mem⟩
  leader g' L' here some := by
    rw [World.links_setPlayer] at here
    rcases update_eq_some.mp here with ⟨rfl, eq⟩ | ⟨-, old⟩
    · cases eq
      exact ⟨_, World.links_eq_some live, (leader.resolve_right some).symm⟩
    · exact ⟨L', old, rfl⟩
  zero none := by
    rw [World.links_setPlayer, Function.update_of_ne, none]
    rintro rfl
    rw [World.links_eq_some live] at none
    cases none

/-- A player in no team comes, or one goes. -/
lemma update {g : Nat} {new : Option Link} (ne : g ≠ 0 ∨ new = none) (free : ∀ L ∈ new, L = ⟨0, []⟩)
    (links : w'.links = Function.update w.links g new) : Shrinks w w' where
  team g' L' m here mem := by
    rw [links] at here
    rcases update_eq_some.mp here with ⟨-, eq⟩ | ⟨-, old⟩
    · rw [free L' eq] at mem
      cases mem
    · exact ⟨L', old, mem⟩
  leader g' L' here some := by
    rw [links] at here
    rcases update_eq_some.mp here with ⟨-, eq⟩ | ⟨-, old⟩
    · rw [free L' eq] at some
      exact absurd rfl some
    · exact ⟨L', old, rfl⟩
  zero none := by
    rw [links]
    rcases ne with ne | rfl
    · rw [Function.update_of_ne ne.symm, none]
    · rcases eq_or_ne g 0 with rfl | ne
      · rw [Function.update_self]
      · rw [Function.update_of_ne ne.symm, none]

end Shrinks

namespace World

variable {w w' : World}

/-- Leaving makes no team larger. -/
lemma leaveTeam_shrinks {l m : Nat} (run : w.leaveTeam l m = some w') : Shrinks w w' := by
  obtain ⟨p, q, live, live', rfl⟩ := leaveTeam_inv run
  have list : Shrinks w (w.setPlayer l { p with team := p.team.filter (· ≠ m) }) :=
    Shrinks.setPlayer live (fun x mem => (List.mem_filter.mp mem).1) (Or.inl rfl)
  exact list.trans (Shrinks.setPlayer (q := { q with leaderGuid := 0 }) live' (fun x mem => mem) (Or.inr rfl))

/-- The loop of the dismissal makes no team larger. -/
lemma dismiss_shrinks {l n : Nat} (run : dismiss l n w = some w') : Shrinks w w' := by
  induction n generalizing w with
  | zero =>
    cases run
    exact Shrinks.refl _
  | succ n ih =>
    obtain ⟨p, -, run⟩ := Option.bind_eq_some_iff.mp run
    split at run
    · cases run
      exact Shrinks.refl _
    · obtain ⟨w₁, left, run⟩ := Option.bind_eq_some_iff.mp run
      exact (leaveTeam_shrinks left).trans (ih run)

/-- A dismissal makes no team larger. -/
lemma dismissTeam_shrinks {l : Nat} (run : w.dismissTeam l = some w') : Shrinks w w' := by
  obtain ⟨p, -, run⟩ := Option.bind_eq_some_iff.mp run
  exact dismiss_shrinks run

/-- A member that leaves makes no team larger. -/
lemma memberLeave_shrinks {self teamleaderId : Nat} (run : w.memberLeave self teamleaderId = some w') :
    Shrinks w w' := by
  obtain ⟨p, -, run⟩ := Option.bind_eq_some_iff.mp run
  split at run
  · exact dismissTeam_shrinks run
  · split at run
    · cases run
      exact Shrinks.refl w
    · exact leaveTeam_shrinks run

/-- Quitting makes no team larger. -/
lemma quitTeam_shrinks {self : Nat} (run : w.quitTeam self = some w') : Shrinks w w' := by
  obtain ⟨p, -, run⟩ := Option.bind_eq_some_iff.mp run
  obtain ⟨w₁, left, run⟩ := Option.bind_eq_some_iff.mp run
  refine Shrinks.trans ?_ (dismissTeam_shrinks run)
  split at left
  · cases left
    exact Shrinks.refl w
  · exact leaveTeam_shrinks left

/-- A logout makes no team larger. -/
lemma logout_shrinks {self i : Nat} (run : w.logout self i = some w') : Shrinks w w' := by
  obtain ⟨w₂, w₃, idles, left, rfl⟩ := logout_cases run
  have same : w₂.links = w.links := idles idle_link
  refine ((Shrinks.of_links same).trans (quitTeam_shrinks left)).trans ?_
  exact Shrinks.update (Or.inr rfl) nofun (links_deletePlayer w₃ self)

/-- A login makes no team larger. -/
lemma login_shrinks {g acc : Nat} {pet : Option Nat} {acceptPK : Bool} (run : w.login g acc pet acceptPK = some w') :
    Shrinks w w' := by
  rw [login] at run
  split at run
  case isTrue new =>
    cases run
    exact Shrinks.update (Or.inl new.1) (fun L eq => (Option.some.inj eq).symm) (links_setPlayer ..)
  case isFalse => cases run

/-- An answer lets a player join, or does nothing. -/
lemma leaderResponse_cases {self response memberId : Nat} (run : w.leaderResponse self response memberId = some w') :
    (response = 1 ∧ w.relays self memberId ∧ w.hasRoom self) ∧ w.joinTeam self (w.guidOf memberId) = some w' ∨
      ¬(response = 1 ∧ w.relays self memberId ∧ w.hasRoom self) ∧ w' = w := by
  obtain ⟨p, live, run⟩ := Option.bind_eq_some_iff.mp run
  have room : w.hasRoom self = p.canJoinTeam := by rw [hasRoom, live, Option.any_some]
  split at run
  case isTrue busy =>
    cases run
    refine Or.inr ⟨fun accepts => ?_, rfl⟩
    have relays := accepts.2.1
    rw [World.relays, live] at relays
    cases found : w.findPlayerByAccountId memberId with
    | none => simp [found] at relays
    | some member => simp [found, busy] at relays
  case isFalse idle =>
    split at run
    case h_1 found =>
      cases run
      refine Or.inr ⟨fun accepts => ?_, rfl⟩
      have relays := accepts.2.1
      rw [World.relays, live, found] at relays
      cases relays
    case h_2 member found =>
      have relays : w.relays self memberId = !(member.isJoinedTeam || member.isTeamLeader ||
          member.isBattleInProgress || member.battleMaster.isSome) := by
        rw [World.relays, live, found]
        simp only [Bool.eq_false_iff.mpr idle, Bool.not_false, Bool.true_and]
      rw [relays, room]
      split at run
      case isTrue busy =>
        cases run
        refine Or.inr ⟨fun accepts => ?_, rfl⟩
        rw [busy] at accepts
        exact Bool.false_ne_true accepts.2.1
      case isFalse free =>
        rw [Bool.eq_false_iff.mpr free]
        split at run
        case isTrue join =>
          rw [Bool.and_eq_true, decide_eq_true_iff] at join
          exact Or.inl ⟨⟨join.1, rfl, join.2⟩, run⟩
        case isFalse refused =>
          cases run
          refine Or.inr ⟨fun accepts => refused ?_, rfl⟩
          rw [Bool.and_eq_true, decide_eq_true_iff]
          exact ⟨accepts.1, accepts.2.2⟩

/-- Two players that are there can join. -/
lemma joinTeam_some {l m : Nat} {L M : Player} (leader : w.players l = some L) (member : w.players m = some M) :
    ∃ w', w.joinTeam l m = some w' := by
  obtain ⟨L', leader'⟩ : ∃ L', (w.setPlayer m { M with leaderGuid := l }).players l = some L' := by
    rcases eq_or_ne l m with rfl | ne
    · exact ⟨_, Function.update_self ..⟩
    · exact ⟨L, (Function.update_of_ne ne ..).trans leader⟩
  exact ⟨_, Option.bind_eq_some_iff.mpr ⟨M, member, Option.map_eq_some_iff.mpr ⟨L', leader', rfl⟩⟩⟩

/-- The answer of a player can always be handled. -/
lemma leaderResponse_some {self : Nat} {p : Player} (live : w.players self = some p) (response memberId : Nat) :
    ∃ w', w.leaderResponse self response memberId = some w' := by
  rw [leaderResponse, live, Option.bind_some]
  split
  · exact ⟨w, rfl⟩
  · split
    · exact ⟨w, rfl⟩
    · next member found =>
      split
      · exact ⟨w, rfl⟩
      · split
        · exact joinTeam_some live found
        · exact ⟨w, rfl⟩

/-- What joining changes about the teams. -/
lemma joinTeam_links {l m : Nat} (run : w.joinTeam l m = some w') :
    (∀ g K', w'.links g = some K' → ∃ K, w.links g = some K ∧ (∀ p ∈ K'.team, p ∈ K.team ∨ p = m ∧ g = l) ∧
      (K'.leader = K.leader ∨ g = m ∧ K'.leader = l)) ∧
    (∃ K', w'.links m = some K' ∧ K'.leader = l) ∧ (w.links 0 = none → l ≠ 0) := by
  obtain ⟨M, member, run⟩ := Option.bind_eq_some_iff.mp run
  obtain ⟨L, leader, rfl⟩ := Option.map_eq_some_iff.mp run
  have first (g : Nat) (K' : Link) (live : (w.setPlayer m { M with leaderGuid := l }).links g = some K') :
      ∃ K, w.links g = some K ∧ K'.team = K.team ∧ (K'.leader = K.leader ∨ g = m ∧ K'.leader = l) := by
    rw [links_setPlayer] at live
    rcases update_eq_some.mp live with ⟨rfl, eq⟩ | ⟨-, old⟩
    · cases eq
      exact ⟨_, links_eq_some member, rfl, Or.inr ⟨rfl, rfl⟩⟩
    · exact ⟨K', old, rfl, Or.inl rfl⟩
  refine ⟨fun g K' live => ?_, ?_, ?_⟩
  · rw [links_setPlayer] at live
    rcases update_eq_some.mp live with ⟨rfl, eq⟩ | ⟨-, old⟩
    · cases eq
      obtain ⟨K, live, team, lead⟩ := first g L.link (links_eq_some leader)
      refine ⟨K, live, fun p mem => ?_, lead⟩
      rcases List.mem_append.mp mem with old | new
      · exact Or.inl (team ▸ old)
      · exact Or.inr ⟨List.mem_singleton.mp new, rfl⟩
    · obtain ⟨K, live, team, lead⟩ := first g K' old
      exact ⟨K, live, fun p mem => Or.inl (team ▸ mem), lead⟩
  · rw [links_setPlayer]
    rcases eq_or_ne m l with rfl | ne
    · rw [setPlayer_players, Function.update_self] at leader
      cases leader
      exact ⟨_, Function.update_self .., rfl⟩
    · rw [Function.update_of_ne ne, links_setPlayer]
      exact ⟨_, Function.update_self .., rfl⟩
  · rintro zero rfl
    obtain ⟨K, live, -⟩ := first 0 L.link (links_eq_some leader)
    cases zero.symm.trans live

/-- Whoever joins becomes a member, and nobody else does. -/
lemma joinTeam_enrols {l m : Nat} (zero : w.links 0 = none) (free : ∀ K, w.links m = some K → K.leader = 0)
    (run : w.joinTeam l m = some w') (p q : Nat) : w.Enrols w' p q ↔ p = m ∧ q = l := by
  obtain ⟨changes, ⟨K', live', lead'⟩, some⟩ := joinTeam_links run
  constructor
  · rintro (⟨out, K', live, mem⟩ | ⟨out, ne, K', live, rfl⟩)
    · obtain ⟨K, live, team, -⟩ := changes q K' live
      rcases team p mem with old | new
      · exact absurd ⟨K, live, old⟩ out
      · exact new
    · obtain ⟨K, live, -, same | new⟩ := changes p K' live
      · exact absurd ⟨ne, K, live, same.symm⟩ out
      · exact new
  · rintro ⟨rfl, rfl⟩
    refine Or.inr ⟨fun led => ?_, some zero, K', live', lead'⟩
    obtain ⟨ne, K, live, eq⟩ := led
    exact ne (eq.symm.trans (free K live))

/-- The account that an answer reaches is in no team. -/
lemma free_of_relays {self memberId : Nat} (relays : w.relays self memberId) {K : Link}
    (live : w.links (w.guidOf memberId) = some K) : K.leader = 0 := by
  obtain ⟨member, found, rfl⟩ := Option.map_eq_some_iff.mp live
  have found : w.findPlayerByAccountId memberId = some member := found
  rw [World.relays, found] at relays
  split at relays
  case h_1 p member' _ same =>
    cases same
    simp only [Bool.and_eq_true, Bool.not_eq_true', Bool.or_eq_false_iff] at relays
    have out := relays.2.1.1.1
    rw [Player.isJoinedTeam, decide_eq_false_iff_not, not_not] at out
    exact out
  case h_2 => cases relays

/-- Joining gives nobody the guid 0. -/
lemma joinTeam_zero {l m : Nat} (zero : w.links 0 = none) (run : w.joinTeam l m = some w') : w'.links 0 = none := by
  obtain ⟨changes, -, -⟩ := joinTeam_links run
  cases live : w'.links 0 with
  | none => rfl
  | some K' =>
    obtain ⟨K, old, -⟩ := changes 0 K' live
    cases zero.symm.trans old

end World

/-- Every event but an answer only makes teams smaller. -/
lemma step_shrinks {w w' : World} {e : Event}
    (other : ∀ self response memberId, e ≠ .leaderResponse self response memberId)
    (run : step w e = some w') : Shrinks w w' := by
  cases e with
  | login g acc pet acceptPK => exact World.login_shrinks run
  | leaderResponse self response memberId => exact absurd rfl (other self response memberId)
  | memberLeave self teamleaderId => exact World.memberLeave_shrinks run
  | logout self i => exact World.logout_shrinks run
  | _ => exact Shrinks.of_links (step_links id run)

/-- Who becomes a member by an event. -/
lemma step_enrols {w w' : World} {e : Event} (zero : w.links 0 = none) (run : step w e = some w') (p q : Nat) :
    w.Enrols w' p q ↔
      ∃ memberId, e = .leaderResponse q 1 memberId ∧ w.guidOf memberId = p ∧ w.relays q memberId ∧ w.hasRoom q := by
  by_cases answer : ∃ self response memberId, e = .leaderResponse self response memberId
  case neg =>
    have shrinks := step_shrinks (fun self response memberId eq => answer ⟨self, response, memberId, eq⟩) run
    refine iff_of_false (shrinks.not_enrols p q) ?_
    rintro ⟨memberId, eq, -⟩
    exact answer ⟨q, 1, memberId, eq⟩
  case pos =>
    obtain ⟨self, response, memberId, rfl⟩ := answer
    rcases World.leaderResponse_cases run with ⟨⟨rfl, relays, room⟩, joined⟩ | ⟨refused, rfl⟩
    · rw [World.joinTeam_enrols zero (fun K live => World.free_of_relays relays live) joined]
      constructor
      · rintro ⟨rfl, rfl⟩
        exact ⟨memberId, rfl, rfl, relays, room⟩
      · rintro ⟨memberId', eq, same, -⟩
        cases eq
        exact ⟨same.symm, rfl⟩
    · refine iff_of_false ((Shrinks.refl w').not_enrols p q) ?_
      rintro ⟨memberId', eq, -, relays, room⟩
      cases eq
      exact refused ⟨rfl, relays, room⟩

/-- No step gives anybody the guid 0. -/
lemma step_zero {w w' : World} {e : Event} (zero : w.links 0 = none) (run : step w e = some w') :
    w'.links 0 = none := by
  by_cases answer : ∃ self response memberId, e = .leaderResponse self response memberId
  case neg =>
    exact (step_shrinks (fun self response memberId eq => answer ⟨self, response, memberId, eq⟩) run).zero zero
  case pos =>
    obtain ⟨self, response, memberId, rfl⟩ := answer
    rcases World.leaderResponse_cases run with ⟨-, joined⟩ | ⟨-, rfl⟩
    · exact World.joinTeam_zero zero joined
    · exact zero

namespace Parley

/-- Along a run, everybody who becomes a member of a team had asked its leader, who had not answered since and now
accepts, exactly if no leader with room for it accepts a free player that has not asked. -/
theorem consented_iff (guidOf : Nat → Nat) (events : List Event) :
    Along step Consented (start guidOf) events ↔ Along step Answers (start guidOf) events := by
  refine along_congr (P := fun s => s.world.links 0 = none) rfl (fun {s e} zero => ?_) (fun zero _ next => ?_) events
  · constructor
    · intro consented
      cases e with
      | leaderResponse self response memberId =>
        rintro rfl relays room
        obtain ⟨p, live, -⟩ := (Option.any_eq_true ..).mp room
        obtain ⟨w, run⟩ := World.leaderResponse_some live 1 memberId
        have run : Party.step s.world (.leaderResponse self 1 memberId) = some w := run
        have enrols := (step_enrols zero run _ self).mpr ⟨memberId, rfl, rfl, relays, room⟩
        exact (consented _ (Option.map_eq_some_iff.mpr ⟨w, run, rfl⟩) _ self enrols).1
      | _ => trivial
    · intro answers s' next p q enrols
      obtain ⟨w, run, rfl⟩ := Option.map_eq_some_iff.mp next
      obtain ⟨memberId, rfl, same, relays, room⟩ := (step_enrols zero run p q).mp enrols
      exact ⟨same ▸ answers rfl relays room, memberId, rfl, same⟩
  · obtain ⟨w, run, rfl⟩ := Option.map_eq_some_iff.mp next
    exact step_zero zero run

/-- Player 1 accepts player 2, who did not ask. -/
theorem not_consented_stranger :
    ¬∀ (guidOf : Nat → Nat) (events : List Event), Along step Consented (start guidOf) events := by
  intro consented
  have along := consented (fun acc => acc - 10) [.login 1 11 none true, .login 2 12 none true, .leaderResponse 1 1 12]
  have last := ((along.2 _ rfl).2 _ rfl).1
  have asked := (last _ rfl 2 1 (Or.inl ⟨?_, ?_⟩)).1
  · cases asked
  · rintro ⟨L, live, mem⟩
    cases live
    cases mem
  · exact ⟨_, rfl, List.mem_singleton_self 2⟩

end Parley

end Legacy.Party
