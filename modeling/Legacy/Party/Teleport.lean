import Legacy.Lib.Walk
import Legacy.Party.Subleader

/-!
# Teleports of teams

A player that is teleported takes its team along, and every member of the team does the same
(`Player::TeleportTo`, `Player::SendMapChanged`). `travels_of_reaches` says when this ends, and takes every member of
the team along once.
-/

namespace Legacy.Party
open Legacy.Lib

/-- A map and a position on it. -/
structure Place where
  mapId : Nat
  x : Nat
  y : Nat
deriving DecidableEq

/-- The packet 0x0C, with 4 for the leader of a team, 1 for a member of one and 0 otherwise. -/
structure MapChange where
  accountId : Nat
  place : Place
  state : Nat

/-- Where the players are, who of them cannot move, and the packets, which are named by the player they are about: the
ones of `Player::TeleportTo`, and the ones of `Player::SendMapChanged`. -/
structure Travel where
  place : Nat → Place
  dontMove : Nat → Bool
  departed : List (Nat × MapChange)
  arrived : List (Nat × MapChange)

/-- What the clients are told of a player that leaves for a place or arrives there. -/
def Player.mapChange (p : Player) (place : Place) : MapChange :=
  ⟨p.accountId, place, if p.isTeamLeader then 4 else if p.isJoinedTeam then 1 else 0⟩

/-- What `Player::TeleportTo` does before the team follows. -/
def depart (dest : Place) (guid : Nat) (p : Player) (t : Travel) : Travel :=
  { t with
    dontMove := if p.isTeamLeader then Function.update t.dontMove guid true else t.dontMove
    departed := t.departed ++ [(guid, p.mapChange dest)]
    place := Function.update t.place guid dest }

/-- What `Player::SendMapChanged` does before the team follows. -/
def arrive (guid : Nat) (p : Player) (t : Travel) : Travel :=
  { t with arrived := t.arrived ++ [(guid, p.mapChange (t.place guid))] }

/-- The leader can move when its team is there. -/
def settle (guid : Nat) (p : Player) (t : Travel) : Travel :=
  if p.isTeamLeader then { t with dontMove := Function.update t.dontMove guid false } else t

namespace World

/-- source `Player::TeleportTo`, with `n` levels of the stack -/
def teleportTo (w : World) (dest : Place) : Nat → Nat → Travel → Option Travel :=
  sweep w.players Player.team (depart dest) fun _ _ t => t

/-- source `Player::SendMapChanged`, with `n` levels of the stack -/
def sendMapChanged (w : World) : Nat → Nat → Travel → Option Travel := sweep w.players Player.team arrive settle

/-- The team of a player, if there is one. -/
def team (w : World) : Nat → List Nat := kidsAt w.players Player.team

end World

/-- Every teleport ends, and takes every member of the team to the destination once. It is announced to every member
once after that. -/
def Travels (w : World) : Prop :=
  ∀ g p, w.players g = some p → ∀ (dest : Place) (t : Travel),
    (∃ n t', w.teleportTo dest n g t = some t' ∧ ∀ m ∈ p.team,
      (t'.departed.map Prod.fst).count m = (t.departed.map Prod.fst).count m + 1 ∧ t'.place m = dest) ∧
    ∃ n t', w.sendMapChanged n g t = some t' ∧ ∀ m ∈ p.team,
      (t'.arrived.map Prod.fst).count m = (t.arrived.map Prod.fst).count m + 1

/-- The players of all teams are there, and the teams of the members of a team lead to nobody of it again. -/
structure Orderly (w : World) : Prop where
  zero : w.links 0 = none
  live : ∀ g, ∀ m ∈ w.team g, (w.players m).isSome
  ranked : ∃ r, Ranked w.team r ∧ Once w.team r

/-- Nobody is accepted by a player whose team leads to it, or that is led to from a team which it is in, and nobody
goes that is in the team of another than its leader. -/
def KeepsTrees (w : World) : Event → Prop
  | .leaderResponse self response memberId =>
    response = 1 → w.relays self memberId = true → w.hasRoom self = true →
      ¬Below w.team (w.guidOf memberId) self ∧ ∀ g, w.guidOf memberId ∈ w.team g → ¬Below w.team self g
  | .logout self _ => ∀ p ∈ w.players self, ∀ g, self ∈ w.team g → g = p.leaderGuid
  | _ => True

section Sweeps

variable {w : World} {n g : Nat} {dest : Place} {t t' : Travel}

/-- Those who depart are those of the walk, in its order. -/
lemma teleportTo_departed (run : w.teleportTo dest n g t = some t') :
    t'.departed.map Prod.fst = t.departed.map Prod.fst ++ walk w.team n g := by
  refine sweep_log (fun t => t.departed.map Prod.fst) (fun g p t => ?_) (fun _ _ _ => rfl) run
  exact List.map_append

/-- Those who arrive are those of the walk, in its order. -/
lemma sendMapChanged_arrived (run : w.sendMapChanged n g t = some t') :
    t'.arrived.map Prod.fst = t.arrived.map Prod.fst ++ walk w.team n g := by
  refine sweep_log (fun t => t.arrived.map Prod.fst) (fun g p t => List.map_append) (fun g p t => ?_) run
  rw [settle]
  split_ifs <;> rfl

/-- Whoever departs is at the destination. -/
lemma teleportTo_place (run : w.teleportTo dest n g t = some t') : ∀ m ∈ walk w.team n g, t'.place m = dest := by
  have kept : ∃ l, t'.departed.map Prod.fst = t.departed.map Prod.fst ++ l ∧ ∀ m ∈ l, t'.place m = dest := by
    refine sweep_invariant (P := fun s => ∃ l, s.departed.map Prod.fst = t.departed.map Prod.fst ++ l ∧
      ∀ m ∈ l, s.place m = dest) run ⟨[], (List.append_nil _).symm, nofun⟩ ?_ fun _ _ _ kept => kept
    rintro x p s ⟨l, log, there⟩
    refine ⟨l ++ [x], ?_, fun m mem => ?_⟩
    · rw [depart, List.map_append, log, List.append_assoc]
      rfl
    · rw [depart]
      dsimp only
      by_cases last : m = x
      · rw [last, Function.update_self]
      · rw [Function.update_of_ne last]
        exact there m ((List.mem_append.mp mem).resolve_right fun mem => last (List.mem_singleton.mp mem))
  obtain ⟨l, log, there⟩ := kept
  rw [teleportTo_departed run, List.append_cancel_left_eq] at log
  rwa [log]

end Sweeps

section Trees

variable {w w' : World}

/-- The team of a player that is there. -/
lemma team_of_live {g : Nat} {p : Player} (live : w.players g = some p) : w.team g = p.team := kidsAt_of_find live

/-- In an orderly world every teleport ends well. -/
lemma Orderly.travels (orderly : Orderly w) : Travels w := by
  obtain ⟨r, ranked, once⟩ := orderly.ranked
  intro g p live dest t
  have here : (w.players g).isSome = true := by rw [live, Option.isSome_some]
  have deep : r g < r g + 1 := Nat.lt_succ_self _
  have count (m : Nat) (mem : m ∈ p.team) : (walk w.team (r g + 1) g).count m = 1 :=
    once g m (team_of_live live ▸ mem) _ deep
  constructor
  · obtain ⟨t', run⟩ := exists_sweep (depart dest) (fun _ _ t => t) ranked orderly.live here deep t
    refine ⟨_, t', run, fun m mem => ⟨?_, ?_⟩⟩
    · rw [teleportTo_departed run, List.count_append, count m mem]
    · exact teleportTo_place run m (List.count_pos_iff.mp (by rw [count m mem]; exact Nat.one_pos))
  · obtain ⟨t', run⟩ := exists_sweep arrive settle ranked orderly.live here deep t
    refine ⟨_, t', run, fun m mem => ?_⟩
    rw [sendMapChanged_arrived run, List.count_append, count m mem]

/-- The teleport of a player in its own team never ends. -/
lemma not_travels_of_loop {g : Nat} (kid : g ∈ w.team g) : ¬Travels w := by
  intro travels
  cases live : w.players g with
  | none =>
    rw [World.team, kidsAt, live] at kid
    cases kid
  | some p =>
    obtain ⟨⟨n, t', run, -⟩, -⟩ := travels g p live ⟨0, 0, 0⟩ ⟨fun _ => ⟨0, 0, 0⟩, fun _ => false, [], []⟩
    cases (sweep_loop kid n _).symm.trans run

/-- The teleport of a team with a member that is gone does not end well. -/
lemma not_travels_of_lost {g m : Nat} (kid : m ∈ w.team g) (lost : w.players m = none) : ¬Travels w := by
  intro travels
  cases live : w.players g with
  | none =>
    rw [World.team, kidsAt, live] at kid
    cases kid
  | some p =>
    obtain ⟨⟨n, t', run, -⟩, -⟩ := travels g p live ⟨0, 0, 0⟩ ⟨fun _ => ⟨0, 0, 0⟩, fun _ => false, [], []⟩
    cases (sweep_lost kid lost n _).symm.trans run

/-- A member that is come to twice is teleported twice. -/
lemma not_travels_of_twice {g m k : Nat} (kid : m ∈ w.team g)
    (twice : ∀ n, k < n → 2 ≤ (walk w.team n g).count m) : ¬Travels w := by
  intro travels
  cases live : w.players g with
  | none =>
    rw [World.team, kidsAt, live] at kid
    cases kid
  | some p =>
    obtain ⟨⟨n, t', run, once⟩, -⟩ := travels g p live ⟨0, 0, 0⟩ ⟨fun _ => ⟨0, 0, 0⟩, fun _ => false, [], []⟩
    have deeper := sweep_mono (Nat.le_max_left n (k + 1)) run
    have one := (once m (team_of_live live ▸ kid)).1
    rw [teleportTo_departed deeper, List.count_append] at one
    have two := twice (max n (k + 1)) (Nat.le_max_right n (k + 1))
    omega

/-- The teams of the players with these offices. -/
def teamsOf (offices : Nat → Option Office) (g : Nat) : List Nat := (offices g).elim [] Office.team

/-- The teams are those of the offices. -/
lemma team_eq (w : World) : w.team = teamsOf w.offices := by
  funext g
  rw [World.team, kidsAt, teamsOf, World.offices, World.view, Option.elim_map]
  rfl

/-- A player is there when its office is. -/
lemma isSome_offices (w : World) (g : Nat) : (w.offices g).isSome = (w.players g).isSome := Option.isSome_map

/-- A change of an office removes nobody. -/
lemma isSome_modifyOffice (offices : Nat → Option Office) (l g : Nat) (f : Office → Office) :
    (modifyOffice offices l f g).isSome = (offices g).isSome := by
  rw [modifyOffice]
  by_cases here : g = l
  · rw [here, Function.update_self, Option.isSome_map]
  · rw [Function.update_of_ne here]

/-- The offices change, nobody goes and no team becomes larger. -/
structure Fewer (offices offices' : Nat → Option Office) : Prop where
  team : ∀ g, (teamsOf offices' g).Sublist (teamsOf offices g)
  live : ∀ g, (offices g).isSome → (offices' g).isSome

/-- No team becomes larger where nothing is done. -/
lemma Fewer.refl (offices : Nat → Option Office) : Fewer offices offices :=
  ⟨fun _ => List.Sublist.refl _, fun _ live => live⟩

/-- A change that makes one team no larger makes no team larger. -/
lemma fewer_modify {offices : Nat → Option Office} {l : Nat} {f : Office → Office}
    (less : ∀ L, (f L).team.Sublist L.team) : Fewer offices (modifyOffice offices l f) := by
  refine ⟨fun g => ?_, fun g live => (isSome_modifyOffice ..).trans live⟩
  rw [teamsOf, modifyOffice]
  by_cases here : g = l
  · rw [here, Function.update_self, Option.elim_map, teamsOf]
    cases offices l with
    | none => exact List.Sublist.refl _
    | some L => exact less L
  · rw [Function.update_of_ne here, teamsOf]

/-- Leaving makes the team a part of what it was. -/
lemma leave_sublist (m : Nat) (L : Office) : (L.leave m).team.Sublist L.team := List.filter_sublist

/-- What every event but an accepting answer and a logout does. -/
lemma step_fewer {e : Event} (zero : w.links 0 = none) (run : step w e = some w')
    (refused : ∀ self response memberId, e ≠ .leaderResponse self response memberId)
    (stays : ∀ self i, e ≠ .logout self i) : Fewer w.offices w'.offices := by
  rw [step_offices zero run]
  cases e with
  | login guid acc pet acceptPK =>
    refine ⟨fun g => ?_, fun g live => ?_⟩
    · rw [teamsOf, World.officesAfter]
      by_cases here : g = guid
      · rw [here, Function.update_self]
        exact List.nil_sublist _
      · rw [Function.update_of_ne here, teamsOf]
    · rw [World.officesAfter]
      by_cases here : g = guid
      · rw [here, Function.update_self, Option.isSome_some]
      · rwa [Function.update_of_ne here]
  | leaderResponse self response memberId => exact absurd rfl (refused self response memberId)
  | memberLeave self teamleaderId =>
    rw [World.officesAfter]
    split_ifs
    · exact fewer_modify fun L => List.nil_sublist _
    · exact fewer_modify (leave_sublist self)
  | setSubleader self acc =>
    rw [World.officesAfter]
    split_ifs
    · exact fewer_modify fun L => List.Sublist.refl _
    · exact Fewer.refl _
  | unsetSubleader self acc =>
    rw [World.officesAfter]
    split_ifs
    · exact fewer_modify fun L => List.Sublist.refl _
    · exact Fewer.refl _
  | logout self i => exact absurd rfl (stays self i)
  | _ => exact Fewer.refl _

/-- Smaller teams stay orderly while nobody is gone from them. -/
lemma Orderly.fewer (orderly : Orderly w) (zero : w'.links 0 = none) (team : ∀ g, (w'.team g).Sublist (w.team g))
    (live : ∀ g, ∀ m ∈ w'.team g, (w'.players m).isSome) : Orderly w' := by
  obtain ⟨r, ranked, once⟩ := orderly.ranked
  exact ⟨zero, live, r, ranked.sublist team, once.sublist ranked team⟩

/-- Joining adds the member to the team. -/
lemma joinTeam_team {l m : Nat} {p : Player} (live : w.players l = some p) (run : w.joinTeam l m = some w') :
    w'.team = adopt w.team l m := by
  rw [team_eq, team_eq, World.joinTeam_offices run]
  funext g
  by_cases here : g = l
  · rw [here, adopt_self, teamsOf, teamsOf, modifyOffice, Function.update_self, World.offices_eq_some live]
    rfl
  · rw [adopt_of_ne here, teamsOf, teamsOf, modifyOffice, Function.update_of_ne here]

/-- A player that is reached by an answer is in the world and has no team. -/
lemma leaf_of_relays {self memberId : Nat} (relays : w.relays self memberId = true) :
    (w.players (w.guidOf memberId)).isSome ∧ w.team (w.guidOf memberId) = [] := by
  rw [World.relays] at relays
  split at relays
  case h_1 p member _ found =>
    simp only [Bool.and_eq_true, Bool.not_eq_true', Bool.or_eq_false_iff] at relays
    have found : w.players (w.guidOf memberId) = some member := found
    refine ⟨by rw [found, Option.isSome_some], ?_⟩
    rw [team_of_live found]
    exact Player.isTeamLeader_eq_false.mp relays.2.1.1.2
  case h_2 => cases relays

/-- A player that joins keeps the world orderly, if it is not led to twice, and otherwise spoils a teleport. -/
lemma travels_joinTeam {l m : Nat} {p : Player} (orderly : Orderly w) (leader : w.players l = some p)
    (here : (w.players m).isSome) (leaf : w.team m = []) (run : w.joinTeam l m = some w') :
    (¬Below w.team m l ∧ (∀ g, m ∈ w.team g → ¬Below w.team l g) → Orderly w') ∧
      (Travels w' → ¬Below w.team m l ∧ ∀ g, m ∈ w.team g → ¬Below w.team l g) := by
  obtain ⟨r, ranked, once⟩ := orderly.ranked
  have team := joinTeam_team leader run
  have stays (g : Nat) (live : (w.players g).isSome) : (w'.players g).isSome := by
    rw [← isSome_offices] at live ⊢
    rw [World.joinTeam_offices run]
    exact (isSome_modifyOffice ..).trans live
  constructor
  · rintro ⟨out, apart⟩
    have ne : m ≠ l := by
      rintro rfl
      exact out .refl
    refine ⟨World.joinTeam_zero orderly.zero run, fun g k kid => ?_, adoptRank r m, ?_⟩
    · rw [team] at kid
      obtain kid | ⟨-, rfl⟩ := mem_adopt.mp kid
      · exact stays k (orderly.live g k kid)
      · exact stays k here
    · rw [team]
      exact ⟨ranked_adopt ranked leaf ne, once_adopt once ranked leaf ne out apart⟩
  · intro travels
    have ne : m ≠ l := by
      rintro rfl
      refine not_travels_of_loop (g := m) ?_ travels
      rw [team]
      exact mem_adopt.mpr (.inr ⟨rfl, rfl⟩)
    by_contra broken
    have other : Below w.team m l ∨ ∃ x, m ∈ w.team x ∧ Below w.team l x := by
      by_contra none
      push Not at none
      exact broken none
    -- the teleport of a leader that leads to it twice takes it along twice
    obtain ⟨x, kid, twice⟩ := two_le_count_walk_adopt ranked leaf ne other
    rw [← team] at kid twice
    exact not_travels_of_twice kid twice travels

/-- A player that goes keeps the world orderly if its leader is the only one that has it in its team, and otherwise
spoils a teleport. -/
lemma travels_logout {self i : Nat} {p : Player} (orderly : Orderly w) (live : w.players self = some p)
    (run : w.logout self i = some w') :
    ((∀ g, self ∈ w.team g → g = p.leaderGuid) → Orderly w') ∧
      (Travels w' → ∀ g, self ∈ w.team g → g = p.leaderGuid) := by
  obtain ⟨r, ranked, once⟩ := orderly.ranked
  have offices : w'.offices =
      Function.update (modifyOffice w.offices p.leaderGuid (Office.leave self)) self none := by
    rw [World.logout_offices orderly.zero run, World.officesAfter, live]
    rfl
  have fewer : Fewer w.offices (modifyOffice w.offices p.leaderGuid (Office.leave self)) :=
    fewer_modify (leave_sublist self)
  have own : w'.team self = [] := by
    rw [team_eq, offices, teamsOf, Function.update_self]
    rfl
  have others (g : Nat) (ne : g ≠ self) :
      w'.team g = teamsOf (modifyOffice w.offices p.leaderGuid (Office.leave self)) g := by
    rw [team_eq, offices, teamsOf, Function.update_of_ne ne, teamsOf]
  have team (g : Nat) : (w'.team g).Sublist (w.team g) := by
    by_cases here : g = self
    · rw [here, own]
      exact List.nil_sublist _
    · rw [others g here, team_eq w]
      exact fewer.team g
  constructor
  · intro only
    refine orderly.fewer (step_zero (e := .logout self i) orderly.zero run) team fun g m kid => ?_
    have ne : g ≠ self := by
      rintro rfl
      rw [own] at kid
      cases kid
    have old := (team g).subset kid
    have stays : m ≠ self := by
      rintro rfl
      have leader := only g old
      rw [others g ne, leader, teamsOf, modifyOffice, Function.update_self, Option.elim_map] at kid
      cases office : w.offices p.leaderGuid with
      | none =>
        rw [office] at kid
        cases kid
      | some L =>
        rw [office] at kid
        exact of_decide_eq_true (List.mem_filter.mp kid).2 rfl
    rw [← isSome_offices, offices, Function.update_of_ne stays]
    refine fewer.live m ?_
    rw [isSome_offices]
    exact orderly.live g m old
  · intro travels g kid
    by_contra ne
    have apart : g ≠ self := by
      rintro rfl
      exact absurd (ranked g g kid) (Nat.lt_irrefl _)
    -- its team still has the player that is gone
    refine not_travels_of_lost (g := g) (m := self) ?_ ?_ travels
    · rw [others g apart, teamsOf, modifyOffice, Function.update_of_ne ne]
      rw [team_eq] at kid
      exact kid
    · rw [← Option.not_isSome_iff_eq_none, ← isSome_offices, offices, Function.update_self]
      exact Bool.false_ne_true

/-- An event keeps the world orderly under the condition, and spoils a teleport otherwise. -/
lemma step_travels {e : Event} (orderly : Orderly w) (run : step w e = some w') :
    (KeepsTrees w e → Orderly w') ∧ (Travels w' → KeepsTrees w e) := by
  by_cases answer : ∃ self response memberId, e = .leaderResponse self response memberId
  case pos =>
    obtain ⟨self, response, memberId, rfl⟩ := answer
    obtain ⟨⟨one, relays, room⟩, joined⟩ | ⟨refused, rfl⟩ := World.leaderResponse_cases run
    · obtain ⟨p, live, -⟩ := Option.bind_eq_some_iff.mp run
      obtain ⟨here, leaf⟩ := leaf_of_relays relays
      obtain ⟨good, bad⟩ := travels_joinTeam orderly live here leaf joined
      exact ⟨fun keeps => good (keeps one relays room), fun travels _ _ _ => bad travels⟩
    · exact ⟨fun _ => orderly, fun _ one relays room => absurd ⟨one, relays, room⟩ refused⟩
  case neg =>
    by_cases quit : ∃ self i, e = .logout self i
    case pos =>
      obtain ⟨self, i, rfl⟩ := quit
      obtain ⟨w₁, handed, -⟩ := Option.bind_eq_some_iff.mp run
      obtain ⟨p, live, -⟩ := Option.bind_eq_some_iff.mp handed
      obtain ⟨good, bad⟩ := travels_logout orderly live run
      refine ⟨fun keeps => good (keeps p live), fun travels q here => ?_⟩
      cases live.symm.trans here
      exact bad travels
    case neg =>
      have fewer := step_fewer orderly.zero run (fun self response memberId eq => answer ⟨self, response, memberId, eq⟩)
        fun self i eq => quit ⟨self, i, eq⟩
      have team (g : Nat) : (w'.team g).Sublist (w.team g) := by
        rw [team_eq, team_eq]
        exact fewer.team g
      refine ⟨fun _ => ?_, fun _ => ?_⟩
      · refine orderly.fewer (step_zero orderly.zero run) team fun g m kid => ?_
        rw [← isSome_offices]
        refine fewer.live m ?_
        rw [isSome_offices]
        exact orderly.live g m ((team g).subset kid)
      · cases e with
        | leaderResponse self response memberId => exact absurd ⟨self, response, memberId, rfl⟩ answer
        | logout self i => exact absurd ⟨self, i, rfl⟩ quit
        | _ => trivial

/-- The world is orderly at the start. -/
lemma orderly_start (guidOf : Nat → Nat) : Orderly (World.start guidOf) where
  zero := rfl
  live _ _ kid := by cases kid
  ranked := ⟨fun _ => 0, (fun _ _ kid => by cases kid), fun _ _ kid => by cases kid⟩

/-- In every run in which nobody is accepted that is led to twice then, and nobody goes that is in the team of another
than its leader, teleports end and take everybody along once, and the next event keeps that only under this
condition. -/
theorem travels_of_reaches (guidOf : Nat → Nat) (run : Reaches step KeepsTrees (World.start guidOf) w) :
    Travels w ∧ ∀ e w', step w e = some w' → (Travels w' ↔ KeepsTrees w e) := by
  have orderly : Orderly w := by
    refine run.invariant (orderly_start guidOf) ?_
    exact fun orderly keeps next => (step_travels orderly next).1 keeps
  refine ⟨orderly.travels, fun e w' next => ?_⟩
  obtain ⟨good, bad⟩ := step_travels orderly next
  exact ⟨bad, fun keeps => (good keeps).travels⟩

/-- Linked teams stay trees when nobody accepts itself. -/
lemma keepsTrees_of_linked {e : Event} (linked : Linked w.links) (allowed : TeamOk w e) : KeepsTrees w e := by
  have led {g m : Nat} (kid : m ∈ w.team g) : ∃ P, w.links m = some P ∧ P.leader = g := by
    cases live : w.players g with
    | none =>
      rw [World.team, kidsAt, live] at kid
      cases kid
    | some p =>
      rw [team_of_live live] at kid
      exact linked.down g p.link m (World.links_eq_some live) kid
  have some {g m : Nat} (kid : m ∈ w.team g) : g ≠ 0 := by
    rintro rfl
    rw [World.team, kidsAt, Option.map_eq_none_iff.mp linked.zero] at kid
    cases kid
  cases e with
  | leaderResponse self response memberId =>
    intro one relays room
    have nobody {g : Nat} : w.guidOf memberId ∉ w.team g := by
      intro kid
      obtain ⟨P, here, leader⟩ := led kid
      exact some kid (leader.symm.trans (World.free_of_relays relays here))
    have last {x y : Nat} (below : Below w.team y x) : y = x ∨ ∃ g, y ∈ w.team g := by
      induction below with
      | refl => exact .inl rfl
      | kid kid _ ih =>
        obtain rfl | led := ih
        · exact .inr ⟨_, kid⟩
        · exact .inr led
    refine ⟨fun below => ?_, fun g kid => absurd kid nobody⟩
    obtain own | ⟨g, kid⟩ := last below
    · rw [World.relays] at relays
      split at relays
      case h_1 p member live found =>
        simp only [Bool.and_eq_true, Bool.not_eq_true', Bool.or_eq_false_iff, Player.isJoinedTeam,
          decide_eq_false_iff_not, not_not, Player.isTeamLeader_eq_false, Player.isBattleInProgress,
          Option.isSome_eq_false_iff, Option.isNone_iff_eq_none] at relays
        obtain ⟨-, ⟨⟨lead, team⟩, class_⟩, master⟩ := relays
        refine allowed one own member ?_ ⟨lead, team, class_, master⟩
        rw [← own]
        exact found
      case h_2 => cases relays
    · exact nobody kid
  | logout self i =>
    intro p live g kid
    obtain ⟨P, here, leader⟩ := led kid
    cases here.symm.trans (World.links_eq_some live)
    exact leader.symm
  | _ => trivial

/-- Players 2 and 3 join player 1, one leaves and one is lost. -/
theorem travels_joinAndLeave :
    ∃ w, exec step (World.start fun acc => acc - 10) joinAndLeave = some w ∧ Travels w := by
  obtain ⟨w, run⟩ := Option.isSome_iff_exists.mp
    (show (exec step (World.start fun acc => acc - 10) joinAndLeave).isSome by decide +kernel)
  have reached : Reaches step TeamOk (World.start fun acc => acc - 10) w :=
    reaches_of_exec _ (by decide +kernel) run
  have linked : Linked w.links ∧ Reaches step KeepsTrees (World.start fun acc => acc - 10) w := by
    refine reached.invariant (P := fun w => Linked w.links ∧ Reaches step KeepsTrees _ w) ?_ ?_
    · exact ⟨⟨rfl, nofun, nofun, nofun, nofun, nofun⟩, .refl⟩
    · rintro w₁ w₂ e ⟨linked, reached⟩ allowed next
      exact ⟨step_linked linked allowed next, .tail reached (keepsTrees_of_linked linked allowed) next⟩
  exact ⟨w, run, (travels_of_reaches _ linked.2).1⟩

/-- A player without a team accepts itself, and is teleported. -/
theorem teleport_never_ends : ∃ w, Reaches step (fun _ _ => True) (World.start fun acc => acc - 10) w ∧
    (w.players 1).isSome ∧ ∀ dest n t, w.teleportTo dest n 1 t = none := by
  have last : ∃ w, exec step (World.start fun acc => acc - 10)
      [.login 1 11 none true, .leaderResponse 1 1 11] = some w ∧
      ∃ p, w.players 1 = some p ∧ p.team = [1] := ⟨_, rfl, _, rfl, rfl⟩
  obtain ⟨w, run, p, live, team⟩ := last
  refine ⟨w, reaches_of_exec _ (along_true _ _) run, by rw [live, Option.isSome_some], fun dest n t => ?_⟩
  refine sweep_loop ?_ n t
  rw [kidsAt_of_find live, team]
  exact List.mem_singleton_self 1

end Trees

end Legacy.Party
