import Legacy.Party.World
import Mathlib.Data.List.Nodup

/-!
# The teams

Membership is stored in the team of the leader and in the leader guid of the member. `teamRelation_of_reaches`
says that the two agree in every state of a run in which nobody accepts itself as a member and a member that
leaves names its own leader.
-/

namespace Legacy.Party
open Legacy.Lib

/-- What a player stores about teams. -/
structure Link where
  leader : Nat
  team : List Nat

/-- What a player knows of its team. -/
def Player.link (p : Player) : Link := ⟨p.leaderGuid, p.team⟩

/-- What the players know of their teams. -/
def World.links (w : World) (guid : Nat) : Option Link := (w.players guid).map Player.link

/-- A part of what every player stores. -/
def World.view {α : Type} (v : Player → α) (w : World) (guid : Nat) : Option α := (w.players guid).map v

/-- Battles do not change this part of a player. -/
def Idle {α : Type} (v : Player → α) : Prop :=
  ∀ (p : Player) (battleMaster playerBattleClass battlePet : Option Nat) (dead acceptPK : Bool),
    v { p with battleMaster, playerBattleClass, battlePet, dead, acceptPK } = v p

/-- Battles do not change links. -/
lemma idle_link : Idle Player.link := fun _ _ _ _ _ _ => rfl

/-- Both sides of the membership agree, and teams are trees of height one. -/
structure Linked (links : Nat → Option Link) : Prop where
  zero : links 0 = none
  up : ∀ p P, links p = some P → P.leader ≠ 0 → ∃ L, links P.leader = some L ∧ p ∈ L.team
  down : ∀ g L p, links g = some L → p ∈ L.team → ∃ P, links p = some P ∧ P.leader = g
  nodup : ∀ g L, links g = some L → L.team.Nodup
  size : ∀ g L, links g = some L → L.team.length ≤ 4
  root : ∀ g L, links g = some L → L.team ≠ [] → L.leader = 0

namespace Linked

variable {links : Nat → Option Link}

/-- Nobody has the guid 0. -/
lemma ne_zero (linked : Linked links) {g : Nat} {L : Link} (live : links g = some L) : g ≠ 0 := by
  rintro rfl
  cases linked.zero.symm.trans live

/-- Who is in no team is in the one of nobody. -/
lemma not_mem (linked : Linked links) {p g : Nat} {P L : Link} (here : links p = some P) (zero : P.leader = 0)
    (there : links g = some L) : p ∉ L.team := by
  intro mem
  obtain ⟨P', here', leader⟩ := linked.down g L p there mem
  cases here.symm.trans here'
  exact linked.ne_zero there (leader.symm.trans zero)

/-- Nobody is in its own team. -/
lemma not_own (linked : Linked links) {g : Nat} {L : Link} (live : links g = some L) : g ∉ L.team := by
  intro mem
  have zero := linked.root g L live (List.ne_nil_of_mem mem)
  exact linked.not_mem live zero live mem

/-- A team has one leader. -/
lemma leader_unique (linked : Linked links) {p g g' : Nat} {L L' : Link} (live : links g = some L)
    (live' : links g' = some L') (mem : p ∈ L.team) (mem' : p ∈ L'.team) : g = g' := by
  obtain ⟨P, here, leader⟩ := linked.down g L p live mem
  obtain ⟨P', here', leader'⟩ := linked.down g' L' p live' mem'
  cases here.symm.trans here'
  exact leader.symm.trans leader'

/-- A player that is free or led by one leader is in the team of no other. -/
lemma not_mem_of_apart (linked : Linked links) {l m g : Nat} {M K : Link} (member : links m = some M)
    (apart : M.leader = 0 ∨ M.leader = l) (ne : g ≠ l) (live : links g = some K) : m ∉ K.team := by
  intro mem
  obtain ⟨M', member', lead⟩ := linked.down g K m live mem
  cases member.symm.trans member'
  rcases apart with zero | eq
  · exact linked.ne_zero live (lead.symm.trans zero)
  · exact ne (lead.symm.trans eq)

/-- After two players have changed, a player is the one, the other or neither. -/
lemma update_both_eq_some {l m g : Nat} {L M K : Link}
    (live : Function.update (Function.update links m (some M)) l (some L) g = some K) :
    g = l ∧ K = L ∨ g = m ∧ K = M ∨ g ≠ l ∧ g ≠ m ∧ links g = some K := by
  rcases update_eq_some.mp live with ⟨same, eq⟩ | ⟨neL, live⟩
  · exact Or.inl ⟨same, (Option.some.inj eq).symm⟩
  · rcases update_eq_some.mp live with ⟨same, eq⟩ | ⟨neM, live⟩
    · exact Or.inr (Or.inl ⟨same, (Option.some.inj eq).symm⟩)
    · exact Or.inr (Or.inr ⟨neL, neM, live⟩)

/-- The leader's team changes by a player that is in no other team, and the leader guid of the player with it. -/
lemma retie (linked : Linked links) {l m x : Nat} {t t' : List Nat} {M : Link} (ne : m ≠ l)
    (leader : links l = some ⟨0, t⟩) (member : links m = some M) (empty : M.team = [])
    (apart : M.leader = 0 ∨ M.leader = l) (others : ∀ p, p ≠ m → (p ∈ t' ↔ p ∈ t))
    (tie : m ∈ t' ∧ x = l ∨ m ∉ t' ∧ x = 0) (nodup : t'.Nodup) (size : t'.length ≤ 4) :
    Linked (Function.update (Function.update links m (some ⟨x, []⟩)) l (some ⟨0, t'⟩)) := by
  obtain ⟨new, newEq⟩ : ∃ new, new = Function.update (Function.update links m (some ⟨x, []⟩)) l
    (some ⟨0, t'⟩) := ⟨_, rfl⟩
  have atL : new l = some ⟨0, t'⟩ := by rw [newEq, Function.update_self]
  have atM : new m = some ⟨x, []⟩ := by rw [newEq, Function.update_of_ne ne, Function.update_self]
  have other : ∀ g, g ≠ l → g ≠ m → new g = links g := by
    intro g neL neM
    rw [newEq, Function.update_of_ne neL, Function.update_of_ne neM]
  have cases : ∀ g K, new g = some K → g = l ∧ K = ⟨0, t'⟩ ∨ g = m ∧ K = ⟨x, []⟩ ∨
      g ≠ l ∧ g ≠ m ∧ links g = some K :=
    fun g K live => update_both_eq_some (newEq ▸ live)
  rw [← newEq]
  refine ⟨?zero, fun p P here lead => ?up, fun g K p there mem => ?down, fun g K live => ?nodup,
    fun g K live => ?size, fun g K live some => ?root⟩
  case zero => rw [other 0 (linked.ne_zero leader).symm (linked.ne_zero member).symm, linked.zero]
  case up =>
    rcases cases p P here with ⟨rfl, rfl⟩ | ⟨rfl, rfl⟩ | ⟨-, neM, old⟩
    · exact absurd rfl lead
    · rcases tie with ⟨mem, rfl⟩ | ⟨-, zero⟩
      · exact ⟨_, atL, mem⟩
      · exact absurd zero lead
    · obtain ⟨K, there, mem⟩ := linked.up p P old lead
      rcases eq_or_ne P.leader l with eq | neL
      · rw [eq] at there ⊢
        cases leader.symm.trans there
        exact ⟨_, atL, (others p neM).mpr mem⟩
      · -- the player leads nobody, for its team is empty
        rcases eq_or_ne P.leader m with eq | neM'
        · rw [eq] at there
          cases member.symm.trans there
          rw [empty] at mem
          cases mem
        · exact ⟨K, (other _ neL neM').trans there, mem⟩
  case down =>
    have old : ∀ g K, links g = some K → p ∈ K.team → p ≠ m → ∃ P, new p = some P ∧ P.leader = g := by
      intro g K live mem neM
      obtain ⟨P, here, lead⟩ := linked.down g K p live mem
      refine ⟨P, (other p ?_ neM).trans here, lead⟩
      rintro rfl
      exact linked.not_mem leader rfl live mem
    rcases cases g K there with ⟨rfl, rfl⟩ | ⟨rfl, rfl⟩ | ⟨neL, -, live⟩
    · rcases eq_or_ne p m with rfl | neM
      · rcases tie with ⟨-, eq⟩ | ⟨out, -⟩
        · exact ⟨_, atM, eq⟩
        · exact absurd mem out
      · exact old _ _ leader ((others p neM).mp mem) neM
    · cases mem
    · refine old g K live mem ?_
      rintro rfl
      -- in the team of another leader it would have two of them
      exact linked.not_mem_of_apart member apart neL live mem
  case nodup =>
    rcases cases g K live with ⟨rfl, rfl⟩ | ⟨rfl, rfl⟩ | ⟨-, -, old⟩
    · exact nodup
    · exact List.nodup_nil
    · exact linked.nodup g K old
  case size =>
    rcases cases g K live with ⟨rfl, rfl⟩ | ⟨rfl, rfl⟩ | ⟨-, -, old⟩
    · exact size
    · exact Nat.zero_le 4
    · exact linked.size g K old
  case root =>
    rcases cases g K live with ⟨rfl, rfl⟩ | ⟨rfl, rfl⟩ | ⟨-, -, old⟩
    · rfl
    · exact absurd rfl some
    · exact linked.root g K old some

/-- A free player joins the team of another one that is in no team. -/
lemma join (linked : Linked links) {l m : Nat} {t : List Nat} (ne : m ≠ l) (leader : links l = some ⟨0, t⟩)
    (member : links m = some ⟨0, []⟩) (room : t.length < 4) :
    Linked (Function.update (Function.update links m (some ⟨l, []⟩)) l (some ⟨0, t ++ [m]⟩)) := by
  have out : m ∉ t := linked.not_mem member rfl leader
  refine linked.retie ne leader member rfl (Or.inl rfl) (fun p neM => ?_) ?_ ?_ ?_
  · rw [List.mem_append, List.mem_singleton, or_iff_left neM]
  · exact Or.inl ⟨List.mem_append_right _ (List.mem_singleton_self m), rfl⟩
  · exact List.Nodup.append (linked.nodup _ _ leader) (List.nodup_singleton m) (List.disjoint_singleton.mpr out)
  · rw [List.length_append, List.length_singleton]
    exact room

/-- A member leaves the team of its leader. -/
lemma leave (linked : Linked links) {l m : Nat} {L M : Link} (leader : links l = some L)
    (member : links m = some M) (lead : M.leader = l) :
    Linked (Function.update (Function.update links l (some ⟨L.leader, L.team.filter (· ≠ m)⟩)) m
      (some ⟨0, M.team⟩)) := by
  have team : m ∈ L.team := by
    obtain ⟨L', there, mem⟩ := linked.up m M member (lead ▸ linked.ne_zero leader)
    cases leader.symm.trans (lead ▸ there)
    exact mem
  have root : L.leader = 0 := linked.root l L leader (List.ne_nil_of_mem team)
  have ne : l ≠ m := by
    rintro rfl
    exact linked.not_own leader team
  have empty : M.team = [] := by
    by_contra some
    exact linked.ne_zero leader (lead.symm.trans (linked.root m M member some))
  have leader' : links l = some ⟨0, L.team⟩ := by rw [leader, ← root]
  rw [root, empty, Function.update_comm ne]
  refine linked.retie ne.symm leader' member empty (Or.inr lead) (fun p neM => ?_) ?_ ?_ ?_
  · rw [List.mem_filter, decide_eq_true_eq, and_iff_left neM]
  · exact Or.inr ⟨fun mem => of_decide_eq_true (List.mem_filter.mp mem).2 rfl, rfl⟩
  · exact (linked.nodup _ _ leader).filter _
  · exact Nat.le_trans (List.length_filter_le ..) (linked.size _ _ leader)

/-- Who is neither in a team nor has one can come and go. -/
lemma update_free (linked : Linked links) {g : Nat} (ne : g ≠ 0) (free : ∀ L ∈ links g, L = ⟨0, []⟩)
    {new : Option Link} (newFree : ∀ L ∈ new, L = ⟨0, []⟩) : Linked (Function.update links g new) := by
  have cases : ∀ p P, Function.update links g new p = some P → P = ⟨0, []⟩ ∨ p ≠ g ∧ links p = some P := by
    intro p P live
    rcases update_eq_some.mp live with ⟨rfl, eq⟩ | old
    · exact Or.inl (newFree P eq)
    · exact Or.inr old
  refine ⟨?zero, fun p P here lead => ?up, fun l L p there mem => ?down, fun l L live => ?nodup,
    fun l L live => ?size, fun l L live some => ?root⟩
  case zero => rw [Function.update_of_ne ne.symm, linked.zero]
  case up =>
    rcases cases p P here with rfl | ⟨-, old⟩
    · exact absurd rfl lead
    · obtain ⟨L, there, mem⟩ := linked.up p P old lead
      refine ⟨L, update_eq_some.mpr (Or.inr ⟨?_, there⟩), mem⟩
      intro eq
      cases free L (eq ▸ there)
      cases mem
  case down =>
    rcases cases l L there with rfl | ⟨-, old⟩
    · cases mem
    · obtain ⟨P, here, lead⟩ := linked.down l L p old mem
      refine ⟨P, update_eq_some.mpr (Or.inr ⟨?_, here⟩), lead⟩
      rintro rfl
      cases free P here
      exact linked.ne_zero old lead.symm
  case nodup =>
    rcases cases l L live with rfl | ⟨-, old⟩
    · exact List.nodup_nil
    · exact linked.nodup l L old
  case size =>
    rcases cases l L live with rfl | ⟨-, old⟩
    · exact Nat.zero_le 4
    · exact linked.size l L old
  case root =>
    rcases cases l L live with rfl | ⟨-, old⟩
    · rfl
    · exact linked.root l L old some

end Linked

namespace World

variable {w w' : World}

/-- The link of a player that is there. -/
lemma links_eq_some {g : Nat} {p : Player} (live : w.players g = some p) : w.links g = some p.link := by
  rw [links, live, Option.map_some]

/-- Writing a player writes its link. -/
lemma links_setPlayer (w : World) (g : Nat) (p : Player) :
    (w.setPlayer g p).links = Function.update w.links g (some p.link) :=
  Function.comp_update (Option.map Player.link) w.players g (some p)

/-- A deleted player has no link. -/
lemma links_deletePlayer (w : World) (g : Nat) : (w.deletePlayer g).links = Function.update w.links g none :=
  Function.comp_update (Option.map Player.link) w.players g none

/-- A player changes, but for what is viewed. -/
lemma view_of_update {α : Type} {v : Player → α} {g : Nat} {p q : Player} (live : w.players g = some p)
    (players : w'.players = Function.update w.players g (some q)) (same : v q = v p) : w'.view v = w.view v := by
  funext x
  rw [view, view, players]
  by_cases here : x = g
  · rw [here, Function.update_self, live, Option.map_some, Option.map_some, same]
  · rw [Function.update_of_ne here]

/-- A player changes, but for what it stores about teams. -/
lemma links_of_update {g : Nat} {p q : Player} (live : w.players g = some p)
    (players : w'.players = Function.update w.players g (some q)) (same : q.link = p.link) :
    w'.links = w.links :=
  view_of_update live players same

/-- Joining keeps leaders and teams in step, when the member is free. -/
lemma joinTeam_linked (linked : Linked w.links) {l m : Nat} {p q : Player} (leader : w.players l = some p)
    (member : w.players m = some q) (ne : m ≠ l) (join : p.canJoinTeam) (free : q.leaderGuid = 0)
    (single : q.team = []) (run : w.joinTeam l m = some w') : Linked w'.links := by
  obtain ⟨q', member', run⟩ := Option.bind_eq_some_iff.mp run
  cases member.symm.trans member'
  obtain ⟨p', leader', rfl⟩ := Option.map_eq_some_iff.mp run
  rw [setPlayer_players, Function.update_of_ne ne.symm] at leader'
  cases leader.symm.trans leader'
  simp only [Player.canJoinTeam, Player.isJoinedTeam, Bool.and_eq_true, Bool.not_eq_true', decide_eq_false_iff_not,
    decide_eq_true_eq, not_not] at join
  have atL : w.links l = some ⟨0, p.team⟩ := by rw [links_eq_some leader, Player.link, join.1]
  have atM : w.links m = some ⟨0, []⟩ := by rw [links_eq_some member, Player.link, free, single]
  have joined := linked.join ne atL atM join.2
  rw [links_setPlayer, links_setPlayer, Player.link, Player.link, join.1, single]
  exact joined

/-- What `Player::LeaveTeam` does to the teams. -/
lemma leaveTeam_links {l m : Nat} {L M : Link} (leader : w.links l = some L) (member : w.links m = some M)
    (ne : l ≠ m) (run : w.leaveTeam l m = some w') :
    w'.links = Function.update (Function.update w.links l (some ⟨L.leader, L.team.filter (· ≠ m)⟩)) m
      (some ⟨0, M.team⟩) := by
  obtain ⟨p, q, live, live', rfl⟩ := leaveTeam_inv run
  rw [setPlayer_players, Function.update_of_ne ne.symm] at live'
  cases leader.symm.trans (links_eq_some live)
  cases member.symm.trans (links_eq_some live')
  rw [links_setPlayer, links_setPlayer]
  rfl

/-- Leaving keeps leaders and teams in step, when the leader is the member's. -/
lemma leaveTeam_linked (linked : Linked w.links) {l m : Nat} {M : Link} (member : w.links m = some M)
    (lead : M.leader = l) (run : w.leaveTeam l m = some w') : Linked w'.links := by
  obtain ⟨p, live, -⟩ := Option.bind_eq_some_iff.mp run
  have leader := links_eq_some live
  have ne : l ≠ m := by
    rintro rfl
    obtain ⟨L, there, mem⟩ := linked.up l M member (lead ▸ linked.ne_zero leader)
    exact linked.not_own (lead ▸ there) mem
  rw [leaveTeam_links leader member ne run]
  exact linked.leave leader member lead

/-- Who is in no team leaves it without an effect on the teams. -/
lemma leaveTeam_free (linked : Linked w.links) {l m : Nat} {M : Link} (member : w.links m = some M)
    (free : M.leader = 0) (run : w.leaveTeam l m = some w') : w'.links = w.links := by
  obtain ⟨p, q, live, live', rfl⟩ := leaveTeam_inv run
  have out : m ∉ p.team := linked.not_mem member free (links_eq_some live)
  have team : p.team.filter (· ≠ m) = p.team := by
    refine List.filter_eq_self.mpr fun x mem => decide_eq_true ?_
    rintro rfl
    exact out mem
  have first : (w.setPlayer l { p with team := p.team.filter (· ≠ m) }).links = w.links :=
    links_of_update live rfl (by rw [team])
  refine (links_of_update live' rfl ?_).trans first
  have same : some M = some q.link := by rw [← member, ← first, links_eq_some live']
  rw [Option.some.inj same] at free
  rw [Player.link, Player.link, ← free]
  rfl

/-- Members leave one by one. Nothing else of the leader changes. -/
lemma dismiss_linked {l n : Nat} {L : Link} (linked : Linked w.links) (leader : w.links l = some L)
    (le : L.team.length ≤ n) (run : dismiss l n w = some w') :
    Linked w'.links ∧ w'.links l = some ⟨L.leader, []⟩ := by
  induction n generalizing w L with
  | zero =>
    cases run
    have team : L.team = [] := List.length_eq_zero_iff.mp (Nat.le_zero.mp le)
    refine ⟨linked, ?_⟩
    rw [leader, ← team]
  | succ n ih =>
    obtain ⟨p, live, run⟩ := Option.bind_eq_some_iff.mp run
    cases leader.symm.trans (links_eq_some live)
    cases team : p.team with
    | nil =>
      rw [team] at run
      cases run
      refine ⟨linked, ?_⟩
      rw [leader, Player.link, team]
    | cons m rest =>
      rw [team] at run
      obtain ⟨w₁, left, run⟩ := Option.bind_eq_some_iff.mp run
      have mem : m ∈ p.team := team ▸ List.mem_cons_self
      obtain ⟨M, member, lead⟩ := linked.down l p.link m leader mem
      have ne : l ≠ m := by
        rintro rfl
        exact linked.not_own leader mem
      have new := leaveTeam_links leader member ne left
      have leader₁ : w₁.links l = some ⟨p.leaderGuid, p.team.filter (· ≠ m)⟩ := by
        rw [new, Function.update_of_ne ne, Function.update_self]
        rfl
      refine ih (L := ⟨p.leaderGuid, p.team.filter (· ≠ m)⟩) (leaveTeam_linked linked member lead left) leader₁ ?_ run
      have shorter : (p.team.filter (· ≠ m)).length < p.team.length :=
        List.length_filter_lt_length_iff_exists.mpr ⟨m, mem, by simp⟩
      exact Nat.le_of_lt_succ (Nat.lt_of_lt_of_le shorter le)

/-- A dismissal keeps leaders and teams in step and leaves the team empty. -/
lemma dismissTeam_linked {l : Nat} {L : Link} (linked : Linked w.links) (leader : w.links l = some L)
    (run : w.dismissTeam l = some w') : Linked w'.links ∧ w'.links l = some ⟨L.leader, []⟩ := by
  obtain ⟨p, live, run⟩ := Option.bind_eq_some_iff.mp run
  cases leader.symm.trans (links_eq_some live)
  exact dismiss_linked linked leader (Nat.le_refl _) run

section Idle

variable {α : Type} {v : Player → α} (idle : Idle v)
include idle

/-- Leaving a battle does not change this part of a player. -/
lemma leaveBattle_view {b g : Nat} (run : w.leaveBattle b g = some w') : w'.view v = w.view v := by
  obtain ⟨B, -, run⟩ := Option.bind_eq_some_iff.mp run
  obtain ⟨p, live, rfl⟩ := Option.map_eq_some_iff.mp run
  exact view_of_update live rfl (idle _ _ _ _ _ _)

/-- Taking a seat does not change this part of a player. -/
lemma seat_view {b col petCol row g : Nat} (run : w.seat b col petCol row g = some w') :
    w'.view v = w.view v := by
  rw [seat] at run
  cases live : w.players g with
  | none =>
    rw [live] at run
    cases run
    rfl
  | some p =>
    rw [live] at run
    obtain ⟨B, -, rfl⟩ := Option.map_eq_some_iff.mp run
    exact view_of_update live rfl (idle _ _ _ _ _ _)

/-- Seating a row does not change this part of a player. -/
lemma seatRow_view {b col petCol row : Nat} {guids : List Nat}
    (run : seatRow b col petCol row guids w = some w') : w'.view v = w.view v := by
  induction guids generalizing row w with
  | nil =>
    cases run
    rfl
  | cons g guids ih =>
    obtain ⟨w₁, seated, run⟩ := Option.bind_eq_some_iff.mp run
    exact (ih run).trans (seat_view idle seated)

/-- A new battle does not change this part of a player. -/
lemma newBattle_view {self b : Nat} {p : Player} (live : w.players self = some p)
    (units : Nat → Nat → Option BattleUnit) : (w.newBattle self b p units).view v = w.view v :=
  view_of_update live rfl (idle _ _ _ _ _ _)

/-- A battle with creatures does not change this part of a player. -/
lemma engageCreature_view {self b : Nat} {loaded : Nat → Nat → Bool}
    (run : w.engageCreature self b loaded = some w') : w'.view v = w.view v := by
  obtain ⟨p, live, run⟩ := Option.bind_eq_some_iff.mp run
  split at run
  · cases run
    rfl
  · split at run
    · exact (seatRow_view idle run).trans (newBattle_view idle live _)
    · cases run

/-- A battle with a player does not change this part of a player. -/
lemma engagePlayer_view {self acc b : Nat} (run : w.engagePlayer self acc b = some w') :
    w'.view v = w.view v := by
  obtain ⟨p, live, run⟩ := Option.bind_eq_some_iff.mp run
  split at run
  · cases run
    rfl
  · split at run
    · cases run
      rfl
    · split at run
      · obtain ⟨w₁, defenders, run⟩ := Option.bind_eq_some_iff.mp run
        exact (seatRow_view idle run).trans ((seatRow_view idle defenders).trans (newBattle_view idle live _))
      · cases run

/-- An escape does not change this part of a player. -/
lemma escaped_view {b col row : Nat} (run : w.escaped b col row = some w') : w'.view v = w.view v := by
  obtain ⟨B, -, run⟩ := Option.bind_eq_some_iff.mp run
  split at run
  · exact leaveBattle_view idle run
  · cases run

/-- The conclusion does not change this part of a player. -/
lemma conclude_view {self : Nat} (run : w.conclude self = some w') : w'.view v = w.view v := by
  obtain ⟨p, -, run⟩ := Option.bind_eq_some_iff.mp run
  split at run
  · cases run
    rfl
  · obtain ⟨w₁, stopped, run⟩ := Option.bind_eq_some_iff.mp run
    obtain ⟨q, live, rfl⟩ := Option.map_eq_some_iff.mp run
    obtain ⟨B, -, -, rfl⟩ := battleStop_eq_some.mp stopped
    exact view_of_update live rfl (idle _ _ _ _ _ _)

/-- A new master does not change this part of a player. -/
lemma handOver_view {self i : Nat} (run : w.handOver self i = some w') : w'.view v = w.view v := by
  obtain ⟨p, live, run⟩ := Option.bind_eq_some_iff.mp run
  split at run
  · cases run
    rfl
  · obtain ⟨B, -, run⟩ := Option.bind_eq_some_iff.mp run
    split at run
    · rw [promote] at run
      split at run
      · cases run
        funext x
        rw [view, view, Option.map_map]
        exact congrArg (fun f => Option.map f (w.players x)) (funext fun p => idle p _ _ _ _ _)
      · cases run
    · cases run
      exact view_of_update live rfl (idle _ _ _ _ _ _)

/-- Quitting a battle does not change this part of a player. -/
lemma quitBattle_view {self : Nat} (run : w.quitBattle self = some w') : w'.view v = w.view v := by
  obtain ⟨p, -, run⟩ := Option.bind_eq_some_iff.mp run
  obtain ⟨w₁, left, run⟩ := Option.bind_eq_some_iff.mp run
  obtain ⟨q, live, rfl⟩ := Option.map_eq_some_iff.mp run
  refine Eq.trans (view_of_update live rfl (idle _ _ _ _ _ _)) ?_
  rw [masterBattle] at left
  split at left
  · cases left
    rfl
  · obtain ⟨m, -, left⟩ := Option.bind_eq_some_iff.mp left
    split at left
    · cases left
      rfl
    · exact leaveBattle_view idle left

end Idle

/-- A player that goes is out of all teams and has none. -/
lemma quitTeam_linked {self : Nat} (linked : Linked w.links) (run : w.quitTeam self = some w') :
    Linked w'.links ∧ w'.links self = some ⟨0, []⟩ := by
  obtain ⟨p, live, run⟩ := Option.bind_eq_some_iff.mp run
  obtain ⟨w₁, left, run⟩ := Option.bind_eq_some_iff.mp run
  have here := links_eq_some live
  have out : Linked w₁.links ∧ ∃ team, w₁.links self = some ⟨0, team⟩ := by
    split at left
    case isTrue none =>
      cases left
      refine ⟨linked, p.team, ?_⟩
      have zero : p.leaderGuid = 0 := by
        by_contra some
        obtain ⟨L, there, mem⟩ := linked.up self p.link here some
        rcases none with eq | eq | eq
        · exact some eq
        · rw [Player.link, eq] at there
          exact linked.not_own there mem
        · rw [links, Player.link, Option.isNone_iff_eq_none.mp eq] at there
          cases there
      rw [here, Player.link, zero]
    case isFalse some =>
      have ne : p.leaderGuid ≠ self := fun eq => some (Or.inr (Or.inl eq))
      obtain ⟨l, leader, -⟩ := Option.bind_eq_some_iff.mp left
      refine ⟨leaveTeam_linked linked here rfl left, p.team, ?_⟩
      rw [leaveTeam_links (links_eq_some leader) here ne left, Function.update_self]
      rfl
  obtain ⟨linked₁, team, here₁⟩ := out
  exact dismissTeam_linked linked₁ here₁ run

/-- A player that goes hands its battles over and leaves its own, which is idle, and its team. -/
lemma logout_cases {self i : Nat} (run : w.logout self i = some w') :
    ∃ w₂ w₃ : World, (∀ {α : Type} {v : Player → α}, Idle v → w₂.view v = w.view v) ∧
      w₂.quitTeam self = some w₃ ∧ w' = w₃.deletePlayer self := by
  obtain ⟨w₁, handed, run⟩ := Option.bind_eq_some_iff.mp run
  obtain ⟨w₂, quit, run⟩ := Option.bind_eq_some_iff.mp run
  obtain ⟨w₃, left, rfl⟩ := Option.map_eq_some_iff.mp run
  exact ⟨w₂, w₃, fun idle => (quitBattle_view idle quit).trans (handOver_view idle handed), left, rfl⟩

/-- A logout keeps leaders and teams in step. -/
lemma logout_linked {self i : Nat} (linked : Linked w.links) (run : w.logout self i = some w') :
    Linked w'.links := by
  obtain ⟨w₂, w₃, idles, left, rfl⟩ := logout_cases run
  have same : w₂.links = w.links := idles idle_link
  have linked₂ : Linked w₂.links := same ▸ linked
  obtain ⟨linked₃, here⟩ := quitTeam_linked linked₂ left
  rw [links_deletePlayer]
  refine linked₃.update_free (linked₃.ne_zero here) (fun L live => ?_) nofun
  exact (Option.some.inj (here.symm.trans live)).symm

/-- A login keeps leaders and teams in step. -/
lemma login_linked {g acc : Nat} {pet : Option Nat} {acceptPK : Bool} (linked : Linked w.links)
    (run : w.login g acc pet acceptPK = some w') : Linked w'.links := by
  rw [login] at run
  split at run
  case isTrue new =>
    cases run
    rw [links_setPlayer]
    refine linked.update_free new.1 (fun L live => ?_) fun L eq => (Option.some.inj eq).symm
    rw [links, new.2] at live
    cases live
  case isFalse => cases run

end World

/-- Nobody accepts itself while it is free, and a member that leaves names its own leader or nobody. -/
def TeamOk (w : World) : Event → Prop
  | .leaderResponse self response memberId =>
    response = 1 → w.guidOf memberId = self → ∀ p ∈ w.players self,
      ¬ (p.leaderGuid = 0 ∧ p.team = [] ∧ p.playerBattleClass = none ∧ p.battleMaster = none)
  | .memberLeave self teamleaderId =>
    ∀ p ∈ w.players self, p.team = [] →
      p.leaderGuid = 0 ∨ p.leaderGuid = w.guidOf teamleaderId ∨ w.players (w.guidOf teamleaderId) = none
  | _ => True

instance : ∀ (w : World) (e : Event), Decidable (TeamOk w e)
  | w, .leaderResponse self response memberId =>
    inferInstanceAs (Decidable (response = 1 → w.guidOf memberId = self → ∀ p ∈ w.players self, ¬ _))
  | w, .memberLeave self _ => inferInstanceAs (Decidable (∀ p ∈ w.players self, _ → _ ∨ _ ∨ _))
  | _, .create .. | _, .login .. | _, .memberRequest .. | _, .setSubleader .. | _, .unsetSubleader ..
  | _, .acceptPK .. | _, .battlePet .. | _, .engageCreature .. | _, .engagePlayer .. | _, .die _
  | _, .escaped .. | _, .stop _ | _, .conclude _ | _, .logout .. => isTrue trivial

namespace World

variable {w w' : World}

/-- The response of a leader keeps leaders and teams in step, when it is allowed. -/
lemma leaderResponse_linked {self response memberId : Nat} (linked : Linked w.links)
    (allowed : TeamOk w (.leaderResponse self response memberId))
    (run : w.leaderResponse self response memberId = some w') : Linked w'.links := by
  obtain ⟨p, live, run⟩ := Option.bind_eq_some_iff.mp run
  split at run
  case isTrue =>
    cases run
    exact linked
  case isFalse ready =>
    split at run
    · cases run
      exact linked
    · rename_i q found
      split at run
      case isTrue =>
        cases run
        exact linked
      case isFalse free =>
        split at run
        case isTrue join =>
          simp only [Player.isJoinedTeam, Player.isBattleInProgress, Bool.or_eq_true, decide_eq_true_eq, not_or,
            not_not, Bool.not_eq_true, Player.isTeamLeader_eq_false, Option.isSome_eq_false_iff,
            Option.isNone_iff_eq_none] at free
          obtain ⟨⟨⟨lead, team⟩, class_⟩, master⟩ := free
          rw [Bool.and_eq_true, decide_eq_true_eq] at join
          refine joinTeam_linked linked live found ?_ join.2 lead team run
          intro eq
          have same : w.players self = some q := eq ▸ found
          exact allowed join.1 eq q same ⟨lead, team, class_, master⟩
        case isFalse =>
          cases run
          exact linked

/-- A member that leaves keeps leaders and teams in step, when it is allowed. -/
lemma memberLeave_linked {self teamleaderId : Nat} (linked : Linked w.links)
    (allowed : TeamOk w (.memberLeave self teamleaderId)) (run : w.memberLeave self teamleaderId = some w') :
    Linked w'.links := by
  obtain ⟨p, live, run⟩ := Option.bind_eq_some_iff.mp run
  have here := links_eq_some live
  split at run
  case isTrue => exact (dismissTeam_linked linked here run).1
  case isFalse single =>
    rw [Bool.not_eq_true, Player.isTeamLeader_eq_false] at single
    split at run
    · cases run
      exact linked
    · rename_i l found
      rcases allowed p live single with free | own | absent
      · rwa [leaveTeam_free linked here free run]
      · exact leaveTeam_linked linked here own run
      · rw [findPlayerByAccountId, absent] at found
        cases found

end World

/-- The events that change teams. -/
def Event.Relinks : Event → Prop
  | .login .. | .leaderResponse .. | .memberLeave .. | .logout .. => True
  | _ => False

/-- The events that change what is stored about sub-leaders. -/
def Event.Promotes : Event → Prop
  | .setSubleader .. | .unsetSubleader .. => True
  | _ => False

/-- Every other event leaves alone what battles do. -/
lemma step_view {α : Type} {v : Player → α} (idle : Idle v) {w w' : World} {e : Event} (quiet : ¬e.Relinks)
    (plain : ¬e.Promotes) (run : step w e = some w') : w'.view v = w.view v := by
  cases e with
  | create acc g =>
    cases run
    rfl
  | login g acc pet acceptPK => exact absurd trivial quiet
  | memberRequest self leaderId =>
    obtain ⟨p, -, rfl⟩ := Option.map_eq_some_iff.mp run
    rfl
  | leaderResponse self response memberId => exact absurd trivial quiet
  | memberLeave self teamleaderId => exact absurd trivial quiet
  | setSubleader self acc => exact absurd trivial plain
  | unsetSubleader self acc => exact absurd trivial plain
  | acceptPK self accept =>
    obtain ⟨p, live, rfl⟩ := Option.map_eq_some_iff.mp run
    exact World.view_of_update live rfl (idle _ _ _ _ _ _)
  | battlePet self pet =>
    obtain ⟨p, live, run⟩ := Option.bind_eq_some_iff.mp run
    split at run
    · cases run
      exact World.view_of_update live rfl (idle _ _ _ _ _ _)
    · cases run
  | engageCreature self b loaded => exact World.engageCreature_view idle run
  | engagePlayer self acc b => exact World.engagePlayer_view idle run
  | die self =>
    obtain ⟨p, live, rfl⟩ := Option.map_eq_some_iff.mp run
    exact World.view_of_update live rfl (idle _ _ _ _ _ _)
  | escaped b col row => exact World.escaped_view idle run
  | stop self => rw [World.eq_of_stop run]
  | conclude self => exact World.conclude_view idle run
  | logout self i => exact absurd trivial quiet

/-- Every other event leaves the teams as they are. -/
lemma step_links {w w' : World} {e : Event} (quiet : ¬ e.Relinks) (run : step w e = some w') : w'.links = w.links := by
  cases e with
  | setSubleader self acc =>
    obtain ⟨p, live, rfl⟩ := Option.map_eq_some_iff.mp run
    split
    · exact World.links_of_update live rfl rfl
    · rfl
  | unsetSubleader self acc =>
    obtain ⟨p, live, rfl⟩ := Option.map_eq_some_iff.mp run
    split
    · rfl
    · split
      · exact World.links_of_update live rfl rfl
      · rfl
  | _ => exact step_view idle_link quiet id run

/-- One event keeps the teams linked. -/
lemma step_linked {w w' : World} {e : Event} (linked : Linked w.links) (allowed : TeamOk w e)
    (run : step w e = some w') : Linked w'.links := by
  cases e with
  | login g acc pet acceptPK => exact World.login_linked linked run
  | leaderResponse self response memberId => exact World.leaderResponse_linked linked allowed run
  | memberLeave self teamleaderId => exact World.memberLeave_linked linked allowed run
  | logout self i => exact World.logout_linked linked run
  | _ =>
    rw [step_links id run]
    exact linked

/-- The teams agree with the leader guids, have at most four different members other than the leader, and
no leader of a team is in one. -/
def TeamRelation (w : World) : Prop :=
  (∀ p P g, w.players p = some P → g ≠ 0 →
    (P.leaderGuid = g ↔ ∃ L, w.players g = some L ∧ p ∈ L.team)) ∧
  (∀ g L, w.players g = some L →
    L.team.Nodup ∧ g ∉ L.team ∧ L.team.length ≤ 4 ∧ (L.team ≠ [] → L.leaderGuid = 0) ∧
      ∀ p ∈ L.team, (w.players p).isSome) ∧
  ∀ p g g' L L', w.players g = some L → w.players g' = some L' → p ∈ L.team → p ∈ L'.team → g = g'

/-- Where leaders and teams are in step, the relation holds. -/
lemma Linked.teamRelation {w : World} (linked : Linked w.links) : TeamRelation w := by
  refine ⟨fun p P g live some => ⟨?_, ?_⟩, fun g L live => ?_, fun p g g' L L' live live' mem mem' => ?_⟩
  · rintro rfl
    obtain ⟨K, there, mem⟩ := linked.up p P.link (World.links_eq_some live) some
    obtain ⟨L, live', rfl⟩ := Option.map_eq_some_iff.mp there
    exact ⟨L, live', mem⟩
  · rintro ⟨L, live', mem⟩
    obtain ⟨K, here, lead⟩ := linked.down g L.link p (World.links_eq_some live') mem
    cases here.symm.trans (World.links_eq_some live)
    exact lead
  · have here := World.links_eq_some live
    refine ⟨linked.nodup g _ here, linked.not_own here, linked.size g _ here, linked.root g _ here, ?_⟩
    intro p mem
    obtain ⟨K, there, -⟩ := linked.down g _ p here mem
    obtain ⟨P, live', -⟩ := Option.map_eq_some_iff.mp there
    rw [live']
    rfl
  · exact linked.leader_unique (World.links_eq_some live) (World.links_eq_some live') mem mem'

/-- In every run in which nobody accepts itself as a member, and a member that leaves names its own leader,
the teams stay consistent. -/
theorem teamRelation_of_reaches (guidOf : Nat → Nat) {w : World}
    (run : Reaches step TeamOk (World.start guidOf) w) : TeamRelation w := by
  refine Linked.teamRelation (run.invariant (P := fun w => Linked w.links) ?_ step_linked)
  exact ⟨rfl, nofun, nofun, nofun, nofun, nofun⟩

/-- Players 1, 2 and 3 of the accounts 11, 12 and 13. -/
def threeLogins : List Event :=
  [.login 1 11 none true, .login 2 12 none true, .login 3 13 none true]

/-- Players 2 and 3 join player 1. Player 2 leaves and player 3 is lost. -/
def joinAndLeave : List Event :=
  threeLogins ++ [.memberRequest 2 11, .leaderResponse 1 1 12, .leaderResponse 1 1 13, .setSubleader 1 13,
    .memberLeave 2 11, .logout 3 0]

/-- Who is left in the team, and the players that are gone, agree on it. -/
theorem teamRelation_joinAndLeave :
    ∃ w, exec step (World.start fun acc => acc - 10) joinAndLeave = some w ∧ TeamRelation w := by
  obtain ⟨w, run⟩ := Option.isSome_iff_exists.mp
    (show (exec step (World.start fun acc => acc - 10) joinAndLeave).isSome by decide +kernel)
  exact ⟨w, run, teamRelation_of_reaches _ (reaches_of_exec _ (by decide +kernel) run)⟩

/-- Player 2 joins player 1 and leaves the team of player 3. -/
def leaveOther : List Event := threeLogins ++ [.leaderResponse 1 1 12, .memberLeave 2 13]

/-- Player 2 is in the team of player 1, with the leader guid 0. -/
theorem not_teamRelation_leaveOther :
    ∃ w, Reaches step (fun _ _ => True) (World.start fun acc => acc - 10) w ∧ ¬ TeamRelation w := by
  have last : ∃ w, exec step (World.start fun acc => acc - 10) leaveOther = some w ∧
      (∃ P, w.players 2 = some P ∧ P.leaderGuid = 0) ∧ ∃ L, w.players 1 = some L ∧ L.team = [2] :=
    ⟨_, rfl, ⟨_, rfl, rfl⟩, _, rfl, rfl⟩
  obtain ⟨w, run, ⟨P, live, zero⟩, L, leader, team⟩ := last
  refine ⟨w, reaches_of_exec _ (along_true _ _) run, fun teams => ?_⟩
  have lead : P.leaderGuid = 1 :=
    (teams.1 2 P 1 live Nat.one_ne_zero).mpr ⟨L, leader, team ▸ List.mem_singleton_self 2⟩
  cases zero.symm.trans lead

end Legacy.Party
