import Legacy.Party.Consent

/-!
# Sub-leaders

A leader names a member of its team as sub-leader and stores the guid (`Player::SetSubleader`). Nobody else clears it,
so it can outlive the membership, and a new player holds whatever its memory did. `step_offices` says what every event
does to the teams and the sub-leaders, `subleader_of_reaches` when the guid is that of a member.
-/

namespace Legacy.Party
open Legacy.Lib

/-- What a player stores as a leader. -/
structure Office where
  subleader : Nat
  team : List Nat

/-- What a leader knows of its sub-leader and its team. -/
def Player.office (p : Player) : Office := ⟨p.subleaderGuid, p.team⟩

/-- Battles do not change offices. -/
lemma idle_office : Idle Player.office := fun _ _ _ _ _ _ => rfl

/-- What the leaders know of their sub-leaders and teams. -/
def World.offices (w : World) : Nat → Option Office := w.view Player.office

/-- A change of one office. -/
def modifyOffice (offices : Nat → Option Office) (g : Nat) (f : Office → Office) : Nat → Option Office :=
  Function.update offices g ((offices g).map f)

/-- A member joins the team. -/
def Office.join (member : Nat) (L : Office) : Office := { L with team := L.team ++ [member] }

/-- A member leaves the team. -/
def Office.leave (member : Nat) (L : Office) : Office := { L with team := L.team.filter (· ≠ member) }

/-- The team is dismissed. -/
def Office.disband (L : Office) : Office := { L with team := [] }

/-- A sub-leader is named. -/
def Office.name (subleader : Nat) (L : Office) : Office := { L with subleader := subleader }

namespace World

/-- The offices after an event. -/
def officesAfter (w : World) : Event → Nat → Option Office
  | .login guid _ _ _ => Function.update w.offices guid (some ⟨0, []⟩)
  | .leaderResponse self response memberId =>
    if response = 1 ∧ w.relays self memberId = true ∧ w.hasRoom self = true then
      modifyOffice w.offices self (Office.join (w.guidOf memberId))
    else w.offices
  | .memberLeave self teamleaderId =>
    if (w.players self).any Player.isTeamLeader then modifyOffice w.offices self Office.disband
    else modifyOffice w.offices (w.guidOf teamleaderId) (Office.leave self)
  | .setSubleader self acc =>
    if (w.players self).any fun p => (w.findPlayerByAccountId acc).isSome && decide (w.guidOf acc ∈ p.team) then
      modifyOffice w.offices self (Office.name (w.guidOf acc))
    else w.offices
  | .unsetSubleader self acc =>
    if (w.players self).any fun p => p.isTeamLeader && decide (p.subleaderGuid ≠ 0) &&
        (w.players p.subleaderGuid).any fun sub => decide (acc = sub.accountId) then
      modifyOffice w.offices self (Office.name 0)
    else w.offices
  | .logout self _ =>
    Function.update (modifyOffice w.offices ((w.players self).elim 0 Player.leaderGuid) (Office.leave self)) self none
  | _ => w.offices

variable {w w' : World}

/-- The office of a player that is there. -/
lemma offices_eq_some {g : Nat} {p : Player} (live : w.players g = some p) : w.offices g = some p.office := by
  rw [offices, view, live, Option.map_some]

/-- Writing a player writes its office. -/
lemma offices_setPlayer (w : World) (g : Nat) (p : Player) :
    (w.setPlayer g p).offices = Function.update w.offices g (some p.office) :=
  Function.comp_update (Option.map Player.office) w.players g (some p)

/-- A deleted player has no office. -/
lemma offices_deletePlayer (w : World) (g : Nat) : (w.deletePlayer g).offices = Function.update w.offices g none :=
  Function.comp_update (Option.map Player.office) w.players g none

/-- Who is not there has no office. -/
lemma offices_eq_none {g : Nat} (absent : w.links g = none) : w.offices g = none := by
  rw [offices, view, Option.map_eq_none_iff.mp absent, Option.map_none]

/-- A player's office changes. -/
lemma offices_modify {g : Nat} {p q : Player} {f : Office → Office} (live : w.players g = some p)
    (office : q.office = f p.office) :
    (w.setPlayer g q).offices = modifyOffice w.offices g f := by
  rw [offices_setPlayer, modifyOffice, offices_eq_some live, office, Option.map_some]

/-- A change that is not about the office of a player. -/
lemma offices_same {g : Nat} {p q : Player} (live : w.players g = some p) (same : q.office = p.office) :
    (w.setPlayer g q).offices = w.offices := view_of_update live rfl same

/-- An office that is not there does not change. -/
lemma modifyOffice_of_none {offices : Nat → Option Office} {g : Nat} {f : Office → Office} (none : offices g = none) :
    modifyOffice offices g f = offices := by
  rw [modifyOffice, none, Option.map_none, ← none, Function.update_eq_self]

/-- Joining changes the office of the leader. -/
lemma joinTeam_offices {l m : Nat} (run : w.joinTeam l m = some w') :
    w'.offices = modifyOffice w.offices l (Office.join m) := by
  obtain ⟨M, member, run⟩ := Option.bind_eq_some_iff.mp run
  obtain ⟨L, leader, rfl⟩ := Option.map_eq_some_iff.mp run
  have first : (w.setPlayer m { M with leaderGuid := l }).offices = w.offices := offices_same member rfl
  have second := offices_modify (f := Office.join m) (q := { L with team := L.team ++ [m] }) leader rfl
  rwa [first] at second

/-- Leaving changes the office of the leader. -/
lemma leaveTeam_offices {l m : Nat} (run : w.leaveTeam l m = some w') :
    w'.offices = modifyOffice w.offices l (Office.leave m) := by
  obtain ⟨L, M, leader, member, rfl⟩ := leaveTeam_inv run
  have first := offices_modify (f := Office.leave m) (q := { L with team := L.team.filter (· ≠ m) }) leader rfl
  rw [← first]
  exact offices_same member rfl

/-- Members leave until the team is empty. -/
lemma dismiss_offices {l n : Nat} {L : Office} (leader : w.offices l = some L) (le : L.team.length ≤ n)
    (run : dismiss l n w = some w') : w'.offices = modifyOffice w.offices l Office.disband := by
  have empty (w : World) (L : Office) (leader : w.offices l = some L) (none : L.team = []) :
      w.offices = modifyOffice w.offices l Office.disband := by
    rw [modifyOffice, leader, Option.map_some, Office.disband, ← none, ← leader, Function.update_eq_self]
  induction n generalizing w L with
  | zero =>
    cases run
    exact empty _ L leader (List.length_eq_zero_iff.mp (Nat.le_zero.mp le))
  | succ n ih =>
    obtain ⟨p, live, run⟩ := Option.bind_eq_some_iff.mp run
    cases leader.symm.trans (offices_eq_some live)
    cases team : p.team with
    | nil =>
      rw [team] at run
      cases run
      exact empty _ p.office leader team
    | cons m rest =>
      rw [team] at run
      obtain ⟨w₁, left, run⟩ := Option.bind_eq_some_iff.mp run
      have new := leaveTeam_offices left
      have leader₁ : w₁.offices l = some (p.office.leave m) := by
        rw [new, modifyOffice, Function.update_self, leader, Option.map_some]
      have mem : m ∈ p.team := team ▸ List.mem_cons_self
      -- each round takes a member out, so there are enough rounds
      have shorter : (p.team.filter (· ≠ m)).length < p.team.length :=
        List.length_filter_lt_length_iff_exists.mpr ⟨m, mem, by simp⟩
      rw [ih leader₁ (Nat.le_of_lt_succ (Nat.lt_of_lt_of_le shorter le)) run, new]
      simp only [modifyOffice, Function.update_self, leader, Option.map_some, Function.update_idem]
      rfl

/-- A dismissal disbands the team of the leader. -/
lemma dismissTeam_offices {l : Nat} (run : w.dismissTeam l = some w') :
    w'.offices = modifyOffice w.offices l Office.disband := by
  obtain ⟨p, live, run⟩ := Option.bind_eq_some_iff.mp run
  exact dismiss_offices (offices_eq_some live) (Nat.le_refl _) run

/-- A player that goes leaves its leader, and nothing of it stays. -/
lemma logout_offices {self i : Nat} (zero : w.links 0 = none) (run : w.logout self i = some w') :
    w'.offices = w.officesAfter (.logout self i) := by
  obtain ⟨w₂, w₃, idles, left, rfl⟩ := logout_cases run
  have links : w₂.links = w.links := idles idle_link
  have offices : w₂.offices = w.offices := idles idle_office
  obtain ⟨p, live, left⟩ := Option.bind_eq_some_iff.mp left
  obtain ⟨w₄, out, dismissed⟩ := Option.bind_eq_some_iff.mp left
  have leader : (w.players self).elim 0 Player.leaderGuid = p.leaderGuid := by
    have same := (congrFun links self).symm.trans (links_eq_some live)
    obtain ⟨q, here, eq⟩ := Option.map_eq_some_iff.mp same
    rw [here]
    exact congrArg Link.leader eq
  -- it leaves its leader, unless it has none or is its own
  have gone : w₄.offices = modifyOffice w₂.offices p.leaderGuid (Office.leave self) ∨
      w₄.offices = w₂.offices ∧ p.leaderGuid = self := by
    split at out
    case isTrue stays =>
      cases out
      obtain nobody | own | absent := stays
      · have free : w₂.links 0 = none := (congrFun links 0).trans zero
        rw [nobody, modifyOffice_of_none (offices_eq_none free)]
        exact .inl rfl
      · exact .inr ⟨rfl, own⟩
      · have free : w₂.links p.leaderGuid = none := by
          rw [World.links, Option.isNone_iff_eq_none.mp absent, Option.map_none]
        rw [modifyOffice_of_none (offices_eq_none free)]
        exact .inl rfl
    case isFalse => exact .inl (leaveTeam_offices out)
  have last : w₃.offices = modifyOffice w₄.offices self Office.disband := dismissTeam_offices dismissed
  rw [offices_deletePlayer, last, modifyOffice, Function.update_idem, officesAfter, leader, ← offices]
  obtain eq | ⟨eq, own⟩ := gone
  · rw [eq]
  · rw [eq, own, modifyOffice, Function.update_idem]

/-- What a member that leaves changes in the offices. -/
lemma memberLeave_offices {self teamleaderId : Nat} (run : w.memberLeave self teamleaderId = some w') :
    w'.offices = w.officesAfter (.memberLeave self teamleaderId) := by
  obtain ⟨p, live, run⟩ := Option.bind_eq_some_iff.mp run
  rw [officesAfter, live, Option.any_some]
  split at run
  case isTrue leads =>
    rw [if_pos leads]
    exact dismissTeam_offices run
  case isFalse single =>
    rw [if_neg single]
    split at run
    · next found =>
      cases run
      have absent : w.links (w.guidOf teamleaderId) = none := by
        rw [findPlayerByAccountId] at found
        rw [World.links, found, Option.map_none]
      rw [modifyOffice_of_none (offices_eq_none absent)]
    · exact leaveTeam_offices run

/-- What naming a subleader changes in the offices. -/
lemma setSubleader_offices {self acc : Nat} (run : w.setSubleader self acc = some w') :
    w'.offices = w.officesAfter (.setSubleader self acc) := by
  obtain ⟨p, live, rfl⟩ := Option.map_eq_some_iff.mp run
  have leads : (p.isTeamLeader && (w.findPlayerByAccountId acc).isSome && decide (w.guidOf acc ∈ p.team)) =
      ((w.findPlayerByAccountId acc).isSome && decide (w.guidOf acc ∈ p.team)) := by
    by_cases mem : w.guidOf acc ∈ p.team
    · have some : p.isTeamLeader = true := decide_eq_true (List.length_pos_of_mem mem)
      rw [some, Bool.true_and]
    · rw [decide_eq_false mem, Bool.and_false, Bool.and_false]
  rw [officesAfter, live, Option.any_some, leads]
  split
  · exact offices_modify live rfl
  · rfl

/-- What removing a subleader changes in the offices. -/
lemma unsetSubleader_offices {self acc : Nat} (run : w.unsetSubleader self acc = some w') :
    w'.offices = w.officesAfter (.unsetSubleader self acc) := by
  obtain ⟨p, live, rfl⟩ := Option.map_eq_some_iff.mp run
  rw [officesAfter, live, Option.any_some]
  cases w.players p.subleaderGuid with
  | none => simp
  | some sub =>
    rw [Option.any_some]
    dsimp only
    split
    · exact offices_modify live rfl
    · rfl

/-- What a login changes in the offices. -/
lemma login_offices {g acc : Nat} {pet : Option Nat} {acceptPK : Bool}
    (run : w.login g acc pet acceptPK = some w') : w'.offices = w.officesAfter (.login g acc pet acceptPK) := by
  rw [login] at run
  split at run
  · cases run
    exact offices_setPlayer _ _ _
  · cases run

end World

/-- What an event does to the offices. -/
lemma step_offices {w w' : World} {e : Event} (zero : w.links 0 = none) (run : step w e = some w') :
    w'.offices = w.officesAfter e := by
  cases e with
  | login g acc pet acceptPK => exact World.login_offices run
  | leaderResponse self response memberId =>
    rw [World.officesAfter]
    obtain ⟨accepts, joined⟩ | ⟨refused, rfl⟩ := World.leaderResponse_cases run
    · rw [if_pos accepts]
      exact World.joinTeam_offices joined
    · rw [if_neg refused]
  | memberLeave self teamleaderId => exact World.memberLeave_offices run
  | setSubleader self acc => exact World.setSubleader_offices run
  | unsetSubleader self acc => exact World.unsetSubleader_offices run
  | logout self i => exact World.logout_offices zero run
  | _ => exact step_view idle_office id id run

/-- What happens, where a new player holds in `m_subleaderGuid` what its memory did: the constructor leaves it alone. -/
inductive SubEvent where
  | enter (guid acc : Nat) (pet : Option Nat) (acceptPK : Bool) (memory : Nat)
  | other (e : Event)

/-- An event; a player that enters has any memory for its sub-leader. -/
def subStep (w : World) : SubEvent → Option World
  | .enter guid acc pet acceptPK memory =>
    (w.login guid acc pet acceptPK).bind fun w =>
      (w.players guid).map fun p => w.setPlayer guid { p with subleaderGuid := memory }
  | .other e => step w e

/-- The sub-leader of every team is a member of it, or there is none. -/
def SubleaderIn (w : World) : Prop :=
  ∀ g p, w.players g = some p → p.isTeamLeader = true → p.subleaderGuid = 0 ∨ p.subleaderGuid ∈ p.team

/-- If the player is the sub-leader of the other one, it is the only one in the team. -/
def LeavesFree (w : World) (self leader : Nat) : Prop :=
  ∀ l ∈ w.players leader, l.subleaderGuid ≠ 0 → l.subleaderGuid = self → ∀ m ∈ l.team, m = self

instance (w : World) (self leader : Nat) : Decidable (LeavesFree w self leader) :=
  inferInstanceAs (Decidable (∀ l ∈ w.players leader, _ → _ → ∀ m ∈ l.team, m = self))

/-- A sub-leader does not leave a team that others stay in, and the first member of a team is the sub-leader if its
leader has the guid of any. -/
def KeepsSubleader (w : World) : SubEvent → Prop
  | .other (.leaderResponse self response memberId) =>
    response = 1 → w.relays self memberId = true → w.hasRoom self = true →
      ∀ p ∈ w.players self, p.team = [] → p.subleaderGuid = 0 ∨ p.subleaderGuid = w.guidOf memberId
  | .other (.memberLeave self teamleaderId) =>
    ∀ p ∈ w.players self, p.team = [] → LeavesFree w self (w.guidOf teamleaderId)
  | .other (.logout self _) => ∀ p ∈ w.players self, p.leaderGuid ≠ self → LeavesFree w self p.leaderGuid
  | _ => True

instance : ∀ (w : World) (e : SubEvent), Decidable (KeepsSubleader w e)
  | w, .other (.leaderResponse self response memberId) =>
    inferInstanceAs (Decidable (response = 1 → w.relays self memberId = true → w.hasRoom self = true →
      ∀ p ∈ w.players self, _ → _ ∨ _))
  | w, .other (.memberLeave self _) => inferInstanceAs (Decidable (∀ p ∈ w.players self, _ → _))
  | w, .other (.logout self _) => inferInstanceAs (Decidable (∀ p ∈ w.players self, _ → _))
  | _, .enter .. | _, .other (.create ..) | _, .other (.login ..) | _, .other (.memberRequest ..)
  | _, .other (.setSubleader ..) | _, .other (.unsetSubleader ..) | _, .other (.acceptPK ..)
  | _, .other (.battlePet ..) | _, .other (.engageCreature ..) | _, .other (.engagePlayer ..) | _, .other (.die _)
  | _, .other (.escaped ..) | _, .other (.stop _) | _, .other (.conclude _) => isTrue trivial

/-- The sub-leader of the office, if it has a team, is in it. -/
def Office.SubleaderIn (L : Office) : Prop := L.team ≠ [] → L.subleader = 0 ∨ L.subleader ∈ L.team

namespace Office

variable {L : Office} {m : Nat}

/-- Joining keeps the subleader in the team, unless the team was empty and its subleader is somebody else. -/
lemma subleaderIn_join (before : L.SubleaderIn) :
    (L.join m).SubleaderIn ↔ (L.team = [] → L.subleader = 0 ∨ L.subleader = m) := by
  simp only [SubleaderIn, join, List.mem_append, List.mem_singleton]
  constructor
  · intro after empty
    rw [empty] at after
    simpa using after
  · intro first _
    by_cases empty : L.team = []
    · exact (first empty).imp id .inr
    · exact (before empty).imp id .inl

/-- Leaving keeps the subleader in the team, unless it is the one who leaves and others stay. -/
lemma subleaderIn_leave (before : L.SubleaderIn) :
    (L.leave m).SubleaderIn ↔ (L.subleader ≠ 0 → L.subleader = m → ∀ k ∈ L.team, k = m) := by
  simp only [SubleaderIn, leave, ne_eq, List.filter_eq_nil_iff, List.mem_filter, decide_eq_true_eq, not_not]
  constructor
  · intro after some own
    by_contra others
    obtain zero | stays := after others
    · exact some zero
    · exact stays.2 own
  · intro free others
    by_cases zero : L.subleader = 0
    · exact .inl zero
    · refine .inr ⟨?_, fun own => others (free zero own)⟩
      have some : L.team ≠ [] := by
        intro empty
        rw [empty] at others
        exact others nofun
      exact (before some).resolve_left zero

/-- A disbanded team has no subleader. -/
lemma subleaderIn_disband : L.disband.SubleaderIn := fun some => absurd rfl some

end Office

section Runs

variable {w w' : World}

/-- Every sub-leader is in the team. -/
def OfficesIn (offices : Nat → Option Office) : Prop := ∀ g L, offices g = some L → L.SubleaderIn

/-- The property, by the offices. -/
lemma subleaderIn_iff : SubleaderIn w ↔ OfficesIn w.offices := by
  constructor
  · intro all g L here some
    obtain ⟨p, live, rfl⟩ := Option.map_eq_some_iff.mp here
    exact all g p live (decide_eq_true (List.length_pos_iff.mpr some))
  · intro all g p live leads
    refine all g p.office (World.offices_eq_some live) ?_
    exact List.length_pos_iff.mp (of_decide_eq_true leads)

/-- A change of one office among good ones. -/
lemma officesIn_modify {offices : Nat → Option Office} (before : OfficesIn offices) {g : Nat} {f : Office → Office} :
    OfficesIn (modifyOffice offices g f) ↔ ∀ L, offices g = some L → (f L).SubleaderIn := by
  constructor
  · intro after L here
    refine after g (f L) ?_
    rw [modifyOffice, Function.update_self, here, Option.map_some]
  · intro new g' L there
    obtain ⟨rfl, eq⟩ | ⟨-, old⟩ := update_eq_some.mp there
    · obtain ⟨K, here, rfl⟩ := Option.map_eq_some_iff.mp eq
      exact new K here
    · exact before g' L old

/-- A new office that is good. -/
lemma officesIn_update {offices : Nat → Option Office} (before : OfficesIn offices) {g : Nat} {L : Office}
    (new : L.SubleaderIn) : OfficesIn (Function.update offices g (some L)) := by
  intro g' K there
  obtain ⟨rfl, eq⟩ | ⟨-, old⟩ := update_eq_some.mp there
  · cases eq
    exact new
  · exact before g' K old

/-- Leaving keeps the offices good exactly when it leaves none of them without its sub-leader. -/
lemma officesIn_leave (before : OfficesIn w.offices) (self leader : Nat) :
    OfficesIn (modifyOffice w.offices leader (Office.leave self)) ↔ LeavesFree w self leader := by
  rw [officesIn_modify before]
  constructor
  · intro after l live
    have here := World.offices_eq_some live
    exact (Office.subleaderIn_leave (before leader l.office here)).mp (after l.office here)
  · intro free L here
    obtain ⟨l, live, rfl⟩ := Option.map_eq_some_iff.mp here
    exact (Office.subleaderIn_leave (before leader l.office here)).mpr (free l live)

/-- Joining keeps the offices good exactly when the first member is the sub-leader that is named already, if any. -/
lemma officesIn_join (before : OfficesIn w.offices) (self member : Nat) :
    OfficesIn (modifyOffice w.offices self (Office.join member)) ↔
      ∀ p, w.players self = some p → p.team = [] → p.subleaderGuid = 0 ∨ p.subleaderGuid = member := by
  rw [officesIn_modify before]
  constructor
  · intro after p live
    have here := World.offices_eq_some live
    exact (Office.subleaderIn_join (before self p.office here)).mp (after p.office here)
  · intro first L here
    obtain ⟨p, live, rfl⟩ := Option.map_eq_some_iff.mp here
    exact (Office.subleaderIn_join (before self p.office here)).mpr (first p live)

/-- The player and its office go. -/
lemma officesIn_delete {offices : Nat → Option Office} {g l : Nat} {f : Office → Office} (before : OfficesIn offices) :
    OfficesIn (Function.update (modifyOffice offices l f) g none) ↔ (l ≠ g → OfficesIn (modifyOffice offices l f)) := by
  constructor
  · intro after ne g' L there
    obtain ⟨rfl, eq⟩ | ⟨-, old⟩ := update_eq_some.mp there
    · refine after g' L (update_eq_some.mpr (.inr ⟨ne, ?_⟩))
      rw [modifyOffice, Function.update_self, eq]
    · by_cases gone : g' = g
      · exact before g' L old
      · refine after g' L (update_eq_some.mpr (.inr ⟨gone, ?_⟩))
        exact there
  · intro kept g' L there
    obtain ⟨-, eq⟩ | ⟨ne, old⟩ := update_eq_some.mp there
    · cases eq
    · by_cases own : l = g
      · rw [own, modifyOffice, Function.update_of_ne ne] at old
        exact before g' L old
      · exact kept own g' L old

/-- An event keeps the sub-leaders in their teams exactly under the condition. -/
lemma step_subleaderIn {e : SubEvent} (zero : w.links 0 = none) (before : SubleaderIn w)
    (run : subStep w e = some w') : SubleaderIn w' ↔ KeepsSubleader w e := by
  have good : OfficesIn w.offices := subleaderIn_iff.mp before
  cases e with
  | enter guid acc pet acceptPK memory =>
    obtain ⟨w₁, entered, run⟩ := Option.bind_eq_some_iff.mp run
    obtain ⟨p, live, rfl⟩ := Option.map_eq_some_iff.mp run
    have offices := World.login_offices entered
    have empty : p.office = ⟨0, []⟩ := by
      have here := World.offices_eq_some live
      rw [offices, World.officesAfter, Function.update_self] at here
      exact (Option.some.inj here).symm
    have single : p.team = [] := congrArg Office.team empty
    refine iff_of_true (subleaderIn_iff.mpr ?_) trivial
    rw [World.offices_setPlayer, offices, World.officesAfter, Function.update_idem]
    exact officesIn_update good fun some => absurd single some
  | other e =>
    have offices : w'.offices = w.officesAfter e := step_offices zero run
    rw [subleaderIn_iff, offices]
    cases e with
    | login guid acc pet acceptPK => exact iff_of_true (officesIn_update good fun some => absurd rfl some) trivial
    | leaderResponse self response memberId =>
      rw [World.officesAfter, KeepsSubleader]
      split_ifs with accepts
      · rw [officesIn_join good]
        exact ⟨fun first _ _ _ => first, fun first => first accepts.1 accepts.2.1 accepts.2.2⟩
      · exact iff_of_true good fun one relays room => absurd ⟨one, relays, room⟩ accepts
    | memberLeave self teamleaderId =>
      rw [World.officesAfter, KeepsSubleader]
      split_ifs with leads
      -- a leader that leaves disbands its team
      · refine iff_of_true ((officesIn_modify good).mpr fun L _ => Office.subleaderIn_disband) ?_
        intro p live single
        rw [live, Option.any_some, Player.isTeamLeader_eq_false.mpr single] at leads
        cases leads
      · rw [officesIn_leave good]
        obtain ⟨p, live, -⟩ := Option.bind_eq_some_iff.mp run
        rw [live, Option.any_some, Bool.not_eq_true, Player.isTeamLeader_eq_false] at leads
        refine ⟨fun free _ _ _ => free, fun free => free p live leads⟩
    | setSubleader self acc =>
      rw [World.officesAfter]
      split_ifs with named
      · refine iff_of_true ((officesIn_modify good).mpr fun L here _ => .inr ?_) trivial
        obtain ⟨p, live, rfl⟩ := Option.map_eq_some_iff.mp here
        rw [live, Option.any_some, Bool.and_eq_true, decide_eq_true_iff] at named
        exact named.2
      · exact iff_of_true good trivial
    | unsetSubleader self acc =>
      rw [World.officesAfter]
      split_ifs
      · exact iff_of_true ((officesIn_modify good).mpr fun L _ _ => .inl rfl) trivial
      · exact iff_of_true good trivial
    | logout self i =>
      obtain ⟨w₁, handed, -⟩ := Option.bind_eq_some_iff.mp run
      obtain ⟨p, live, -⟩ := Option.bind_eq_some_iff.mp handed
      rw [World.officesAfter, officesIn_delete good, officesIn_leave good, live, KeepsSubleader]
      constructor
      · intro free q here ne
        cases live.symm.trans here
        exact free ne
      · intro free ne
        exact free p live ne
    | _ => exact iff_of_true good trivial

/-- No step gives anybody the guid 0. -/
lemma subStep_zero {e : SubEvent} (zero : w.links 0 = none) (run : subStep w e = some w') : w'.links 0 = none := by
  cases e with
  | enter guid acc pet acceptPK memory =>
    obtain ⟨w₁, entered, run⟩ := Option.bind_eq_some_iff.mp run
    obtain ⟨p, live, rfl⟩ := Option.map_eq_some_iff.mp run
    have same : (w₁.setPlayer guid { p with subleaderGuid := memory }).links = w₁.links :=
      World.links_of_update live rfl rfl
    rw [same]
    exact step_zero (e := .login guid acc pet acceptPK) zero entered
  | other e => exact step_zero zero run

/-- In every run in which no sub-leader leaves others behind, and no leader starts a team with the guid of an old
sub-leader, every sub-leader is in its team, and the next event keeps that only under this condition. -/
theorem subleader_of_reaches (guidOf : Nat → Nat) (run : Reaches subStep KeepsSubleader (World.start guidOf) w) :
    SubleaderIn w ∧ ∀ e w', subStep w e = some w' → (SubleaderIn w' ↔ KeepsSubleader w e) := by
  obtain ⟨zero, members⟩ : w.links 0 = none ∧ SubleaderIn w := by
    refine run.invariant (P := fun w => w.links 0 = none ∧ SubleaderIn w) ⟨rfl, nofun⟩ ?_
    intro w₁ w₂ e before keeps next
    exact ⟨subStep_zero before.1 next, (step_subleaderIn before.1 before.2 next).mpr keeps⟩
  exact ⟨members, fun e w' => step_subleaderIn zero members⟩

/-- Players 1, 2 and 3 come with clear memory, and 2 and 3 join 1. -/
def gatherTeam : List SubEvent :=
  [.enter 1 11 none true 0, .enter 2 12 none true 0, .enter 3 13 none true 0, .other (.leaderResponse 1 1 12),
    .other (.leaderResponse 1 1 13)]

/-- The sub-leader is the last one in the team when it goes. -/
def subleaderLast : List SubEvent :=
  gatherTeam ++ [.other (.setSubleader 1 13), .other (.memberLeave 2 11), .other (.logout 3 0)]

/-- The sub-leader that is left alone stays one of its team. -/
theorem subleader_gatherTeam :
    ∃ w, exec subStep (World.start fun acc => acc - 10) subleaderLast = some w ∧ SubleaderIn w := by
  obtain ⟨w, run⟩ := Option.isSome_iff_exists.mp
    (show (exec subStep (World.start fun acc => acc - 10) subleaderLast).isSome by decide +kernel)
  exact ⟨w, run, (subleader_of_reaches _ (reaches_of_exec _ (by decide +kernel) run)).1⟩

/-- Player 2 is made the sub-leader and leaves, and player 3 stays. -/
theorem subleader_leaves : ∃ w, Reaches subStep (fun _ _ => True) (World.start fun acc => acc - 10) w ∧
    ¬SubleaderIn w := by
  have last : ∃ w, exec subStep (World.start fun acc => acc - 10)
      (gatherTeam ++ [.other (.setSubleader 1 12), .other (.memberLeave 2 11)]) = some w ∧
        ∃ p, w.players 1 = some p ∧ p.subleaderGuid = 2 ∧ p.team = [3] := ⟨_, rfl, _, rfl, rfl, rfl⟩
  obtain ⟨w, run, p, live, sub, team⟩ := last
  refine ⟨w, reaches_of_exec _ (along_true _ _) run, fun members => ?_⟩
  have leads : p.isTeamLeader = true := by
    rw [Player.isTeamLeader, team]
    rfl
  have mem := members 1 p live leads
  rw [sub, team] at mem
  exact absurd mem (by decide)

end Runs

end Legacy.Party
