import Legacy.Lib.Iterator
import Legacy.Lib.Reach
import Legacy.Lib.RowMajor
import Legacy.Lib.Table

/-!
# Players, their teams and their battles

Players are named by their guid and battles by a number. The guid in the place of a pointer to a player is
read through `World.players`, so that a step which follows a pointer to a deleted player is undefined.
-/

namespace Legacy.Party
open Legacy.Lib

/-- source `Player` -/
structure Player where
  accountId : Nat
  leaderGuid : Nat
  subleaderGuid : Nat
  team : List Nat
  battleMaster : Option Nat
  playerBattleClass : Option Nat
  battlePet : Option Nat
  dead : Bool
  acceptPK : Bool
deriving DecidableEq

/-- What a cell of the grid points to. The creatures are made for the battle. -/
inductive BattleUnit where
  | player (guid : Nat)
  | pet (owner slot : Nat)
  | creature (battle col row : Nat)
deriving DecidableEq

/-- source `BattleSystem` -/
structure BattleSystem where
  master : Nat
  playerList : List Nat
  battleUnit : Nat → Nat → Option BattleUnit

/-- `guidOf` is the table of the characters by account, with 0 for an account without one. -/
structure World where
  guidOf : Nat → Nat
  players : Nat → Option Player
  battles : Nat → Option BattleSystem

namespace Player

/-- source `Player::isJoinedTeam` -/
def isJoinedTeam (p : Player) : Bool := p.leaderGuid ≠ 0

/-- source `Player::isTeamLeader` -/
def isTeamLeader (p : Player) : Bool := 0 < p.team.length

/-- Who leads no team has an empty one. -/
lemma isTeamLeader_eq_false {p : Player} : p.isTeamLeader = false ↔ p.team = [] := by
  rw [isTeamLeader, decide_eq_false_iff_not, Nat.not_lt, Nat.le_zero, List.length_eq_zero_iff]

/-- source `Player::isBattleInProgress` -/
def isBattleInProgress (p : Player) : Bool := p.playerBattleClass.isSome

/-- source `Player::CanJoinTeam` -/
def canJoinTeam (p : Player) : Bool := !p.isJoinedTeam && decide (p.team.length < 4)

/-- source `Player::GetTeamGuid` -/
def getTeamGuid (p : Player) (index : Nat) : Nat := if index = 0 then 0 else p.team.getD (index - 1) 0

/-- The back row of a player and its team, as both `BattleSystem::Engage` set it. -/
def backRow (p : Player) (guid : Nat) : List Nat :=
  [p.getTeamGuid 3, p.getTeamGuid 2, guid, p.getTeamGuid 1, p.getTeamGuid 4]

end Player

namespace BattleSystem

/-- source `BattleSystem::SetPosition` -/
def setPosition (B : BattleSystem) (unit : BattleUnit) (col row : Nat) : BattleSystem :=
  { B with battleUnit := fun c r => if c = col ∧ r = row then some unit else B.battleUnit c r }

/-- Places a player and its battle pet. -/
def place (B : BattleSystem) (guid : Nat) (pet : Option Nat) (col petCol row : Nat) : BattleSystem :=
  match pet with
  | none => B.setPosition (.player guid) col row
  | some slot => (B.setPosition (.player guid) col row).setPosition (.pet guid slot) petCol row

/-- The unit in a cell (source `BattleSystem::GetBattleUnit`). Row 5 of a column is row 0 of the next one, and behind
the last column there is no unit. -/
def getBattleUnit (B : BattleSystem) (col row : Nat) : Option BattleUnit :=
  let place := rowMajor 5 (col, row)
  if row ≤ 5 ∧ place < 20 then B.battleUnit (place / 5) (place % 5) else none

/-- The set of the players is kept as a list. -/
def insert (B : BattleSystem) (guid : Nat) : BattleSystem :=
  { B with playerList := if guid ∈ B.playerList then B.playerList else B.playerList ++ [guid] }

/-- Taking a seat keeps the master. -/
@[simp] lemma place_master (B : BattleSystem) (guid : Nat) (pet : Option Nat) (col petCol row : Nat) :
    (B.place guid pet col petCol row).master = B.master := by
  cases pet <;> rfl

/-- Taking a seat keeps the list of players. -/
@[simp] lemma place_playerList (B : BattleSystem) (guid : Nat) (pet : Option Nat) (col petCol row : Nat) :
    (B.place guid pet col petCol row).playerList = B.playerList := by
  cases pet <;> rfl

/-- After a position is set, a cell has the unit or what it had. -/
lemma setPosition_cases {B : BattleSystem} {unit u : BattleUnit} {col row c r : Nat}
    (cell : (B.setPosition unit col row).battleUnit c r = some u) :
    u = unit ∧ c = col ∧ r = row ∨ B.battleUnit c r = some u := by
  rw [setPosition] at cell
  dsimp only at cell
  split at cell
  case isTrue here => exact Or.inl ⟨(Option.some.inj cell).symm, here⟩
  case isFalse => exact Or.inr cell

/-- A unit of the grid was just placed, or was there before. -/
lemma place_cases {B : BattleSystem} {guid col petCol row c r : Nat} {pet : Option Nat} {u : BattleUnit}
    (cell : (B.place guid pet col petCol row).battleUnit c r = some u) :
    u = .player guid ∧ c = col ∧ r = row ∨ (∃ slot, pet = some slot ∧ u = .pet guid slot ∧ c = petCol ∧ r = row) ∨
      B.battleUnit c r = some u := by
  cases pet with
  | none => exact (setPosition_cases cell).imp id Or.inr
  | some slot =>
    rcases setPosition_cases cell with here | cell
    · exact Or.inr (Or.inl ⟨slot, rfl, here⟩)
    · exact (setPosition_cases cell).imp id Or.inr

/-- The players after one is inserted. -/
lemma mem_insert {B : BattleSystem} {guid q : Nat} :
    q ∈ (B.insert guid).playerList ↔ q ∈ B.playerList ∨ q = guid := by
  rw [insert]
  dsimp only
  split
  case isTrue mem =>
    refine ⟨Or.inl, fun alt => alt.elim id ?_⟩
    rintro rfl
    exact mem
  case isFalse => rw [List.mem_append, List.mem_singleton]

/-- The unit is the player or its battle pet. -/
def Belongs (guid : Nat) (pet : Option Nat) (unit : BattleUnit) : Prop :=
  unit = .player guid ∨ ∃ slot ∈ pet, unit = .pet guid slot

instance (guid : Nat) (pet : Option Nat) (unit : BattleUnit) : Decidable (Belongs guid pet unit) :=
  inferInstanceAs (Decidable (_ ∨ _))

/-- Takes a player out of the list, and the player and its battle pet out of the grid. -/
def erase (B : BattleSystem) (guid : Nat) (pet : Option Nat) : BattleSystem :=
  { B with
    playerList := B.playerList.filter (· ≠ guid)
    battleUnit := fun c r => (B.battleUnit c r).filter fun unit => ¬ Belongs guid pet unit }

/-- The player that `BattleSystem::FindNewMaster` takes, which is the first one in the order of the set other
than the master. The order is the one of the addresses, and `i` stands for it. -/
def newMaster (B : BattleSystem) (i : Nat) : Option Nat :=
  let others := B.playerList.filter (· ≠ B.master)
  others[i % others.length]?

/-- The new master is another player of the battle. -/
lemma newMaster_mem {B : BattleSystem} {i q : Nat} (next : B.newMaster i = some q) :
    q ∈ B.playerList ∧ q ≠ B.master := by
  obtain ⟨mem, ne⟩ := List.mem_filter.mp (List.mem_of_getElem? next)
  exact ⟨mem, of_decide_eq_true ne⟩

/-- Only the master is left when there is no other one to take. -/
lemma not_mem_of_newMaster {B : BattleSystem} {i q : Nat} (last : B.newMaster i = none) (ne : q ≠ B.master) :
    q ∉ B.playerList := by
  intro mem
  have other : q ∈ B.playerList.filter (· ≠ B.master) := List.mem_filter.mpr ⟨mem, decide_eq_true ne⟩
  have le := List.getElem?_eq_none_iff.mp last
  exact absurd (Nat.mod_lt i (List.length_pos_of_mem other)) (Nat.not_lt.mpr le)

end BattleSystem

namespace World

variable (w : World)

/-- A player is changed, or enters the world. -/
def setPlayer (guid : Nat) (p : Player) : World := { w with players := Function.update w.players guid (some p) }

/-- The object of a player is deleted. -/
def deletePlayer (guid : Nat) : World := { w with players := Function.update w.players guid none }

/-- Writing one player. -/
@[simp] lemma setPlayer_players (guid : Nat) (p : Player) :
    (w.setPlayer guid p).players = Function.update w.players guid (some p) := rfl

/-- Deleting one player. -/
@[simp] lemma deletePlayer_players (guid : Nat) :
    (w.deletePlayer guid).players = Function.update w.players guid none := rfl

/-- source `ObjectAccessor::FindPlayerByAccountId`, `ObjectMgr::GetPlayerByAccountId` -/
def findPlayerByAccountId (acc : Nat) : Option Player := w.players (w.guidOf acc)

/-- source `Player::JoinTeam` -/
def joinTeam (leader member : Nat) : Option World :=
  (w.players member).bind fun m =>
    let w := w.setPlayer member { m with leaderGuid := leader }
    (w.players leader).map fun l => w.setPlayer leader { l with team := l.team ++ [member] }

/-- The update of a player's team finds all members that it reads (source `Player::BuildUpdateBlockTeam`). -/
def updatesTeam (guid : Nat) : Bool :=
  (w.players guid).all fun p => p.team.all fun member => (w.players member).isSome

/-- source `Player::LeaveTeam` -/
def leaveTeam (leader member : Nat) : Option World :=
  (w.players leader).bind fun l =>
    let w := w.setPlayer leader { l with team := l.team.filter (· ≠ member) }
    (w.players member).bind fun m =>
      let w := w.setPlayer member { m with leaderGuid := 0 }
      if w.updatesTeam member && w.updatesTeam leader then some w else none

variable {w} in
/-- What `Player::LeaveTeam` changes when it returns. -/
lemma leaveTeam_inv {w' : World} {l m : Nat} (run : w.leaveTeam l m = some w') :
    ∃ p q, w.players l = some p ∧ (w.setPlayer l { p with team := p.team.filter (· ≠ m) }).players m = some q ∧
      w' = (w.setPlayer l { p with team := p.team.filter (· ≠ m) }).setPlayer m { q with leaderGuid := 0 } := by
  obtain ⟨p, live, run⟩ := Option.bind_eq_some_iff.mp run
  obtain ⟨q, live', run⟩ := Option.bind_eq_some_iff.mp run
  simp only at run
  split at run
  · cases run
    exact ⟨p, q, live, live', rfl⟩
  · cases run

/-- Lets the front of the team leave while there is one, at most `n` times. -/
def dismiss (leader : Nat) : Nat → World → Option World
  | 0, w => some w
  | n + 1, w =>
    (w.players leader).bind fun l =>
      match l.team with
      | [] => some w
      | member :: _ => (w.leaveTeam leader member).bind (dismiss leader n)

/-- source `Player::DismissTeam`; every round shortens the team. -/
def dismissTeam (leader : Nat) : Option World :=
  (w.players leader).bind fun l => dismiss leader l.team.length w

/-- Leader response (source `WorldSession::HandleGroupOpcodes`, case 0x03) -/
def leaderResponse (self response memberId : Nat) : Option World :=
  (w.players self).bind fun p =>
    if p.isJoinedTeam || p.isBattleInProgress then some w
    else
      match w.findPlayerByAccountId memberId with
      | none => some w
      | some member =>
        if member.isJoinedTeam || member.isTeamLeader || member.isBattleInProgress || member.battleMaster.isSome then
          some w
        else if response = 1 && p.canJoinTeam then w.joinTeam self (w.guidOf memberId)
        else some w

/-- Group member leave (source `WorldSession::HandleGroupOpcodes`, case 0x04) -/
def memberLeave (self teamleaderId : Nat) : Option World :=
  (w.players self).bind fun p =>
    if p.isTeamLeader then w.dismissTeam self
    else
      match w.findPlayerByAccountId teamleaderId with
      | none => some w
      | some _ => w.leaveTeam (w.guidOf teamleaderId) self

/-- source `Player::SetSubleader` -/
def setSubleader (self acc : Nat) : Option World :=
  (w.players self).map fun p =>
    if p.isTeamLeader && (w.findPlayerByAccountId acc).isSome && decide (w.guidOf acc ∈ p.team) then
      w.setPlayer self { p with subleaderGuid := w.guidOf acc }
    else w

/-- source `Player::UnsetSubleader` -/
def unsetSubleader (self acc : Nat) : Option World :=
  (w.players self).map fun p =>
    match w.players p.subleaderGuid with
    | none => w
    | some sub =>
      if p.isTeamLeader && decide (p.subleaderGuid ≠ 0) && decide (acc = sub.accountId) then
        w.setPlayer self { p with subleaderGuid := 0 }
      else w

/-- source `BattleSystem::LeaveBattle` -/
def leaveBattle (b guid : Nat) : Option World :=
  (w.battles b).bind fun B =>
    (w.players guid).map fun p =>
      { w with
        players := Function.update w.players guid (some { p with
          dead := false, battleMaster := if guid ∈ B.playerList then none else p.battleMaster })
        battles := Function.update w.battles b (some (B.erase guid p.battlePet)) }

/-- Places a player that is in the world in a battle, which it joins (source, a round of the loop of
`BattleSystem::InitAttackerPosition`, `BattleSystem::InitDefenderPosition2`; `BattleSystem::JoinBattle`). -/
def seat (b col petCol row guid : Nat) : Option World :=
  match w.players guid with
  | none => some w
  | some p =>
    (w.battles b).map fun B =>
      { w with
        players := Function.update w.players guid (some { p with battleMaster := some B.master })
        battles := Function.update w.battles b (some ((B.place guid p.battlePet col petCol row).insert guid)) }

/-- Places the players of a row. -/
def seatRow (b col petCol : Nat) : Nat → List Nat → World → Option World
  | _, [], w => some w
  | row, guid :: guids, w => (w.seat b col petCol row guid).bind (seatRow b col petCol (row + 1) guids)

/-- The first four of the team can be read. -/
def teamAlive (p : Player) : Bool := (p.team.take 4).all fun member => (w.players member).isSome

/-- A new battle, which becomes the one of the player. -/
def newBattle (self b : Nat) (p : Player) (units : Nat → Nat → Option BattleUnit) : World :=
  { w with
    players := Function.update w.players self (some { p with playerBattleClass := some b })
    battles := Function.update w.battles b (some ⟨self, [], units⟩) }

/-- The creatures that could be loaded (source `BattleSystem::InitDefenderPosition`). -/
def creatures (b : Nat) (loaded : Nat → Nat → Bool) (col row : Nat) : Option BattleUnit :=
  if col < 2 && row < 5 && loaded col row then some (.creature b col row) else none

/-- source `Player::Engage`, `BattleSystem::Engage` with a creature. The level rate is divided by the number
of creatures. -/
def engageCreature (self b : Nat) (loaded : Nat → Nat → Bool) : Option World :=
  (w.players self).bind fun p =>
    if p.isBattleInProgress then some w
    else if (w.battles b).isNone && w.teamAlive p &&
        (List.range 2).any fun col => (List.range 5).any fun row => loaded col row then
      seatRow b 3 2 0 (p.backRow self) (w.newBattle self b p (creatures b loaded))
    else none

/-- source `WorldSession::HandlePlayerBattleCommandOpcodes` (PK to a player), `Player::Engage`,
`BattleSystem::Engage` with a player -/
def engagePlayer (self acc b : Nat) : Option World :=
  (w.players self).bind fun p =>
    match w.findPlayerByAccountId acc with
    | none => some w
    | some enemy =>
      if !p.acceptPK || !enemy.acceptPK || p.isBattleInProgress then some w
      else if (w.battles b).isNone && w.teamAlive p && w.teamAlive enemy then
        (seatRow b 0 1 0 (enemy.backRow (w.guidOf acc)) (w.newBattle self b p fun _ _ => none)).bind
          (seatRow b 3 2 0 (p.backRow self))
      else none

/-- The column behind the one of an attacker (source `BattleSystem::Escaped`). -/
def escapeCol (col : Nat) : Nat := if col = 2 then 3 else if col = 1 then 0 else col

/-- source `BattleSystem::Escaped`. The unit of the cell is taken for a player. -/
def escaped (b col row : Nat) : Option World :=
  (w.battles b).bind fun B =>
    match B.getBattleUnit (escapeCol col) row with
    | some (.player guid) => w.leaveBattle b guid
    | _ => none

/-- The loop of `BattleSystem::BattleStop` over the players, from an iterator on and at most `n` times. It advances
an iterator whose player `LeaveBattle` has erased. -/
def leaveFrom (b : Nat) : Nat → Option Nat → World → Option World
  | _, none, w => some w
  | 0, some _, _ => none
  | n + 1, some guid, w =>
    (w.leaveBattle b guid).bind fun w =>
      (w.battles b).bind fun B =>
        (nextIn B.playerList guid).toOption.bind fun next => leaveFrom b n next w

/-- source `BattleSystem::BattleStop`. A concluded battle, the only one that is stopped, shows no dropped items. -/
def battleStop (b : Nat) : Option World :=
  (w.battles b).bind fun B => leaveFrom b B.playerList.length B.playerList.head? w

variable {w} {w' : World} {b : Nat}

/-- Whoever the iterator points to is erased before it is advanced. -/
lemma leaveFrom_some (n guid : Nat) : leaveFrom b n (some guid) w = none := by
  cases n with
  | zero => rfl
  | succ n =>
    rw [leaveFrom, leaveBattle]
    cases w.battles b with
    | none => rfl
    | some B =>
      cases w.players guid with
      | none => rfl
      | some p =>
        simp only [Option.bind_some, Option.map_some, Function.update_self, BattleSystem.erase, nextIn_filter]
        rfl

/-- Only a battle without players is stopped, and this changes nothing. -/
lemma battleStop_eq_some : w.battleStop b = some w' ↔ ∃ B, w.battles b = some B ∧ B.playerList = [] ∧ w' = w := by
  rw [battleStop, Option.bind_eq_some_iff]
  refine exists_congr fun B => and_congr_right fun _ => ?_
  cases list : B.playerList with
  | nil =>
    rw [and_iff_right rfl, List.head?_nil, leaveFrom]
    exact Option.some_inj.trans eq_comm
  | cons guid guids =>
    rw [List.head?_cons, leaveFrom_some]
    exact iff_of_false nofun fun stopped => nomatch stopped.1

variable (w)

/-- The battle of a player stops (source `BattleSystem::UpdateBattleAction`). -/
def stop (self : Nat) : Option World :=
  (w.players self).bind fun p =>
    match p.playerBattleClass with
    | none => some w
    | some b => w.battleStop b

variable {w} in
/-- A stop that returns has found nobody to let go. -/
lemma eq_of_stop {self : Nat} (run : w.stop self = some w') : w' = w := by
  obtain ⟨p, -, run⟩ := Option.bind_eq_some_iff.mp run
  split at run
  · cases run
    rfl
  · obtain ⟨B, -, -, same⟩ := battleStop_eq_some.mp run
    exact same

/-- The concluded battle of a player is stopped and deleted (source `Player::Update`). -/
def conclude (self : Nat) : Option World :=
  (w.players self).bind fun p =>
    match p.playerBattleClass with
    | none => some w
    | some b =>
      (w.battleStop b).bind fun w =>
        (w.players self).map fun p =>
          { w with
            players := Function.update w.players self (some { p with playerBattleClass := none })
            battles := Function.update w.battles b none }

/-- A player of the list becomes the master (source `BattleSystem::FindNewMaster`). -/
def promote (b : Nat) (B : BattleSystem) (master : Nat) : Option World :=
  if B.playerList.all fun guid => (w.players guid).isSome then
    some { w with
      players := fun guid => (w.players guid).map fun p => { p with
        playerBattleClass := if guid = master then some b else p.playerBattleClass
        battleMaster := if guid ∈ B.playerList then some master else p.battleMaster }
      battles := Function.update w.battles b (some { B with master }) }
  else none

/-- The battle of a player that goes is handed over or deleted (source `Player::~Player`). -/
def handOver (self i : Nat) : Option World :=
  (w.players self).bind fun p =>
    match p.playerBattleClass with
    | none => some w
    | some b =>
      (w.battles b).bind fun B =>
        match B.newMaster i with
        | some master => w.promote b B master
        | none =>
          some { w with
            players := Function.update w.players self (some { p with playerBattleClass := none })
            battles := Function.update w.battles b none }

/-- Leaves the battle of the battle master (source `Player::LeaveBattle`). -/
def masterBattle (self : Nat) (p : Player) : Option World :=
  match p.battleMaster with
  | none => some w
  | some master =>
    (w.players master).bind fun m =>
      match m.playerBattleClass with
      | none => some w
      | some b => w.leaveBattle b self

/-- source `Player::LeaveBattle` -/
def quitBattle (self : Nat) : Option World :=
  (w.players self).bind fun p =>
    (w.masterBattle self p).bind fun w =>
      (w.players self).map fun p => w.setPlayer self { p with playerBattleClass := none, battleMaster := none }

/-- Leaves the team and dismisses its own one (source `Player::~Player`). The player itself is no longer
found. -/
def quitTeam (self : Nat) : Option World :=
  (w.players self).bind fun p =>
    (if p.leaderGuid = 0 ∨ p.leaderGuid = self ∨ (w.players p.leaderGuid).isNone then some w
      else w.leaveTeam p.leaderGuid self).bind fun w => w.dismissTeam self

/-- source `WorldSession::LogoutPlayer`, `Player::~Player` -/
def logout (self i : Nat) : Option World :=
  (w.handOver self i).bind fun w =>
    (w.quitBattle self).bind fun w =>
      (w.quitTeam self).map fun w => w.deletePlayer self

/-- A character enters the world, in which it is not yet. -/
def login (guid acc : Nat) (pet : Option Nat) (acceptPK : Bool) : Option World :=
  if guid ≠ 0 ∧ w.players guid = none then
    some (w.setPlayer guid ⟨acc, 0, 0, [], none, none, pet, false, acceptPK⟩)
  else none

end World

/-- What can happen. The first number is the player that sent the packet, or that the event is about. -/
inductive Event where
  | create (acc guid : Nat)
  | login (guid acc : Nat) (pet : Option Nat) (acceptPK : Bool)
  | memberRequest (self leaderId : Nat)
  | leaderResponse (self response memberId : Nat)
  | memberLeave (self teamleaderId : Nat)
  | setSubleader (self acc : Nat)
  | unsetSubleader (self acc : Nat)
  | acceptPK (self : Nat) (accept : Bool)
  | battlePet (self : Nat) (pet : Option Nat)
  | engageCreature (self b : Nat) (loaded : Nat → Nat → Bool)
  | engagePlayer (self acc b : Nat)
  | die (self : Nat)
  | escaped (b col row : Nat)
  | stop (self : Nat)
  | conclude (self : Nat)
  | logout (self i : Nat)

/-- One event. A battle can stop at any time, but with players in it this has no result; battle pets are chosen
outside of battles. -/
def step (w : World) : Event → Option World
  | .create acc guid => some { w with guidOf := Function.update w.guidOf acc guid }
  | .login guid acc pet acceptPK => w.login guid acc pet acceptPK
  | .memberRequest self _ => (w.players self).map fun _ => w
  | .leaderResponse self response memberId => w.leaderResponse self response memberId
  | .memberLeave self teamleaderId => w.memberLeave self teamleaderId
  | .setSubleader self acc => w.setSubleader self acc
  | .unsetSubleader self acc => w.unsetSubleader self acc
  | .acceptPK self accept => (w.players self).map fun p => w.setPlayer self { p with acceptPK := accept }
  | .battlePet self pet =>
    (w.players self).bind fun p =>
      if p.battleMaster = none then some (w.setPlayer self { p with battlePet := pet }) else none
  | .engageCreature self b loaded => w.engageCreature self b loaded
  | .engagePlayer self acc b => w.engagePlayer self acc b
  | .die self => (w.players self).map fun p => w.setPlayer self { p with dead := true }
  | .escaped b col row => w.escaped b col row
  | .stop self => w.stop self
  | .conclude self => w.conclude self
  | .logout self i => w.logout self i

/-- Nobody is in the world. -/
def World.start (guidOf : Nat → Nat) : World := ⟨guidOf, fun _ => none, fun _ => none⟩

end Legacy.Party
