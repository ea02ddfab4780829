import Legacy.Battle.Roster
import Legacy.Battle.Turn
import Legacy.Lib.Iterator

/-!
# The end of a battle

`BattleSystem::BattleStop` and `BattleSystem::LeaveBattle` (`src/src/game/BattleSystem.cpp`). The loop that lets the
players go runs over the set that `LeaveBattle` takes them from. `battleStop_releases_iff` says which battles it ends
as it should: those that hold nobody.
-/

namespace Legacy.Battle
open Legacy.Lib

/-- What the experience of a battle leaves of a unit (source `BattleSystem::GiveExpGainedFor`, through
`Unit::AddExpGained`). -/
structure Gain where
  hp : Nat
  hpMax : Nat
  level : Nat

/-- A battle with the battle masters of the players (source `i_master`, `Player::i_battleMaster`) and the calls of
`LeaveBattle` so far. -/
structure Battlefield where
  engine : Engine
  master : Nat
  battleMaster : Nat → Option Nat
  left : List Nat

namespace Engine

/-- The unit gets its experience. -/
def reward (b : Engine) (u : Nat) (gain : Gain) : Engine :=
  b.setUnit u { b.units u with hp := gain.hp, hpMax := gain.hpMax, level := gain.level }

/-- source `BattleSystem::GiveExpGainedFor` -/
def giveExpGainedFor (gains : Nat → Gain) (b : Engine) (p : Nat) : Engine :=
  match (b.units p).battlePet with
  | none => b.reward p (gains p)
  | some pet => (b.reward p (gains p)).reward pet (gains pet)

/-- One cell of the first loop of `BattleSystem::BattleStop`. -/
def rewardCell (gains : Nat → Gain) (b : Engine) (c : Nat × Nat) : Engine :=
  match b.battleUnit c.1 c.2 with
  | none => b
  | some u => if (b.units u).isPlayer then b.giveExpGainedFor gains u else b

end Engine

namespace Battlefield

/-- source `BattleSystem::LeaveBattle` -/
def leaveBattle (s : Battlefield) (p : Nat) : Battlefield :=
  { s with
    engine := s.engine.leaveBattle p
    battleMaster := if p ∈ s.engine.playerList then Function.update s.battleMaster p none else s.battleMaster
    left := s.left ++ [p] }

/-- Leaving takes the player out of the list. -/
lemma leaveBattle_playerList (s : Battlefield) (p : Nat) :
    (s.leaveBattle p).engine.playerList = s.engine.playerList.filter fun q => q ≠ p := rfl

/-- The second loop of `BattleSystem::BattleStop`, from an iterator on; `none` is the end. -/
def leaveFrom (s : Battlefield) : Option Nat → Except ErasedIterator Battlefield
  | none => .ok s
  | some p =>
    if _mem : p ∈ s.engine.playerList then do
      let next ← nextIn (s.leaveBattle p).engine.playerList p
      leaveFrom (s.leaveBattle p) next
    else .error .read
termination_by s.engine.playerList.length
decreasing_by
  rw [leaveBattle_playerList]
  exact List.length_filter_lt_length_iff_exists.mpr ⟨p, _mem, by simp⟩

/-- source `BattleSystem::BattleStop` -/
def battleStop (gains : Nat → Gain) (s : Battlefield) : Except ErasedIterator Battlefield :=
  if 0 < s.engine.animationTimeItemDropped then .ok s
  else do
    let s := { s with engine := rowCells.foldl (Engine.rewardCell gains) s.engine }
    let s ← s.leaveFrom s.engine.playerList.head?
    return { s with engine := { s.engine with playerList := [] } }

/-- A unit that the battle has to let go: a player or the battle pet of one. -/
def Held (b : Engine) (u : Nat) : Prop :=
  (b.units u).isPlayer = true ∨ ∃ p, (b.units p).isPlayer = true ∧ (b.units p).battlePet = some u

/-- Everybody is released from `s`. -/
structure Released (s s' : Battlefield) : Prop where
  /-- `LeaveBattle` is called once for each player. -/
  calls : ∃ calls, s'.left = s.left ++ calls ∧ calls.Perm s.engine.playerList
  list : s'.engine.playerList = []
  master : ∀ p, s'.battleMaster p ≠ some s.master
  grid : ∀ c ∈ rowCells, ∀ u ∈ s'.engine.battleUnit c.1 c.2, ¬Held s'.engine u
  alive : ∀ p ∈ s.engine.playerList, (s'.engine.units p).isAlive = true ∧ 0 < (s'.engine.units p).hp

/-- The battle holds nobody. -/
structure Deserted (s : Battlefield) : Prop where
  list : s.engine.playerList = []
  master : ∀ p, s.battleMaster p ≠ some s.master
  grid : ∀ c ∈ rowCells, ∀ u ∈ s.engine.battleUnit c.1 c.2, ¬Held s.engine u

variable {s s' : Battlefield} {gains : Nat → Gain}

/-- Experience moves nobody and makes no player of a unit. -/
structure Rewarded (b b' : Engine) : Prop where
  list : b'.playerList = b.playerList
  grid : b'.battleUnit = b.battleUnit
  player : ∀ u, (b'.units u).isPlayer = (b.units u).isPlayer
  pet : ∀ u, (b'.units u).battlePet = (b.units u).battlePet

/-- A reward keeps who is held in the battle. -/
lemma Rewarded.held {b b' : Engine} (same : Rewarded b b') (u : Nat) : Held b' u ↔ Held b u := by
  rw [Held, Held, same.player u]
  refine or_congr_right (exists_congr fun p => ?_)
  rw [same.player p, same.pet p]

/-- A gain is a reward. -/
lemma rewarded_reward (b : Engine) (p : Nat) (gain : Gain) : Rewarded b (b.reward p gain) := by
  have same (u : Nat) : ((b.reward p gain).units u).isPlayer = (b.units u).isPlayer ∧
      ((b.reward p gain).units u).battlePet = (b.units u).battlePet := by
    simp only [Engine.reward, Engine.setUnit]
    rcases eq_or_ne u p with rfl | ne
    · rw [Function.update_self]
      exact ⟨rfl, rfl⟩
    · rw [Function.update_of_ne ne]
      exact ⟨rfl, rfl⟩
  exact ⟨rfl, rfl, fun u => (same u).1, fun u => (same u).2⟩

/-- Rewards add up. -/
lemma Rewarded.trans {b b₁ b₂ : Engine} (first : Rewarded b b₁) (second : Rewarded b₁ b₂) : Rewarded b b₂ :=
  ⟨second.list.trans first.list, second.grid.trans first.grid, fun u => (second.player u).trans (first.player u),
    fun u => (second.pet u).trans (first.pet u)⟩

/-- Gains along the cells are a reward. -/
lemma rewarded_rewardCells (gains : Nat → Gain) (cells : List (Nat × Nat)) (b : Engine) :
    Rewarded b (cells.foldl (Engine.rewardCell gains) b) := by
  induction cells generalizing b with
  | nil => exact ⟨rfl, rfl, fun _ => rfl, fun _ => rfl⟩
  | cons c cells ih =>
    refine Rewarded.trans ?_ (ih _)
    rw [Engine.rewardCell]
    split
    · exact ⟨rfl, rfl, fun _ => rfl, fun _ => rfl⟩
    · split
      · rw [Engine.giveExpGainedFor]
        split
        · exact rewarded_reward b _ _
        · exact (rewarded_reward b _ _).trans (rewarded_reward _ _ _)
      · exact ⟨rfl, rfl, fun _ => rfl, fun _ => rfl⟩

/-- Whoever the iterator points to is erased before it is advanced. -/
lemma leaveFrom_error (s : Battlefield) (p : Nat) : ∃ e, s.leaveFrom (some p) = .error e := by
  rw [leaveFrom]
  split
  · rw [leaveBattle_playerList, nextIn_filter]
    exact ⟨_, rfl⟩
  · exact ⟨_, rfl⟩

/-- The end of a battle that somebody is in advances an erased iterator. -/
lemma battleStop_full (gains : Nat → Gain) (quiet : ¬0 < s.engine.animationTimeItemDropped)
    (full : s.engine.playerList ≠ []) : ∃ e, s.battleStop gains = .error e := by
  have same := rewarded_rewardCells gains rowCells s.engine
  obtain ⟨p, rest, list⟩ := List.exists_cons_of_ne_nil full
  obtain ⟨e, error⟩ := leaveFrom_error { s with engine := rowCells.foldl (Engine.rewardCell gains) s.engine } p
  refine ⟨e, ?_⟩
  rw [battleStop, if_neg quiet]
  simp only [same.list, list, List.head?_cons, error]
  rfl

/-- The end of a battle that nobody is in. -/
lemma battleStop_empty (gains : Nat → Gain) (empty : s.engine.playerList = []) :
    ∃ b, Rewarded s.engine b ∧ s.battleStop gains = .ok { s with engine := b } := by
  rw [battleStop]
  split
  · exact ⟨s.engine, ⟨rfl, rfl, fun _ => rfl, fun _ => rfl⟩, rfl⟩
  · have same := rewarded_rewardCells gains rowCells s.engine
    refine ⟨{ rowCells.foldl (Engine.rewardCell gains) s.engine with playerList := [] },
      ⟨empty.symm, same.grid, same.player, same.pet⟩, ?_⟩
    simp only [same.list, empty, List.head?_nil, leaveFrom, ok_bind]
    rfl

/-- A battle that shows no dropped items is ended exactly when nobody is in it. -/
lemma battleStop_ok_iff (gains : Nat → Gain) (quiet : ¬0 < s.engine.animationTimeItemDropped) :
    (∃ s', s.battleStop gains = .ok s') ↔ s.engine.playerList = [] := by
  constructor
  · rintro ⟨s', run⟩
    by_contra full
    obtain ⟨e, error⟩ := battleStop_full gains quiet full
    rw [error] at run
    cases run
  · intro empty
    obtain ⟨b, -, run⟩ := battleStop_empty gains empty
    exact ⟨_, run⟩

/-- A battle is ended as it should be exactly when it holds nobody. -/
theorem battleStop_releases_iff (gains : Nat → Gain) (s : Battlefield) :
    Sat (s.battleStop gains) (Released s) ↔ Deserted s := by
  constructor
  · intro sat
    obtain ⟨s', run, released⟩ := sat_iff.mp sat
    have empty : s.engine.playerList = [] := by
      by_cases busy : 0 < s.engine.animationTimeItemDropped
      · rw [battleStop, if_pos busy] at run
        cases run
        exact released.list
      · exact (battleStop_ok_iff gains busy).mp ⟨s', run⟩
    obtain ⟨b, same, run'⟩ := battleStop_empty gains empty
    rw [run'] at run
    cases run
    exact ⟨empty, released.master, fun c mem u here held =>
      released.grid c mem u (same.grid ▸ here) ((same.held u).mpr held)⟩
  · intro deserted
    obtain ⟨b, same, run⟩ := battleStop_empty gains deserted.list
    refine sat_iff.mpr ⟨_, run, ⟨[], (List.append_nil _).symm, ?_⟩, same.list.trans deserted.list, deserted.master,
      fun c mem u here held => ?_, fun p mem => ?_⟩
    · rw [deserted.list]
    · exact deserted.grid c mem u (same.grid ▸ here) ((same.held u).mp held)
    · rw [deserted.list] at mem
      cases mem

/-- The duel of player 1, its own battle master. -/
def duelling : Battlefield := ⟨Engine.duel, 1, fun p => if p = 1 then some 1 else none, []⟩

/-- The only player leaves, and the loop goes on from its place in the list. -/
theorem not_battleStop_releases : ¬∀ (gains : Nat → Gain) (s : Battlefield), Sat (s.battleStop gains) (Released s) := by
  intro releases
  obtain ⟨s', run, -⟩ := sat_iff.mp (releases (fun _ => ⟨100, 100, 20⟩) duelling)
  have empty := (battleStop_ok_iff _ (by decide)).mp ⟨s', run⟩
  exact absurd empty (List.cons_ne_nil 1 [])

end Battlefield

end Legacy.Battle
