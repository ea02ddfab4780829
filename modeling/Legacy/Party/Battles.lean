import Legacy.Battle.Release
import Legacy.Party.World

/-!
# Who fights where

That a player is in a battle is stored in the list of the battle, in its grid, in the battle master of the
player and in the battle class of the master. `oneBattle_of_reaches` says that these agree, and that nobody
is in two battles or cells, in every state of a run in which a battle starts with different players that are
in no battle, and no battle is handed over to a player that has one of its own with players in it.
-/

namespace Legacy.Party
open Legacy.Lib

/-- What a player stores about battles. -/
structure Post where
  battleMaster : Option Nat
  playerBattleClass : Option Nat
  battlePet : Option Nat

/-- What a player knows of its battle. -/
def Player.post (p : Player) : Post := ⟨p.battleMaster, p.playerBattleClass, p.battlePet⟩

/-- What the players know of their battles. -/
def World.posts (w : World) (guid : Nat) : Option Post := (w.players guid).map Player.post

/-- Who stands in a cell is in the list, and creatures stand where they were made. -/
def Owned (posts : Nat → Option Post) (b : Nat) (B : BattleSystem) (c r : Nat) : BattleUnit → Prop
  | .player g => g ∈ B.playerList
  | .pet g slot => g ∈ B.playerList ∧ ∃ p, posts g = some p ∧ p.battlePet = some slot
  | .creature b' c' r' => b' = b ∧ c' = c ∧ r' = r

/-- All places where a battle is stored agree, but for those of a player that is leaving. -/
structure Fights (leaving : Option Nat) (posts : Nat → Option Post) (battles : Nat → Option BattleSystem) :
    Prop where
  driver : ∀ b B q, battles b = some B → q ∈ B.playerList →
    ∃ m, posts B.master = some m ∧ m.playerBattleClass = some b
  engine : ∀ g p b, posts g = some p → p.playerBattleClass = some b → leaving ≠ some g →
    ∃ B, battles b = some B ∧ B.master = g
  listed : ∀ b B g, battles b = some B → g ∈ B.playerList →
    ∃ p, posts g = some p ∧ p.battleMaster = some B.master
  joined : ∀ g p m, posts g = some p → p.battleMaster = some m → leaving ≠ some g →
    ∃ b B, battles b = some B ∧ g ∈ B.playerList
  owned : ∀ b B c r u, battles b = some B → B.battleUnit c r = some u → Owned posts b B c r u
  alone : ∀ b B c r c' r' u, battles b = some B → B.battleUnit c r = some u → B.battleUnit c' r' = some u →
    c = c' ∧ r = r'

namespace Fights

variable {leaving : Option Nat} {posts : Nat → Option Post} {battles : Nat → Option BattleSystem}

/-- Only the posts and the battles matter. -/
lemma congr {posts' : Nat → Option Post} {battles' : Nat → Option BattleSystem} (samePosts : posts' = posts)
    (sameBattles : battles' = battles) (fights : Fights leaving posts battles) :
    Fights leaving posts' battles' := by
  rwa [samePosts, sameBattles]

/-- Nobody is in two lists. -/
lemma list_unique (fights : Fights leaving posts battles) {g b b' : Nat} {B B' : BattleSystem}
    (there : battles b = some B) (there' : battles b' = some B') (mem : g ∈ B.playerList)
    (mem' : g ∈ B'.playerList) : b = b' := by
  obtain ⟨p, live, master⟩ := fights.listed b B g there mem
  obtain ⟨p', live', master'⟩ := fights.listed b' B' g there' mem'
  cases live.symm.trans live'
  obtain ⟨m, here, class_⟩ := fights.driver b B g there mem
  obtain ⟨m', here', class'⟩ := fights.driver b' B' g there' mem'
  have same : B.master = B'.master := Option.some.inj (master.symm.trans master')
  rw [same] at here
  cases here.symm.trans here'
  exact Option.some.inj (class_.symm.trans class')

/-- Who has no battle master is in no list. -/
lemma not_mem (fights : Fights leaving posts battles) {g b : Nat} {p : Post} {B : BattleSystem}
    (live : posts g = some p) (none : p.battleMaster = none) (there : battles b = some B) :
    g ∉ B.playerList := by
  intro mem
  obtain ⟨p', live', master⟩ := fights.listed b B g there mem
  cases live.symm.trans live'
  cases none.symm.trans master

/-- Nobody stands in two cells. -/
lemma cell_unique (fights : Fights leaving posts battles) {b b' c c' r r' : Nat} {B B' : BattleSystem}
    {u : BattleUnit} (there : battles b = some B) (there' : battles b' = some B')
    (cell : B.battleUnit c r = some u) (cell' : B'.battleUnit c' r' = some u) : b = b' ∧ c = c' ∧ r = r' := by
  have same : b = b' := by
    have here := fights.owned b B c r u there cell
    have here' := fights.owned b' B' c' r' u there' cell'
    cases u with
    | player g => exact fights.list_unique there there' here here'
    | pet g slot => exact fights.list_unique there there' here.1 here'.1
    | creature b₀ c₀ r₀ => exact here.1.symm.trans here'.1
  subst same
  cases there.symm.trans there'
  exact ⟨rfl, fights.alone b B c r c' r' u there cell cell'⟩

end Fights

/-- A post that is changed is the new one or an old one. -/
lemma post_update {posts : Nat → Option Post} {g x : Nat} {q : Post} (p' : Post) (there : posts x = some q) :
    ∃ q', Function.update posts g (some p') x = some q' ∧ (x = g ∧ q' = p' ∨ x ≠ g ∧ q' = q) := by
  rcases eq_or_ne x g with rfl | ne
  · exact ⟨p', Function.update_self .., Or.inl ⟨rfl, rfl⟩⟩
  · exact ⟨q, (Function.update_of_ne ne ..).trans there, Or.inr ⟨ne, rfl⟩⟩

section Posts

variable {posts : Nat → Option Post} {g x : Nat} {p q : Post} (R : Post → Post → Prop) (p' : Post)

/-- What holds between a post and its change holds between all posts before and after. -/
lemma post_after (live : posts g = some p) (refl : ∀ q, R q q) (changed : R p p') (there : posts x = some q) :
    ∃ q', Function.update posts g (some p') x = some q' ∧ R q q' := by
  obtain ⟨q', here, ⟨rfl, rfl⟩ | ⟨-, rfl⟩⟩ := post_update (g := g) p' there
  · cases live.symm.trans there
    exact ⟨_, here, changed⟩
  · exact ⟨_, here, refl _⟩

/-- After a change of one post, every post comes from the one before. -/
lemma post_before (live : posts g = some p) (refl : ∀ q, R q q) (changed : R p p')
    (there : Function.update posts g (some p') x = some q) : ∃ q₀, posts x = some q₀ ∧ R q₀ q := by
  rcases update_eq_some.mp there with ⟨rfl, new⟩ | ⟨-, same⟩
  · cases new
    exact ⟨p, live, changed⟩
  · exact ⟨q, same, refl q⟩

end Posts

/-- A unit is a player or its battle pet. -/
def StandsFor (posts : Nat → Option Post) (g : Nat) (u : BattleUnit) : Prop :=
  u = .player g ∨ ∃ p slot, posts g = some p ∧ p.battlePet = some slot ∧ u = .pet g slot

/-- A unit keeps its owner when the owner keeps its place in the list and its battle pet. -/
lemma Owned.mono {posts posts' : Nat → Option Post} {b c r : Nat} {B B' : BattleSystem} {u : BattleUnit}
    (here : Owned posts b B c r u) (list : ∀ g ∈ B.playerList, StandsFor posts g u → g ∈ B'.playerList)
    (pets : ∀ g ∈ B.playerList, ∀ p, posts g = some p → ∃ p', posts' g = some p' ∧ p'.battlePet = p.battlePet) :
    Owned posts' b B' c r u := by
  cases u with
  | player g => exact list g here (Or.inl rfl)
  | pet g slot =>
    obtain ⟨mem, p, live, pet⟩ := here
    obtain ⟨p', live', same⟩ := pets g mem p live
    exact ⟨list g mem (Or.inr ⟨p, slot, live, pet, rfl⟩), p', live', same.trans pet⟩
  | creature b₀ c₀ r₀ => exact here

namespace Fights

variable {leaving : Option Nat} {posts : Nat → Option Post} {battles : Nat → Option BattleSystem}

/-- What is left in a battle was in it, and in the one that the player leaves it is not the player's. -/
lemma erase_before {g b b' : Nat} {pet : Option Nat} {B B' : BattleSystem} (there : battles b = some B)
    (there' : Function.update battles b (some (B.erase g pet)) b' = some B') :
    ∃ B₀, battles b' = some B₀ ∧ B'.master = B₀.master ∧
      (∀ q, q ∈ B'.playerList ↔ q ∈ B₀.playerList ∧ (b' = b → q ≠ g)) ∧
      ∀ c r u, B'.battleUnit c r = some u →
        B₀.battleUnit c r = some u ∧ (b' = b → ¬ BattleSystem.Belongs g pet u) := by
  rcases update_eq_some.mp there' with ⟨rfl, new⟩ | ⟨ne, eq⟩
  · cases new
    refine ⟨B, there, rfl, fun q => ?_, fun c r u cell => ?_⟩
    · rw [BattleSystem.erase, List.mem_filter, decide_eq_true_eq]
      exact and_congr_right fun _ => ⟨fun ne _ => ne, fun ne => ne rfl⟩
    · obtain ⟨cell, out⟩ := Option.filter_eq_some_iff.mp cell
      exact ⟨cell, fun _ => of_decide_eq_true out⟩
  · exact ⟨B', eq, rfl, fun q => ⟨fun mem => ⟨mem, fun same => absurd same ne⟩, And.left⟩,
      fun c r u cell => ⟨cell, fun same => absurd same ne⟩⟩

/-- Every other member of a battle stays in its list. -/
lemma erase_after {g b b' q : Nat} {pet : Option Nat} {B B₀ : BattleSystem} (there : battles b = some B)
    (there₀ : battles b' = some B₀) (mem : q ∈ B₀.playerList) (ne : b' = b → q ≠ g) :
    ∃ B', Function.update battles b (some (B.erase g pet)) b' = some B' ∧ q ∈ B'.playerList := by
  rcases eq_or_ne b' b with rfl | other
  · cases there.symm.trans there₀
    exact ⟨_, Function.update_self .., List.mem_filter.mpr ⟨mem, decide_eq_true (ne rfl)⟩⟩
  · exact ⟨B₀, (Function.update_of_ne other ..).trans there₀, mem⟩

/-- Only the battle that the player enters gains, and only the player and its pet. -/
lemma place_before {g b b' col petCol row : Nat} {pet : Option Nat} {B B' : BattleSystem} (there : battles b = some B)
    (there' : Function.update battles b (some ((B.place g pet col petCol row).insert g)) b' = some B') :
    ∃ B₀, battles b' = some B₀ ∧ B'.master = B₀.master ∧
      (∀ q, q ∈ B'.playerList ↔ q ∈ B₀.playerList ∨ b' = b ∧ q = g) ∧
      ∀ c r u, B'.battleUnit c r = some u → B₀.battleUnit c r = some u ∨
        b' = b ∧ (u = .player g ∧ c = col ∧ r = row ∨
          ∃ slot, pet = some slot ∧ u = .pet g slot ∧ c = petCol ∧ r = row) := by
  rcases update_eq_some.mp there' with ⟨rfl, new⟩ | ⟨ne, same⟩
  · cases new
    refine ⟨B, there, B.place_master .., fun q => ?_, fun c r u cell => ?_⟩
    · rw [BattleSystem.mem_insert, BattleSystem.place_playerList]
      exact or_congr_right ⟨fun eq => ⟨rfl, eq⟩, And.right⟩
    · rcases BattleSystem.place_cases cell with player | pet | cell
      · exact Or.inr ⟨rfl, Or.inl player⟩
      · exact Or.inr ⟨rfl, Or.inr pet⟩
      · exact Or.inl cell
  · exact ⟨B', same, rfl, fun q => ⟨Or.inl, fun alt => alt.elim id fun new => absurd new.1 ne⟩,
      fun c r u cell => Or.inl cell⟩

/-- Who is not in the list of a battle has neither itself nor a pet in a cell of it. -/
lemma not_in_cell (fights : Fights leaving posts battles) {g b c r : Nat} {B : BattleSystem} {u : BattleUnit}
    (out : g ∉ B.playerList) (there : battles b = some B) (cell : B.battleUnit c r = some u) :
    u ≠ .player g ∧ ∀ slot, u ≠ .pet g slot := by
  have here := fights.owned b B c r u there cell
  refine ⟨?_, fun slot => ?_⟩
  · rintro rfl
    exact out here
  · rintro rfl
    exact out here.1

/-- A player leaves a battle, whether it is in it or not. -/
lemma leave (fights : Fights leaving posts battles) {g b : Nat} {p : Post} {B : BattleSystem}
    (live : posts g = some p) (there : battles b = some B) :
    Fights leaving
      (Function.update posts g (some { p with
        battleMaster := if g ∈ B.playerList then none else p.battleMaster }))
      (Function.update battles b (some (B.erase g p.battlePet))) := by
  obtain ⟨p', p'Eq⟩ : ∃ p', p' = ({ p with
    battleMaster := if g ∈ B.playerList then none else p.battleMaster } : Post) := ⟨_, rfl⟩
  have master : p'.battleMaster = if g ∈ B.playerList then none else p.battleMaster := by rw [p'Eq]
  have changed : p'.playerBattleClass = p.playerBattleClass ∧ p'.battlePet = p.battlePet := by
    rw [p'Eq]
    exact ⟨rfl, rfl⟩
  have after {x : Nat} {q : Post} (here : posts x = some q) :=
    post_after (fun q q' => q'.playerBattleClass = q.playerBattleClass ∧ q'.battlePet = q.battlePet) p' live
      (fun _ => ⟨rfl, rfl⟩) changed here
  rw [← p'Eq]
  refine ⟨fun b' B' q eq mem => ?driver, fun x q b' here eq stays => ?engine, fun b' B' q eq mem => ?listed,
    fun q q' m here eq stays => ?joined, fun b' B' c r u eq cell => ?owned,
    fun b' B' c r c' r' u eq cell cell' => ?alone⟩
  case driver =>
    obtain ⟨B₀, eq, same, list, -⟩ := erase_before there eq
    obtain ⟨m, here, class_⟩ := fights.driver b' B₀ q eq ((list q).mp mem).1
    obtain ⟨m', here', class', -⟩ := after here
    exact ⟨m', same ▸ here', class'.trans class_⟩
  case engine =>
    obtain ⟨q₀, here, class_⟩ := post_before (fun q q' => q'.playerBattleClass = q.playerBattleClass) p' live
      (fun _ => rfl) changed.1 here
    obtain ⟨B₀, there', same⟩ := fights.engine x q₀ b' here (class_.symm.trans eq) stays
    rcases eq_or_ne b' b with rfl | ne
    · cases there.symm.trans there'
      exact ⟨_, Function.update_self .., same⟩
    · exact ⟨B₀, (Function.update_of_ne ne ..).trans there', same⟩
  case listed =>
    obtain ⟨B₀, there', same, list, -⟩ := erase_before there eq
    obtain ⟨mem', ne⟩ := (list q).mp mem
    obtain ⟨q₀, here, master'⟩ := fights.listed b' B₀ q there' mem'
    obtain ⟨q', here', ⟨rfl, rfl⟩ | ⟨-, rfl⟩⟩ := post_update (g := g) p' here
    · cases live.symm.trans here
      refine ⟨_, here', ?_⟩
      -- the player is in another list, so not in the one it leaves
      have out : q ∉ B.playerList := fun both => ne (fights.list_unique there' there mem' both) rfl
      rw [master, if_neg out, master', same]
    · exact ⟨_, here', same ▸ master'⟩
  case joined =>
    have before : ∃ q₀, posts q = some q₀ ∧ q₀.battleMaster = some m ∧ (q = g → g ∉ B.playerList) := by
      rcases update_eq_some.mp here with ⟨rfl, changed⟩ | ⟨ne, unchanged⟩
      · cases changed
        rw [master] at eq
        split at eq
        · cases eq
        · rename_i out
          exact ⟨p, live, eq, fun _ => out⟩
      · exact ⟨q', unchanged, eq, fun same => absurd same ne⟩
    obtain ⟨q₀, here, eq, out⟩ := before
    obtain ⟨b', B₀, there', mem⟩ := fights.joined q q₀ m here eq stays
    have other : b' = b → q ≠ g := by
      rintro rfl rfl
      cases there.symm.trans there'
      exact out rfl mem
    obtain ⟨B', there', mem'⟩ := erase_after there there' mem other
    exact ⟨b', B', there', mem'⟩
  case owned =>
    obtain ⟨B₀, eq, -, list, units⟩ := erase_before there eq
    obtain ⟨cell, out⟩ := units c r u cell
    refine (fights.owned b' B₀ c r u eq cell).mono (fun q mem stands => (list q).mpr ⟨mem, fun same => ?_⟩) ?_
    · rintro rfl
      refine out same (stands.imp id ?_)
      rintro ⟨q₀, slot, here, pet, rfl⟩
      cases live.symm.trans here
      exact ⟨slot, pet, rfl⟩
    · intro q mem q₀ here
      obtain ⟨q', here', -, pet⟩ := after here
      exact ⟨q', here', pet⟩
  case alone =>
    obtain ⟨B₀, eq, -, -, units⟩ := erase_before there eq
    exact fights.alone b' B₀ c r c' r' u eq (units c r u cell).1 (units c' r' u cell').1

/-- A player that is in no battle takes a place. -/
lemma seat (fights : Fights none posts battles) (col petCol row : Nat) {g b : Nat} {p m : Post}
    {B : BattleSystem} (live : posts g = some p) (free : p.battleMaster = none) (there : battles b = some B)
    (driver : posts B.master = some m) (class_ : m.playerBattleClass = some b) :
    Fights none (Function.update posts g (some { p with battleMaster := some B.master }))
      (Function.update battles b (some ((B.place g p.battlePet col petCol row).insert g))) := by
  have out : ∀ b' B', battles b' = some B' → g ∉ B'.playerList := fun b' B' => fights.not_mem live free
  obtain ⟨p', p'Eq⟩ : ∃ p', p' = ({ p with battleMaster := some B.master } : Post) := ⟨_, rfl⟩
  have changed : p'.playerBattleClass = p.playerBattleClass ∧ p'.battlePet = p.battlePet := by
    rw [p'Eq]
    exact ⟨rfl, rfl⟩
  have after {x : Nat} {q : Post} (here : posts x = some q) :=
    post_after (fun q q' => q'.playerBattleClass = q.playerBattleClass ∧ q'.battlePet = q.battlePet) p' live
      (fun _ => ⟨rfl, rfl⟩) changed here
  rw [← p'Eq]
  refine ⟨fun b' B' q there' mem => ?driver, fun x q b' here eq _ => ?engine, fun b' B' q there' mem => ?listed,
    fun q q' m' here eq _ => ?joined, fun b' B' c r u there' cell => ?owned,
    fun b' B' c r c' r' u there' cell cell' => ?alone⟩
  case driver =>
    obtain ⟨B₀, there₀, same, list, -⟩ := place_before there there'
    rw [same]
    rcases (list q).mp mem with mem | ⟨rfl, -⟩
    · obtain ⟨m₀, here, class₀⟩ := fights.driver b' B₀ q there₀ mem
      obtain ⟨m', here', class', -⟩ := after here
      exact ⟨m', here', class'.trans class₀⟩
    · cases there.symm.trans there₀
      obtain ⟨m', driver', class', -⟩ := after driver
      exact ⟨m', driver', class'.trans class_⟩
  case engine =>
    obtain ⟨q₀, here, class'⟩ := post_before (fun q q' => q'.playerBattleClass = q.playerBattleClass) p' live
      (fun _ => rfl) changed.1 here
    obtain ⟨B₀, there₀, same⟩ := fights.engine x q₀ b' here (class'.symm.trans eq) nofun
    rcases eq_or_ne b' b with rfl | ne
    · cases there.symm.trans there₀
      exact ⟨_, Function.update_self .., (B.place_master ..).trans same⟩
    · exact ⟨B₀, (Function.update_of_ne ne ..).trans there₀, same⟩
  case listed =>
    obtain ⟨B₀, there₀, same, list, -⟩ := place_before there there'
    rw [same]
    rcases (list q).mp mem with mem | ⟨rfl, rfl⟩
    · obtain ⟨q₀, here, master⟩ := fights.listed b' B₀ q there₀ mem
      obtain ⟨q', here', ⟨rfl, -⟩ | ⟨-, rfl⟩⟩ := post_update (g := g) p' here
      · exact absurd mem (out b' B₀ there₀)
      · exact ⟨_, here', master⟩
    · cases there.symm.trans there₀
      exact ⟨p', Function.update_self .., by rw [p'Eq]⟩
  case joined =>
    rcases update_eq_some.mp here with ⟨rfl, -⟩ | ⟨-, same⟩
    · exact ⟨b, _, Function.update_self .., BattleSystem.mem_insert.mpr (Or.inr rfl)⟩
    · obtain ⟨b', B₀, there₀, mem⟩ := fights.joined q q' m' same eq nofun
      rcases eq_or_ne b' b with rfl | ne
      · cases there.symm.trans there₀
        refine ⟨b', _, Function.update_self .., BattleSystem.mem_insert.mpr (Or.inl ?_)⟩
        rwa [BattleSystem.place_playerList]
      · exact ⟨b', B₀, (Function.update_of_ne ne ..).trans there₀, mem⟩
  case owned =>
    obtain ⟨B₀, there₀, -, list, units⟩ := place_before there there'
    rcases units c r u cell with cell | ⟨rfl, ⟨rfl, -⟩ | ⟨slot, pet, rfl, -⟩⟩
    · refine (fights.owned b' B₀ c r u there₀ cell).mono (fun q mem _ => (list q).mpr (Or.inl mem)) ?_
      intro q _ q₀ here
      obtain ⟨q', here', -, pet⟩ := after here
      exact ⟨q', here', pet⟩
    · exact (list g).mpr (Or.inr ⟨rfl, rfl⟩)
    · exact ⟨(list g).mpr (Or.inr ⟨rfl, rfl⟩), p', Function.update_self .., by rwa [p'Eq]⟩
  case alone =>
    obtain ⟨B₀, there₀, -, -, units⟩ := place_before there there'
    have fresh {c r : Nat} {u : BattleUnit} := fights.not_in_cell (out b' B₀ there₀) there₀ (c := c) (r := r) (u := u)
    rcases units c r u cell with cell | ⟨-, ⟨rfl, rfl, rfl⟩ | ⟨slot, pet, rfl, rfl, rfl⟩⟩
    · rcases units c' r' u cell' with cell' | ⟨-, ⟨rfl, -⟩ | ⟨slot, -, rfl, -⟩⟩
      · exact fights.alone b' B₀ c r c' r' u there₀ cell cell'
      · exact absurd rfl (fresh cell).1
      · exact absurd rfl ((fresh cell).2 slot)
    · rcases units c' r' _ cell' with cell' | ⟨-, ⟨-, rfl, rfl⟩ | ⟨slot, -, eq, -⟩⟩
      · exact absurd rfl (fresh cell').1
      · exact ⟨rfl, rfl⟩
      · cases eq
    · rcases units c' r' _ cell' with cell' | ⟨-, ⟨eq, -⟩ | ⟨slot', -, -, rfl, rfl⟩⟩
      · exact absurd rfl ((fresh cell').2 slot)
      · cases eq
      · exact ⟨rfl, rfl⟩

/-- A player without a battle starts one. -/
lemma start (fights : Fights none posts battles) {g b : Nat} {p : Post}
    {units : Nat → Nat → Option BattleUnit} (live : posts g = some p) (none : p.playerBattleClass = none)
    (new : battles b = Option.none) (creatures : ∀ c r u, units c r = some u → u = .creature b c r) :
    Fights Option.none (Function.update posts g (some { p with playerBattleClass := some b }))
      (Function.update battles b (some ⟨g, [], units⟩)) := by
  have kept {x : Nat} {q : Post} (here : posts x = some q) :=
    post_after (fun q q' => q'.battleMaster = q.battleMaster ∧ q'.battlePet = q.battlePet ∧
        ∀ b', q.playerBattleClass = some b' → q'.playerBattleClass = some b')
      { p with playerBattleClass := some b } live (fun _ => ⟨rfl, rfl, fun _ => id⟩)
      ⟨rfl, rfl, fun _ eq => nomatch none.symm.trans eq⟩ here
  refine ⟨fun b' B' q there mem => ?driver, fun x q b' here eq _ => ?engine, fun b' B' q there mem => ?listed,
    fun q q' m here eq _ => ?joined, fun b' B' c r u there cell => ?owned,
    fun b' B' c r c' r' u there cell cell' => ?alone⟩
  case driver =>
    rcases update_eq_some.mp there with ⟨rfl, made⟩ | ⟨-, same⟩
    · cases made
      cases mem
    · obtain ⟨m, here, class_⟩ := fights.driver b' B' q same mem
      obtain ⟨m', here', -, -, class'⟩ := kept here
      exact ⟨m', here', class' b' class_⟩
  case engine =>
    rcases update_eq_some.mp here with ⟨rfl, changed⟩ | ⟨-, same⟩
    · cases changed
      cases eq
      exact ⟨_, Function.update_self .., rfl⟩
    · obtain ⟨B, there, master⟩ := fights.engine x q b' same eq nofun
      exact ⟨B, update_of_absent new there, master⟩
  case listed =>
    rcases update_eq_some.mp there with ⟨rfl, made⟩ | ⟨-, same⟩
    · cases made
      cases mem
    · obtain ⟨q₀, here, master⟩ := fights.listed b' B' q same mem
      obtain ⟨q', here', master', -⟩ := kept here
      exact ⟨q', here', master'.trans master⟩
  case joined =>
    obtain ⟨q₀, here, master⟩ := post_before (fun q q' => q'.battleMaster = q.battleMaster)
      { p with playerBattleClass := some b } live (fun _ => rfl) rfl here
    obtain ⟨b', B, there, mem⟩ := fights.joined q q₀ m here (master.symm.trans eq) nofun
    exact ⟨b', B, update_of_absent new there, mem⟩
  case owned =>
    rcases update_eq_some.mp there with ⟨rfl, made⟩ | ⟨-, same⟩
    · cases made
      cases creatures c r u cell
      exact ⟨rfl, rfl, rfl⟩
    · refine (fights.owned b' B' c r u same cell).mono (fun q mem _ => mem) fun q _ q₀ here => ?_
      obtain ⟨q', here', -, pet, -⟩ := kept here
      exact ⟨q', here', pet⟩
  case alone =>
    rcases update_eq_some.mp there with ⟨rfl, made⟩ | ⟨-, same⟩
    · cases made
      cases creatures c r u cell
      cases creatures c' r' _ cell'
      exact ⟨rfl, rfl⟩
    · exact fights.alone b' B' c r c' r' u same cell cell'

/-- The battle of a player is deleted. Whoever is still in it is leaving. -/
lemma discard (fights : Fights none posts battles) {leaving : Option Nat} {g b : Nat} {p : Post}
    {B : BattleSystem} (live : posts g = some p) (own : p.playerBattleClass = some b) (there : battles b = some B)
    (empty : ∀ q ∈ B.playerList, leaving = some q) :
    Fights leaving (Function.update posts g (some { p with playerBattleClass := none }))
      (Function.update battles b none) := by
  have kept {x : Nat} {q : Post} (here : posts x = some q) :=
    post_after (fun q q' => q'.battleMaster = q.battleMaster ∧ q'.battlePet = q.battlePet ∧
        ∀ b', b' ≠ b → q.playerBattleClass = some b' → q'.playerBattleClass = some b')
      { p with playerBattleClass := none } live (fun _ => ⟨rfl, rfl, fun _ _ => id⟩)
      ⟨rfl, rfl, fun _ ne eq => absurd (Option.some.inj (own.symm.trans eq)).symm ne⟩ here
  refine ⟨fun b' B' q there' mem => ?driver, fun x q b' here eq _ => ?engine, fun b' B' q there' mem => ?listed,
    fun q q' m here eq stays => ?joined, fun b' B' c r u there' cell => ?owned,
    fun b' B' c r c' r' u there' cell cell' => ?alone⟩
  case driver =>
    obtain ⟨ne, there'⟩ := erase_eq_some.mp there'
    obtain ⟨m, here, class_⟩ := fights.driver b' B' q there' mem
    obtain ⟨m', here', -, -, class'⟩ := kept here
    exact ⟨m', here', class' b' ne class_⟩
  case engine =>
    rcases update_eq_some.mp here with ⟨rfl, changed⟩ | ⟨ne, same⟩
    · cases changed
      cases eq
    · obtain ⟨B', there', master⟩ := fights.engine x q b' same eq nofun
      refine ⟨B', erase_eq_some.mpr ⟨?_, there'⟩, master⟩
      rintro rfl
      obtain ⟨B₀, there₀, master₀⟩ := fights.engine g p b' live own nofun
      cases there'.symm.trans there₀
      exact ne (master.symm.trans master₀)
  case listed =>
    obtain ⟨-, there'⟩ := erase_eq_some.mp there'
    obtain ⟨q₀, here, master⟩ := fights.listed b' B' q there' mem
    obtain ⟨q', here', master', -⟩ := kept here
    exact ⟨q', here', master'.trans master⟩
  case joined =>
    obtain ⟨q₀, here, master⟩ := post_before (fun q q' => q'.battleMaster = q.battleMaster)
      { p with playerBattleClass := none } live (fun _ => rfl) rfl here
    obtain ⟨b', B', there', mem⟩ := fights.joined q q₀ m here (master.symm.trans eq) nofun
    refine ⟨b', B', erase_eq_some.mpr ⟨?_, there'⟩, mem⟩
    rintro rfl
    cases there.symm.trans there'
    exact stays (empty q mem)
  case owned =>
    obtain ⟨-, there'⟩ := erase_eq_some.mp there'
    refine (fights.owned b' B' c r u there' cell).mono (fun q mem _ => mem) fun q _ q₀ here => ?_
    obtain ⟨q', here', -, pet, -⟩ := kept here
    exact ⟨q', here', pet⟩
  case alone => exact fights.alone b' B' c r c' r' u (erase_eq_some.mp there').2 cell cell'

/-- Nobody else's place depends on the player that is leaving: it is the master of no battle with players. -/
structure Freed (g : Nat) (posts : Nat → Option Post) (battles : Nat → Option BattleSystem) : Prop where
  fights : Fights (some g) posts battles
  masterless : ∀ b B q, battles b = some B → q ∈ B.playerList → B.master ≠ g

/-- A player without a battle of its own is the master of no one. -/
lemma freed (fights : Fights none posts battles) {g : Nat} (own : ∀ p ∈ posts g, p.playerBattleClass = none) :
    Freed g posts battles := by
  refine ⟨⟨fights.driver, fun x q b here eq _ => fights.engine x q b here eq nofun, fights.listed,
    fun q q' m here eq _ => fights.joined q q' m here eq nofun, fights.owned, fights.alone⟩, ?_⟩
  rintro b B q there mem rfl
  obtain ⟨m, here, class_⟩ := fights.driver b B q there mem
  cases (own m here).symm.trans class_

/-- A master that goes hands its battle over to a player of the list that is not needed elsewhere. -/
lemma promote (fights : Fights none posts battles) {g b master : Nat} {p : Post} {B : BattleSystem}
    (live : posts g = some p) (own : p.playerBattleClass = some b) (there : battles b = some B)
    (mem : master ∈ B.playerList) (other : master ≠ B.master)
    (idle : ∀ m ∈ posts master, ∀ b' ∈ m.playerBattleClass, ∀ B' ∈ battles b', B'.playerList = []) :
    Freed g
      (fun x => (posts x).map fun q => { q with
        playerBattleClass := if x = master then some b else q.playerBattleClass
        battleMaster := if x ∈ B.playerList then some master else q.battleMaster })
      (Function.update battles b (some { B with master })) := by
  obtain ⟨B₀, there₀, lead⟩ := fights.engine g p b live own nofun
  cases there.symm.trans there₀
  obtain ⟨m, masterLive, -⟩ := fights.listed b B master there mem
  have old : ∀ b' B', Function.update battles b (some { B with master }) b' = some B' →
      b' = b ∧ B' = { B with master } ∨ b' ≠ b ∧ battles b' = some B' := by
    intro b' B' eq
    rcases update_eq_some.mp eq with ⟨same, new⟩ | kept
    · exact Or.inl ⟨same, (Option.some.inj new).symm⟩
    · exact Or.inr kept
  -- the new master has no other battle with players
  have driver : ∀ b' B' q, b' ≠ b → battles b' = some B' → q ∈ B'.playerList →
      B'.master ≠ master ∧ ∃ m', posts B'.master = some m' ∧ m'.playerBattleClass = some b' := by
    intro b' B' q ne there' mem'
    obtain ⟨m', here, class_⟩ := fights.driver b' B' q there' mem'
    refine ⟨?_, m', here, class_⟩
    rintro rfl
    rw [idle m' here b' class_ B' there'] at mem'
    cases mem'
  refine ⟨⟨fun b' B' q there' mem' => ?driver, fun x q b' here eq stays => ?engine, fun b' B' q there' mem' => ?listed,
    fun q q' m' here eq stays => ?joined, fun b' B' c r u there' cell => ?owned,
    fun b' B' c r c' r' u there' cell cell' => ?alone⟩, fun b' B' q there' mem' => ?masterless⟩
  case driver =>
    rcases old b' B' there' with ⟨rfl, rfl⟩ | ⟨ne, same⟩
    · exact ⟨_, Option.map_eq_some_iff.mpr ⟨m, masterLive, rfl⟩, if_pos rfl⟩
    · obtain ⟨ne', m', here, class_⟩ := driver b' B' q ne same mem'
      exact ⟨_, Option.map_eq_some_iff.mpr ⟨m', here, rfl⟩, (if_neg ne').trans class_⟩
  case engine =>
    obtain ⟨q₀, before, rfl⟩ := Option.map_eq_some_iff.mp here
    dsimp only at eq
    split at eq
    · rename_i same
      cases eq
      exact ⟨_, Function.update_self .., same.symm⟩
    · obtain ⟨B', there', lead'⟩ := fights.engine x q₀ b' before eq nofun
      refine ⟨B', update_eq_some.mpr (Or.inr ⟨?_, there'⟩), lead'⟩
      rintro rfl
      cases there.symm.trans there'
      exact stays (congrArg some (lead.symm.trans lead'))
  case listed =>
    rcases old b' B' there' with ⟨rfl, rfl⟩ | ⟨ne, same⟩
    · obtain ⟨q₀, here, -⟩ := fights.listed b' B q there mem'
      exact ⟨_, Option.map_eq_some_iff.mpr ⟨q₀, here, rfl⟩, if_pos mem'⟩
    · obtain ⟨q₀, here, eq⟩ := fights.listed b' B' q same mem'
      have out : q ∉ B.playerList := fun both => ne (fights.list_unique same there mem' both)
      exact ⟨_, Option.map_eq_some_iff.mpr ⟨q₀, here, rfl⟩, (if_neg out).trans eq⟩
  case joined =>
    obtain ⟨q₀, before, rfl⟩ := Option.map_eq_some_iff.mp here
    dsimp only at eq
    split at eq
    · rename_i listed
      exact ⟨b, _, Function.update_self .., listed⟩
    · rename_i out
      obtain ⟨b', B', there', mem'⟩ := fights.joined q q₀ m' before eq nofun
      refine ⟨b', B', update_eq_some.mpr (Or.inr ⟨?_, there'⟩), mem'⟩
      rintro rfl
      cases there.symm.trans there'
      exact out mem'
  case owned =>
    have here : ∃ B₀ : BattleSystem, battles b' = some B₀ ∧ B'.playerList = B₀.playerList ∧
        B'.battleUnit = B₀.battleUnit := by
      rcases old b' B' there' with ⟨rfl, rfl⟩ | ⟨-, same⟩
      · exact ⟨B, there, rfl, rfl⟩
      · exact ⟨B', same, rfl, rfl⟩
    obtain ⟨B₀, there₀, list, units⟩ := here
    refine (fights.owned b' B₀ c r u there₀ (units ▸ cell)).mono (fun q mem' _ => list.symm ▸ mem') ?_
    exact fun q _ q₀ here => ⟨_, Option.map_eq_some_iff.mpr ⟨q₀, here, rfl⟩, rfl⟩
  case alone =>
    rcases old b' B' there' with ⟨rfl, rfl⟩ | ⟨-, same⟩
    · exact fights.alone b' B c r c' r' u there cell cell'
    · exact fights.alone b' B' c r c' r' u same cell cell'
  case masterless =>
    rcases old b' B' there' with ⟨rfl, rfl⟩ | ⟨ne, same⟩
    · exact fun eq => other (eq.trans lead.symm)
    · intro eq
      obtain ⟨m', here, class_⟩ := fights.driver b' B' q same mem'
      rw [eq] at here
      cases live.symm.trans here
      exact ne (Option.some.inj (class_.symm.trans own))

/-- Only the posts and the battles matter. -/
lemma Freed.congr {g : Nat} {posts' : Nat → Option Post} {battles' : Nat → Option BattleSystem}
    (samePosts : posts' = posts) (sameBattles : battles' = battles) (freed : Freed g posts battles) :
    Freed g posts' battles' := by
  rwa [samePosts, sameBattles]

/-- What a player that is in no list and masters none stores does not matter. -/
lemma Freed.release {g : Nat} (freed : Freed g posts battles)
    (out : ∀ b B, battles b = some B → g ∉ B.playerList) (new : Option Post) :
    Freed g (Function.update posts g new) battles := by
  have fights := freed.fights
  refine ⟨⟨fun b B q there mem => ?driver, fun x q b here eq stays => ?engine, fun b B q there mem => ?listed,
    fun q q' m here eq stays => ?joined, fun b B c r u there cell => ?owned, fights.alone⟩, freed.masterless⟩
  case driver =>
    rw [Function.update_of_ne (freed.masterless b B q there mem)]
    exact fights.driver b B q there mem
  case engine =>
    rcases update_eq_some.mp here with ⟨rfl, -⟩ | ⟨-, same⟩
    · exact absurd rfl stays
    · exact fights.engine x q b same eq stays
  case listed =>
    rw [Function.update_of_ne (by rintro rfl; exact out b B there mem)]
    exact fights.listed b B q there mem
  case joined =>
    rcases update_eq_some.mp here with ⟨rfl, -⟩ | ⟨-, same⟩
    · exact absurd rfl stays
    · exact fights.joined q q' m same eq stays
  case owned =>
    refine (fights.owned b B c r u there cell).mono (fun q mem _ => mem) fun q mem q₀ here => ⟨q₀, ?_, rfl⟩
    rwa [Function.update_of_ne (by rintro rfl; exact out b B there mem)]

/-- The player has gone, or begins anew. -/
lemma Freed.settle {g : Nat} (freed : Freed g posts battles)
    (quiet : ∀ p ∈ posts g, p.battleMaster = none ∧ p.playerBattleClass = none) : Fights none posts battles := by
  have fights := freed.fights
  refine ⟨fights.driver, fun x q b here eq _ => ?_, fights.listed, fun x q m here eq _ => ?_, fights.owned,
    fights.alone⟩
  · refine fights.engine x q b here eq ?_
    rintro ⟨⟩
    cases (quiet q here).2.symm.trans eq
  · refine fights.joined x q m here eq ?_
    rintro ⟨⟩
    cases (quiet q here).1.symm.trans eq

/-- Who is in no battle may choose another battle pet. -/
lemma choosePet (fights : Fights none posts battles) {g : Nat} {p : Post} (live : posts g = some p)
    (free : p.battleMaster = none) (pet : Option Nat) :
    Fights none (Function.update posts g (some { p with battlePet := pet })) battles := by
  have out : ∀ b B, battles b = some B → g ∉ B.playerList := fun b B => fights.not_mem live free
  have before {x : Nat} {q : Post} (here : Function.update posts g (some { p with battlePet := pet }) x = some q) :=
    post_before (fun q q' => q'.battleMaster = q.battleMaster ∧ q'.playerBattleClass = q.playerBattleClass)
      { p with battlePet := pet } live (fun _ => ⟨rfl, rfl⟩) ⟨rfl, rfl⟩ here
  refine ⟨fun b B q there mem => ?driver, fun x q b here eq _ => ?engine, fun b B q there mem => ?listed,
    fun x q m here eq _ => ?joined, fun b B c r u there cell => ?owned, fights.alone⟩
  case driver =>
    obtain ⟨m, here, class_⟩ := fights.driver b B q there mem
    obtain ⟨m', here', class'⟩ := post_after (fun q q' => q'.playerBattleClass = q.playerBattleClass)
      { p with battlePet := pet } live (fun _ => rfl) rfl here
    exact ⟨m', here', class'.trans class_⟩
  case engine =>
    obtain ⟨q₀, here, -, class_⟩ := before here
    exact fights.engine x q₀ b here (class_.symm.trans eq) nofun
  case listed =>
    rw [Function.update_of_ne (by rintro rfl; exact out b B there mem)]
    exact fights.listed b B q there mem
  case joined =>
    obtain ⟨q₀, here, master, -⟩ := before here
    exact fights.joined x q₀ m here (master.symm.trans eq) nofun
  case owned =>
    refine (fights.owned b B c r u there cell).mono (fun q mem _ => mem) fun q mem q₀ here => ⟨q₀, ?_, rfl⟩
    rwa [Function.update_of_ne (by rintro rfl; exact out b B there mem)]

/-- Leaving the battle of its battle master, a player is in no list. -/
lemma out_of_leave (fights : Fights leaving posts battles) {g m b : Nat} {p master : Post} {B : BattleSystem}
    (live : posts g = some p) (eq : p.battleMaster = some m) (lead : posts m = some master)
    (own : master.playerBattleClass = some b) (there : battles b = some B) :
    ∀ b' B', Function.update battles b (some (B.erase g p.battlePet)) b' = some B' → g ∉ B'.playerList := by
  intro b' B' there' mem
  rcases update_eq_some.mp there' with ⟨rfl, new⟩ | ⟨ne, same⟩
  · cases new
    exact of_decide_eq_true (List.mem_filter.mp mem).2 rfl
  · obtain ⟨p', live', eq'⟩ := fights.listed b' B' g same mem
    cases live.symm.trans live'
    obtain ⟨m', lead', own'⟩ := fights.driver b' B' g same mem
    cases eq.symm.trans eq'
    cases lead.symm.trans lead'
    exact ne (Option.some.inj (own'.symm.trans own))

end Fights

namespace World

variable {w w' : World}

/-- The post of a player that is there. -/
lemma posts_eq_some {g : Nat} {p : Player} (live : w.players g = some p) : w.posts g = some p.post := by
  rw [posts, live, Option.map_some]

/-- A change of one player changes its post only. -/
lemma posts_of_players {g : Nat} {new : Option Player}
    (players : w'.players = Function.update w.players g new) :
    w'.posts = Function.update w.posts g (new.map Player.post) := by
  have eq : w'.posts = Option.map Player.post ∘ w'.players := rfl
  rw [eq, players]
  exact Function.comp_update (Option.map Player.post) w.players g new

/-- All about battles is the same. -/
structure SameBattles (w w' : World) : Prop where
  posts : w'.posts = w.posts
  battles : w'.battles = w.battles

/-- Nothing about battles changes where nothing is done. -/
lemma SameBattles.refl (w : World) : SameBattles w w := ⟨rfl, rfl⟩

/-- Changing nothing about battles is transitive. -/
lemma SameBattles.trans {w₁ w₂ w₃ : World} (same : SameBattles w₁ w₂) (same' : SameBattles w₂ w₃) :
    SameBattles w₁ w₃ := ⟨same'.posts.trans same.posts, same'.battles.trans same.battles⟩

/-- A player with the same post changes nothing about battles. -/
lemma setPlayer_same {g : Nat} {p q : Player} (live : w.players g = some p) (same : q.post = p.post) :
    SameBattles w (w.setPlayer g q) := by
  refine ⟨?_, rfl⟩
  rw [posts_of_players (w.setPlayer_players g q), Option.map_some, same, Function.update_eq_self_iff,
    posts_eq_some live]

/-- A player with the same post keeps all places in step. -/
lemma setPlayer_fights {g : Nat} {p q : Player} (fights : Fights none w.posts w.battles)
    (live : w.players g = some p) (same : q.post = p.post) :
    Fights none (w.setPlayer g q).posts (w.setPlayer g q).battles :=
  Fights.congr (setPlayer_same live same).posts rfl fights

/-- Joining a team changes nothing about battles. -/
lemma joinTeam_same {l m : Nat} (run : w.joinTeam l m = some w') : SameBattles w w' := by
  obtain ⟨q, member, run⟩ := Option.bind_eq_some_iff.mp run
  obtain ⟨p, leader, rfl⟩ := Option.map_eq_some_iff.mp run
  exact (setPlayer_same member (by rfl)).trans (setPlayer_same leader (by rfl))

/-- Leaving a team changes nothing about battles. -/
lemma leaveTeam_same {l m : Nat} (run : w.leaveTeam l m = some w') : SameBattles w w' := by
  obtain ⟨p, q, leader, member, rfl⟩ := leaveTeam_inv run
  exact (setPlayer_same leader (by rfl)).trans (setPlayer_same member (by rfl))

/-- The loop of the dismissal changes nothing about battles. -/
lemma dismiss_same {l n : Nat} (run : dismiss l n w = some w') : SameBattles w w' := by
  induction n generalizing w with
  | zero =>
    cases run
    exact SameBattles.refl _
  | succ n ih =>
    obtain ⟨p, -, run⟩ := Option.bind_eq_some_iff.mp run
    split at run
    · cases run
      exact SameBattles.refl _
    · obtain ⟨w₁, left, run⟩ := Option.bind_eq_some_iff.mp run
      exact (leaveTeam_same left).trans (ih run)

/-- Dismissing a team changes nothing about battles. -/
lemma dismissTeam_same {l : Nat} (run : w.dismissTeam l = some w') : SameBattles w w' := by
  obtain ⟨p, -, run⟩ := Option.bind_eq_some_iff.mp run
  exact dismiss_same run

/-- The response of a leader changes nothing about battles. -/
lemma leaderResponse_same {self response memberId : Nat}
    (run : w.leaderResponse self response memberId = some w') : SameBattles w w' := by
  obtain ⟨p, -, run⟩ := Option.bind_eq_some_iff.mp run
  split at run
  · cases run
    exact SameBattles.refl w
  · split at run
    · cases run
      exact SameBattles.refl w
    · split at run
      · cases run
        exact SameBattles.refl w
      · split at run
        · exact joinTeam_same run
        · cases run
          exact SameBattles.refl w

/-- A member that leaves changes nothing about battles. -/
lemma memberLeave_same {self teamleaderId : Nat} (run : w.memberLeave self teamleaderId = some w') :
    SameBattles w w' := by
  obtain ⟨p, -, run⟩ := Option.bind_eq_some_iff.mp run
  split at run
  · exact dismissTeam_same run
  · split at run
    · cases run
      exact SameBattles.refl w
    · exact leaveTeam_same run

/-- Quitting a team changes nothing about battles. -/
lemma quitTeam_same {self : Nat} (run : w.quitTeam self = some w') : SameBattles w w' := by
  obtain ⟨p, -, run⟩ := Option.bind_eq_some_iff.mp run
  obtain ⟨w₁, left, run⟩ := Option.bind_eq_some_iff.mp run
  refine SameBattles.trans ?_ (dismissTeam_same run)
  split at left
  · cases left
    exact SameBattles.refl w
  · exact leaveTeam_same left

/-- What leaving a battle does. -/
lemma leaveBattle_eq {b g : Nat} (run : w.leaveBattle b g = some w') :
    ∃ p B, w.posts g = some p ∧ w.battles b = some B ∧
      w'.posts = Function.update w.posts g (some { p with
        battleMaster := if g ∈ B.playerList then none else p.battleMaster }) ∧
      w'.battles = Function.update w.battles b (some (B.erase g p.battlePet)) := by
  obtain ⟨B, there, run⟩ := Option.bind_eq_some_iff.mp run
  obtain ⟨p, live, rfl⟩ := Option.map_eq_some_iff.mp run
  exact ⟨p.post, B, posts_eq_some live, there, Eq.trans (posts_of_players rfl) rfl, rfl⟩

/-- Leaving a battle keeps all places in step. -/
lemma leaveBattle_fights {leaving : Option Nat} {b g : Nat} (fights : Fights leaving w.posts w.battles)
    (run : w.leaveBattle b g = some w') : Fights leaving w'.posts w'.battles := by
  obtain ⟨p, B, live, there, posts, battles⟩ := leaveBattle_eq run
  rw [posts, battles]
  exact fights.leave live there

/-- An escape keeps all places in step. -/
lemma escaped_fights {b col row : Nat} (fights : Fights none w.posts w.battles)
    (run : w.escaped b col row = some w') : Fights none w'.posts w'.battles := by
  obtain ⟨B, -, run⟩ := Option.bind_eq_some_iff.mp run
  split at run
  · exact leaveBattle_fights fights run
  · cases run

/-- A battle of the world is stopped exactly when its engine ends it. -/
theorem battleStop_isSome_iff {b : Nat} {B : BattleSystem} {s : Battle.Battlefield} (gains : Nat → Battle.Gain)
    (there : w.battles b = some B) (list : s.engine.playerList = B.playerList)
    (quiet : s.engine.animationTimeItemDropped = 0) :
    (w.battleStop b).isSome ↔ ∃ s', s.battleStop gains = .ok s' := by
  rw [Battle.Battlefield.battleStop_ok_iff gains (Nat.not_lt.mpr (Nat.le_of_eq quiet)), list, Option.isSome_iff_exists]
  constructor
  · rintro ⟨w', run⟩
    obtain ⟨B', there', empty, -⟩ := battleStop_eq_some.mp run
    cases there.symm.trans there'
    exact empty
  · intro empty
    exact ⟨w, battleStop_eq_some.mpr ⟨B, there, empty, rfl⟩⟩

/-- The conclusion keeps all places in step. -/
lemma conclude_fights {self : Nat} (fights : Fights none w.posts w.battles)
    (run : w.conclude self = some w') : Fights none w'.posts w'.battles := by
  obtain ⟨p, live, run⟩ := Option.bind_eq_some_iff.mp run
  split at run
  · cases run
    exact fights
  · rename_i b own
    obtain ⟨w₁, stopped, run⟩ := Option.bind_eq_some_iff.mp run
    obtain ⟨q, live₁, rfl⟩ := Option.map_eq_some_iff.mp run
    obtain ⟨B, there, empty, rfl⟩ := battleStop_eq_some.mp stopped
    cases live.symm.trans live₁
    refine Fights.congr (posts_of_players rfl) rfl ?_
    refine fights.discard (posts_eq_some live) own there fun q mem => ?_
    rw [empty] at mem
    cases mem

end World

/-- The guids that are in the world are different, and in no battle. -/
def Free (w : World) (guids : List Nat) : Prop :=
  guids.Pairwise (fun g g' => g = g' → w.players g = none) ∧
    ∀ g ∈ guids, ∀ p ∈ w.players g, p.battleMaster = none

instance (w : World) (guids : List Nat) : Decidable (Free w guids) :=
  inferInstanceAs (Decidable (List.Pairwise _ _ ∧ ∀ g ∈ guids, ∀ p ∈ w.players g, p.battleMaster = none))

/-- A battle starts with different players that are in no battle, and is handed over to a player that has no
other battle with players in it. -/
def FightOk (w : World) : Event → Prop
  | .engageCreature self _ _ =>
    ∀ p ∈ w.players self, p.playerBattleClass = none → Free w (p.backRow self)
  | .engagePlayer self acc _ =>
    ∀ p ∈ w.players self, ∀ enemy ∈ w.findPlayerByAccountId acc,
      p.acceptPK → enemy.acceptPK → p.playerBattleClass = none →
        Free w (enemy.backRow (w.guidOf acc) ++ p.backRow self)
  | .logout self i =>
    ∀ p ∈ w.players self, ∀ b ∈ p.playerBattleClass, ∀ B ∈ w.battles b, ∀ master ∈ B.newMaster i,
      ∀ m ∈ w.players master, ∀ b' ∈ m.playerBattleClass, ∀ B' ∈ w.battles b', B'.playerList = []
  | _ => True

instance : ∀ (w : World) (e : Event), Decidable (FightOk w e)
  | w, .engageCreature self _ _ => inferInstanceAs (Decidable (∀ p ∈ w.players self, _ → Free w (p.backRow self)))
  | w, .engagePlayer self acc _ =>
    inferInstanceAs (Decidable (∀ p ∈ w.players self, ∀ enemy ∈ w.findPlayerByAccountId acc,
      p.acceptPK → enemy.acceptPK → p.playerBattleClass = none →
        Free w (enemy.backRow (w.guidOf acc) ++ p.backRow self)))
  | w, .logout self i =>
    inferInstanceAs (Decidable (∀ p ∈ w.players self, ∀ b ∈ p.playerBattleClass, ∀ B ∈ w.battles b,
      ∀ master ∈ B.newMaster i, ∀ m ∈ w.players master, ∀ b' ∈ m.playerBattleClass, ∀ B' ∈ w.battles b',
        B'.playerList = []))
  | _, .create .. | _, .login .. | _, .memberRequest .. | _, .leaderResponse .. | _, .memberLeave ..
  | _, .setSubleader .. | _, .unsetSubleader .. | _, .acceptPK .. | _, .battlePet .. | _, .die _
  | _, .escaped .. | _, .stop _ | _, .conclude _ => isTrue trivial

namespace World

variable {w w' : World}

/-- The battle `b` is the one of its master. -/
def Driven (w : World) (b : Nat) : Prop :=
  ∃ B m, w.battles b = some B ∧ w.posts B.master = some m ∧ m.playerBattleClass = some b

/-- A seat is taken by somebody who is free, if by anybody. The others stay free. -/
lemma seat_fights {b col petCol row g : Nat} {guids : List Nat} (fights : Fights none w.posts w.battles)
    (driven : w.Driven b) (free : Free w (g :: guids)) (run : w.seat b col petCol row g = some w') :
    Fights none w'.posts w'.battles ∧ w'.Driven b ∧ Free w' guids := by
  obtain ⟨different, idle⟩ := free
  obtain ⟨others, different⟩ := List.pairwise_cons.mp different
  have idle' : ∀ g' ∈ guids, ∀ p ∈ w.players g', p.battleMaster = none :=
    fun g' mem => idle g' (List.mem_cons_of_mem g mem)
  rw [seat] at run
  cases live : w.players g with
  | none =>
    rw [live] at run
    cases run
    exact ⟨fights, driven, different, idle'⟩
  | some p =>
    rw [live] at run
    obtain ⟨B, there, rfl⟩ := Option.map_eq_some_iff.mp run
    obtain ⟨B₀, m, there₀, driver, class_⟩ := driven
    cases there.symm.trans there₀
    have seated := fights.seat col petCol row (posts_eq_some live) (idle g List.mem_cons_self p live) there driver
      class_
    have other : ∀ g' ∈ guids, g' ≠ g := by
      rintro g' mem rfl
      cases live.symm.trans (others g' mem rfl)
    refine ⟨Fights.congr (Eq.trans (posts_of_players rfl) rfl) rfl seated, ?_, ?_, fun g' mem q live' => ?_⟩
    · obtain ⟨m', driver', alt⟩ := post_update (g := g) { p.post with battleMaster := some B.master } driver
      have master : ((B.place g p.battlePet col petCol row).insert g).master = B.master := B.place_master ..
      refine ⟨_, m', Function.update_self .., ?_, ?_⟩
      · rw [master]
        exact Eq.trans (congrFun (Eq.trans (posts_of_players rfl) rfl) _) driver'
      · rcases alt with ⟨rfl, rfl⟩ | ⟨-, rfl⟩
        · cases (posts_eq_some live).symm.trans driver
          exact class_
        · exact class_
    · refine List.Pairwise.imp_of_mem (fun {x y} memX _ imp eq => ?_) different
      exact (Function.update_of_ne (other x memX) ..).trans (imp eq)
    · exact idle' g' mem q ((Function.update_of_ne (other g' mem) ..).symm.trans live')

/-- Seating a row of free players keeps all places in step. -/
lemma seatRow_fights {b col petCol row : Nat} {guids rest : List Nat} (fights : Fights none w.posts w.battles)
    (driven : w.Driven b) (free : Free w (guids ++ rest)) (run : seatRow b col petCol row guids w = some w') :
    Fights none w'.posts w'.battles ∧ w'.Driven b ∧ Free w' rest := by
  induction guids generalizing row w with
  | nil =>
    cases run
    exact ⟨fights, driven, free⟩
  | cons g guids ih =>
    obtain ⟨w₁, seated, run⟩ := Option.bind_eq_some_iff.mp run
    obtain ⟨fights₁, driven₁, free₁⟩ := seat_fights fights driven free seated
    exact ih fights₁ driven₁ free₁ run

/-- The new battle of a player that has none. -/
lemma newBattle_fights {self b : Nat} {p : Player} (units : Nat → Nat → Option BattleUnit)
    (fights : Fights none w.posts w.battles) (live : w.players self = some p) (none : p.playerBattleClass = none)
    (new : w.battles b = Option.none) (creatures : ∀ c r u, units c r = some u → u = .creature b c r) :
    Fights Option.none (w.newBattle self b p units).posts (w.newBattle self b p units).battles ∧
      (w.newBattle self b p units).Driven b := by
  have posts : (w.newBattle self b p units).posts =
      Function.update w.posts self (some { p.post with playerBattleClass := some b }) :=
    Eq.trans (posts_of_players rfl) rfl
  refine ⟨Fights.congr posts rfl (fights.start (posts_eq_some live) none new creatures), ?_⟩
  exact ⟨_, _, Function.update_self .., (congrFun posts self).trans (Function.update_self ..), rfl⟩

/-- A new battle does not make anybody busy. -/
lemma newBattle_free {self : Nat} {p : Player} {guids : List Nat} (b : Nat)
    (units : Nat → Nat → Option BattleUnit) (free : Free w guids) (live : w.players self = some p) :
    Free (w.newBattle self b p units) guids := by
  have same : ∀ g, (w.newBattle self b p units).players g = none ↔ w.players g = none := by
    intro g
    dsimp only [World.newBattle]
    rcases eq_or_ne g self with rfl | ne
    · rw [Function.update_self, live]
      exact ⟨nofun, nofun⟩
    · rw [Function.update_of_ne ne]
  refine ⟨free.1.imp fun imp eq => (same _).mpr (imp eq), fun g mem q here => ?_⟩
  rcases update_eq_some.mp here with ⟨rfl, changed⟩ | ⟨-, here⟩
  · cases changed
    exact free.2 g mem p live
  · exact free.2 g mem q here

/-- The creatures of a battle know their cells. -/
lemma creatures_eq {b : Nat} {loaded : Nat → Nat → Bool} {c r : Nat} {u : BattleUnit}
    (cell : creatures b loaded c r = some u) : u = .creature b c r := by
  rw [creatures] at cell
  split at cell
  · exact (Option.some.inj cell).symm
  · cases cell

/-- A battle with creatures begins with all places in step. -/
lemma engageCreature_fights {self b : Nat} {loaded : Nat → Nat → Bool} (fights : Fights none w.posts w.battles)
    (allowed : FightOk w (.engageCreature self b loaded)) (run : w.engageCreature self b loaded = some w') :
    Fights none w'.posts w'.battles := by
  obtain ⟨p, live, run⟩ := Option.bind_eq_some_iff.mp run
  split at run
  case isTrue =>
    cases run
    exact fights
  case isFalse idle =>
    rw [Player.isBattleInProgress, Bool.not_eq_true, Option.isSome_eq_false_iff, Option.isNone_iff_eq_none] at idle
    split at run
    case isTrue ready =>
      simp only [Bool.and_eq_true, Option.isNone_iff_eq_none] at ready
      obtain ⟨fights₁, driven⟩ := newBattle_fights _ fights live idle ready.1.1 fun c r u => creatures_eq
      have free := newBattle_free b (creatures b loaded) (allowed p live idle) live
      rw [← List.append_nil (p.backRow self)] at free
      exact (seatRow_fights fights₁ driven free run).1
    case isFalse => cases run

/-- A battle with a player begins with all places in step. -/
lemma engagePlayer_fights {self acc b : Nat} (fights : Fights none w.posts w.battles)
    (allowed : FightOk w (.engagePlayer self acc b)) (run : w.engagePlayer self acc b = some w') :
    Fights none w'.posts w'.battles := by
  obtain ⟨p, live, run⟩ := Option.bind_eq_some_iff.mp run
  split at run
  · cases run
    exact fights
  · rename_i enemy found
    split at run
    case isTrue =>
      cases run
      exact fights
    case isFalse ready =>
      simp only [Player.isBattleInProgress, Bool.or_eq_true, Bool.not_eq_true', not_or, Bool.not_eq_false,
        Bool.not_eq_true, Option.isSome_eq_false_iff, Option.isNone_iff_eq_none] at ready
      obtain ⟨⟨accept, accept'⟩, idle⟩ := ready
      split at run
      case isTrue room =>
        simp only [Bool.and_eq_true, Option.isNone_iff_eq_none] at room
        obtain ⟨w₁, defenders, run⟩ := Option.bind_eq_some_iff.mp run
        obtain ⟨fights₁, driven⟩ := newBattle_fights (fun _ _ => none) fights live idle room.1.1 nofun
        have free := newBattle_free b (fun _ _ => none) (allowed p live enemy found accept accept' idle) live
        obtain ⟨fights₂, driven₂, free₂⟩ := seatRow_fights fights₁ driven free defenders
        rw [← List.append_nil (p.backRow self)] at free₂
        exact (seatRow_fights fights₂ driven₂ free₂ run).1
      case isFalse => cases run

/-- Afterwards nobody's battle is the one of the player that goes. -/
lemma handOver_freed {self i : Nat} (fights : Fights none w.posts w.battles)
    (allowed : FightOk w (.logout self i)) (run : w.handOver self i = some w') :
    Fights.Freed self w'.posts w'.battles := by
  obtain ⟨p, live, run⟩ := Option.bind_eq_some_iff.mp run
  split at run
  · rename_i idle
    cases run
    refine fights.freed fun q here => ?_
    cases (posts_eq_some live).symm.trans here
    exact idle
  · rename_i b own
    obtain ⟨B, there, run⟩ := Option.bind_eq_some_iff.mp run
    have here := posts_eq_some live
    split at run
    · rename_i master next
      obtain ⟨mem, ne⟩ := BattleSystem.newMaster_mem next
      rw [promote] at run
      split at run
      · cases run
        have idle : ∀ m ∈ w.posts master, ∀ b' ∈ m.playerBattleClass, ∀ B' ∈ w.battles b', B'.playerList = [] := by
          intro m masterLive
          obtain ⟨q, live', rfl⟩ := Option.map_eq_some_iff.mp masterLive
          exact allowed p live b own B there master next q live'
        have freed := fights.promote here own there mem ne idle
        refine Fights.Freed.congr ?_ rfl freed
        funext x
        rw [posts, posts, Option.map_map, Option.map_map]
        rfl
      · cases run
    · rename_i last
      cases run
      obtain ⟨B₀, there₀, lead⟩ := fights.engine self p.post b here own (fun eq => by cases eq)
      cases there.symm.trans there₀
      have alone : ∀ q ∈ B.playerList, some self = some q := by
        intro q mem
        by_contra ne
        have other : q ≠ B.master := fun eq => ne (congrArg some (lead.symm.trans eq.symm))
        exact BattleSystem.not_mem_of_newMaster last other mem
      have discarded := fights.discard here own there alone
      refine Fights.Freed.congr (Eq.trans (posts_of_players rfl) rfl) rfl ⟨discarded, ?_⟩
      rintro b' B' q there' mem rfl
      obtain ⟨m, here', class_⟩ := discarded.driver b' B' q there' mem
      rw [Function.update_self] at here'
      cases here'
      cases class_

/-- Afterwards the player is in no list. -/
lemma quitBattle_freed {self : Nat} (freed : Fights.Freed self w.posts w.battles)
    (run : w.quitBattle self = some w') :
    Fights.Freed self w'.posts w'.battles ∧ ∀ b B, w'.battles b = some B → self ∉ B.playerList := by
  obtain ⟨p, live, run⟩ := Option.bind_eq_some_iff.mp run
  obtain ⟨w₁, left, run⟩ := Option.bind_eq_some_iff.mp run
  obtain ⟨q, live₁, rfl⟩ := Option.map_eq_some_iff.mp run
  have here := posts_eq_some live
  have out : Fights.Freed self w₁.posts w₁.battles ∧ ∀ b B, w₁.battles b = some B → self ∉ B.playerList := by
    rw [masterBattle] at left
    split at left
    · rename_i none
      cases left
      exact ⟨freed, fun b B => freed.fights.not_mem here none⟩
    · rename_i m master
      obtain ⟨M, lead, left⟩ := Option.bind_eq_some_iff.mp left
      split at left
      · rename_i idle
        cases left
        refine ⟨freed, fun b B there mem => ?_⟩
        obtain ⟨p', here', master'⟩ := freed.fights.listed b B self there mem
        cases here.symm.trans here'
        cases master.symm.trans master'
        obtain ⟨m', lead', own⟩ := freed.fights.driver b B self there mem
        cases (posts_eq_some lead).symm.trans lead'
        cases idle.symm.trans own
      · rename_i b own
        obtain ⟨p', B, here', there, posts, battles⟩ := leaveBattle_eq left
        cases here.symm.trans here'
        refine ⟨⟨leaveBattle_fights freed.fights left, fun b' B' q there' mem => ?_⟩, ?_⟩
        · rw [battles] at there'
          rcases update_eq_some.mp there' with ⟨rfl, changed⟩ | ⟨-, same⟩
          · cases changed
            exact freed.masterless b' B q there (List.mem_filter.mp mem).1
          · exact freed.masterless b' B' q same mem
        · rw [battles]
          exact freed.fights.out_of_leave here master (posts_eq_some lead) own there
  refine ⟨?_, out.2⟩
  exact Fights.Freed.congr (Eq.trans (posts_of_players rfl) rfl) rfl (out.1.release out.2 _)

/-- A logout keeps all places in step. -/
lemma logout_fights {self i : Nat} (fights : Fights none w.posts w.battles)
    (allowed : FightOk w (.logout self i)) (run : w.logout self i = some w') :
    Fights none w'.posts w'.battles := by
  obtain ⟨w₁, handed, run⟩ := Option.bind_eq_some_iff.mp run
  obtain ⟨w₂, quit, run⟩ := Option.bind_eq_some_iff.mp run
  obtain ⟨w₃, left, rfl⟩ := Option.map_eq_some_iff.mp run
  obtain ⟨freed, out⟩ := quitBattle_freed (handOver_freed fights allowed handed) quit
  have same := quitTeam_same left
  have gone := (freed.release out none).settle fun p here => by
    rw [Function.update_self] at here
    cases here
  refine Fights.congr ?_ same.battles gone
  rw [posts_of_players (w₃.deletePlayer_players self), same.posts]
  rfl

/-- Who enters the world is in no battle. -/
lemma login_fights {g acc : Nat} {pet : Option Nat} {acceptPK : Bool} (fights : Fights none w.posts w.battles)
    (run : w.login g acc pet acceptPK = some w') : Fights none w'.posts w'.battles := by
  rw [login] at run
  split at run
  case isTrue new =>
    cases run
    have absent : w.posts g = none := by rw [posts, new.2, Option.map_none]
    have freed : Fights.Freed g w.posts w.battles := by
      refine fights.freed fun p here => ?_
      cases absent.symm.trans here
    have out : ∀ b B, w.battles b = some B → g ∉ B.playerList := by
      intro b B there mem
      obtain ⟨p, here, -⟩ := fights.listed b B g there mem
      cases absent.symm.trans here
    refine Fights.congr (Eq.trans (posts_of_players rfl) rfl) rfl ((freed.release out _).settle fun p here => ?_)
    rw [Function.update_self] at here
    cases here
    exact ⟨rfl, rfl⟩
  case isFalse => cases run

end World

/-- One event keeps the battles in agreement. -/
lemma step_fights {w w' : World} {e : Event} (fights : Fights none w.posts w.battles) (allowed : FightOk w e)
    (run : step w e = some w') : Fights none w'.posts w'.battles := by
  have same : World.SameBattles w w' → Fights none w'.posts w'.battles :=
    fun same => Fights.congr same.posts same.battles fights
  cases e with
  | create acc g =>
    cases run
    exact fights
  | login g acc pet acceptPK => exact World.login_fights fights run
  | memberRequest self leaderId =>
    obtain ⟨p, -, rfl⟩ := Option.map_eq_some_iff.mp run
    exact fights
  | leaderResponse self response memberId => exact same (World.leaderResponse_same run)
  | memberLeave self teamleaderId => exact same (World.memberLeave_same run)
  | setSubleader self acc =>
    obtain ⟨p, live, rfl⟩ := Option.map_eq_some_iff.mp run
    split
    · exact World.setPlayer_fights fights live rfl
    · exact fights
  | unsetSubleader self acc =>
    obtain ⟨p, live, rfl⟩ := Option.map_eq_some_iff.mp run
    split
    · exact fights
    · split
      · exact World.setPlayer_fights fights live rfl
      · exact fights
  | acceptPK self accept =>
    obtain ⟨p, live, rfl⟩ := Option.map_eq_some_iff.mp run
    exact World.setPlayer_fights fights live rfl
  | battlePet self pet =>
    obtain ⟨p, live, run⟩ := Option.bind_eq_some_iff.mp run
    split at run
    · rename_i free
      cases run
      exact Fights.congr (Eq.trans (World.posts_of_players rfl) rfl) rfl
        (fights.choosePet (World.posts_eq_some live) free pet)
    · cases run
  | engageCreature self b loaded => exact World.engageCreature_fights fights allowed run
  | engagePlayer self acc b => exact World.engagePlayer_fights fights allowed run
  | die self =>
    obtain ⟨p, live, rfl⟩ := Option.map_eq_some_iff.mp run
    exact World.setPlayer_fights fights live rfl
  | escaped b col row => exact World.escaped_fights fights run
  | stop self =>
    cases World.eq_of_stop run
    exact fights
  | conclude self => exact World.conclude_fights fights run
  | logout self i => exact World.logout_fights fights allowed run

/-- Nobody is in two lists and no unit in two cells. Who is in a list has a battle master, whose battle it
is, and who is in none has no battle master. -/
def OneBattle (w : World) : Prop :=
  (∀ g b b' B B', w.battles b = some B → w.battles b' = some B' → g ∈ B.playerList → g ∈ B'.playerList →
    b = b') ∧
  (∀ u b b' B B' c c' r r', w.battles b = some B → w.battles b' = some B' → B.battleUnit c r = some u →
    B'.battleUnit c' r' = some u → b = b' ∧ c = c' ∧ r = r') ∧
  (∀ b B g, w.battles b = some B → g ∈ B.playerList → ∃ p master m, w.players g = some p ∧
    p.battleMaster = some master ∧ w.players master = some m ∧ m.playerBattleClass = some b) ∧
  ∀ g p, w.players g = some p → (∀ b B, w.battles b = some B → g ∉ B.playerList) → p.battleMaster = none

/-- Where all places agree, a unit is in one battle. -/
lemma Fights.oneBattle {w : World} (fights : Fights none w.posts w.battles) : OneBattle w := by
  refine ⟨fun g b b' B B' there there' mem mem' => fights.list_unique there there' mem mem',
    fun u b b' B B' c c' r r' there there' cell cell' => fights.cell_unique there there' cell cell',
    fun b B g there mem => ?_, fun g p live out => ?_⟩
  · obtain ⟨q, here, master⟩ := fights.listed b B g there mem
    obtain ⟨m, lead, own⟩ := fights.driver b B g there mem
    obtain ⟨p, live, rfl⟩ := Option.map_eq_some_iff.mp here
    obtain ⟨M, live', rfl⟩ := Option.map_eq_some_iff.mp lead
    exact ⟨p, B.master, M, live, master, live', own⟩
  · by_contra some
    obtain ⟨m, master⟩ := Option.ne_none_iff_exists'.mp some
    obtain ⟨b, B, there, mem⟩ := fights.joined g p.post m (World.posts_eq_some live) master nofun
    exact out b B there mem

/-- In every run in which battles start with different players that are in no battle, and are handed over to
players without another battle, nobody fights in two battles or stands in two cells. -/
theorem oneBattle_of_reaches (guidOf : Nat → Nat) {w : World}
    (run : Reaches step FightOk (World.start guidOf) w) : OneBattle w := by
  refine Fights.oneBattle (run.invariant (P := fun w => Fights none w.posts w.battles) ?_ step_fights)
  exact ⟨nofun, nofun, nofun, nofun, nofun, nofun⟩

/-- Player 2 joins player 1, who engages a creature, and escapes. Player 3 attacks player 2 and is lost, so that
player 2 becomes the master. Both escape, and their battles end. -/
def twoBattles : List Event :=
  [.login 1 11 (some 0) true, .login 2 12 none true, .login 3 13 (some 1) true, .leaderResponse 1 1 12,
    .engageCreature 1 100 (fun _ row => row = 2), .die 2, .escaped 100 3 3, .engagePlayer 3 12 101, .logout 3 0,
    .escaped 100 3 2, .conclude 1, .escaped 101 0 2, .stop 2]

/-- In the end of these battles everybody is in one battle at most. -/
theorem oneBattle_twoBattles :
    ∃ w, exec step (World.start fun acc => acc - 10) twoBattles = some w ∧ OneBattle w := by
  obtain ⟨w, run⟩ := Option.isSome_iff_exists.mp
    (show (exec step (World.start fun acc => acc - 10) twoBattles).isSome by decide +kernel)
  exact ⟨w, run, oneBattle_of_reaches _ (reaches_of_exec _ (by decide +kernel) run)⟩

/-- Player 1 attacks itself. -/
def attackSelf : List Event := [.login 1 11 none true, .engagePlayer 1 11 100]

/-- It stands on both sides. -/
theorem not_oneBattle_attackSelf :
    ∃ w, Reaches step (fun _ _ => True) (World.start fun acc => acc - 10) w ∧ ¬ OneBattle w := by
  have last : ∃ w, exec step (World.start fun acc => acc - 10) attackSelf = some w ∧ ∃ B,
      w.battles 100 = some B ∧ B.battleUnit 0 2 = some (.player 1) ∧ B.battleUnit 3 2 = some (.player 1) :=
    ⟨_, rfl, _, rfl, rfl, rfl⟩
  obtain ⟨w, run, B, there, cell, cell'⟩ := last
  refine ⟨w, reaches_of_exec _ (along_true _ _) run, fun one => ?_⟩
  cases (one.2.1 _ _ _ _ _ _ _ _ _ there there cell cell').2.1

end Legacy.Party
