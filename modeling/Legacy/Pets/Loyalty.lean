import Legacy.Pets.Survival
import Legacy.Unit.Levels

/-!
# The loyalty of a pet

A level raises the loyalty of a pet up to 100, and the end of a battle that it did not survive takes one from it,
in eight bits and without a look at zero (`BattleSystem::GiveExpGainedFor`). A pet's life is its record with the
members of `Unit` that are not stored. Its growth is read from its values and written back to them.
-/

namespace Legacy.Pets
open Legacy.Lib Legacy.Spells
open Legacy.Unit (Growth Formulas)

/-- source `UNIT_FIELD_REBORN` -/
abbrev unitFieldReborn : Nat := 10

/-- source `UNIT_FIELD_STAT_POINT` -/
abbrev unitFieldStatPoint : Nat := 72

variable {templates : Nat → Option SpellInfo}

/-- The field of a stat. -/
def statField : Unit.Stat → Nat
  | .int => unitFieldInt
  | .atk => unitFieldAtk
  | .defense => unitFieldDef
  | .hpx => unitFieldHpx
  | .spx => unitFieldSpx
  | .agi => unitFieldAgi

/-- A pet in play. -/
structure Life (templates : Nat → Option SpellInfo) where
  record : PetRecord templates
  /-- `m_tmp_xp` -/
  tmpXp : Int
  /-- `m_levelUp` -/
  levelUp : Bool
  /-- `m_deathState == DEAD` -/
  dead : Bool

namespace Life

variable (f : Formulas) (lost : Int) (s : Life templates)

/-- source `Pet::GetLoyalty` -/
def loyalty : Nat := s.record.pet.loyalty

/-- What levelling reads of a pet. -/
def growth : Growth where
  type := .pet
  level := s.record.pet.values unitFieldLevel
  reborn := s.record.pet.values unitFieldReborn
  xp := s.record.pet.values unitFieldXp
  nextLevelXp := s.record.pet.values unitFieldNextLevelXp
  tmpXp := s.tmpXp
  levelUp := s.levelUp
  spellPoint := s.record.pet.values unitFieldSpellPoint
  statPoint := s.record.pet.values unitFieldStatPoint
  stats stat := s.record.pet.values (statField stat)
  hpxMod := s.record.pet.values unitFieldHpxMod
  loyalty := s.loyalty
  spells := s.record.pet.m_spells.entries.map fun e => ⟨e.1, e.2.level, (templates e.1).elim 0 SpellInfo.levelMax⟩
  hp := s.record.pet.values unitFieldHp
  hpMax := s.record.pet.values unitFieldHpMax
  sp := s.record.pet.values unitFieldSp
  spMax := s.record.pet.values unitFieldSpMax

/-- The fields that levelling writes. -/
def grownFields (u : Growth) : List (Nat × Nat) :=
  [(unitFieldLevel, u.level), (unitFieldXp, u.xp), (unitFieldNextLevelXp, u.nextLevelXp),
    (unitFieldSpellPoint, u.spellPoint), (unitFieldStatPoint, u.statPoint), (unitFieldHp, u.hp),
    (unitFieldHpMax, u.hpMax), (unitFieldSp, u.sp), (unitFieldSpMax, u.spMax)] ++
  [.int, .atk, .defense, .hpx, .spx, .agi].map fun stat => (statField stat, u.stats stat)

/-- The pet after its growth. -/
def withGrowth (u : Growth) : Life templates :=
  { s with
    record := { s.record with pet := { s.record.pet.set (grownFields u) with loyalty := u.loyalty } }
    tmpXp := u.tmpXp
    levelUp := u.levelUp }

/-- source `Pet::SetLoyalty` -/
def setLoyalty (loyalty : Nat) : Life templates :=
  { s with record := { s.record with pet := { s.record.pet with loyalty := u8 loyalty } } }

/-- The booking at the end of a battle, where a pet that died gains nothing. -/
def booked (dice : Nat → Nat) : Life templates :=
  let u := if s.dead then s.growth.addPending lost 0 else s.growth
  s.withGrowth { Growth.addExpGained f dice u with levelUp := false }

/-- Source `BattleSystem::GiveExpGainedFor`, as far as it is about the pet. -/
def giveExpGainedFor (dice : Nat → Nat) : Life templates :=
  let s := s.booked f lost dice
  -- `GetLoyalty() - 1`, as `uint8`
  if s.dead then s.setLoyalty (s.loyalty + 2 ^ 8 - 1) else s

end Life

/-- What can happen to a pet in play. -/
inductive LifeEvent where
  /-- An event of its record that is not about loyalty. -/
  | record (e : PetRecord.Event)
  /-- source `Unit::AddExpGained(int32)` -/
  | addExpGained (xp : Int)
  /-- source `Unit::LevelUp` -/
  | levelUp (dice_stat : Nat)
  /-- source `Unit::setDeathState` -/
  | setDeathState (dead : Bool)
  /-- The end of a battle. -/
  | giveExpGainedFor (dice : Nat → Nat)

section Levels

variable {f : Formulas} {u : Growth}

/-- A level raises the loyalty of a pet that is below 100. -/
lemma loyalty_raise (pet : u.type = .pet) (dice_stat : Nat) :
    (u.raise f dice_stat).loyalty = (if u.loyalty < 100 then u.loyalty + 1 else u.loyalty) ∧
      (u.raise f dice_stat).type = .pet := by
  simp [Growth.raise, Growth.award, pet]

/-- What the levels of a booking do to the loyalty. -/
lemma loyalty_levelLoop (pet : u.type = .pet) (dice : Nat → Nat) (birth_lvl xp tnl : Nat) :
    u.loyalty ≤ (u.levelLoop f dice birth_lvl xp tnl).loyalty ∧
      (u.loyalty ≤ 100 → (u.levelLoop f dice birth_lvl xp tnl).loyalty ≤ 100) ∧
      (tnl ≤ xp → 0 < (u.levelLoop f dice birth_lvl xp tnl).loyalty) := by
  fun_induction Growth.levelLoop f dice birth_lvl xp tnl u with
  | case1 tnl u covered u' top =>
    obtain ⟨loyalty, -⟩ := loyalty_raise (f := f) pet (dice u.level)
    have same : u'.loyalty = (u.raise f (dice u.level)).loyalty := rfl
    rw [same, loyalty]
    split_ifs with below
    · omega
    · omega
  | case2 tnl u covered u' low ih =>
    obtain ⟨loyalty, type⟩ := loyalty_raise (f := f) pet (dice u.level)
    have same : u'.loyalty = (u.raise f (dice u.level)).loyalty := rfl
    obtain ⟨le, cap, -⟩ := ih type
    rw [same, loyalty] at le cap
    split_ifs at le cap with below
    · omega
    · omega
  | case3 tnl u short => exact ⟨Nat.le_refl _, fun cap => cap, fun covered => absurd covered short⟩

/-- What a booking does to the loyalty. It stays zero without a level only. -/
lemma loyalty_addExpGained (pet : u.type = .pet) (dice : Nat → Nat) :
    u.loyalty ≤ (u.addExpGained f dice).loyalty ∧ (u.loyalty ≤ 100 → (u.addExpGained f dice).loyalty ≤ 100) ∧
      ((u.addExpGained f dice).loyalty = 0 ↔ u.loyalty = 0 ∧ u.progress < f.tnl (u8 u.level) (u8 u.reborn)) := by
  obtain ⟨le, cap, gains⟩ := loyalty_levelLoop (f := f) (u := u.opened) pet dice (u8 u.reborn) u.progress
    (f.tnl (u8 u.level) (u8 u.reborn))
  rw [Growth.addExpGained_eq]
  refine ⟨le, cap, fun zero => ?_, fun ⟨zero, short⟩ => ?_⟩
  -- every level adds one to a loyalty of zero
  · have none : u.opened.loyalty = 0 := by omega
    refine ⟨none, ?_⟩
    by_contra covered
    have some := gains (not_lt.mp covered)
    omega
  · rw [Growth.levelLoop, if_neg (not_le.mpr short)]
    exact zero

end Levels

namespace Life

section Runs

variable (f : Formulas) (lost : Int) (creatures : Nat → Option CreatureInfo) (petProto : CreatureInfo)
  (guid entry owner slot battle : Nat)

/-- A pet that is caught, and one that a game master makes: its loyalty is 60. -/
def caught : Life templates := ⟨PetRecord.caught f.root petProto guid entry owner slot battle, 0, false, false⟩

/-- An event of the record. A pet that is loaded is a new object. -/
def recordStep (s : Life templates) (e : PetRecord.Event) : Option (Life templates) :=
  match e with
  | .setLoyalty _ => none
  | .load => (s.record.step f.root creatures petProto guid entry owner .load).map fun r => ⟨r, 0, false, false⟩
  | e => (s.record.step f.root creatures petProto guid entry owner e).map fun r => { s with record := r }

/-- What an event does to a pet and its row. -/
def step (s : Life templates) : LifeEvent → Option (Life templates)
  | .record e => s.recordStep f creatures petProto guid entry owner e
  | .addExpGained xp => some (s.withGrowth (s.growth.addPending lost xp))
  | .levelUp dice_stat => some (s.withGrowth (s.growth.raise f dice_stat))
  | .setDeathState dead => some { s with dead := dead }
  | .giveExpGainedFor dice => some (s.giveExpGainedFor f lost dice)

end Runs

/-- The loyalty is within its bounds, and so is the one stored. -/
def InBounds (s : Life templates) : Prop := s.loyalty ≤ 100 ∧ ∀ row, s.record.row = some row → row.loyalty ≤ 100

/-- What an event may do to the loyalty: level-ups do not lower it, and a death does not raise it. -/
def Moves (f : Formulas) (lost : Int) (s : Life templates) (s' : Life templates) : LifeEvent → Prop
  | .levelUp _ => s.loyalty ≤ s'.loyalty
  | .giveExpGainedFor dice =>
    s.loyalty ≤ (s.booked f lost dice).loyalty ∧ (s.dead = true → s'.loyalty ≤ (s.booked f lost dice).loyalty)
  | _ => True

/-- No battle ends with a dead pet that has no loyalty left and no level to gain. -/
def Spared (f : Formulas) (s : Life templates) : LifeEvent → Prop
  | .giveExpGainedFor _ => ¬(s.dead = true ∧ s.loyalty = 0 ∧
      (i32 s.growth.nextLevelXp).toNat < f.tnl (u8 s.growth.level) (u8 s.growth.reborn))
  | _ => True

section Bounds

variable {f : Formulas} {lost : Int} {creatures : Nat → Option CreatureInfo} {petProto : CreatureInfo}
  {guid entry owner slot battle : Nat} {s s' : Life templates} {e : LifeEvent}

/-- The loyalty is the one of the values. -/
@[simp]
lemma loyalty_withGrowth (u : Growth) : (s.withGrowth u).loyalty = u.loyalty := rfl

/-- What the booking at the end of a battle does to the loyalty. -/
lemma loyalty_booked (f : Formulas) (lost : Int) (s : Life templates) (dice : Nat → Nat) :
    s.loyalty ≤ (s.booked f lost dice).loyalty ∧ (s.loyalty ≤ 100 → (s.booked f lost dice).loyalty ≤ 100) := by
  have dead := loyalty_addExpGained (f := f) (u := s.growth.addPending lost 0) rfl dice
  have alive := loyalty_addExpGained (f := f) (u := s.growth) rfl dice
  simp only [booked, loyalty_withGrowth]
  split
  · exact ⟨dead.1, dead.2.1⟩
  · exact ⟨alive.1, alive.2.1⟩

/-- A dead pet has no loyalty left after the booking if it had none before and gains no level. -/
lemma booked_eq_zero (f : Formulas) (lost : Int) (dead : s.dead = true) (dice : Nat → Nat) :
    (s.booked f lost dice).loyalty = 0 ↔ s.loyalty = 0 ∧
      (i32 s.growth.nextLevelXp).toNat < f.tnl (u8 s.growth.level) (u8 s.growth.reborn) := by
  have zero := (loyalty_addExpGained (f := f) (u := s.growth.addPending lost 0) rfl dice).2.2
  rw [booked, if_pos dead]
  simp only [Growth.progress, Growth.addPending, if_true, add_zero] at zero ⊢
  exact zero

/-- What the end of a battle does to the loyalty. -/
lemma loyalty_giveExpGainedFor (f : Formulas) (lost : Int) (dice : Nat → Nat) (bound : s.loyalty ≤ 100) :
    (s.giveExpGainedFor f lost dice).loyalty =
      if s.dead then if (s.booked f lost dice).loyalty = 0 then 255 else (s.booked f lost dice).loyalty - 1
      else (s.booked f lost dice).loyalty := by
  have cap := (loyalty_booked f lost s dice).2 bound
  have same : (s.booked f lost dice).dead = s.dead := rfl
  simp only [giveExpGainedFor, same]
  split_ifs with dead zero
  · show u8 ((s.booked f lost dice).loyalty + 2 ^ 8 - 1) = 255
    rw [zero]
    rfl
  · show u8 ((s.booked f lost dice).loyalty + 2 ^ 8 - 1) = (s.booked f lost dice).loyalty - 1
    rw [u8]
    omega
  · rfl

/-- A state keeps the loyalty. -/
lemma loyalty_setState (p : Pet templates) (state : PetUpdateState) : (p.setState state).loyalty = p.loyalty := by
  rw [Pet.setState]
  split_ifs
  · rfl
  · rfl
  · rfl

/-- A pet that is loaded has the loyalty of its row. -/
lemma loyalty_loadPet {root : Nat → Nat} {row : PetRow} {p : Pet templates}
    (load : Pet.loadPet root creatures owner guid row = some p) : p.loyalty = u8 row.loyalty := by
  rw [Pet.loadPet] at load
  split_ifs at load
  obtain ⟨q, from_db, rfl⟩ := Option.map_eq_some_iff.mp load
  rw [loyalty_setState, Pet.visualize, loyalty_setState]
  rw [Pet.loadPetFromDB] at from_db
  split_ifs at from_db
  obtain ⟨petProto, -, rfl⟩ := Option.map_eq_some_iff.mp from_db
  rfl

/-- A save writes the loyalty of a pet that is new, and leaves it out otherwise. -/
lemma row_saveToDB {r r' : PetRecord templates} {order : List (Sigma fun _ : Nat => Spell)}
    (save : r.saveToDB order = some r') : r'.pet.loyalty = r.pet.loyalty ∧
      ∀ row, r'.row = some row → row.loyalty = r.pet.loyalty ∨ ∃ old, r.row = some old ∧ row.loyalty = old.loyalty := by
  rw [PetRecord.saveToDB] at save
  split at save
  case h_1 =>
    cases save
    exact ⟨loyalty_setState _ _, fun row eq => .inl (by cases eq; rfl)⟩
  case h_2 =>
    cases save
    refine ⟨loyalty_setState _ _, fun row eq => .inr ?_⟩
    obtain ⟨old, there, rfl⟩ := Option.map_eq_some_iff.mp eq
    exact ⟨old, there, rfl⟩
  case h_3 => cases save
  case h_4 =>
    cases save
    exact ⟨loyalty_setState _ _, fun row eq => .inr ⟨row, eq, rfl⟩⟩

/-- The events of the record keep the bounds: what a load reads was once written. -/
lemma InBounds.recordStep (bounds : s.InBounds) {e : PetRecord.Event}
    (step : s.recordStep f creatures petProto guid entry owner e = some s') : s'.InBounds := by
  obtain ⟨bound, stored⟩ := bounds
  cases e with
  | setLoyalty loyalty => cases step
  | load =>
    obtain ⟨r, load, rfl⟩ := Option.map_eq_some_iff.mp step
    obtain ⟨row, there, load⟩ := Option.bind_eq_some_iff.mp load
    obtain ⟨p, loaded, rfl⟩ := Option.map_eq_some_iff.mp load
    refine ⟨?_, stored⟩
    show p.loyalty ≤ 100
    rw [loyalty_loadPet loaded]
    exact (Nat.mod_le _ _).trans (stored row there)
  | saveToDB order =>
    obtain ⟨r, save, rfl⟩ := Option.map_eq_some_iff.mp step
    simp only [PetRecord.step] at save
    split_ifs at save
    obtain ⟨same, written⟩ := row_saveToDB save
    refine ⟨same.trans_le bound, fun row there => ?_⟩
    obtain here | ⟨old, there, eq⟩ := written row there
    · exact here.trans_le bound
    · exact eq.trans_le (stored old there)
  | setValue index value =>
    obtain ⟨r, set, rfl⟩ := Option.map_eq_some_iff.mp step
    simp only [PetRecord.step] at set
    split_ifs at set
    cases set
    exact ⟨bound, stored⟩
  | addSpell entry =>
    cases step
    exact ⟨bound, stored⟩
  | setSpellLevel entry level =>
    cases step
    exact ⟨bound, stored⟩
  | setBattle mode =>
    cases step
    exact ⟨bound, stored⟩
  | setChanged =>
    cases step
    exact ⟨(loyalty_setState _ _).trans_le bound, stored⟩

/-- An event keeps the bounds and moves the loyalty the right way exactly when it spares the pet. -/
lemma spared_iff (bounds : s.InBounds) (step : s.step f lost creatures petProto guid entry owner e = some s') :
    Spared f s e ↔ s'.InBounds ∧ Moves f lost s s' e := by
  cases e with
  | record e => exact ⟨fun _ => ⟨bounds.recordStep step, trivial⟩, fun _ => trivial⟩
  | addExpGained xp =>
    cases step
    have same : (s.growth.addPending lost xp).loyalty = s.loyalty := by
      rw [Growth.addPending]
      split_ifs
      · rfl
      · rfl
      · rfl
    exact ⟨fun _ => ⟨⟨same.trans_le bounds.1, bounds.2⟩, trivial⟩, fun _ => trivial⟩
  | levelUp dice_stat =>
    cases step
    obtain ⟨loyalty, -⟩ := loyalty_raise (f := f) (u := s.growth) rfl dice_stat
    have bound : s.growth.loyalty ≤ 100 := bounds.1
    refine ⟨fun _ => ⟨⟨?_, bounds.2⟩, ?_⟩, fun _ => trivial⟩
    · rw [loyalty_withGrowth, loyalty]
      split_ifs with below
      · exact below
      · exact bound
    · show s.loyalty ≤ (s.growth.raise f dice_stat).loyalty
      rw [loyalty]
      split_ifs with below
      · exact Nat.le_succ _
      · exact Nat.le_refl _
  | setDeathState dead =>
    cases step
    exact ⟨fun _ => ⟨bounds, trivial⟩, fun _ => trivial⟩
  | giveExpGainedFor dice =>
    cases step
    obtain ⟨le, cap⟩ := loyalty_booked f lost s dice
    have loyalty := loyalty_giveExpGainedFor f lost dice bounds.1
    have row : (s.giveExpGainedFor f lost dice).record.row = s.record.row := by
      simp only [giveExpGainedFor]
      split_ifs
      · rfl
      · rfl
    have stored : ∀ row, (s.giveExpGainedFor f lost dice).record.row = some row → row.loyalty ≤ 100 := row ▸ bounds.2
    by_cases dead : s.dead = true
    · have zero := booked_eq_zero f lost dead dice
      rw [if_pos dead] at loyalty
      constructor
      · intro spared
        have some : (s.booked f lost dice).loyalty ≠ 0 := fun none => spared ⟨dead, zero.mp none⟩
        rw [if_neg some] at loyalty
        have lower : (s.giveExpGainedFor f lost dice).loyalty ≤ (s.booked f lost dice).loyalty :=
          loyalty.trans_le (Nat.sub_le _ _)
        exact ⟨⟨lower.trans (cap bounds.1), stored⟩, le, fun _ => lower⟩
      -- nothing was left to take from, so it is 255 now
      · rintro ⟨⟨bound, -⟩, -⟩ ⟨-, none⟩
        rw [loyalty, if_pos (zero.mpr none)] at bound
        omega
    · rw [if_neg dead] at loyalty
      exact ⟨fun _ => ⟨⟨loyalty.trans_le (cap bounds.1), stored⟩, le, fun now => absurd now dead⟩,
        fun _ now => dead now.1⟩

/-- In a run that spares the pet the loyalty keeps to its bounds, in play and in the database. From every state of
such a run an event keeps it there, and moves it the right way, exactly when it spares the pet too. -/
theorem inBounds_of_reaches
    (run : Reaches (step f lost creatures petProto guid entry owner) (Spared f)
      (caught f petProto guid entry owner slot battle) s) :
    s.InBounds ∧ ∀ e s', step f lost creatures petProto guid entry owner s e = some s' →
      (Spared f s e ↔ s'.InBounds ∧ Moves f lost s s' e) := by
  have bounds : s.InBounds := by
    refine run.invariant ?_ fun bounds spared step => ((spared_iff bounds step).mp spared).1
    exact ⟨by show 60 ≤ 100; decide, fun row eq => by cases eq⟩
  exact ⟨bounds, fun e s' => spared_iff bounds⟩

end Bounds

section Runs

open PetRecord (cub)

/-- The steps of the cub. -/
abbrev cubStep : Life Keeper.oneTemplate → LifeEvent → Option (Life Keeper.oneTemplate) :=
  step Growth.onePoint 1 (fun _ => some cub) cub 3 700 1

/-- The cub when it was caught. -/
abbrev cubCaught : Life Keeper.oneTemplate := caught Growth.onePoint cub 3 700 1 0 0

/-- The cub dies, and its battle ends. -/
theorem inBounds_cub :
    ∃ s, Reaches cubStep (Spared Growth.onePoint) cubCaught s ∧ s.dead = true ∧ s.InBounds := by
  have died : Reaches cubStep (Spared Growth.onePoint) cubCaught { cubCaught with dead := true } :=
    .tail (e := .setDeathState true) .refl trivial rfl
  have ended : Reaches cubStep (Spared Growth.onePoint) cubCaught
      (({ cubCaught with dead := true } : Life _).giveExpGainedFor Growth.onePoint 1 fun _ => 0) := by
    refine .tail (e := .giveExpGainedFor fun _ => 0) died (fun now => ?_) rfl
    exact absurd now.2.1 (by decide)
  exact ⟨_, ended, rfl, (inBounds_of_reaches ended).1⟩

/-- A dead pet without progress loses one of its loyalty, whatever that is. -/
lemma giveExpGainedFor_dead {s : Life templates} (dice : Nat → Nat) (dead : s.dead = true)
    (fresh : s.record.pet.values unitFieldNextLevelXp = 0) :
    (s.giveExpGainedFor Growth.onePoint 1 dice).loyalty = u8 (s.loyalty + 2 ^ 8 - 1) ∧
      (s.giveExpGainedFor Growth.onePoint 1 dice).dead = true ∧
      (s.giveExpGainedFor Growth.onePoint 1 dice).record.pet.values unitFieldNextLevelXp = 0 := by
  have zero : (s.growth.addPending 1 0).progress = 0 := by
    have next : s.growth.nextLevelXp = 0 := fresh
    show (i32 (s.growth.nextLevelXp + 0)).toNat = 0
    rw [next]
    rfl
  have short : ¬Growth.onePoint.tnl (u8 (s.growth.addPending 1 0).level) (u8 (s.growth.addPending 1 0).reborn) ≤
      (s.growth.addPending 1 0).progress := by
    rw [zero]
    exact Nat.not_succ_le_zero 0
  have booked_ : s.booked Growth.onePoint 1 dice =
      s.withGrowth { (s.growth.addPending 1 0).opened with levelUp := false } := by
    rw [booked, if_pos dead, Growth.addExpGained_eq, Growth.levelLoop, if_neg short]
  have dead' : (s.booked Growth.onePoint 1 dice).dead = true := dead
  rw [giveExpGainedFor, if_pos dead', booked_]
  refine ⟨rfl, dead, ?_⟩
  simp [setLoyalty, withGrowth, Pet.set, setValues, grownFields, statField, Growth.opened, zero]

/-- A cub that loses every battle. -/
lemma exists_loyalty (n : Nat) (le : n ≤ 60) :
    ∃ s, Reaches cubStep (fun _ _ => True) cubCaught s ∧ s.dead = true ∧
      s.record.pet.values unitFieldNextLevelXp = 0 ∧ s.loyalty = 60 - n := by
  induction n with
  | zero => exact ⟨_, .tail (e := .setDeathState true) .refl trivial rfl, rfl, rfl, rfl⟩
  | succ n ih =>
    obtain ⟨s, run, dead, fresh, loyalty⟩ := ih (by omega)
    obtain ⟨lost, dead', fresh'⟩ := giveExpGainedFor_dead (fun _ => 0) dead fresh
    refine ⟨_, .tail (e := .giveExpGainedFor fun _ => 0) run trivial rfl, dead', fresh', ?_⟩
    rw [lost, loyalty, u8]
    omega

/-- After sixty-one deaths its loyalty is 255. -/
theorem loyalty_wraps : ∃ s, Reaches cubStep (fun _ _ => True) cubCaught s ∧ s.loyalty = 255 := by
  obtain ⟨s, run, dead, fresh, loyalty⟩ := exists_loyalty 60 (Nat.le_refl _)
  obtain ⟨lost, -⟩ := giveExpGainedFor_dead (fun _ => 0) dead fresh
  refine ⟨_, .tail (e := .giveExpGainedFor fun _ => 0) run trivial rfl, ?_⟩
  rw [lost, loyalty]
  rfl

end Runs

end Life

end Legacy.Pets
