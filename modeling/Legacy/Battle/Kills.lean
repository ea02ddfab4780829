import Legacy.Battle.Change

/-!
# The rewards of a battle

A creature that is killed by a player or a pet adds to their experience and may drop an item. The test for dead
targets is made before the hits of a spell are listed, and `isDealDamageToAndKill` kills what is dead. So
`paidOnce_of_reaches` needs that no hit of a player or a pet takes hit points from a dead creature: then every
creature pays at most once over the whole battle.
-/

namespace Legacy.Battle
open Legacy.Lib

namespace Combat

open Engine

variable {rules : Rules} {s s' : Combat}

/-- No reward is recorded. -/
def SameRecords (s s' : Combat) : Prop := s'.kills = s.kills ∧ s'.drops = s.drops

/-- The reward for the victim of a hit of a player or a pet that takes hit points from a creature. -/
structure Pays (s s' : Combat) (h : Hits) (hit : BattleAction) (dice : HitDice) (attacker victim : Nat) : Prop where
  strikes : s.engine.getAttacker hit = some attacker
  meets : s.engine.getVictim hit = some victim
  member : (s.engine.units attacker).isMember = true
  creature : (s.engine.units victim).isMember = false
  harms : Harms (s.engine.units victim) h dice
  dead : (s'.engine.units victim).isDead = true
  kills : s'.kills = s.kills ++ [victim]
  drops : s'.drops = s.drops ∨ s'.drops = s.drops ++ [victim]

/-- An attack packet records no kill. -/
lemma handlePlayerAttack_records {p : Nat} {action : BattleAction}
    (run : s.handlePlayerAttack rules p action = .ok s') : SameRecords s s' := by
  rw [handlePlayerAttack] at run
  split at run
  · cases run
    exact ⟨rfl, rfl⟩
  · split at run
    · cases run
    · simp only at run
      split at run <;> cases run <;> exact ⟨rfl, rfl⟩

/-- A pet command records no kill. -/
lemma handlePetCommand_records (s : Combat) (p : Nat) (command : PetCommand) (falls : Bool) :
    SameRecords s (s.handlePetCommand p command falls) := by
  rw [handlePetCommand]
  split
  · exact ⟨rfl, rfl⟩
  · split <;> exact ⟨rfl, rfl⟩

/-- The use of an item records no kill. -/
lemma handleUseItem_records (s : Combat) (p : Nat) : SameRecords s (s.handleUseItem p) := by
  rw [handleUseItem]
  split <;> exact ⟨rfl, rfl⟩

/-- Leaving records no kill. -/
lemma leave_records (s : Combat) (p : Nat) : SameRecords s (s.leave p) := by
  rw [leave]
  split <;> exact ⟨rfl, rfl⟩

/-- A tick of the clock records no kill. -/
lemma tick_records (s : Combat) : SameRecords s s.tick := by
  rw [tick]
  split <;> exact ⟨rfl, rfl⟩

/-- Building the lists records no kill. -/
lemma build_records {timedOut : Bool} {dice : TurnDice} (run : s.build rules timedOut dice = .ok s') :
    SameRecords s s' := by
  rw [build] at run
  split at run <;> cases run
  exact ⟨rfl, rfl⟩

/-- An action records no kill before its hits. -/
lemma act_records {g : Group} {action : BattleAction} {dice : ActDice}
    (run : s.act rules g action dice = .ok s') : SameRecords s s' := by
  cases act_cases run with
  | skipped | defended | escaped | block => exact ⟨rfl, rfl⟩

/-- What a hit does to its victim records nothing, or it pays. -/
lemma spellMod_records {h : Hits} {hit : BattleAction} {dice : HitDice} {attacker victim : Nat}
    (strikes : s.engine.getAttacker hit = some attacker) (meets : s.engine.getVictim hit = some victim) :
    SameRecords s (s.spellMod h hit attacker victim dice) ∨
      Pays s (s.spellMod h hit attacker victim dice) h hit dice attacker victim := by
  rcases spellMod_cases s h hit attacker victim dice with eq | ⟨unit, wounds, eq | ⟨dead, harms, eq⟩⟩
  · rw [eq]
    exact Or.inl ⟨rfl, rfl⟩
  · rw [eq]
    exact Or.inl ⟨rfl, rfl⟩
  · have fades : Engine.Fades s.engine (s.engine.setUnit victim unit) :=
      Engine.setUnit_fades_same wounds.type wounds.spells wounds.pets wounds.battlePet fun _ => wounds.dead
    obtain ⟨items, kills, drops, paid, same | ⟨creature, member, killed, dropped⟩⟩ :=
      reward_cases { s with engine := s.engine.setUnit victim unit } hit attacker victim dice.drop
    · rw [eq, paid]
      exact Or.inl same
    · rw [eq, paid]
      refine Or.inr ⟨strikes, meets, ?_, ?_, harms, ?_, killed, dropped⟩
      · rw [Unit.isMember, ← fades.type]
        exact member
      · rw [Unit.isMember, ← fades.type]
        exact creature
      · show ((s.engine.setUnit victim unit).units victim).isDead = true
        rw [Engine.setUnit_units, if_pos rfl]
        exact dead

/-- A hit records nothing, or it pays. -/
lemma hit_records {h : Hits} {hit : BattleAction} {dice : HitDice} (run : s.hit h hit dice = .ok s') :
    SameRecords s s' ∨ ∃ attacker victim, Pays s s' h hit dice attacker victim := by
  obtain ⟨attacker, victim, strikes, meets, rfl⟩ := hit_cases run
  rcases spellMod_records (h := h) strikes meets with none | pays
  · exact Or.inl none
  · refine Or.inr ⟨attacker, victim, strikes, meets, pays.member, pays.creature, pays.harms, ?_, pays.kills, pays.drops⟩
    -- clearing the cell of a caught unit changes no unit
    simp only
    split
    · exact pays.dead
    · exact pays.dead

/-- The hit that a step applies, with the loop it belongs to. -/
def nextHit (s : Combat) : Option (Hits × BattleAction) :=
  match s.control with
  | .hits h => h.pending.head?.map fun hit => (h, hit)
  | _ => none

/-- Only a hit of a player or a pet on a creature records anything. -/
lemma step_records {e : Event} (run : step rules s e = .ok s') :
    SameRecords s s' ∨ ∃ dice h hit attacker victim, e = .hit dice ∧ s.nextHit = some (h, hit) ∧
      Pays s s' h hit dice attacker victim := by
  rw [step.eq_def] at run
  split at run
  · exact Or.inl (handlePlayerAttack_records run)
  · cases run
    exact Or.inl (handlePetCommand_records _ _ _ _)
  · cases run
    exact Or.inl (handleUseItem_records _ _)
  · cases run
    exact Or.inl (leave_records _ _)
  · cases run
    exact Or.inl (tick_records _)
  · exact Or.inl (build_records run)
  · obtain ⟨⟨b, control⟩, -, run⟩ := bind_eq_ok.mp run
    cases run
    exact Or.inl ⟨rfl, rfl⟩
  · exact Or.inl (act_records run)
  · cases run
    exact Or.inl ⟨rfl, rfl⟩
  · next control =>
    rcases hit_records run with same | ⟨attacker, victim, pays⟩
    · exact Or.inl same
    · refine Or.inr ⟨_, _, _, attacker, victim, rfl, ?_, pays⟩
      rw [nextHit, control]
      rfl
  · obtain ⟨res, -, done⟩ := bind_eq_ok.mp run
    cases done
    exact Or.inl ⟨rfl, rfl⟩
  · cases run

instance (unit : Unit) (h : Hits) (dice : HitDice) : Decidable (Harms unit h dice) :=
  inferInstanceAs (Decidable (_ ∧ _ ∧ _))

/-- A hit of a player or a pet takes no hit points from a dead creature. -/
def SparesDead (s : Combat) : Event → Prop
  | .hit dice =>
    ∀ x ∈ s.nextHit, ∀ attacker ∈ s.engine.getAttacker x.2, ∀ victim ∈ s.engine.getVictim x.2,
      (s.engine.units attacker).isMember → (s.engine.units victim).isMember = false →
        (s.engine.units victim).isDead → ¬Harms (s.engine.units victim) x.1 dice
  | _ => True

instance (s : Combat) : DecidablePred s.SparesDead
  | .hit dice => inferInstanceAs (Decidable (∀ x ∈ s.nextHit, ∀ attacker ∈ s.engine.getAttacker x.2,
      ∀ victim ∈ s.engine.getVictim x.2, (s.engine.units attacker).isMember →
        (s.engine.units victim).isMember = false → (s.engine.units victim).isDead →
          ¬Harms (s.engine.units victim) x.1 dice))
  | .attack _ _ | .petCommand _ _ _ | .useItem _ | .leave _ | .tick | .build _ | .update | .act _ | .finish |
    .conclude => inferInstanceAs (Decidable True)

/-- No creature has paid experience twice, or dropped an item twice. -/
def PaidOnce (s : Combat) : Prop := s.kills.Nodup ∧ s.drops.Nodup

/-- Who has paid is a dead creature, and whoever dropped an item has paid. -/
structure Buried (s : Combat) : Prop where
  once : s.kills.Nodup
  creature : ∀ v ∈ s.kills, (s.engine.units v).type = .creature
  dead : ∀ v ∈ s.kills, (s.engine.units v).isDead = true
  drops : s.drops.Sublist s.kills

/-- What is no player and no pet is a creature. -/
lemma type_of_not_member {unit : Unit} (creature : unit.isMember = false) : unit.type = .creature := by
  simpa [Unit.isMember] using creature

/-- Types stay, and a creature that is dead stays so. -/
lemma Change.fallen {e : Event} (staffed : s.engine.Staffed) (change : Change rules s e s') (u : Nat) :
    (s'.engine.units u).type = (s.engine.units u).type ∧
      ((s.engine.units u).type = .creature → (s.engine.units u).isDead → (s'.engine.units u).isDead) := by
  rcases change.shifts staffed with fades | ⟨p, modelId, falls, pet, -, -, -, shifts⟩
  · exact ⟨fades.type u, fades.fallen u⟩
  · exact ⟨shifts.type u, shifts.fallen u⟩

/-- A step that spares the dead keeps those who have paid dead and counted once. -/
lemma Buried.step {e : Event} (staffed : s.engine.Staffed) (buried : Buried s) (spares : s.SparesDead e)
    (run : step rules s e = .ok s') : Buried s' := by
  have fallen := (step_change staffed run).fallen staffed
  have old : ∀ v ∈ s.kills, (s'.engine.units v).type = .creature ∧ (s'.engine.units v).isDead = true := by
    intro v mem
    obtain ⟨type, dead⟩ := fallen v
    exact ⟨type.trans (buried.creature v mem), dead (buried.creature v mem) (buried.dead v mem)⟩
  rcases step_records run with ⟨kills, drops⟩ | ⟨dice, h, hit, attacker, victim, rfl, next, pays⟩
  · exact ⟨kills ▸ buried.once, fun v mem => (old v (kills ▸ mem)).1, fun v mem => (old v (kills ▸ mem)).2,
      drops ▸ kills ▸ buried.drops⟩
  · have fresh : victim ∉ s.kills := fun paid =>
      spares (h, hit) next attacker pays.strikes victim pays.meets pays.member pays.creature
        (buried.dead victim paid) pays.harms
    refine ⟨?once, fun v mem => ?creature, fun v mem => ?dead, ?drops⟩
    case once =>
      rw [pays.kills, List.nodup_append_comm]
      exact List.nodup_cons.mpr ⟨fresh, buried.once⟩
    case creature =>
      rw [pays.kills] at mem
      rcases List.mem_append.mp mem with paid | last
      · exact (old v paid).1
      · cases List.mem_singleton.mp last
        exact (fallen victim).1.trans (type_of_not_member pays.creature)
    case dead =>
      rw [pays.kills] at mem
      rcases List.mem_append.mp mem with paid | last
      · exact (old v paid).2
      · cases List.mem_singleton.mp last
        exact pays.dead
    case drops =>
      rw [pays.kills]
      rcases pays.drops with drops | drops
      · rw [drops]
        exact buried.drops.trans (List.sublist_append_left _ _)
      · rw [drops]
        exact buried.drops.append (List.Sublist.refl _)

/-- One kill pays once: if the hits of players and pets take no hit points from dead creatures, no creature
pays experience twice or drops two items over the whole battle. -/
theorem paidOnce_of_reaches {b : Engine} (ready : Ready b) (run : Runs rules SparesDead (start b) s) :
    PaidOnce s := by
  have buried : Buried s :=
    Runs.induct run (start_staffed ready) ⟨List.nodup_nil, nofun, nofun, List.Sublist.refl _⟩
      fun staffed buried spares run => buried.step staffed spares run
  exact ⟨buried.once, buried.drops.nodup buried.once⟩

/-- The player kills the creature, after the creature and its animation. -/
def slaying (skill : Nat) : List Event :=
  [.attack 1 ⟨3, 2, skill, 0, 2, 0⟩, .build (evenDice 70), .tick, .update, .act ⟨0, 0, none⟩, .hit ⟨10, 0, none⟩,
    .finish, .conclude] ++ (List.replicate 12 [.tick, .update, .conclude]).flatten ++
    [.tick, .update, .act ⟨0, 0, none⟩, .hit ⟨100, 0, some 46001⟩]

/-- The run of the example spares the dead, and kills once. -/
lemma slaying_run :
    Along (fun s e => (step basicRules s e).toOption) SparesDead (start Engine.duel) (slaying spellBasic) ∧
      (exec (fun s e => (step basicRules s e).toOption) (start Engine.duel) (slaying spellBasic)).map (fun s =>
        (s.kills, s.drops)) = some ([10], [10]) := by
  decide +kernel

/-- The creature of the duel pays. -/
theorem paidOnce_duel :
    ∃ s, Runs basicRules SparesDead (start Engine.duel) s ∧ s.kills = [10] ∧ PaidOnce s := by
  obtain ⟨s, reached, last⟩ := Option.map_eq_some_iff.mp slaying_run.2
  have run : Runs basicRules SparesDead (start Engine.duel) s := reaches_of_exec _ slaying_run.1 reached
  exact ⟨s, run, congrArg Prod.fst last, paidOnce_of_reaches ready_duel run⟩

/-- There is also the template of berserker. -/
def berserkRules : Rules := { basicRules with
  spellTemplate := fun entry => if entry = spellBerserker then some ⟨spellBerserker, 1, 3, 2⟩
    else basicRules.spellTemplate entry }

/-- The player of the duel has learnt berserker. -/
def berserkDuel : Engine := { Engine.duel with
  units := fun u => { Engine.duel.units u with spells := if u = 1 then [spellBerserker] else [] } }

/-- The duel with the berserker is ready. -/
lemma ready_berserkDuel : Ready berserkDuel where
  staffed := by
    apply staffed_of_bound 2 (by decide) (by decide)
    intro o le
    have apart : Engine.duel.units o = Engine.fighter .creature 30 := if_neg (Nat.ne_of_gt le)
    show (Engine.duel.units o).pets = [] ∧ (Engine.duel.units o).battlePet = none
    rw [apart]
    exact ⟨rfl, rfl⟩
  unitTurn := rfl
  actions _ := rfl
  front := by decide

/-- The first of the three hits of berserker kills, and the second one is applied. -/
def berserk : List Event := slaying spellBerserker ++ [.hit ⟨100, 0, some 46001⟩]

/-- In the run of the example one kill is recorded twice. -/
lemma berserk_run :
    (exec (fun s e => (step berserkRules s e).toOption) (start berserkDuel) berserk).map (fun s =>
      (s.kills, s.drops)) = some ([10, 10], [10, 10]) := by
  decide +kernel

/-- One creature pays twice and drops two items. -/
theorem not_paidOnce_berserk :
    ¬∀ (rules : Rules) (b : Engine) (s : Combat), Ready b → Runs rules (fun _ _ => True) (start b) s → PaidOnce s := by
  intro once
  obtain ⟨s, reached, last⟩ := Option.map_eq_some_iff.mp berserk_run
  have run : Runs berserkRules (fun _ _ => True) (start berserkDuel) s := reaches_of_exec _ (along_true _ _) reached
  have nodup := (once berserkRules berserkDuel s ready_berserkDuel run).1
  have twice : s.kills = [10, 10] := congrArg Prod.fst last
  rw [twice] at nodup
  revert nodup
  decide

end Combat

end Legacy.Battle
