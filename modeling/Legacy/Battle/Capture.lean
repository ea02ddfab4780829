import Legacy.Battle.SendAction
import Legacy.Battle.SpellArea
import Legacy.Lib.Table

/-!
# Catching a creature

The cases `SPELL_CATCH` and `SPELL_CATCH2` of `BuildUpdateBlockAction`, with the slots of the catcher's pets
(`src/src/game/Player.cpp`, `CreatePet` to `VisualizePet`). A catch happens before the hits of the spell are known,
and then each hit empties its cell. `lawful_iff` says when a catch takes a creature, and nothing else, from the grid
into an empty slot.
-/

namespace Legacy.Battle
open Legacy.Lib

/-- source `PET_SLOT_END` -/
abbrev petSlotEnd : Nat := 4

/-- source `PET_SLOT_BANK_END` -/
abbrev petSlotBankEnd : Nat := 10

/-- source `NULL_PET_SLOT` -/
abbrev nullPetSlot : Nat := 255

/-- The fields of a template that tell pets apart (source `struct CreatureInfo`). -/
structure CreatureInfo where
  name : String
  level : Nat
  element : Nat
  reborn : Nat
  deriving DecidableEq, Repr

/-- A pet of a player. It has a template: without one it is neither created nor loaded. -/
structure Carried where
  pet : Nat
  info : CreatureInfo
  deriving DecidableEq, Repr

/-- The pets of a player by their slots (source `m_pets`). -/
abbrev PetSlots := Nat → Option Carried

/-- source `enum PetChangeFailure` -/
inductive PetChangeFailure where
  | ok | petNotFound | petCantBeSwapped | petCantBeSummoned | petAlreadySummoned
  deriving DecidableEq, Repr

namespace CreatureInfo

/-- A pet of this kind is a second one (source, the loop of `Player::CanSummonPet`). -/
def resembles (pProto pProto2 : CreatureInfo) : Bool :=
  (pProto.level = pProto2.level && pProto.element = pProto2.element && pProto.name = pProto2.name) ||
    (pProto.reborn ≠ pProto2.reborn && pProto.name = pProto2.name)

end CreatureInfo

namespace PetSlots

variable (m_pets : PetSlots)

/-- The first empty slot before the bank. -/
def freeSlot : Nat := ((List.range petSlotEnd).find? fun i => (m_pets i).isNone).getD nullPetSlot

/-- source `Player::FindSummonSlot` -/
def findSummonSlot (slot : Nat) (swap : Bool) : Nat :=
  let slots := m_pets.freeSlot
  if slot ≠ nullPetSlot then
    if (swap || (m_pets slot).isNone) && slots = slot then slot else nullPetSlot
  else if slots ≠ nullPetSlot && (m_pets slots).isNone then slots
  else if slots ≠ nullPetSlot && swap then slots
  else nullPetSlot

/-- source `Player::CanSummonPet`, with the slot that it leaves in `dest` -/
def canSummonPet (slot : Nat) (pPet : Option CreatureInfo) (swap : Bool) : PetChangeFailure × Nat :=
  match pPet with
  | none => (if swap then .petCantBeSwapped else .petNotFound, 0)
  | some pProto =>
    if (List.range petSlotBankEnd).any fun i => (m_pets i).any fun pet => pProto.resembles pet.info then
      (.petAlreadySummoned, 0)
    else
      let sslot := m_pets.findSummonSlot slot swap
      if sslot = nullPetSlot then (.petCantBeSummoned, 0) else (.ok, sslot)

/-- source `Player::SummonPet` and `Player::VisualizePet`: a slot that is taken keeps its pet -/
def summonPet (pos : Nat) (pPet : Carried) : PetSlots :=
  match m_pets pos with
  | none => Function.update m_pets pos (some pPet)
  | some _ => m_pets

/-- The pets in the order of their slots. -/
def carried : List Nat := (List.range petSlotBankEnd).filterMap fun i => (m_pets i).map Carried.pet

end PetSlots

/-- A battle with what a catch reads and writes beside it: the slots of the players and the entries of the units. -/
structure Catching where
  combat : Combat
  m_pets : Nat → PetSlots
  entry : Nat → Nat

/-- What the catch of a target would bring: the catcher, its slot, and the template of the pet. -/
structure Prey where
  catcher : Nat
  dest : Nat
  info : CreatureInfo

namespace Catching

/-- A new pet can be created and summoned by its catcher (source `Player::CreatePet` and `Player::CanSummonPet`). -/
def prey (templates : Nat → Option CreatureInfo) (s : Catching) (victim p : Nat) : Option Prey :=
  match templates (s.entry victim) with
  | none => none
  | some pet =>
    match (s.m_pets p).canSummonPet nullPetSlot (some pet) false with
    | (.ok, dest) => some ⟨p, dest, pet⟩
    | _ => none

/-- The cases `SPELL_CATCH` of `BattleSystem::BuildUpdateBlockAction`. The number of the new pet is given from
outside, and refused when its unit is not one of the catcher. -/
def catchAction (templates : Nat → Option CreatureInfo) (s : Catching) (action : BattleAction) (roll : ℚ) (pet : Nat) :
    Except Halt (Catching × Bool) :=
  let b := s.combat.engine
  if action.skill = spellCatch ∨ action.skill = spellCatch2 then
    match b.getVictim action, b.getAttacker action with
    | some victim, some attacker =>
      if !(b.units victim).isPlayer || !(b.units victim).isPet then
        match b.catcher attacker with
        | none => .ok (s, false)
        | some p =>
          if !(b.units p).canCatchPet (b.units victim) roll then .ok (s, false)
          else
            match s.prey templates victim p with
            | none => .ok (s, false)
            | some prey =>
              if (b.units pet).type = .pet p then
                .ok ({ s with
                  combat := { s.combat with engine := b.summonPet p prey.dest pet }
                  m_pets := Function.update s.m_pets p ((s.m_pets p).summonPet prey.dest ⟨pet, prey.info⟩) }, true)
              else .error .refused
      else .ok (s, false)
    | _, _ => .error (.null .buildUpdateBlockAction)
  else .ok (s, false)

/-- source `BattleSystem::BuildUpdateBlockAction`, with the catch -/
def buildUpdateBlock (rules : Rules) (templates : Nat → Option CreatureInfo) (s : Catching) (linked : Bool)
    (action : BattleAction) (roll : ℚ) (pet : Nat) (hits : Nat → HitDice) :
    Except Halt (Catching × Bool × Block) := do
  let (s, catched) ← s.catchAction templates action roll pet
  match rules.spellTemplate action.skill with
  | none => throw .noTemplate
  | some sinfo =>
    let (combat, records) ← Combat.strikeAll sinfo catched action hits
      (s.combat.engine.parseSpell action (u8 sinfo.hit) linked) s.combat
    return ({ s with combat := combat }, catched,
      ⟨action.atkCell, action.skills catched, sinfo.hit, records⟩)

/-- The dice of the battle for this catch. -/
def actDice (templates : Nat → Option CreatureInfo) (s : Catching) (action : BattleAction) (escape roll : ℚ)
    (pet : Nat) : ActDice where
  escape := escape
  catching := roll
  summoned :=
    (s.combat.engine.getVictim action).bind fun victim => (s.combat.engine.getAttacker action).bind fun attacker =>
      (s.combat.engine.catcher attacker).bind fun p => (s.prey templates victim p).map fun prey => (prey.dest, pet)

variable {rules : Rules} {templates : Nat → Option CreatureInfo} {s s' : Catching} {action : BattleAction} {roll : ℚ}
  {pet : Nat} {catched : Bool}

/-- The test of the victim excludes nobody: no unit is a player and a pet. -/
lemma isPlayer_or_isPet (u : Unit) : (!u.isPlayer || !u.isPet) = true := by
  cases type : u.type with
  | player => simp [Unit.isPlayer, Unit.isPet, type]
  | pet owner => simp [Unit.isPlayer, type]
  | creature => simp [Unit.isPlayer, type]

/-- The ways through a catch: it has another skill, nobody to own the pet, a victim that resists, no pet or slot for
it, or it brings the pet to its slot. -/
inductive Attempt (templates : Nat → Option CreatureInfo) (s : Catching) (action : BattleAction) (roll : ℚ)
    (pet : Nat) : Catching → Bool → Prop
  | other (skill : ¬(action.skill = spellCatch ∨ action.skill = spellCatch2)) :
    Attempt templates s action roll pet s false
  | nobody {victim attacker} (skill : action.skill = spellCatch ∨ action.skill = spellCatch2)
      (at' : s.combat.engine.getVictim action = some victim) (by' : s.combat.engine.getAttacker action = some attacker)
      (none : s.combat.engine.catcher attacker = none) : Attempt templates s action roll pet s false
  | resists {victim attacker p} (skill : action.skill = spellCatch ∨ action.skill = spellCatch2)
      (at' : s.combat.engine.getVictim action = some victim) (by' : s.combat.engine.getAttacker action = some attacker)
      (catcher : s.combat.engine.catcher attacker = some p)
      (cannot : (s.combat.engine.units p).canCatchPet (s.combat.engine.units victim) roll = false) :
    Attempt templates s action roll pet s false
  | unfit {victim attacker p} (skill : action.skill = spellCatch ∨ action.skill = spellCatch2)
      (at' : s.combat.engine.getVictim action = some victim) (by' : s.combat.engine.getAttacker action = some attacker)
      (catcher : s.combat.engine.catcher attacker = some p) (none : s.prey templates victim p = none) :
    Attempt templates s action roll pet s false
  | caught {victim attacker p prey} (skill : action.skill = spellCatch ∨ action.skill = spellCatch2)
      (at' : s.combat.engine.getVictim action = some victim) (by' : s.combat.engine.getAttacker action = some attacker)
      (catcher : s.combat.engine.catcher attacker = some p)
      (can : (s.combat.engine.units p).canCatchPet (s.combat.engine.units victim) roll = true)
      (found : s.prey templates victim p = some prey) (own : (s.combat.engine.units pet).type = .pet p) :
    Attempt templates s action roll pet { s with
      combat := { s.combat with engine := s.combat.engine.summonPet p prey.dest pet }
      m_pets := Function.update s.m_pets p ((s.m_pets p).summonPet prey.dest ⟨pet, prey.info⟩) } true

/-- A catch is one of the attempts. -/
lemma catchAction_inv (run : s.catchAction templates action roll pet = .ok (s', catched)) :
    Attempt templates s action roll pet s' catched := by
  rw [catchAction] at run
  simp only at run
  split at run
  · next skill =>
    split at run
    · next victim attacker at' by' =>
      rw [if_pos (isPlayer_or_isPet _)] at run
      split at run
      · next none =>
        cases run
        exact .nobody skill at' by' none
      · next p catcher =>
        split at run
        · next cannot =>
          cases run
          rw [Bool.not_eq_true'] at cannot
          exact .resists skill at' by' catcher cannot
        · next can =>
          rw [Bool.not_eq_true, Bool.not_eq_false'] at can
          split at run
          · next none =>
            cases run
            exact .unfit skill at' by' catcher none
          · next prey found =>
            split at run
            · next own =>
              cases run
              exact .caught skill at' by' catcher can found own
            · cases run
    · cases run
  · next other =>
    cases run
    exact .other other

/-- The catch is that of the battle, with these dice. -/
lemma catchAction_catchPet (run : s.catchAction templates action roll pet = .ok (s', catched)) (escape : ℚ) :
    s.combat.engine.catchPet action (s.actDice templates action escape roll pet) = .ok (s'.combat.engine, catched) ∧
      s'.combat = { s.combat with engine := s'.combat.engine } := by
  rw [Engine.catchPet, actDice]
  cases catchAction_inv run with
  | other skill =>
    rw [if_neg skill]
    exact ⟨rfl, rfl⟩
  | nobody skill at' by' none => simp [skill, at', by', none]
  | @resists victim attacker p skill at' by' catcher cannot =>
    cases found : s.prey templates victim p with
    | none => simp [skill, at', by', catcher, found]
    | some prey => simp [skill, at', by', catcher, found, cannot]
  | unfit skill at' by' catcher none => simp [skill, at', by', catcher, none]
  | caught skill at' by' catcher can found own => simp [skill, at', by', catcher, found, can, own]

/-- The catch succeeds, from what there is before it. -/
def succeeds (templates : Nat → Option CreatureInfo) (s : Catching) (action : BattleAction) (roll : ℚ) (pet : Nat) :
    Bool :=
  s.combat.engine.captures action (s.actDice templates action 0 roll pet)

/-- A catch succeeds exactly when the rules say so. -/
lemma catchAction_succeeds (run : s.catchAction templates action roll pet = .ok (s', catched)) :
    catched = s.succeeds templates action roll pet :=
  Engine.catchPet_captures (catchAction_catchPet run 0).1

section Slots

variable {m_pets : PetSlots} {info : CreatureInfo} {dest : Nat}

/-- The slot that is found is free, and the first one. -/
lemma freeSlot_spec (found : m_pets.freeSlot ≠ nullPetSlot) :
    m_pets.freeSlot < petSlotEnd ∧ m_pets m_pets.freeSlot = none ∧ ∀ i < m_pets.freeSlot, (m_pets i).isSome := by
  rw [PetSlots.freeSlot] at found ⊢
  cases first : (List.range petSlotEnd).find? fun i => (m_pets i).isNone with
  | none =>
    rw [first] at found
    exact absurd rfl found
  | some slot =>
    obtain ⟨free, mem, before⟩ := List.find?_range_eq_some.mp first
    rw [Option.getD_some]
    refine ⟨List.mem_range.mp mem, Option.isNone_iff_eq_none.mp free, fun i lt => ?_⟩
    have taken := before i lt
    rw [Bool.not_eq_true', Option.isNone_eq_false_iff] at taken
    exact taken

/-- The slot of a new pet is the first one that is empty. -/
lemma canSummonPet_ok (run : m_pets.canSummonPet nullPetSlot (some info) false = (.ok, dest)) :
    dest < petSlotEnd ∧ m_pets dest = none ∧ ∀ i < dest, (m_pets i).isSome := by
  rw [PetSlots.canSummonPet] at run
  simp only at run
  split at run
  · cases run
  · split at run
    · cases run
    · next found =>
      cases run
      rw [PetSlots.findSummonSlot] at found ⊢
      simp only [ne_eq, not_true, if_false, Bool.and_false, Bool.false_eq_true] at found ⊢
      split at found
      · next free =>
        rw [if_pos free]
        rw [Bool.and_eq_true, decide_eq_true_eq] at free
        exact freeSlot_spec free.1
      · exact absurd rfl found

/-- A pet that is put into the first empty slot comes behind the pets of the slots before it. -/
lemma carried_update {new : Carried} (free : dest < petSlotBankEnd) (empty : m_pets dest = none)
    (full : ∀ i < dest, (m_pets i).isSome) :
    (PetSlots.carried (Function.update m_pets dest (some new))) = m_pets.carried.insertIdx dest new.pet := by
  have new' : (fun i => (Function.update m_pets dest (some new) i).map Carried.pet) =
      Function.update (fun i => (m_pets i).map Carried.pet) dest (some new.pet) := by
    funext i
    rcases eq_or_ne i dest with rfl | ne
    · rw [Function.update_self, Function.update_self, Option.map_some]
    · rw [Function.update_of_ne ne, Function.update_of_ne ne]
  rw [PetSlots.carried, new', PetSlots.carried]
  refine filterMap_range_update free ?_ (fun i lt => ?_) new.pet
  · rw [empty, Option.map_none]
  · rw [Option.isSome_map]
    exact full i lt

end Slots

/-- The place in memory of the target of an action. -/
abbrev targetPlace (action : BattleAction) : Nat := cellIndex action.tgtCell

/-- What is caught is a creature, and it alone leaves the grid; the catcher has a new pet in a slot that was empty.
Where nothing is caught, the pets and the cells are the same. -/
def Lawful (s s' : Catching) (action : BattleAction) (catched : Bool) : Prop :=
  if catched then
    (∃ victim, s.combat.engine.getVictim action = some victim ∧ (s.combat.engine.units victim).type = .creature) ∧
      (InGrid action.tgtCell ∧ ∀ i, s'.combat.engine.m_battleUnit i =
        if i = targetPlace action then none else s.combat.engine.m_battleUnit i) ∧
      ∃ attacker p slot new, s.combat.engine.getAttacker action = some attacker ∧
        s.combat.engine.catcher attacker = some p ∧ slot < petSlotEnd ∧ s.m_pets p slot = none ∧
        s'.m_pets = Function.update s.m_pets p (Function.update (s.m_pets p) slot (some new))
  else s'.m_pets = s.m_pets ∧ s'.combat.engine.m_battleUnit = s.combat.engine.m_battleUnit

/-- A catch that succeeds is one of a creature inside the grid, and its spell hits the place of the target and no
other. -/
def Fair (rules : Rules) (templates : Nat → Option CreatureInfo) (s : Catching) (linked : Bool) (action : BattleAction)
    (roll : ℚ) (pet : Nat) : Prop :=
  s.succeeds templates action roll pet = true →
    (∀ victim ∈ s.combat.engine.getVictim action, (s.combat.engine.units victim).type = .creature) ∧
      InGrid action.tgtCell ∧ ∀ sinfo ∈ rules.spellTemplate action.skill, ∀ i,
        i ∈ (s.combat.engine.parseSpell action (u8 sinfo.hit) linked).map targetPlace ↔ i = targetPlace action

section Hits

variable {c c' : Combat} {sinfo : SpellInfo} {hit : BattleAction} {hitDice : HitDice} {record : HitRecord}

/-- A hit empties its place if its spell has caught, and no other. -/
lemma strike_places (run : c.strike sinfo catched hit hitDice = .ok (c', record)) (i : Nat) :
    c'.engine.m_battleUnit i =
      if catched = true ∧ i = cellIndex hit.tgtCell then none else c.engine.m_battleUnit i := by
  obtain ⟨attacker, victim, -, -, rfl⟩ := Combat.strike_inv run (Hits.of sinfo catched) rfl rfl
  have cells := Combat.spellMod_cells c (Hits.of sinfo catched) hit attacker victim hitDice
  cases catched with
  | false =>
    simp only [Bool.false_eq_true, if_false, false_and]
    rw [cells]
  | true =>
    simp only [if_true, true_and]
    rw [Engine.clearCell, cells]
    exact Function.update_apply ..

/-- A strike gives and takes no pet. -/
lemma strike_pets (run : c.strike sinfo catched hit hitDice = .ok (c', record)) (u : Nat) :
    (c'.engine.units u).pets = (c.engine.units u).pets := by
  obtain ⟨attacker, victim, -, -, rfl⟩ := Combat.strike_inv run (Hits.of sinfo catched) rfl rfl
  have pets : ((c.spellMod (Hits.of sinfo catched) hit attacker victim hitDice).engine.units u).pets =
      (c.engine.units u).pets := by
    have wounded : ∀ unit, Combat.Wounds (c.engine.units victim) unit →
        ((c.engine.setUnit victim unit).units u).pets = (c.engine.units u).pets := by
      intro unit wounds
      rw [Engine.setUnit_units]
      split
      · next eq =>
        rw [eq]
        exact wounds.pets
      · rfl
    rcases Combat.spellMod_cases c (Hits.of sinfo catched) hit attacker victim hitDice with
      eq | ⟨unit, wounds, eq | ⟨-, -, eq⟩⟩
    · rw [eq]
    · rw [eq]
      exact wounded unit wounds
    · obtain ⟨items, kills, drops, paid, -⟩ :=
        Combat.reward_cases { c with engine := c.engine.setUnit victim unit } hit attacker victim hitDice.drop
      rw [eq, paid]
      exact wounded unit wounds
  simp only
  split
  · exact pets
  · exact pets

/-- The places that the hits of an action leave. -/
lemma strikeAll_places {dice : Nat → HitDice} {hits : List BattleAction} {records : List CellRecord}
    (run : Combat.strikeAll sinfo catched action dice hits c = .ok (c', records)) (i : Nat) :
    c'.engine.m_battleUnit i =
      if catched = true ∧ i ∈ hits.map targetPlace then none else c.engine.m_battleUnit i := by
  induction hits generalizing c records with
  | nil =>
    cases run
    rw [List.map_nil, if_neg fun both => List.not_mem_nil both.2]
  | cons hit hits ih =>
    obtain ⟨⟨c₁, record⟩, first, run⟩ := bind_eq_ok.mp run
    obtain ⟨⟨c₂, records'⟩, others, run⟩ := bind_eq_ok.mp run
    cases run
    rw [ih others, strike_places first, List.map_cons]
    split
    · next later => rw [if_pos ⟨later.1, List.mem_cons_of_mem _ later.2⟩]
    · next later =>
      refine if_congr ?_ rfl rfl
      refine and_congr_right fun caught => ?_
      rw [List.mem_cons, or_iff_left fun mem => later ⟨caught, mem⟩]

/-- Strikes give and take no pet. -/
lemma strikeAll_pets {dice : Nat → HitDice} {hits : List BattleAction} {records : List CellRecord}
    (run : Combat.strikeAll sinfo catched action dice hits c = .ok (c', records)) (u : Nat) :
    (c'.engine.units u).pets = (c.engine.units u).pets := by
  induction hits generalizing c records with
  | nil =>
    cases run
    rfl
  | cons hit hits ih =>
    obtain ⟨⟨c₁, record⟩, first, run⟩ := bind_eq_ok.mp run
    obtain ⟨⟨c₂, records'⟩, others, run⟩ := bind_eq_ok.mp run
    cases run
    rw [ih others, strike_pets first]

end Hits

variable {linked : Bool} {hits : Nat → HitDice} {block : Block}

/-- A block is an attempt to catch, followed by the strikes. -/
lemma buildUpdateBlock_inv
    (run : s.buildUpdateBlock rules templates linked action roll pet hits = .ok (s', catched, block)) :
    ∃ s₁ sinfo combat records, s.catchAction templates action roll pet = .ok (s₁, catched) ∧
      rules.spellTemplate action.skill = some sinfo ∧
      Combat.strikeAll sinfo catched action hits (s₁.combat.engine.parseSpell action (u8 sinfo.hit) linked) s₁.combat =
        .ok (combat, records) ∧ s' = { s₁ with combat := combat } ∧
      block = ⟨action.atkCell, action.skills catched, sinfo.hit, records⟩ := by
  rw [buildUpdateBlock] at run
  obtain ⟨⟨s₁, caught⟩, action, run⟩ := bind_eq_ok.mp run
  simp only at run
  split at run
  · cases run
  · next sinfo template =>
    obtain ⟨⟨combat, records⟩, strikes, run⟩ := bind_eq_ok.mp run
    cases run
    exact ⟨s₁, sinfo, combat, records, action, template, strikes, rfl, rfl⟩

/-- What is found for a catch fits into an empty slot. -/
lemma prey_spec {victim p : Nat} {prey : Prey} (found : s.prey templates victim p = some prey) :
    prey.dest < petSlotEnd ∧ s.m_pets p prey.dest = none ∧ ∀ i < prey.dest, (s.m_pets p i).isSome := by
  rw [Catching.prey] at found
  split at found
  · cases found
  · split at found
    · next summoned =>
      cases found
      exact canSummonPet_ok summoned
    · cases found

/-- A pet is put into an empty slot. -/
lemma summonPet_empty {m_pets : PetSlots} {pos : Nat} (empty : m_pets pos = none) (pPet : Carried) :
    m_pets.summonPet pos pPet = Function.update m_pets pos (some pPet) := by
  rw [PetSlots.summonPet, empty]

/-- The slots of every player hold the pets that the battle knows of it. -/
def Housed (s : Catching) : Prop := ∀ p, (s.combat.engine.units p).pets = (s.m_pets p).carried

/-- A catch keeps the pets of the players in step with their slots. -/
lemma catchAction_housed (housed : s.Housed) (run : s.catchAction templates action roll pet = .ok (s', catched)) :
    s'.Housed := by
  cases catchAction_inv run with
  | other | nobody | resists | unfit => exact housed
  | @caught victim attacker p prey skill at' by' catcher can found own =>
    obtain ⟨lt, empty, full⟩ := prey_spec found
    intro q
    simp only
    rw [Engine.summonPet, Engine.setUnit_units]
    split
    · next eq =>
      rw [eq, Function.update_self, summonPet_empty empty,
        carried_update (Nat.lt_trans lt (by decide)) empty full, ← housed p]
    · next ne =>
      rw [Function.update_of_ne ne]
      exact housed q

/-- An action with a catch keeps the pets of the players in their slots. -/
lemma buildUpdateBlock_housed (housed : s.Housed)
    (run : s.buildUpdateBlock rules templates linked action roll pet hits = .ok (s', catched, block)) :
    s'.Housed := by
  obtain ⟨s₁, sinfo, combat, records, caught, -, strikes, rfl, -⟩ := buildUpdateBlock_inv run
  intro p
  simp only
  rw [strikeAll_pets strikes]
  exact catchAction_housed housed caught p

/-- An action with a catch is performed as in the battle. -/
lemma buildUpdateBlock_combat
    (run : s.buildUpdateBlock rules templates linked action roll pet hits = .ok (s', catched, block)) (escape : ℚ) :
    s.combat.buildUpdateBlock rules linked action (s.actDice templates action escape roll pet) hits =
      .ok (s'.combat, block) := by
  obtain ⟨s₁, sinfo, combat, records, caught, template, strikes, rfl, rfl⟩ := buildUpdateBlock_inv run
  obtain ⟨catch', same⟩ := catchAction_catchPet caught escape
  rw [Combat.buildUpdateBlock, catch', ok_bind]
  simp only
  rw [template, ← same]
  simp only
  rw [strikes]
  rfl

/-- The hits do not depend on the pet that was caught before them. -/
lemma hits_after_catch (run : s.catchAction templates action roll pet = .ok (s', catched)) (hit : Nat) :
    s'.combat.engine.parseSpell action hit linked = s.combat.engine.parseSpell action hit linked := by
  obtain ⟨cells, dead, -⟩ := Engine.catchPet_grid (catchAction_catchPet run 0).1
  exact Engine.parseSpell_congr cells dead action hit linked

/-- When the hits of a spell empty their places, that of the target alone is emptied exactly if they hit nothing
else. -/
lemma emptied_iff {b : Engine} {after : Nat → Option Nat} {victim hit : Nat}
    (target : b.getVictim action = some victim)
    (places : ∀ i, after i =
      if true = true ∧ i ∈ (b.parseSpell action hit linked).map targetPlace then none else b.m_battleUnit i) :
    (∀ i, after i = if i = targetPlace action then none else b.m_battleUnit i) ↔
      ∀ i, i ∈ (b.parseSpell action hit linked).map targetPlace ↔ i = targetPlace action := by
  have there : b.m_battleUnit (targetPlace action) = some victim := Engine.getBattleUnit_some target
  simp only [true_and] at places
  constructor
  · intro emptied i
    have same := (emptied i).symm.trans (places i)
    constructor
    · intro mem
      by_contra other
      rw [if_neg other, if_pos mem] at same
      obtain ⟨x, mem', rfl⟩ := List.mem_map.mp mem
      obtain ⟨u, unit⟩ := Option.isSome_iff_exists.mp
        (Engine.parseSpell_occupied (Option.isSome_of_eq_some target) mem')
      have occupied : b.m_battleUnit (targetPlace x) = some u := Engine.getBattleUnit_some unit
      rw [occupied] at same
      cases same
    · rintro rfl
      by_contra missed
      rw [if_pos rfl, if_neg missed, there] at same
      cases same
  · intro hits i
    rw [places]
    exact if_congr (hits i) rfl rfl

/-- A catch takes a creature, and nothing else, from the grid into an empty slot exactly if it is fair. -/
theorem lawful_iff
    (run : s.buildUpdateBlock rules templates linked action roll pet hits = .ok (s', catched, block)) :
    s.Lawful s' action catched ↔ s.Fair rules templates linked action roll pet := by
  obtain ⟨s₁, sinfo, combat, records, caught, template, strikes, rfl, rfl⟩ := buildUpdateBlock_inv run
  have places := strikeAll_places strikes
  rw [Fair, ← catchAction_succeeds caught]
  cases catchAction_inv caught with
  | other | nobody | resists | unfit =>
    refine iff_of_true ⟨rfl, ?_⟩ nofun
    funext i
    exact (places i).trans (if_neg fun both => nomatch both.1)
  | @caught victim attacker p prey skill at' by' catcher can found own =>
    obtain ⟨lt, empty, -⟩ := prey_spec found
    rw [hits_after_catch caught] at places
    have place : ∃ attacker' p' slot new, s.combat.engine.getAttacker action = some attacker' ∧
        s.combat.engine.catcher attacker' = some p' ∧ slot < petSlotEnd ∧ s.m_pets p' slot = none ∧
        Function.update s.m_pets p ((s.m_pets p).summonPet prey.dest ⟨pet, prey.info⟩) =
          Function.update s.m_pets p' (Function.update (s.m_pets p') slot (some new)) :=
      ⟨attacker, p, prey.dest, ⟨pet, prey.info⟩, by', catcher, lt, empty, by rw [summonPet_empty empty]⟩
    rw [Lawful, if_pos rfl, imp_iff_right rfl]
    refine and_congr ?creature ((and_iff_left place).trans ?cells)
    case creature =>
      rw [at']
      simp only [Option.some.injEq, exists_eq_left', Option.mem_some_iff, forall_eq']
    case cells =>
      rw [template]
      simp only [Option.mem_some_iff, forall_eq']
      exact and_congr_right fun _ => emptied_iff at' places

/-- A player before a weakened unit of this kind. -/
def hunt (type : UnitType) : Catching where
  combat := ⟨{ Engine.duel with
    units := fun u =>
      if u = 1 then Engine.fighter .player 20
      else if u = 20 then Engine.fighter (.pet 1) 15
      else { Engine.fighter type 30 with hp := 1 } }, .updating, [], [], []⟩
  m_pets := fun _ _ => none
  entry := fun _ => 7

/-- The only template. -/
def cubs (entry : Nat) : Option CreatureInfo := if entry = 7 then some ⟨"cub", 1, 1, 0⟩ else none

/-- The player throws its net. -/
def netting : BattleAction := ⟨3, 2, spellCatch, 0, 2, 20⟩

/-- In the hunt a creature is caught, and so is the pet of another player. -/
lemma hunt_catches : ∀ type ∈ [UnitType.creature, .pet 3],
    Sat ((hunt type).buildUpdateBlock Engine.basicRules cubs false netting 60 20 fun _ => ⟨10, 50, none⟩) fun caught =>
      caught.2.1 = true := by
  decide +kernel

/-- A creature is caught. -/
theorem lawful_hunt :
    ∃ s' block, (hunt .creature).buildUpdateBlock Engine.basicRules cubs false netting 60 20 (fun _ => ⟨10, 50, none⟩) =
        .ok (s', true, block) ∧ (hunt .creature).Lawful s' netting true := by
  obtain ⟨⟨s', caught, block⟩, run, rfl⟩ := sat_iff.mp (hunt_catches .creature List.mem_cons_self)
  refine ⟨s', block, run, (lawful_iff run).mpr fun _ => ⟨?_, by decide, ?_⟩⟩
  · intro victim at'
    cases at'
    rfl
  · intro sinfo template i
    cases template
    exact List.mem_singleton

/-- The pet of another player is caught. -/
theorem not_lawful :
    ¬∀ (rules : Rules) (templates : Nat → Option CreatureInfo) (s s' : Catching) (linked : Bool) (action : BattleAction)
      (roll : ℚ) (pet : Nat) (hits : Nat → HitDice) (catched : Bool) (block : Block),
      action.skill = spellCatch ∨ action.skill = spellCatch2 →
        s.buildUpdateBlock rules templates linked action roll pet hits = .ok (s', catched, block) →
          s.Lawful s' action catched := by
  intro lawful
  obtain ⟨⟨s', caught, block⟩, run, rfl⟩ := sat_iff.mp (hunt_catches (.pet 3) (by decide))
  obtain ⟨⟨victim, at', wild⟩, -⟩ := lawful _ _ _ _ _ _ _ _ _ _ _ (.inl rfl) run
  cases at'
  cases wild

end Catching

end Legacy.Battle
