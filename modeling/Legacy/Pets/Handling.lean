import Legacy.Pets.Kept

/-!
# Battle commands, captures and releases

What the calls on a player's pets do to an owner whose pets are `Kept`: each of them returns, leaves the pets kept,
and changes slots, pointer and battle modes as told. A release saves and leaves them `Settled`.
-/

namespace Legacy.Pets
open Legacy.Lib
open Legacy.Battle (PetSlots PetChangeFailure petSlotEnd petSlotBankEnd nullPetSlot)

namespace PetOwner

variable {creatures : Nat → Option PetTemplate} {s s' : PetOwner} {g g' i mode : Nat} {pet : PetObject}

section Commands

/-- A command for the battle pet changes flags and the pointer only. -/
structure Commanded (s s' : PetOwner) : Prop where
  guid : s'.guid = s.guid
  m_pets : s'.m_pets = s.m_pets
  rows : s'.character_pet = s.character_pet
  hi : s'.m_hiPetNumber = s.m_hiPetNumber

/-- A battle mode is written. -/
lemma Kept.setBattle (k : s.Kept creatures) (live : s.heap g = some pet) (mode : Nat) :
    ∃ s', s.setBattle (some g) mode = .ok s' ∧ s'.Kept creatures ∧ s.Commanded s' ∧ s'.m_battlePet = s.m_battlePet ∧
      s'.flag = Function.update s.flag g (some (decide (mode = 1))) := by
  have flagged {s' : PetOwner} {pos : Int} (k' : s'.Kept creatures)
      (self : s'.heap g = some (PetObject.marked { pet with battle := mode } pos))
      (others : ∀ g', g' ≠ g → s'.heap g' = s.heap g') :
      s'.flag = Function.update s.flag g (some (decide (mode = 1))) := by
    funext g'
    by_cases eq : g' = g
    · rw [eq, Function.update_self, k'.flag self, (PetObject.marked_fields ..).isBattle]
      rfl
    · rw [Function.update_of_ne eq, PetOwner.flag, PetOwner.flag, others g' eq]
  have run := setState_touched .changed (s := s.setPet g { pet with battle := mode }) setPet_heap_self
    (by decide) (fun _ => by decide) (k.pet live).owner k.free
  rw [PetOwner.setBattle, deref_live live, ok_bind]
  by_cases pos : pet.uQueuePos = -1
  -- a pet that did not wait comes into the queue, one that did keeps its position
  · rw [touched, if_pos pos, setPet_setPet] at run
    have clean := (k.pos_iff live).mp pos
    have same := PetObject.marked_fields { pet with battle := mode } (i16 s.m_petUpdateQueue.length)
    have kept : (({ s.setPet g (PetObject.marked { pet with battle := mode } (i16 s.m_petUpdateQueue.length)) with
        m_petUpdateQueue := s.m_petUpdateQueue ++ [some g] } : PetOwner)).Kept creatures := by
      have housed := k.housed live
      refine k.push g (PetObject.marked { pet with battle := mode } (i16 s.m_petUpdateQueue.length))
        ⟨rfl, ?_, rfl, rfl, rfl, setPet_heap_self, fun g' ne => setPet_heap_ne ne, rfl, Nat.le_refl _⟩
        ?_ ?_ ?_ ?_ ?_ ?_ ?_
      · rw [same.slot]
        exact (Function.update_eq_self_iff.mpr housed.symm).symm
      · rw [same.slot]
        exact (k.slot housed).1
      · intro pet' live'
        cases live.symm.trans live'
        exact ⟨clean, same.slot.symm⟩
      · intro g' held
        rw [same.slot] at held
        exact Option.some.inj (held.symm.trans housed)
      · exact (k.pet live).marked mode _ rfl housed rfl
      · exact PetObject.marked_dirty ..
      · have short := k.length_le
        simp only [petSlotEnd] at short
        exact i16_of_range (by omega) (by omega)
      · exact k.le live
    exact ⟨_, run, kept, ⟨rfl, rfl, rfl, rfl⟩, rfl, flagged kept setPet_heap_self fun g' ne => setPet_heap_ne ne⟩
  · rw [touched, if_neg pos, setPet_setPet] at run
    have kept := k.rewrite live (fun clean => pos ((k.pos_iff live).mpr clean)) mode
    exact ⟨_, run, kept, ⟨rfl, rfl, rfl, rfl⟩, rfl, flagged kept setPet_heap_self fun g' ne => setPet_heap_ne ne⟩

/-- Commands one after the other. -/
lemma Commanded.trans {s₁ : PetOwner} (first : s.Commanded s₁) (second : s₁.Commanded s') : s.Commanded s' :=
  ⟨second.guid.trans first.guid, second.m_pets.trans first.m_pets, second.rows.trans first.rows,
    second.hi.trans first.hi⟩

/-- The object of a pet in a slot. -/
lemma Kept.alive (k : s.Kept creatures) (held : s.m_pets i = some g) : ∃ pet, s.heap g = some pet ∧ pet.slot = i := by
  obtain ⟨-, pet, live, slot, -⟩ := k.slot held
  exact ⟨pet, live, slot⟩

/-- The pointer is set to a pet in a slot, or to none. -/
lemma Kept.point (k : s.Kept creatures) {fighter : Option Nat}
    (held : ∀ g, fighter = some g → ∃ i, s.m_pets i = some g) :
    ({ s with m_battlePet := fighter } : PetOwner).Kept creatures :=
  ⟨⟨k.nodup, fun live => (k.pet live).congr rfl rfl rfl, k.slot, k.below, k.rows, fun fights => held _ fights,
    k.waiting, k.saved⟩, k.free, k.entries⟩

/-- The old battle pet loses its flag, and the new one has it. -/
lemma Kept.setBattlePet (k : s.Kept creatures) (fighter : Option Nat)
    (held : ∀ g, fighter = some g → ∃ i, s.m_pets i = some g) :
    ∃ s', s.setBattlePet fighter = .ok s' ∧ s'.Kept creatures ∧ s.Commanded s' ∧ s'.m_battlePet = fighter ∧
      ∀ g, s'.flag g = if fighter = some g then some true
        else if s.m_battlePet = some g then some false else s.flag g := by
  have rest : ∃ s₁, s.setBattle s.m_battlePet 0 = .ok s₁ ∧ s₁.Kept creatures ∧ s.Commanded s₁ ∧
      ∀ g, s₁.flag g = if s.m_battlePet = some g then some false else s.flag g := by
    cases old : s.m_battlePet with
    | none => exact ⟨s, rfl, k, ⟨rfl, rfl, rfl, rfl⟩, fun g => (if_neg nofun).symm⟩
    | some g =>
      obtain ⟨i, at'⟩ := k.fighter old
      obtain ⟨pet, live, -⟩ := k.alive at'
      obtain ⟨s₁, run, k₁, commanded, -, flag⟩ := k.setBattle live 0
      refine ⟨s₁, run, k₁, commanded, fun g' => ?_⟩
      rw [flag, Function.update_apply]
      exact if_congr ⟨fun eq => eq ▸ rfl, fun eq => (Option.some.inj eq).symm⟩ rfl rfl
  obtain ⟨s₁, run, k₁, commanded, flag⟩ := rest
  rw [PetOwner.setBattlePet, run, ok_bind]
  have held₁ : ∀ g, fighter = some g → ∃ i, s₁.m_pets i = some g := commanded.m_pets ▸ held
  have k₂ := k₁.point held₁
  cases fighter with
  | none => exact ⟨_, rfl, k₂, ⟨commanded.guid, commanded.m_pets, commanded.rows, commanded.hi⟩, rfl, fun g => flag g⟩
  | some g =>
    obtain ⟨i, at'⟩ := held₁ g rfl
    obtain ⟨pet, live, -⟩ := k₂.alive at'
    obtain ⟨s', run', k', commanded', pointer, flag'⟩ := k₂.setBattle live 1
    refine ⟨s', run', k', commanded.trans ⟨commanded'.guid, commanded'.m_pets, commanded'.rows, commanded'.hi⟩,
      pointer, fun g' => ?_⟩
    rw [flag', Function.update_apply]
    exact if_congr ⟨fun eq => eq ▸ rfl, fun eq => (Option.some.inj eq).symm⟩ rfl (flag g')

/-- What is found by its model is a pet in a slot. -/
lemma Kept.getPetByModelId (k : s.Kept creatures) (modelid : Nat) :
    ∃ found, s.getPetByModelId modelid = .ok found ∧ ∀ g, found = some g → ∃ i, s.m_pets i = some g := by
  rw [PetOwner.getPetByModelId]
  generalize List.range maxPetSlot = slots
  induction slots with
  | nil => exact ⟨none, rfl, nofun⟩
  | cons slot slots ih =>
    rw [List.findSomeM?_cons]
    cases held : s.m_pets slot with
    | none => exact ih
    | some g =>
      obtain ⟨pet, live, -⟩ := k.alive held
      simp only
      rw [deref_live live, ok_bind]
      by_cases same : u16 pet.modelid = modelid
      · rw [if_pos same]
        refine ⟨some g, rfl, fun g' eq => ?_⟩
        cases eq
        exact ⟨slot, held⟩
      · rw [if_neg same]
        exact ih

end Commands

section Captures

/-- The search of a slot reads living pets only. -/
lemma canSummonPet_alive (alive : ∀ {i g}, s.m_pets i = some g → ∃ pet, s.heap g = some pet) (slot : Nat)
    (swap : Bool) :
    s.canSummonPet slot pet swap = .ok (s.petSlots.canSummonPet slot (some pet.info) swap) := by
  have search (slots : List Nat) : ∃ similar, slots.anyM (s.isSimilar pet) = .ok similar := by
    induction slots with
    | nil => exact ⟨false, rfl⟩
    | cons i slots ih =>
      rw [List.anyM, isSimilar]
      cases held : s.m_pets i with
      | none => exact ih
      | some g =>
        obtain ⟨pet', live⟩ := alive held
        simp only
        rw [deref_live live, ok_bind]
        cases alike : pet.info.resembles pet'.info with
        | true => exact ⟨true, rfl⟩
        | false => exact ih
  obtain ⟨similar, run⟩ := search (List.range petSlotBankEnd)
  rw [PetOwner.canSummonPet, run]
  rfl

/-- A new pet of this kind would be created and summoned. -/
def Summons (creatures : Nat → Option PetTemplate) (s : PetOwner) (entry : Nat) : Prop :=
  ∃ proto, creatures entry = some proto ∧ (s.petSlots.canSummonPet nullPetSlot (some proto.info) false).1 = .ok

/-- A pet that is in no slot does not change what the slots hold. -/
lemma petSlots_congr (same : s'.m_pets = s.m_pets) (heap : ∀ {i g}, s.m_pets i = some g → s'.heap g = s.heap g) :
    s'.petSlots = s.petSlots := by
  funext slot
  rw [petSlots, petSlots, same]
  cases held : s.m_pets slot with
  | none => rfl
  | some g => rw [Option.bind_some, Option.bind_some, heap held]

/-- A number is given out. -/
lemma Kept.number (k : s.Kept creatures) (number : Nat) (le : s.m_hiPetNumber ≤ number) :
    ({ s with m_hiPetNumber := number } : PetOwner).Kept creatures :=
  ⟨⟨k.nodup, fun live => (k.pet live).congr rfl rfl rfl, k.slot, fun lt => k.below (Nat.lt_of_le_of_lt le lt), k.rows,
    k.fighter, k.waiting, k.saved⟩, k.free, k.entries⟩

/-- A new object that is deleted leaves its number. -/
lemma createPet_deletePet (dead : s.heap g = none) (pet : PetObject) :
    (s.createPet g pet).deletePet g = { s with m_hiPetNumber := g } := by
  have same : Function.update s.heap g none = s.heap := Function.update_eq_self_iff.mpr dead.symm
  rw [createPet, deletePet]
  simp only [setPet, Function.update_idem, same]

/-- A pet that is in no queue comes into a slot. -/
lemma visualizePet_out (pos : Nat) (live : s.heap g = some pet) (out : pet.uQueuePos = -1)
    (free : s.m_petUpdateQueueBlocked = false) :
    s.visualizePet pos g = .ok { s with
      m_pets := Function.update s.m_pets pos (some g)
      heap := Function.update s.heap g
        (some (PetObject.marked { pet with owner := s.guid, slot := pos } (i16 s.m_petUpdateQueue.length)))
      m_petUpdateQueue := s.m_petUpdateQueue ++ [some g] } := by
  have run := setState_touched .changed
    (s := ({ s with m_pets := Function.update s.m_pets pos (some g) } : PetOwner).setPet g
      { pet with owner := s.guid, slot := pos }) setPet_heap_self (by decide) (fun _ => by decide) rfl
    free
  rw [touched, if_pos out, setPet_setPet] at run
  rw [PetOwner.visualizePet, deref_live live, ok_bind]
  exact run

/-- A new pet comes into an empty slot. -/
lemma Kept.visualizePet (k : s.Kept creatures) (pet : PetObject) {dest number : Nat} (lt : dest < petSlotEnd)
    (empty : s.m_pets dest = none) (next : s.m_hiPetNumber < number) (known : (creatures pet.entry).isSome)
    (new : pet.uState = .new) (out : pet.uQueuePos = -1) :
    ∃ s', (s.createPet number pet).visualizePet dest number = .ok s' ∧
      s'.Kept creatures ∧ s'.guid = s.guid ∧ s'.character_pet = s.character_pet ∧ s'.m_battlePet = s.m_battlePet ∧
      s'.flag = Function.update s.flag number (some pet.isBattle) := by
  obtain ⟨dead, absent⟩ := k.below next
  have short := k.length_le
  simp only [petSlotEnd] at short
  have same := PetObject.marked_fields { pet with owner := s.guid, slot := dest } (i16 s.m_petUpdateQueue.length)
  have state := PetObject.marked_uState { pet with owner := s.guid, slot := dest } (i16 s.m_petUpdateQueue.length)
  have pos : (PetObject.marked { pet with owner := s.guid, slot := dest } (i16 s.m_petUpdateQueue.length)).uQueuePos =
      s.m_petUpdateQueue.length := i16_of_range (by omega) (by omega)
  have run := visualizePet_out dest (s := s.createPet number pet)
    setPet_heap_self out k.free
  simp only [createPet, setPet, Function.update_idem] at run
  generalize PetObject.marked { pet with owner := s.guid, slot := dest } (i16 s.m_petUpdateQueue.length) = placed at *
  rw [if_pos new] at state
  have tended : ∀ s' : PetOwner, s'.guid = s.guid → s'.m_pets placed.slot = some number →
      s'.character_pet = s.character_pet → s'.Tended creatures number placed := by
    intro s' guid housed rows
    exact ⟨same.owner.trans guid.symm, same.entry ▸ known, fun _ => housed, fun _ => rows ▸ absent,
      fun old => absurd state old⟩
  refine ⟨_, run, ?_, rfl, rfl, rfl, ?_⟩
  · refine k.push number placed
      ⟨rfl, ?_, rfl, rfl, rfl, Function.update_self .., fun g' ne => Function.update_of_ne ne .., rfl,
        Nat.le_of_lt next⟩ ?_ ?_ ?_ ?_ ?_ pos (Nat.le_refl _)
    · rw [same.slot]
    · rw [same.slot]
      exact lt
    · intro pet' live
      cases dead.symm.trans live
    · intro g' held
      rw [same.slot] at held
      cases empty.symm.trans held
    · refine tended _ rfl ?_ rfl
      rw [same.slot]
      exact Function.update_self ..
    · rw [state]
      exact ⟨by decide, by decide⟩
  · have kept : placed.uState ≠ .removed := by
      rw [state]
      decide
    funext g'
    by_cases eq : g' = number
    · rw [eq, Function.update_self, flag_live (Function.update_self ..) kept, same.isBattle]
      rfl
    · rw [Function.update_of_ne eq, PetOwner.flag, PetOwner.flag]
      simp only [Function.update_of_ne eq]

/-- A new pet leaves those that are held as they were. -/
lemma Kept.createPet_heap (k : s.Kept creatures) (pet : PetObject) (held : s.m_pets i = some g) :
    (s.createPet (s.m_hiPetNumber + 1) pet).heap g = s.heap g := by
  refine setPet_heap_ne ?_
  rintro rfl
  obtain ⟨pet', live, -⟩ := k.alive held
  exact absurd (k.le live) (Nat.not_succ_le_self _)

/-- The search of a slot for a new object is the one before it was created. -/
lemma Kept.createPet_canSummonPet (k : s.Kept creatures) (pet : PetObject) :
    (s.createPet (s.m_hiPetNumber + 1) pet).canSummonPet nullPetSlot pet false =
      .ok (s.petSlots.canSummonPet nullPetSlot (some pet.info) false) := by
  have slots : (s.createPet (s.m_hiPetNumber + 1) pet).petSlots = s.petSlots :=
    petSlots_congr rfl (k.createPet_heap pet)
  rw [← slots]
  refine canSummonPet_alive (fun {i g'} held => ?_) nullPetSlot false
  obtain ⟨pet', live, -⟩ := k.alive held
  exact ⟨pet', (k.createPet_heap pet held).trans live⟩

/-- A capture brings a new pet, or it gives out a number. -/
lemma Kept.capture (k : s.Kept creatures) (room : s.m_hiPetNumber + 1 < 2 ^ 32) (entry memory : Nat) :
    ∃ s', s.capture creatures entry memory = .ok s' ∧ s'.Kept creatures ∧ s'.guid = s.guid ∧
      s'.character_pet = s.character_pet ∧ s'.m_battlePet = s.m_battlePet ∧
      (s.Summons creatures entry ∧
          s'.flag = Function.update s.flag (s.m_hiPetNumber + 1) (some (decide (u8 memory = 1))) ∨
        ¬s.Summons creatures entry ∧ s'.flag = s.flag) := by
  rw [PetOwner.capture]
  cases template : creatures entry with
  | none =>
    refine ⟨s, rfl, k, rfl, rfl, rfl, .inr ⟨?_, rfl⟩⟩
    rintro ⟨proto, known, -⟩
    cases template.symm.trans known
  | some proto =>
    obtain ⟨dead, -⟩ := k.below (Nat.lt_succ_self s.m_hiPetNumber)
    have summons : s.Summons creatures entry ↔
        (s.petSlots.canSummonPet nullPetSlot (some proto.info) false).1 = .ok := by
      rw [Summons, template]
      simp only [Option.some.injEq, exists_eq_left']
    simp only
    rw [u32_of_lt room, k.createPet_canSummonPet, ok_bind, summons]
    have info : (s.newPet entry proto memory).info = proto.info := rfl
    rw [info]
    cases found : s.petSlots.canSummonPet nullPetSlot (some proto.info) false with
    | mk failure dest =>
      cases failure with
      | ok =>
        obtain ⟨lt, empty, -⟩ := Battle.Catching.canSummonPet_ok found
        have empty' : s.m_pets dest = none := by
          cases held : s.m_pets dest with
          | none => rfl
          | some g =>
            obtain ⟨pet, live, -⟩ := k.alive held
            rw [petSlots, held, Option.bind_some, live] at empty
            cases empty
        have get : (s.createPet (s.m_hiPetNumber + 1) (s.newPet entry proto memory)).getPet dest = .ok none := by
          rw [getPet, if_pos (Nat.lt_trans lt (by decide))]
          exact congrArg Except.ok empty'
        obtain ⟨s', run, k', guid, rows, pointer, flag⟩ := k.visualizePet (s.newPet entry proto memory) lt empty'
          (Nat.lt_succ_self _) (template ▸ rfl) rfl rfl
        refine ⟨s', ?_, k', guid, rows, pointer, .inl ⟨rfl, flag⟩⟩
        simp only
        rw [summonPet, get, ok_bind]
        exact run
      | petNotFound | petCantBeSwapped | petCantBeSummoned | petAlreadySummoned =>
        refine ⟨_, congrArg Except.ok (createPet_deletePet dead _), k.number _ (Nat.le_succ _), rfl, rfl, rfl,
          .inr ⟨nofun, rfl⟩⟩

end Captures

section Releases

/-- What an entry was taken out of. -/
lemma filterMap_set_none {entries : List (Option Nat)} {j : Nat} (at' : entries[j]? = some (some g))
    (nodup : (entries.filterMap id).Nodup) :
    (entries.set j none).filterMap id = (entries.filterMap id).erase g := by
  obtain ⟨lt, entry⟩ := List.getElem?_eq_some_iff.mp at'
  have split : entries = entries.take j ++ some g :: entries.drop (j + 1) := by
    rw [← entry, List.getElem_cons_drop, List.take_append_drop]
  have whole : entries.filterMap id = (entries.take j).filterMap id ++ g :: (entries.drop (j + 1)).filterMap id := by
    conv_lhs => rw [split, List.filterMap_append, List.filterMap_cons_some (f := id) rfl]
  -- no number is twice in the queue, so the entry is the first one of its number
  have fresh : g ∉ (entries.take j).filterMap id := by
    rw [whole] at nodup
    exact fun mem => (List.nodup_append.mp nodup).2.2 g mem g List.mem_cons_self rfl
  rw [whole, List.erase_append_right _ fresh, List.erase_cons_head, List.set_eq_take_append_cons_drop, if_pos lt,
    List.filterMap_append, List.filterMap_cons_none (f := id) rfl]

/-- A pet leaves its slot: a new one is deleted, and another one waits to be. -/
structure Unhoused (s s' : PetOwner) (g : Nat) (pet : PetObject) : Prop where
  guid : s'.guid = s.guid
  m_pets : s'.m_pets = Function.update s.m_pets pet.slot none
  m_battlePet : s'.m_battlePet = s.m_battlePet
  blocked : s'.m_petUpdateQueueBlocked = s.m_petUpdateQueueBlocked
  others : ∀ g', g' ≠ g → s'.heap g' = s.heap g'
  rows : s'.character_pet = s.character_pet
  hi : s'.m_hiPetNumber = s.m_hiPetNumber
  self : s'.heap g = none ∧ pet.uState = .new ∨
    ∃ pet', s'.heap g = some pet' ∧ pet.SamePet pet' ∧ pet'.uState = .removed ∧ pet.uState ≠ .new
  nodup : (s'.m_petUpdateQueue.filterMap id).Nodup
  queue : ∀ g', g' ∈ s'.m_petUpdateQueue.filterMap id ↔
    g' ≠ g ∧ g' ∈ s.m_petUpdateQueue.filterMap id ∨ g' = g ∧ (s'.heap g).isSome

/-- A resting pet that leaves its slot leaves the others saving. -/
lemma Kept.unhouse (k : s.Kept creatures) (live : s.heap g = some pet) (resting : s.m_battlePet ≠ some g)
    (out : s.Unhoused s' g pet) : s'.Saving creatures (s'.m_petUpdateQueue.filterMap id) := by
  have slots (g' i : Nat) (ne : g' ≠ g) : s'.m_pets i = some g' ↔ s.m_pets i = some g' := by
    rw [out.m_pets]
    by_cases eq : i = pet.slot
    · rw [eq, Function.update_self, k.housed live]
      exact iff_of_false nofun fun same => ne (Option.some.inj same).symm
    · rw [Function.update_of_ne eq]
  have gone (i : Nat) : s'.m_pets i ≠ some g := by
    rw [out.m_pets]
    by_cases eq : i = pet.slot
    · rw [eq, Function.update_self]
      nofun
    · rw [Function.update_of_ne eq]
      intro held
      obtain ⟨pet', live', slot⟩ := k.alive held
      cases live.symm.trans live'
      exact eq slot.symm
  have waits (g' : Nat) (ne : g' ≠ g) :
      g' ∈ s'.m_petUpdateQueue.filterMap id ↔ g' ∈ s.m_petUpdateQueue.filterMap id := by
    rw [out.queue, or_iff_left fun same => ne same.1, and_iff_right ne]
  have mem : g ∈ s'.m_petUpdateQueue.filterMap id ↔ (s'.heap g).isSome := by
    rw [out.queue, or_iff_right fun other => other.1 rfl, and_iff_right rfl]
  have tended := k.pet live
  refine k.change ⟨out.guid, out.hi.ge, slots, out.others, fun _ _ => by rw [out.rows], waits⟩ out.nodup
    (fun g' fights => ?fighter) ?self
  case fighter =>
    rw [out.m_battlePet] at fights
    obtain ⟨i, held⟩ := k.fighter fights
    refine ⟨i, (slots g' i ?_).mpr held⟩
    rintro rfl
    exact resting fights
  case self =>
    obtain ⟨dead, new⟩ | ⟨pet', alive, same, removed, old⟩ := out.self
    · have absent : s'.character_pet g = none := out.rows ▸ tended.fresh new
      refine ⟨fun live' => ?_, fun held => absurd held (gone _), fun _ => ⟨dead, absent⟩, fun stored => ?_,
        fun mem' => ?_, fun live' => ?_⟩
      · cases dead.symm.trans live'
      · cases absent.symm.trans stored
      · rw [mem, dead] at mem'
        cases mem'
      · cases dead.symm.trans live'
    · refine ⟨fun live' => ?_, fun held => absurd held (gone _),
        fun lt => absurd (k.le live) (Nat.not_le.mpr (out.hi ▸ lt)), fun _ _ => alive ▸ rfl,
        fun _ => ⟨pet', alive, removed ▸ nofun⟩, fun live' notMem => absurd (mem.mpr (live' ▸ rfl)) notMem⟩
      cases alive.symm.trans live'
      obtain ⟨row, stored, wrote⟩ := tended.stored old
      refine ⟨same.owner.trans (tended.owner.trans out.guid.symm), same.entry ▸ tended.known,
        fun kept => absurd removed kept, fun new => ?_, fun _ => ⟨row, out.rows ▸ stored, wrote.congr pet.battle same⟩⟩
      cases removed.symm.trans new

/-- A pet that is marked as removed waits to be deleted. -/
lemma Kept.marked_removed (k : s.Kept creatures) (live : s.heap g = some pet) (old : pet.uState ≠ .new) :
    s.Unhoused { s.touched g pet .removed with m_pets := Function.update s.m_pets pet.slot none } g pet := by
  have removed (pos : Int) : (pet.marked pos .removed).uState = .removed := by
    rw [pet.marked_uState pos .removed, if_neg old]
  by_cases pos : pet.uQueuePos = -1
  · rw [touched, if_pos pos]
    have absent := k.not_mem live ((k.pos_iff live).mp pos)
    have entries : (s.m_petUpdateQueue ++ [some g]).filterMap id = s.m_petUpdateQueue.filterMap id ++ [g] :=
      List.filterMap_append
    refine ⟨rfl, rfl, rfl, rfl, fun g' ne => setPet_heap_ne ne, rfl, rfl,
      .inr ⟨_, setPet_heap_self, pet.marked_fields _ .removed, removed _, old⟩, ?_, fun g' => ?_⟩
    · simp only [entries]
      rw [← List.concat_eq_append]
      exact k.nodup.concat absent
    · simp only [entries, List.mem_append, List.mem_singleton, setPet_heap_self]
      constructor
      · rintro (mem | eq)
        · refine .inl ⟨?_, mem⟩
          rintro rfl
          exact absent mem
        · exact .inr ⟨eq, rfl⟩
      · rintro (⟨-, mem⟩ | ⟨eq, -⟩)
        · exact .inl mem
        · exact .inr eq
  · rw [touched, if_neg pos]
    have mem : g ∈ s.m_petUpdateQueue.filterMap id := by
      obtain ⟨j, -, at'⟩ := k.queued live fun clean => pos ((k.pos_iff live).mpr clean)
      exact List.mem_filterMap.mpr ⟨some g, List.mem_iff_getElem?.mpr ⟨j, at'⟩, rfl⟩
    refine ⟨rfl, rfl, rfl, rfl, fun g' ne => setPet_heap_ne ne, rfl, rfl,
      .inr ⟨_, setPet_heap_self, pet.marked_fields _ .removed, removed _, old⟩, k.nodup, fun g' => ?_⟩
    simp only [setPet_heap_self]
    constructor
    · intro mem'
      by_cases eq : g' = g
      · exact .inr ⟨eq, rfl⟩
      · exact .inl ⟨eq, mem'⟩
    · rintro (⟨-, mem'⟩ | ⟨rfl, -⟩)
      · exact mem'
      · exact mem

/-- A new pet is taken out of the queue and deleted. -/
lemma Kept.setState_removed_new (k : s.Kept creatures) (live : s.heap g = some pet) (new : pet.uState = .new) :
    ∃ s', s.setState g .removed = .ok s' ∧ s'.m_pets = s.m_pets ∧
      s.Unhoused { s' with m_pets := Function.update s.m_pets pet.slot none } g pet := by
  have waits : pet ≠ pet.settled := by
    intro clean
    rw [clean] at new
    cases new
  obtain ⟨j, pos, at'⟩ := k.queued live waits
  obtain ⟨lt, -⟩ := List.getElem?_eq_some_iff.mp at'
  have taken : s.removeFromUpdateQueueOf g pet = .ok { s.setPet g { pet with uQueuePos := -1 } with
      m_petUpdateQueue := s.m_petUpdateQueue.set j none } := by
    rw [removeFromUpdateQueueOf, if_neg (by omega), if_neg (not_not.mpr (k.pet live).owner), k.free,
      if_neg Bool.false_ne_true, if_pos (by omega), pos, Int.toNat_natCast]
  rw [setState, deref_live live, ok_bind, if_pos ⟨new, rfl⟩, taken, ok_bind]
  have erased := filterMap_set_none at' k.nodup
  refine ⟨_, rfl, rfl, rfl, rfl, rfl, rfl, fun g' ne => ?_, rfl, rfl, .inl ⟨Function.update_self .., new⟩, ?_,
    fun g' => ?_⟩
  · exact (Function.update_of_ne ne ..).trans (setPet_heap_ne ne)
  · simp only [deletePet, erased]
    exact k.nodup.erase g
  · simp only [deletePet, erased, k.nodup.mem_erase_iff, Function.update_self, Option.isSome_none, Bool.false_eq_true,
      and_false, or_false]

/-- A pet is marked as removed, and its slot is emptied. -/
lemma Kept.setState_removed (k : s.Kept creatures) (live : s.heap g = some pet) :
    ∃ s', s.setState g .removed = .ok s' ∧ s'.m_pets = s.m_pets ∧
      s.Unhoused { s' with m_pets := Function.update s.m_pets pet.slot none } g pet := by
  by_cases new : pet.uState = .new
  · exact k.setState_removed_new live new
  · refine ⟨_, setState_touched .removed live (by decide) (fun new' => absurd new' new) (k.pet live).owner k.free, ?_,
      k.marked_removed live new⟩
    rw [touched]
    split
    · rfl
    · rfl

/-- A release empties the slot and saves. -/
lemma Kept.releasePet (k : s.Kept creatures) (held : s.m_pets i = some g) :
    ∃ s', s.releasePet i = .ok s' ∧ s'.Settled creatures ∧ s'.guid = s.guid ∧
      s'.m_pets = Function.update s.m_pets i none ∧
      s'.m_battlePet = (if s.m_battlePet = some g then none else s.m_battlePet) ∧
      s'.flag = Function.update s.flag g none := by
  have lt : i < maxPetSlot := Nat.lt_trans (k.slot held).1 (by decide)
  have get : s.getPet i = .ok (some g) := by
    rw [getPet, if_pos lt, held]
  have rest : ∃ s₁, (if s.m_battlePet = some g then s.setBattlePet none else .ok s) = .ok s₁ ∧ s₁.Kept creatures ∧
      s.Commanded s₁ ∧ s₁.m_battlePet = (if s.m_battlePet = some g then none else s.m_battlePet) ∧
      ∀ g', g' ≠ g → s₁.flag g' = s.flag g' := by
    by_cases fights : s.m_battlePet = some g
    · obtain ⟨s₁, run, k₁, commanded, pointer, flag⟩ := k.setBattlePet none nofun
      rw [if_pos fights, if_pos fights]
      refine ⟨s₁, run, k₁, commanded, pointer, fun g' ne => ?_⟩
      rw [flag, if_neg nofun, fights, if_neg fun eq => ne (Option.some.inj eq).symm]
    · rw [if_neg fights, if_neg fights]
      exact ⟨s, rfl, k, ⟨rfl, rfl, rfl, rfl⟩, rfl, fun _ _ => rfl⟩
  -- the pointer no longer leads to the pet when its slot is emptied
  obtain ⟨s₁, run₁, k₁, commanded, pointer, flag⟩ := rest
  have held₁ : s₁.m_pets i = some g := commanded.m_pets ▸ held
  obtain ⟨pet, live, rfl⟩ := k₁.alive held₁
  have resting : s₁.m_battlePet ≠ some g := by
    rw [pointer]
    split
    · nofun
    · next other => exact other
  obtain ⟨s₂, run₂, same, out⟩ := k₁.setState_removed live
  obtain ⟨s', run', settled, saved⟩ := (k₁.unhouse live resting out).savePets (out.blocked.trans k₁.free)
  refine ⟨s', ?_, settled, saved.guid.trans (out.guid.trans commanded.guid), ?_, ?_, ?_⟩
  · rw [PetOwner.releasePet, if_neg (Nat.not_lt.mpr lt.le), get, ok_bind]
    simp only
    rw [run₁, ok_bind, run₂, ok_bind, same]
    exact run'
  · rw [saved.m_pets, out.m_pets, commanded.m_pets]
  · rw [saved.m_battlePet, out.m_battlePet, pointer]
  · rw [saved.flag]
    funext g'
    by_cases eq : g' = g
    · subst eq
      rw [Function.update_self, PetOwner.flag]
      obtain ⟨dead, -⟩ | ⟨pet', alive, -, removed, -⟩ := out.self
      · rw [dead]
        rfl
      · rw [alive, Option.bind_some, if_pos removed]
    · rw [Function.update_of_ne eq, ← flag g' eq, PetOwner.flag, out.others g' eq]
      rfl

/-- A slot that is empty, or past the bank, has nothing to release. -/
lemma releasePet_empty (empty : i < maxPetSlot → s.m_pets i = none) (bank : i ≠ maxPetSlot) :
    s.releasePet i = .ok s := by
  rw [PetOwner.releasePet]
  by_cases past : maxPetSlot < i
  · rw [if_pos past]
    rfl
  · have lt : i < maxPetSlot := Nat.lt_of_le_of_ne (Nat.not_lt.mp past) bank
    rw [if_neg past, getPet, if_pos lt, empty lt]
    rfl

end Releases

end PetOwner

end Legacy.Pets
