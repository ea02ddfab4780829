import Legacy.Pets.Handling

/-!
# Loading the pets at a login

The loop of `Player::_LoadPets` over the rows that the calls of an earlier session left: every row brings its pet to
its slot. `Kept.loadPets` says that the pets are settled then, and what the battle pet is.
-/

namespace Legacy.Pets
open Legacy.Lib
open Legacy.Battle (PetSlots PetChangeFailure petSlotEnd petSlotBankEnd nullPetSlot)

namespace PetOwner

variable {creatures : Nat → Option PetTemplate} {s s' t : PetOwner} {g g' slot count : Nat} {pet : PetObject}
  {rows done : List (Nat × Nat)}

/-- The owner after a row was loaded into an empty slot. -/
def placed (t : PetOwner) (g slot : Nat) (pet : PetObject) : PetOwner :=
  { t with
    m_pets := Function.update t.m_pets slot (some g)
    heap := Function.update t.heap g (some (PetObject.settled { pet with owner := t.guid, slot := slot }))
    m_battlePet := if pet.isBattle then some g else t.m_battlePet }

/-- A settled pet forgets its mark. -/
lemma settled_marked (pet : PetObject) (pos : Int) : (pet.marked pos).settled = pet.settled := by
  rw [PetObject.marked, PetObject.withState]
  split
  · rfl
  · rfl

/-- While the queue is blocked a pet comes into an empty slot and is marked. -/
lemma summonPet_blocked (blocked : t.m_petUpdateQueueBlocked = true) (lt : slot < maxPetSlot)
    (empty : t.m_pets slot = none) (live : t.heap g = some pet) :
    t.summonPet slot g = .ok { t with
      m_pets := Function.update t.m_pets slot (some g)
      heap := Function.update t.heap g
        (some (PetObject.marked { pet with owner := t.guid, slot := slot } pet.uQueuePos)) } := by
  have run := setState_blocked
    (s := ({ t with m_pets := Function.update t.m_pets slot (some g) } : PetOwner).setPet g
      { pet with owner := t.guid, slot := slot }) setPet_heap_self blocked
  rw [setPet_setPet] at run
  rw [summonPet, getPet, if_pos lt, empty, ok_bind]
  simp only
  rw [visualizePet, deref_live live, ok_bind]
  exact run

/-- One row is loaded. -/
lemma loadRows_cons (blocked : t.m_petUpdateQueueBlocked = true) (lt : slot < petSlotEnd)
    (empty : t.m_pets slot = none) (load : t.loadPetFromDB creatures g = some pet) (few : count < petSlotEnd) :
    loadRows creatures ((g, slot) :: rows) count t = loadRows creatures rows (count + 1) (t.placed g slot pet) := by
  simp only [petSlotEnd] at lt few
  have bank : slot < maxPetSlot := by
    simp only [maxPetSlot]
    omega
  have more : ¬maxPetSlot < count + 1 := by
    simp only [maxPetSlot]
    omega
  rw [loadRows]
  simp only
  rw [u8_of_lt (by omega), if_neg (Nat.not_lt.mpr bank.le), load]
  simp only
  rw [u8_of_lt (by omega), summonPet_blocked (t := t.setPet g pet) blocked bank empty setPet_heap_self, ok_bind,
    deref_live (Function.update_self ..), ok_bind, (PetObject.marked_fields ..).isBattle]
  have fight : PetObject.isBattle { pet with owner := (t.setPet g pet).guid, slot := slot } = pet.isBattle := rfl
  rw [fight]
  cases fights : pet.isBattle with
  | true =>
    rw [if_pos rfl, setState_unchanged (Function.update_self ..), ok_bind, if_neg more]
    simp only [placed, setPet, Function.update_idem, settled_marked, fights, if_true]
  | false =>
    rw [if_neg Bool.false_ne_true, setState_unchanged (Function.update_self ..), ok_bind, if_neg more]
    simp only [placed, setPet, Function.update_idem, settled_marked, fights, Bool.false_eq_true, if_false]

/-- What a load reads of the row of a pet. -/
lemma Kept.loginRow (k : s.Kept creatures) (login : s.LoginRows rows) (mem : (g, slot) ∈ rows) :
    slot < petSlotEnd ∧ s.m_pets slot = some g ∧ ∃ pet, s.loadPetFromDB creatures g = some pet ∧
      s.character_pet g = some (PetObject.row { pet with slot := slot }) ∧ pet.owner = s.guid ∧
      (creatures pet.entry).isSome := by
  obtain ⟨row, stored, own, rfl⟩ := (login.stored g slot).mp mem
  obtain ⟨pet, live⟩ := Option.isSome_iff_exists.mp (k.rows stored own)
  have tended := k.pet live
  have old : pet.uState ≠ .new := by
    intro new
    cases (tended.fresh new).symm.trans stored
  obtain ⟨row', stored', wrote⟩ := tended.stored old
  cases stored.symm.trans stored'
  have housed := k.housed live
  have same : row.petslot = pet.slot := congrArg StoredPet.petslot wrote.same
  have data : row.data = some ⟨pet.entry, pet.modelid⟩ := congrArg StoredPet.data wrote.same
  obtain ⟨template, known⟩ := Option.isSome_iff_exists.mp tended.known
  rw [same]
  refine ⟨(k.slot housed).1, housed, ⟨s.guid, pet.entry, pet.modelid, template.info, 0, row.mode_battle, .new, -1⟩, ?_,
    ?_, rfl, tended.known⟩
  · have small : row.mode_battle < 2 ^ 8 := Nat.lt_of_le_of_lt wrote.mode (by decide)
    rw [loadPetFromDB, stored]
    simp only
    rw [if_neg (not_not.mpr own), data]
    simp only
    rw [known, u8_of_lt small]
    rfl
  · have mode : row.mode_battle = if row.mode_battle = 1 then 1 else 0 := by
      have le := wrote.mode
      split
      · assumption
      · omega
    rw [stored, wrote.same, PetObject.row, PetObject.row, tended.owner]
    simp only [PetObject.isBattle, decide_eq_true_eq]
    rw [← mode]

/-- No slot is in two rows. -/
lemma Kept.loginRow_slot (k : s.Kept creatures) (login : s.LoginRows rows) (mem : (g, slot) ∈ rows)
    (mem' : (g', slot) ∈ rows) : g' = g :=
  Option.some.inj ((k.loginRow login mem').2.1.symm.trans (k.loginRow login mem).2.1)

/-- There are no more rows than slots. -/
lemma Kept.loginRows_length (k : s.Kept creatures) (login : s.LoginRows rows) : rows.length ≤ petSlotEnd := by
  have within : rows.map Prod.fst ⊆ (List.range petSlotEnd).filterMap s.m_pets := by
    intro g mem
    obtain ⟨⟨g', slot⟩, row, rfl⟩ := List.mem_map.mp mem
    obtain ⟨lt, held, -⟩ := k.loginRow login row
    exact List.mem_filterMap.mpr ⟨slot, List.mem_range.mpr lt, held⟩
  have le := (login.nodup.subperm within).length_le
  rw [List.length_map] at le
  exact le.trans ((List.length_filterMap_le ..).trans_eq List.length_range)

/-- The player after some of its rows were loaded. -/
structure Loading (creatures : Nat → Option PetTemplate) (s : PetOwner) (done : List (Nat × Nat)) (t : PetOwner) :
    Prop where
  guid : t.guid = s.guid
  rows : t.character_pet = s.character_pet
  hi : t.m_hiPetNumber = s.m_hiPetNumber
  blocked : t.m_petUpdateQueueBlocked = true
  empty : t.m_petUpdateQueue = []
  slots : ∀ {i g}, t.m_pets i = some g ↔ (g, i) ∈ done
  alive : ∀ {i g}, (g, i) ∈ done → ∃ pet, t.heap g = some pet ∧ pet.slot = i
  pets : ∀ {g pet}, t.heap g = some pet → (g, pet.slot) ∈ done ∧ pet.owner = s.guid ∧ (creatures pet.entry).isSome ∧
    pet = pet.settled ∧ s.character_pet g = some pet.row
  fighter : ∀ {g}, t.m_battlePet = some g → ∃ pet, t.heap g = some pet ∧ pet.isBattle = true
  flagged : ∀ {g pet}, t.heap g = some pet → pet.isBattle = true → t.m_battlePet.isSome

/-- One more row is loaded. -/
lemma Loading.next (h : s.Loading creatures done t) (fresh : ∀ slot, (g, slot) ∉ done)
    (empty : ∀ g', (g', slot) ∉ done) (stored : s.character_pet g = some (PetObject.row { pet with slot := slot }))
    (own : pet.owner = s.guid) (known : (creatures pet.entry).isSome) :
    s.Loading creatures (done ++ [(g, slot)]) (t.placed g slot pet) := by
  have self : (t.placed g slot pet).heap g = some (PetObject.settled { pet with owner := t.guid, slot := slot }) :=
    Function.update_self ..
  have others (g' : Nat) (ne : g' ≠ g) : (t.placed g slot pet).heap g' = t.heap g' := Function.update_of_ne ne ..
  have dead : t.heap g = none := by
    cases live : t.heap g with
    | none => rfl
    | some pet' => exact absurd (h.pets live).1 (fresh pet'.slot)
  have before {g' pet'} (live : t.heap g' = some pet') : g' ≠ g := by
    rintro rfl
    cases dead.symm.trans live
  refine ⟨h.guid, h.rows, h.hi, h.blocked, h.empty, fun {i g'} => ?slots, fun {i g'} mem => ?alive,
    fun {g' pet'} live => ?pets, fun {g'} fights => ?fighter, fun {g' pet'} live fights => ?flagged⟩
  case slots =>
    rw [List.mem_append, List.mem_singleton, ← h.slots, placed]
    simp only [Function.update_apply]
    by_cases eq : i = slot
    · subst eq
      have out : t.m_pets i ≠ some g' := fun held => empty g' (h.slots.mp held)
      rw [if_pos rfl, or_iff_right out, Prod.mk.injEq, Option.some.injEq, and_iff_left rfl]
      exact eq_comm
    · rw [if_neg eq, or_iff_left fun both => eq (Prod.mk.inj both).2]
  case alive =>
    obtain mem | single := List.mem_append.mp mem
    · obtain ⟨pet', live, place⟩ := h.alive mem
      exact ⟨pet', (others g' (before live)).trans live, place⟩
    · cases List.mem_singleton.mp single
      exact ⟨_, self, rfl⟩
  case pets =>
    by_cases eq : g' = g
    · subst eq
      cases self.symm.trans live
      refine ⟨List.mem_append_right _ List.mem_cons_self, h.guid, known, rfl, stored.trans ?_⟩
      rw [PetObject.row, PetObject.row]
      simp only [own, h.guid]
      rfl
    · obtain ⟨mem, rest⟩ := h.pets ((others g' eq).symm.trans live)
      exact ⟨List.mem_append_left _ mem, rest⟩
  case fighter =>
    rw [placed] at fights
    simp only at fights
    split at fights
    · next battle =>
      cases fights
      exact ⟨_, self, battle⟩
    · obtain ⟨pet', live, battle⟩ := h.fighter fights
      exact ⟨pet', (others g' (before live)).trans live, battle⟩
  case flagged =>
    rw [placed]
    simp only
    split
    · rfl
    · next rests =>
      -- the pet that was loaded does not fight, so the pointer is an earlier one
      by_cases eq : g' = g
      · subst eq
        cases self.symm.trans live
        exact absurd fights rests
      · exact h.flagged ((others g' eq).symm.trans live) fights

/-- The rows are loaded one after the other. -/
lemma Kept.loadRows (k : s.Kept creatures) (login : s.LoginRows rows) {rest : List (Nat × Nat)}
    (h : s.Loading creatures done t) (split : done ++ rest = rows) :
    ∃ t', PetOwner.loadRows creatures rest done.length t = .ok t' ∧ s.Loading creatures rows t' := by
  induction rest generalizing done t with
  | nil =>
    rw [List.append_nil] at split
    exact ⟨t, rfl, split ▸ h⟩
  | cons row rest ih =>
    obtain ⟨g, slot⟩ := row
    have mem : (g, slot) ∈ rows := split ▸ List.mem_append_right _ List.mem_cons_self
    have earlier {row} (mem : row ∈ done) : row ∈ rows := split ▸ List.mem_append_left _ mem
    obtain ⟨lt, -, pet, load, stored, own, known⟩ := k.loginRow login mem
    -- a pet has one row and a slot one pet, so neither of them was seen before
    have fresh : ∀ slot, (g, slot) ∉ done := by
      intro slot' before
      have nodup := login.nodup
      rw [← split, List.map_append, List.nodup_append] at nodup
      exact nodup.2.2 g (List.mem_map.mpr ⟨_, before, rfl⟩) g (List.mem_map.mpr ⟨_, List.mem_cons_self, rfl⟩) rfl
    have empty : ∀ g', (g', slot) ∉ done := by
      intro g' before
      cases k.loginRow_slot login mem (earlier before)
      exact fresh slot before
    have free : t.m_pets slot = none := by
      cases held : t.m_pets slot with
      | none => rfl
      | some g' => exact absurd (h.slots.mp held) (empty g')
    have load' : t.loadPetFromDB creatures g = some pet := by
      rw [← load, loadPetFromDB, loadPetFromDB, h.rows, h.guid]
    have few : done.length < petSlotEnd := by
      have length := k.loginRows_length login
      rw [← split, List.length_append, List.length_cons] at length
      omega
    rw [loadRows_cons h.blocked lt free load' few]
    have next := ih (h.next fresh empty stored own known) (by rw [List.append_assoc]; exact split)
    rw [List.length_append] at next
    exact next

/-- A login leaves the pets settled, and the battle pet is one whose row says so. -/
lemma Kept.loadPets (k : s.Kept creatures) (login : s.LoginRows rows) :
    ∃ s', s.loadPets creatures rows = .ok s' ∧ s'.Settled creatures ∧ s'.guid = s.guid ∧
      s'.character_pet = s.character_pet ∧ (∀ g, s'.m_battlePet = some g → s'.flag g = some true) ∧
      ∀ g, s'.flag g = some true → s'.m_battlePet.isSome := by
  have start : s.Loading creatures [] { s.offline with m_petUpdateQueueBlocked := true } := by
    refine ⟨rfl, rfl, rfl, rfl, rfl, iff_of_false (fun held => ?_) List.not_mem_nil,
      fun mem => absurd mem List.not_mem_nil, fun live => ?_, fun fights => ?_, fun live => ?_⟩
    · cases held
    · cases live
    · cases fights
    · cases live
  obtain ⟨t, run, h⟩ := k.loadRows login start rfl
  have flag (g : Nat) : t.flag g = (t.heap g).map PetObject.isBattle := by
    rw [PetOwner.flag]
    cases live : t.heap g with
    | none => rfl
    | some pet =>
      rw [Option.bind_some, Option.map_some, if_neg]
      rw [(h.pets live).2.2.2.1]
      exact fun removed => by cases removed
  rw [List.length_nil] at run
  rw [PetOwner.loadPets, run, ok_bind]
  refine ⟨_, rfl, ⟨⟨List.nodup_nil, fun {g pet} live => ?tended, fun {i g} held => ?slot, fun {g} lt => ?below,
    fun {g row} stored own => ?stored, fun {g} fights => ?fighter,
    fun mem => absurd mem List.not_mem_nil, fun {g pet} live _ => ?saved⟩, rfl, h.empty⟩,
    h.guid, h.rows, fun g fights => ?_, fun g battle => ?_⟩
  case tended =>
    obtain ⟨mem, own, known, clean, stored⟩ := h.pets live
    refine ⟨own.trans h.guid.symm, known, fun _ => h.slots.mpr mem, fun new => ?_,
      fun _ => ⟨_, h.rows ▸ stored, pet.wrote_row⟩⟩
    rw [clean] at new
    cases new
  case slot =>
    have mem := h.slots.mp held
    obtain ⟨pet, live, place⟩ := h.alive mem
    refine ⟨(k.loginRow login mem).1, pet, live, place, ?_⟩
    rw [(h.pets live).2.2.2.1]
    exact fun removed => by cases removed
  case below =>
    obtain ⟨-, absent⟩ := k.below (h.hi ▸ lt)
    refine ⟨?_, h.rows ▸ absent⟩
    cases live : t.heap g with
    | none => rfl
    | some pet => cases absent.symm.trans (h.pets live).2.2.2.2
  case stored =>
    obtain ⟨pet, live, -⟩ := h.alive ((login.stored g row.petslot).mpr ⟨row, h.rows ▸ stored, own.trans h.guid, rfl⟩)
    exact live ▸ rfl
  case fighter =>
    obtain ⟨pet, live, -⟩ := h.fighter fights
    exact ⟨pet.slot, h.slots.mpr (h.pets live).1⟩
  case saved =>
    obtain ⟨-, -, -, clean, stored⟩ := h.pets live
    exact ⟨clean, h.rows ▸ stored⟩
  · obtain ⟨pet, live, battle⟩ := h.fighter fights
    exact (flag g).trans (by rw [live, Option.map_some, battle])
  · obtain ⟨pet, live, fights⟩ := Option.map_eq_some_iff.mp ((flag g).symm.trans battle)
    exact h.flagged live fights

end PetOwner

end Legacy.Pets
