import Legacy.Pets.Keeping
import Mathlib.Data.List.Perm.Subperm

/-!
# Slots, queue and rows of the pets

`Kept` is the invariant of a player's pets between two calls: a pet is in the slot that it names, the update queue
holds the pets that wait at the positions that they name, and a pet that does not wait is stored as it is. The calls
of `Legacy.Pets.Keeping` keep it; a save, a release and a login leave the pets `Settled`.
-/

namespace Legacy.Pets
open Legacy.Lib
open Legacy.Battle (PetSlots PetChangeFailure petSlotEnd petSlotBankEnd nullPetSlot)

namespace PetObject

/-- The object after its row was written. -/
def settled (pet : PetObject) : PetObject := { pet with uState := .unchanged, uQueuePos := -1 }

/-- The object in another state, at a position of the queue. -/
def marked (pet : PetObject) (pos : Int) (state : PetUpdateState := .changed) : PetObject :=
  { pet.withState state with uQueuePos := pos }

/-- A state does not move a pet in the queue. -/
lemma withState_uQueuePos (pet : PetObject) (state : PetUpdateState) :
    (pet.withState state).uQueuePos = pet.uQueuePos := by
  rw [withState]
  split <;> rfl

/-- Marking a pet in its own place. -/
lemma marked_self (pet : PetObject) (state : PetUpdateState) :
    pet.marked pet.uQueuePos state = pet.withState state := by
  rw [marked, ← withState_uQueuePos pet state]

/-- Two objects of a pet that differ in their update states at most. -/
structure SamePet (pet pet' : PetObject) : Prop where
  owner : pet'.owner = pet.owner
  entry : pet'.entry = pet.entry
  modelid : pet'.modelid = pet.modelid
  slot : pet'.slot = pet.slot
  battle : pet'.battle = pet.battle

/-- The same pet has the same row. -/
lemma SamePet.row {pet pet' : PetObject} (same : pet.SamePet pet') : pet'.row = pet.row := by
  rw [PetObject.row, PetObject.row, isBattle, isBattle, same.owner, same.entry, same.modelid, same.slot, same.battle]

/-- The same pet fights or does not. -/
lemma SamePet.isBattle {pet pet' : PetObject} (same : pet.SamePet pet') : pet'.isBattle = pet.isBattle := by
  rw [PetObject.isBattle, PetObject.isBattle, same.battle]

/-- Marking a pet keeps all but its state and its place in the queue. -/
lemma marked_fields (pet : PetObject) (pos : Int) (state : PetUpdateState := .changed) :
    pet.SamePet (pet.marked pos state) := by
  rw [marked, withState]
  split
  · exact ⟨rfl, rfl, rfl, rfl, rfl⟩
  · exact ⟨rfl, rfl, rfl, rfl, rfl⟩

/-- The state of a marked pet. -/
lemma marked_uState (pet : PetObject) (pos : Int) (state : PetUpdateState := .changed) :
    (pet.marked pos state).uState = if pet.uState = .new then .new else state := by
  rw [marked, withState]
  by_cases new : pet.uState = .new
  · rw [if_neg (not_not.mpr new), if_pos new]
    exact new
  · rw [if_pos new, if_neg new]

/-- A pet that changes is to be written. -/
lemma marked_dirty (pet : PetObject) (pos : Int) :
    (pet.marked pos).uState ≠ .unchanged ∧ (pet.marked pos).uState ≠ .removed := by
  rw [marked_uState]
  split
  · exact ⟨by decide, by decide⟩
  · exact ⟨by decide, by decide⟩

/-- The row was written for this pet; its battle mode may be the one of an earlier save. -/
structure Wrote (pet : PetObject) (row : StoredPet) : Prop where
  same : row = { pet.row with mode_battle := row.mode_battle }
  mode : row.mode_battle ≤ 1

/-- A pet writes its own row. -/
lemma wrote_row (pet : PetObject) : pet.Wrote pet.row := by
  refine ⟨rfl, ?_⟩
  rw [row]
  split
  · exact Nat.le_refl 1
  · exact Nat.zero_le 1

/-- A row is also one of the same pet in another battle mode. -/
lemma Wrote.congr {pet pet' : PetObject} {row : StoredPet} (wrote : pet.Wrote row) (mode : Nat)
    (same : SamePet { pet with battle := mode } pet') : pet'.Wrote row := by
  refine ⟨?_, wrote.mode⟩
  rw [same.row, wrote.same]
  rfl

end PetObject

namespace PetOwner

variable {creatures : Nat → Option PetTemplate} {s s' : PetOwner} {g g' i mode : Nat} {pet : PetObject}
  {queue : List Nat}

section Calls

/-- A written pet is what the heap has. -/
@[simp]
lemma setPet_heap_self : (s.setPet g pet).heap g = some pet := Function.update_self ..

/-- Writing a pet keeps the others. -/
lemma setPet_heap_ne (ne : g' ≠ g) : (s.setPet g pet).heap g' = s.heap g' := Function.update_of_ne ne ..

/-- Of two pets written, the second one stays. -/
lemma setPet_setPet {pet' : PetObject} : (s.setPet g pet).setPet g pet' = s.setPet g pet' := by
  simp only [setPet, Function.update_idem]

/-- A pet that is alive can be read. -/
lemma deref_live (live : s.heap g = some pet) : s.deref g = .ok pet := by
  rw [deref, live]

/-- The owner after a change of a pet that waits in the queue from now on. -/
def touched (s : PetOwner) (g : Nat) (pet : PetObject) (state : PetUpdateState := .changed) : PetOwner :=
  if pet.uQueuePos = -1 then
    { s.setPet g (pet.marked (i16 s.m_petUpdateQueue.length) state) with
      m_petUpdateQueue := s.m_petUpdateQueue ++ [some g] }
  else s.setPet g (pet.marked pet.uQueuePos state)

/-- A dirty state marks the pet and puts it into the queue. -/
lemma setState_marked (state : PetUpdateState) (live : s.heap g = some pet) (dirty : state ≠ .unchanged)
    (old : pet.uState = .new → state ≠ .removed) :
    s.setState g state =
      .ok ((s.setPet g (pet.marked pet.uQueuePos state)).addToUpdateQueueOf g (pet.marked pet.uQueuePos state)) := by
  rw [setState, deref_live live, ok_bind, pet.marked_self, if_neg fun both => old both.1 both.2, if_pos dirty]
  rfl

/-- A dirty state touches the pet of a player whose queue is open. -/
lemma setState_touched (state : PetUpdateState) (live : s.heap g = some pet) (dirty : state ≠ .unchanged)
    (old : pet.uState = .new → state ≠ .removed) (own : pet.owner = s.guid)
    (free : s.m_petUpdateQueueBlocked = false) : s.setState g state = .ok (s.touched g pet state) := by
  have own' : (pet.marked pet.uQueuePos state).owner = (s.setPet g (pet.marked pet.uQueuePos state)).guid :=
    (pet.marked_fields _ state).owner.trans own
  rw [setState_marked state live dirty old, touched, addToUpdateQueueOf]
  by_cases pos : pet.uQueuePos = -1
  · have pos' : (pet.marked pet.uQueuePos state).uQueuePos = -1 := pos
    rw [if_neg (not_not.mpr pos'), if_neg (not_not.mpr own'), if_pos pos]
    simp only [setPet, free, Bool.false_eq_true, if_false, Function.update_idem]
    rfl
  · have pos' : (pet.marked pet.uQueuePos state).uQueuePos ≠ -1 := pos
    rw [if_pos pos', if_neg pos]

/-- Where the queue is blocked a change only marks the object. -/
lemma setState_blocked (live : s.heap g = some pet) (blocked : s.m_petUpdateQueueBlocked = true) :
    s.setState g .changed = .ok (s.setPet g (pet.marked pet.uQueuePos)) := by
  rw [setState_marked .changed live (by decide) fun _ => by decide, addToUpdateQueueOf]
  simp only [setPet, blocked, if_true, ite_self]

/-- An unchanged state settles the pet. -/
lemma setState_unchanged (live : s.heap g = some pet) : s.setState g .unchanged = .ok (s.setPet g pet.settled) := by
  rw [setState, deref_live live, ok_bind]
  simp only [reduceCtorEq, and_false, if_false, ne_eq, not_true]
  rfl

/-- A save writes the row of a pet that changed. -/
lemma saveToDB_written (live : s.heap g = some pet) (dirty : pet.uState ≠ .unchanged) (kept : pet.uState ≠ .removed)
    (stored : pet.uState ≠ .new → ∃ row, s.character_pet g = some row ∧ pet.Wrote row) :
    s.saveToDB g = .ok ((s.setRow g (some pet.row)).setPet g pet.settled) := by
  rw [saveToDB, deref_live live, ok_bind]
  cases state : pet.uState with
  | new => exact setState_unchanged live
  | changed =>
    have old : pet.uState ≠ .new := by
      rw [state]
      decide
    obtain ⟨row, at_, wrote⟩ := stored old
    have slot : row.petslot = pet.slot := congrArg StoredPet.petslot wrote.same
    have rewritten : (s.character_pet g).map pet.updateRow = some pet.row := by
      rw [at_, Option.map_some, PetObject.updateRow, slot]
      rfl
    simp only
    rw [rewritten]
    exact setState_unchanged live
  | removed => exact absurd state kept
  | unchanged => exact absurd state dirty

/-- A removed pet loses its row and its memory. -/
lemma saveToDB_removed (live : s.heap g = some pet) (removed : pet.uState = .removed) :
    s.saveToDB g = .ok ((s.setRow g none).deletePet g) := by
  rw [saveToDB, deref_live live, ok_bind, removed]
  rfl

end Calls

/-- A pet object: a new one is not stored, and every other one has its row. -/
structure Tended (creatures : Nat → Option PetTemplate) (s : PetOwner) (g : Nat) (pet : PetObject) : Prop where
  owner : pet.owner = s.guid
  known : (creatures pet.entry).isSome
  housed : pet.uState ≠ .removed → s.m_pets pet.slot = some g
  fresh : pet.uState = .new → s.character_pet g = none
  stored : pet.uState ≠ .new → ∃ row, s.character_pet g = some row ∧ pet.Wrote row

/-- The pets of a player, where those of `queue` wait to be saved: a pet that does not wait is stored as it is. -/
structure Saving (creatures : Nat → Option PetTemplate) (s : PetOwner) (queue : List Nat) : Prop where
  nodup : queue.Nodup
  pet : ∀ {g pet}, s.heap g = some pet → s.Tended creatures g pet
  slot : ∀ {i g}, s.m_pets i = some g →
    i < petSlotEnd ∧ ∃ pet, s.heap g = some pet ∧ pet.slot = i ∧ pet.uState ≠ .removed
  below : ∀ {g}, s.m_hiPetNumber < g → s.heap g = none ∧ s.character_pet g = none
  rows : ∀ {g row}, s.character_pet g = some row → row.owner_guid = s.guid → (s.heap g).isSome
  fighter : ∀ {g}, s.m_battlePet = some g → ∃ i, s.m_pets i = some g
  waiting : ∀ {g}, g ∈ queue → ∃ pet, s.heap g = some pet ∧ pet.uState ≠ .unchanged
  saved : ∀ {g pet}, s.heap g = some pet → g ∉ queue → pet = pet.settled ∧ s.character_pet g = some pet.row

/-- The pets of a player between two calls: the queue holds the pets that wait, each at its position. -/
structure Kept (creatures : Nat → Option PetTemplate) (s : PetOwner) : Prop extends
    Saving creatures s (s.m_petUpdateQueue.filterMap id) where
  free : s.m_petUpdateQueueBlocked = false
  entries : ∀ {k : Nat} {e}, s.m_petUpdateQueue[k]? = some e →
    ∃ g pet, e = some g ∧ s.heap g = some pet ∧ pet.uQueuePos = k ∧ pet.uState ≠ .removed

/-- The battle mode of a pet of the player. -/
def flag (s : PetOwner) (g : Nat) : Option Bool :=
  (s.heap g).bind fun pet => if pet.uState = .removed then none else some pet.isBattle

/-- A pet that is kept has the flag of its memory. -/
lemma flag_live (live : s.heap g = some pet) (kept : pet.uState ≠ .removed) : s.flag g = some pet.isBattle := by
  rw [flag, live, Option.bind_some, if_neg kept]

/-- A save leaves everything but the pets that it writes. -/
structure SavedAs (s s' : PetOwner) : Prop where
  guid : s'.guid = s.guid
  m_pets : s'.m_pets = s.m_pets
  m_battlePet : s'.m_battlePet = s.m_battlePet
  blocked : s'.m_petUpdateQueueBlocked = s.m_petUpdateQueueBlocked
  flag : s'.flag = s.flag

section Numbers

/-- What `Saving` says of one number. -/
structure SavingAt (creatures : Nat → Option PetTemplate) (s : PetOwner) (queue : List Nat) (g : Nat) : Prop where
  pet : ∀ {pet}, s.heap g = some pet → s.Tended creatures g pet
  slot : ∀ {i}, s.m_pets i = some g →
    i < petSlotEnd ∧ ∃ pet, s.heap g = some pet ∧ pet.slot = i ∧ pet.uState ≠ .removed
  below : s.m_hiPetNumber < g → s.heap g = none ∧ s.character_pet g = none
  rows : ∀ {row}, s.character_pet g = some row → row.owner_guid = s.guid → (s.heap g).isSome
  waiting : g ∈ queue → ∃ pet, s.heap g = some pet ∧ pet.uState ≠ .unchanged
  saved : ∀ {pet}, s.heap g = some pet → g ∉ queue → pet = pet.settled ∧ s.character_pet g = some pet.row

/-- Where every pet is saving and no entry comes twice, all are. -/
lemma saving_of_all (nodup : queue.Nodup) (fighter : ∀ g, s.m_battlePet = some g → ∃ i, s.m_pets i = some g)
    (all : ∀ g, s.SavingAt creatures queue g) : s.Saving creatures queue :=
  ⟨nodup, (all _).pet, (all _).slot, (all _).below, (all _).rows, fighter _, (all _).waiting, (all _).saved⟩

/-- A change of one pet: slots, objects, rows and queue stay as they are for every other number. -/
structure OnlyAt (s s' : PetOwner) (queue queue' : List Nat) (g : Nat) : Prop where
  guid : s'.guid = s.guid
  hi : s.m_hiPetNumber ≤ s'.m_hiPetNumber
  slots : ∀ g' i, g' ≠ g → (s'.m_pets i = some g' ↔ s.m_pets i = some g')
  heap : ∀ g', g' ≠ g → s'.heap g' = s.heap g'
  rows : ∀ g', g' ≠ g → s'.character_pet g' = s.character_pet g'
  waits : ∀ g', g' ≠ g → (g' ∈ queue' ↔ g' ∈ queue)

/-- Where one pet changes, only what is said of that pet is to be shown. -/
lemma Saving.change {queue' : List Nat} (h : s.Saving creatures queue) (only : s.OnlyAt s' queue queue' g)
    (nodup : queue'.Nodup) (fighter : ∀ g, s'.m_battlePet = some g → ∃ i, s'.m_pets i = some g)
    (self : s'.SavingAt creatures queue' g) : s'.Saving creatures queue' := by
  refine saving_of_all nodup fighter fun g' => ?_
  by_cases eq : g' = g
  · exact eq ▸ self
  -- of another number nothing changes that is said of it
  · have heap := only.heap g' eq
    have row := only.rows g' eq
    refine ⟨fun {pet} live => ?_, fun {i} held => ?_, fun lt => ?_, fun stored own => ?_, fun mem => ?_,
      fun live notMem => ?_⟩
    · have old := h.pet (heap.symm.trans live)
      exact ⟨old.owner.trans only.guid.symm, old.known, fun kept => (only.slots g' _ eq).mpr (old.housed kept),
        row ▸ old.fresh, row ▸ old.stored⟩
    · obtain ⟨lt, pet, live, place⟩ := h.slot ((only.slots g' i eq).mp held)
      exact ⟨lt, pet, heap.trans live, place⟩
    · obtain ⟨dead, absent⟩ := h.below (Nat.lt_of_le_of_lt only.hi lt)
      exact ⟨heap.trans dead, row.trans absent⟩
    · rw [heap]
      exact h.rows (row.symm.trans stored) (own.trans only.guid)
    · obtain ⟨pet, live, dirty⟩ := h.waiting ((only.waits g' eq).mp mem)
      exact ⟨pet, heap.trans live, dirty⟩
    · rw [row]
      exact h.saved (heap.symm.trans live) fun mem => notMem ((only.waits g' eq).mpr mem)

/-- A living pet has a number that was given out. -/
lemma Saving.le (h : s.Saving creatures queue) (live : s.heap g = some pet) : g ≤ s.m_hiPetNumber := by
  by_contra above
  cases (h.below (Nat.not_le.mp above)).1.symm.trans live

/-- A pet that is stored as it is does not wait. -/
lemma Saving.not_mem (h : s.Saving creatures queue) (live : s.heap g = some pet) (clean : pet = pet.settled) :
    g ∉ queue := by
  intro mem
  obtain ⟨pet', live', dirty⟩ := h.waiting mem
  cases live.symm.trans live'
  rw [clean] at dirty
  exact dirty rfl

end Numbers

section Saves

/-- What is said of a pet stays true where its owner and its row are the same. -/
lemma Tended.congr (h : s.Tended creatures g pet) (guid : s'.guid = s.guid) (m_pets : s'.m_pets = s.m_pets)
    (row : s'.character_pet g = s.character_pet g) : s'.Tended creatures g pet :=
  ⟨guid ▸ h.owner, h.known, fun kept => m_pets ▸ h.housed kept, fun new => row.trans (h.fresh new),
    fun old => row ▸ h.stored old⟩

/-- A pet that is stored as it is. -/
lemma Tended.settled (h : s.Tended creatures g pet) (kept : pet.uState ≠ .removed) (guid : s'.guid = s.guid)
    (m_pets : s'.m_pets = s.m_pets) (row : s'.character_pet g = some pet.row) :
    s'.Tended creatures g pet.settled :=
  ⟨guid ▸ h.owner, h.known, fun _ => m_pets ▸ h.housed kept, nofun, fun _ => ⟨_, row, pet.settled.wrote_row⟩⟩

/-- The first pet of the queue is saved, or deleted. -/
lemma Saving.pass (s' : PetOwner) (h : s.Saving creatures (g :: queue)) (live : s.heap g = some pet)
    (guid : s'.guid = s.guid) (m_pets : s'.m_pets = s.m_pets) (m_battlePet : s'.m_battlePet = s.m_battlePet)
    (hi : s'.m_hiPetNumber = s.m_hiPetNumber) (heap : ∀ g', g' ≠ g → s'.heap g' = s.heap g')
    (rows : ∀ g', g' ≠ g → s'.character_pet g' = s.character_pet g')
    (self : s'.heap g = none ∧ s'.character_pet g = none ∧ pet.uState = .removed ∨
      s'.heap g = some pet.settled ∧ s'.character_pet g = some pet.row ∧ pet.uState ≠ .removed) :
    s'.Saving creatures queue ∧ s'.flag = s.flag := by
  obtain ⟨fresh, rest⟩ := List.nodup_cons.mp h.nodup
  have only : s.OnlyAt s' (g :: queue) queue g :=
    ⟨guid, hi.ge, fun g' i _ => by rw [m_pets], heap, rows, fun g' ne =>
      ⟨List.mem_cons_of_mem g, fun mem => (List.mem_cons.mp mem).resolve_left ne⟩⟩
  have fighter (g' : Nat) (fights : s'.m_battlePet = some g') : ∃ i, s'.m_pets i = some g' := by
    obtain ⟨i, held⟩ := h.fighter (m_battlePet ▸ fights)
    exact ⟨i, m_pets ▸ held⟩
  refine ⟨h.change only rest fighter ?self, ?flag⟩
  case self =>
    obtain ⟨gone, absent, removed⟩ | ⟨at', row, kept⟩ := self
    · refine ⟨fun live' => ?_, fun held => ?_, fun _ => ⟨gone, absent⟩, fun stored => ?_, fun mem => absurd mem fresh,
        fun live' => ?_⟩
      · cases gone.symm.trans live'
      · obtain ⟨-, pet', live', -, kept⟩ := h.slot (m_pets ▸ held)
        cases live.symm.trans live'
        exact absurd removed kept
      · cases absent.symm.trans stored
      · cases gone.symm.trans live'
    · refine ⟨fun live' => ?_, fun held => ?_, fun lt => absurd (h.le live) (Nat.not_le.mpr (hi ▸ lt)),
        fun _ _ => at' ▸ rfl, fun mem => absurd mem fresh, fun live' _ => ?_⟩
      · cases at'.symm.trans live'
        exact (h.pet live).settled kept guid m_pets row
      · obtain ⟨lt, pet', live', slot, -⟩ := h.slot (m_pets ▸ held)
        cases live.symm.trans live'
        exact ⟨lt, _, at', slot, nofun⟩
      · cases at'.symm.trans live'
        exact ⟨rfl, row⟩
  case flag =>
    funext g'
    by_cases eq : g' = g
    · subst eq
      obtain ⟨gone, -, removed⟩ | ⟨at', -, kept⟩ := self
      · rw [flag, flag, gone, live, Option.bind_some, if_pos removed]
        rfl
      · rw [flag_live live kept, flag_live at' nofun]
        rfl
    · rw [flag, flag, heap g' eq]

/-- One pet of the queue is saved. -/
lemma Saving.next (h : s.Saving creatures (g :: queue)) :
    ∃ s', s.saveToDB g = .ok s' ∧ s'.Saving creatures queue ∧ s.SavedAs s' := by
  obtain ⟨pet, live, dirty⟩ := h.waiting List.mem_cons_self
  have row (row : Option StoredPet) (g' : Nat) (ne : g' ≠ g) : (s.setRow g row).character_pet g' = s.character_pet g' :=
    Function.update_of_ne ne ..
  by_cases removed : pet.uState = .removed
  · have passed := h.pass ((s.setRow g none).deletePet g) live rfl rfl rfl rfl
      (fun g' ne => Function.update_of_ne ne ..) (row none)
      (.inl ⟨Function.update_self .., Function.update_self .., removed⟩)
    exact ⟨_, saveToDB_removed live removed, passed.1, rfl, rfl, rfl, rfl, passed.2⟩
  · have passed := h.pass ((s.setRow g (some pet.row)).setPet g pet.settled) live rfl rfl rfl rfl
      (fun g' ne => Function.update_of_ne ne ..) (row _)
      (.inr ⟨Function.update_self .., Function.update_self .., removed⟩)
    exact ⟨_, saveToDB_written live dirty removed (h.pet live).stored, passed.1, rfl, rfl, rfl, rfl, passed.2⟩

/-- The whole queue is saved. -/
lemma Saving.run (h : s.Saving creatures queue) :
    ∃ s', queue.foldlM saveToDB s = .ok s' ∧ s'.Saving creatures [] ∧ s.SavedAs s' := by
  induction queue generalizing s with
  | nil => exact ⟨s, rfl, h, rfl, rfl, rfl, rfl, rfl⟩
  | cons g queue ih =>
    obtain ⟨s₁, first, h₁, as₁⟩ := h.next
    obtain ⟨s', rest, h', as'⟩ := ih h₁
    exact ⟨s', foldlM_cons_ok.mpr ⟨s₁, first, rest⟩, h', as'.guid.trans as₁.guid, as'.m_pets.trans as₁.m_pets,
      as'.m_battlePet.trans as₁.m_battlePet, as'.blocked.trans as₁.blocked, as'.flag.trans as₁.flag⟩

/-- Every pet is stored as it is, and no other row is one of the player. -/
structure Settled (creatures : Nat → Option PetTemplate) (s : PetOwner) : Prop extends Saving creatures s [] where
  free : s.m_petUpdateQueueBlocked = false
  empty : s.m_petUpdateQueue = []

/-- Pets without changes are kept. -/
lemma Settled.kept (h : s.Settled creatures) : s.Kept creatures where
  toSaving := h.empty ▸ h.toSaving
  free := h.free
  entries at' := by
    rw [h.empty] at at'
    cases at'

/-- A save leaves the pets settled. -/
lemma Saving.savePets (h : s.Saving creatures (s.m_petUpdateQueue.filterMap id))
    (free : s.m_petUpdateQueueBlocked = false) :
    ∃ s', s.savePets = .ok s' ∧ s'.Settled creatures ∧ s.SavedAs s' := by
  rw [PetOwner.savePets]
  by_cases empty : s.m_petUpdateQueue = []
  · rw [if_pos empty]
    rw [empty] at h
    exact ⟨s, rfl, ⟨h, free, empty⟩, rfl, rfl, rfl, rfl, rfl⟩
  · obtain ⟨s', run, h', as'⟩ := h.run
    rw [if_neg empty, run, ok_bind]
    refine ⟨_, rfl, ⟨⟨h'.nodup, fun live => ?_, h'.slot, h'.below, h'.rows, h'.fighter, h'.waiting, h'.saved⟩,
      as'.blocked.trans free, rfl⟩, as'.guid, as'.m_pets, as'.m_battlePet, as'.blocked, as'.flag⟩
    exact (h'.pet live).congr rfl rfl rfl

end Saves

section Changes

variable (k : s.Kept creatures)

include k

/-- The entry of a pet that waits. -/
lemma Kept.queued (live : s.heap g = some pet) (waits : pet ≠ pet.settled) :
    ∃ j : Nat, pet.uQueuePos = j ∧ s.m_petUpdateQueue[j]? = some (some g) := by
  have mem : g ∈ s.m_petUpdateQueue.filterMap id := by
    by_contra notMem
    exact waits (k.saved live notMem).1
  obtain ⟨e, mem, rfl⟩ := List.mem_filterMap.mp mem
  obtain ⟨j, at'⟩ := List.mem_iff_getElem?.mp mem
  obtain ⟨g', pet', same, live', pos, -⟩ := k.entries at'
  cases same
  cases live.symm.trans live'
  exact ⟨j, pos, at'⟩

/-- No pet is removed between two calls. -/
lemma Kept.kept (live : s.heap g = some pet) : pet.uState ≠ .removed := by
  by_cases clean : pet = pet.settled
  · rw [clean]
    nofun
  · obtain ⟨j, -, at'⟩ := k.queued live clean
    obtain ⟨g', pet', same, live', -, kept⟩ := k.entries at'
    cases same
    cases live.symm.trans live'
    exact kept

/-- A pet of the player has the flag of its memory. -/
lemma Kept.flag (live : s.heap g = some pet) : s.flag g = some pet.isBattle := flag_live live (k.kept live)

/-- A pet of the player is in its slot. -/
lemma Kept.housed (live : s.heap g = some pet) : s.m_pets pet.slot = some g := (k.pet live).housed (k.kept live)

/-- A pet is in no queue exactly if it does not wait. -/
lemma Kept.pos_iff (live : s.heap g = some pet) : pet.uQueuePos = -1 ↔ pet = pet.settled := by
  constructor
  · intro pos
    by_contra waits
    obtain ⟨j, pos', -⟩ := k.queued live waits
    omega
  · intro clean
    rw [clean]
    rfl

/-- The queue has no more entries than the player can have pets. -/
lemma Kept.length_le : s.m_petUpdateQueue.length ≤ petSlotEnd := by
  have all : (s.m_petUpdateQueue.filterMap id).length = s.m_petUpdateQueue.length := by
    rw [List.length_filterMap_eq_countP]
    refine List.countP_eq_length.mpr fun e mem => ?_
    obtain ⟨j, at'⟩ := List.mem_iff_getElem?.mp mem
    obtain ⟨g, -, rfl, -⟩ := k.entries at'
    rfl
  -- the queue holds different pets, and each of them is in a slot
  have held : s.m_petUpdateQueue.filterMap id ⊆ (List.range petSlotEnd).filterMap s.m_pets := by
    intro g mem
    obtain ⟨pet, live, -⟩ := k.waiting mem
    have at' := k.housed live
    exact List.mem_filterMap.mpr ⟨pet.slot, List.mem_range.mpr (k.slot at').1, at'⟩
  rw [← all]
  exact (k.nodup.subperm held).length_le.trans
    ((List.length_filterMap_le ..).trans_eq List.length_range)

omit k in
/-- What is said of a pet stays true in another battle mode, and after a change. -/
lemma Tended.marked (h : s.Tended creatures g pet) (mode : Nat) (pos : Int) (guid : s'.guid = s.guid)
    (housed : s'.m_pets pet.slot = some g) (row : s'.character_pet g = s.character_pet g) :
    s'.Tended creatures g (PetObject.marked { pet with battle := mode } pos) := by
  have same := PetObject.marked_fields { pet with battle := mode } pos
  have state := PetObject.marked_uState { pet with battle := mode } pos
  have new : (PetObject.marked { pet with battle := mode } pos).uState = .new ↔ pet.uState = .new := by
    rw [state]
    split
    · next new => exact iff_of_true rfl new
    · next old => exact iff_of_false nofun old
  refine ⟨?_, ?_, fun _ => ?_, fun fresh => ?_, fun old => ?_⟩
  · rw [same.owner, guid]
    exact h.owner
  · rw [same.entry]
    exact h.known
  · rw [same.slot]
    exact housed
  · rw [row]
    exact h.fresh (new.mp fresh)
  · obtain ⟨stored, at', wrote⟩ := h.stored fun fresh => old (new.mpr fresh)
    exact ⟨stored, row.trans at', wrote.congr mode same⟩

/-- A pet that waits changes. -/
lemma Kept.rewrite (live : s.heap g = some pet) (waits : pet ≠ pet.settled) (mode : Nat) :
    (s.setPet g (PetObject.marked { pet with battle := mode } pet.uQueuePos)).Kept creatures := by
  obtain ⟨j, pos, at'⟩ := k.queued live waits
  have mem : g ∈ s.m_petUpdateQueue.filterMap id :=
    List.mem_filterMap.mpr ⟨some g, List.mem_iff_getElem?.mpr ⟨j, at'⟩, rfl⟩
  have same := PetObject.marked_fields { pet with battle := mode } pet.uQueuePos
  have dirty := PetObject.marked_dirty { pet with battle := mode } pet.uQueuePos
  refine ⟨k.change ⟨rfl, Nat.le_refl _, fun _ _ _ => Iff.rfl, fun g' ne => setPet_heap_ne ne, fun _ _ => rfl,
    fun _ _ => Iff.rfl⟩ k.nodup (fun _ => k.fighter) ?self, k.free, fun {j' e} entry => ?entries⟩
  case self =>
    refine ⟨fun live' => ?_, fun held => ?_, fun lt => absurd (k.le live) (Nat.not_le.mpr lt),
      fun _ _ => setPet_heap_self ▸ rfl, fun _ => ⟨_, setPet_heap_self, dirty.1⟩, fun _ notMem => absurd mem notMem⟩
    · rw [setPet_heap_self] at live'
      cases live'
      exact (k.pet live).marked mode _ rfl (k.housed live) rfl
    · obtain ⟨lt, pet', live', slot, -⟩ := k.slot held
      cases live.symm.trans live'
      exact ⟨lt, _, setPet_heap_self, same.slot.trans slot, dirty.2⟩
  case entries =>
    obtain ⟨g', pet', rfl, live', pos', kept⟩ := k.entries entry
    by_cases eq : g' = g
    · subst eq
      cases live.symm.trans live'
      exact ⟨g', _, rfl, setPet_heap_self, pos', dirty.2⟩
    · exact ⟨g', pet', rfl, (setPet_heap_ne eq).trans live', pos', kept⟩

omit k in
/-- An entry of a queue to which one was added. -/
lemma getElem?_push {entries : List (Option Nat)} {e last : Option Nat} {j : Nat}
    (at' : (entries ++ [last])[j]? = some e) : entries[j]? = some e ∨ j = entries.length ∧ e = last := by
  rw [List.getElem?_append] at at'
  split at at'
  · exact .inl at'
  · next past =>
    rw [List.getElem?_singleton] at at'
    split at at'
    · next zero =>
      cases at'
      exact .inr ⟨by omega, rfl⟩
    · cases at'

/-- A pet comes into the queue: one of the player that did not wait, or a new one for an empty slot. -/
structure Pushed (s s' : PetOwner) (g : Nat) (pet : PetObject) : Prop where
  guid : s'.guid = s.guid
  m_pets : s'.m_pets = Function.update s.m_pets pet.slot (some g)
  m_battlePet : s'.m_battlePet = s.m_battlePet
  queue : s'.m_petUpdateQueue = s.m_petUpdateQueue ++ [some g]
  blocked : s'.m_petUpdateQueueBlocked = s.m_petUpdateQueueBlocked
  self : s'.heap g = some pet
  others : ∀ g', g' ≠ g → s'.heap g' = s.heap g'
  rows : s'.character_pet = s.character_pet
  hi : s.m_hiPetNumber ≤ s'.m_hiPetNumber

/-- A pet that is pushed into the queue keeps all pets kept. -/
lemma Kept.push (g : Nat) (pet : PetObject) (pushed : s.Pushed s' g pet) (lt : pet.slot < petSlotEnd)
    (quiet : ∀ pet', s.heap g = some pet' → pet' = pet'.settled ∧ pet'.slot = pet.slot)
    (empty : ∀ g', s.m_pets pet.slot = some g' → g' = g) (tended : s'.Tended creatures g pet)
    (dirty : pet.uState ≠ .unchanged ∧ pet.uState ≠ .removed) (pos : pet.uQueuePos = s.m_petUpdateQueue.length)
    (top : g ≤ s'.m_hiPetNumber) : s'.Kept creatures := by
  have entries : s'.m_petUpdateQueue.filterMap id = s.m_petUpdateQueue.filterMap id ++ [g] := by
    rw [pushed.queue, List.filterMap_append]
    rfl
  have absent : g ∉ s.m_petUpdateQueue.filterMap id := by
    intro mem
    obtain ⟨pet', live, -⟩ := k.waiting mem
    exact k.not_mem live (quiet pet' live).1 mem
  have slots (g' i : Nat) (ne : g' ≠ g) : s'.m_pets i = some g' ↔ s.m_pets i = some g' := by
    rw [pushed.m_pets]
    by_cases eq : i = pet.slot
    · rw [eq, Function.update_self]
      exact iff_of_false (fun same => ne (Option.some.inj same).symm) fun held => ne (empty g' held)
    · rw [Function.update_of_ne eq]
  have own : s'.m_pets pet.slot = some g := by
    rw [pushed.m_pets, Function.update_self]
  have only : s.OnlyAt s' (s.m_petUpdateQueue.filterMap id) (s'.m_petUpdateQueue.filterMap id) g := by
    refine ⟨pushed.guid, pushed.hi, slots, pushed.others, fun _ _ => by rw [pushed.rows], fun g' ne => ?_⟩
    rw [entries, List.mem_append, List.mem_singleton, or_iff_left ne]
  refine ⟨k.change only ?nodup (fun g' fights => ?fighter) ?self, pushed.blocked.trans k.free,
    fun {j e} entry => ?entries⟩
  case nodup =>
    rw [entries, ← List.concat_eq_append]
    exact k.nodup.concat absent
  case fighter =>
    obtain ⟨i, held⟩ := k.fighter (pushed.m_battlePet ▸ fights)
    by_cases eq : g' = g
    · exact ⟨pet.slot, eq ▸ own⟩
    · exact ⟨i, (slots g' i eq).mpr held⟩
  case self =>
    refine ⟨fun live => ?_, fun {i} held => ?_, fun above => absurd top (Nat.not_le.mpr above),
      fun _ _ => pushed.self ▸ rfl, fun _ => ⟨pet, pushed.self, dirty.1⟩, fun _ notMem => absurd ?_ notMem⟩
    · cases pushed.self.symm.trans live
      exact tended
    · by_cases eq : i = pet.slot
      · exact ⟨eq ▸ lt, pet, pushed.self, eq.symm, dirty.2⟩
      · rw [pushed.m_pets, Function.update_of_ne eq] at held
        obtain ⟨-, pet', live, slot, -⟩ := k.slot held
        exact absurd (slot.symm.trans (quiet pet' live).2) eq
    · rw [entries]
      exact List.mem_append_right _ List.mem_cons_self
  -- the new entry is the last one, and the pet names its position
  case entries =>
    rw [pushed.queue] at entry
    obtain old | ⟨rfl, rfl⟩ := getElem?_push entry
    · obtain ⟨g', pet', rfl, live, pos', kept⟩ := k.entries old
      have eq : g' ≠ g := by
        rintro rfl
        rw [(quiet pet' live).1] at pos'
        exact absurd pos' (by simp [PetObject.settled])
      exact ⟨g', pet', rfl, (pushed.others g' eq).trans live, pos', kept⟩
    · exact ⟨g, pet, rfl, pushed.self, pos, dirty.2⟩

end Changes

end PetOwner

end Legacy.Pets
