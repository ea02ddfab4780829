import Legacy.Pets.Record

/-!
# Which pets survive

A pet is caught, changes in play, and is saved and loaded in any order. `survives_iff` says for every state that
is reached whether a save of the pet and a load of its row give the pet back.
-/

namespace Legacy.Pets
open Legacy.Lib Legacy.Spells

variable {templates : Nat → Option SpellInfo}

/-- Fields that have their values already change nothing. -/
lemma setValues_of_same {values : Nat → Nat} {fields : List (Nat × Nat)} (same : ∀ f ∈ fields, values f.1 = f.2) :
    setValues values fields = values := by
  induction fields with
  | nil => rfl
  | cons f fields ih =>
    have here : Function.update values f.1 f.2 = values := by
      rw [← same f List.mem_cons_self]
      exact Function.update_eq_self _ _
    have rest := ih fun g mem => same g (List.mem_cons_of_mem _ mem)
    show setValues (Function.update values f.1 f.2) fields = values
    rw [here, rest]

/-- A field that is not written keeps its value. -/
lemma setValues_of_notMem {values : Nat → Nat} {fields : List (Nat × Nat)} {i : Nat} (out : ∀ f ∈ fields, f.1 ≠ i) :
    setValues values fields i = values i := by
  induction fields generalizing values with
  | nil => rfl
  | cons f fields ih =>
    have rest : setValues (Function.update values f.1 f.2) fields i = Function.update values f.1 f.2 i :=
      ih fun g mem => out g (List.mem_cons_of_mem _ mem)
    exact rest.trans (Function.update_of_ne (out f List.mem_cons_self).symm _ _)

namespace Pet

/-- The spell can be learnt (source, the result of `Unit::AddSpell`). -/
def canLearn (u : Learner templates) (entry : Nat) : Bool := (u.addSpell entry 1 .new).1

/-- What can be learnt depends on the element only. -/
lemma canLearn_congr {u u' : Learner templates} (element : u'.element = u.element) (entry : Nat) :
    canLearn u' entry = canLearn u entry := by
  have can (sinfo : SpellInfo) : u'.canHaveSpell sinfo = u.canHaveSpell sinfo := by
    rw [Learner.canHaveSpell, Learner.canHaveSpell, element]
  simp only [canLearn, Learner.addSpell, can]
  split
  · rfl
  split
  · rfl
  split
  · rfl
  · rfl

/-- Only a spell that is new is added. -/
lemma findSpell_addSpell (u : Learner templates) (entry level : Nat) (state : SpellUpdateState) (e : Nat) :
    (u.addSpell entry level state).2.findSpell e =
      if e = entry ∧ canLearn u entry ∧ u.findSpell entry = none then some ⟨level, state⟩ else u.findSpell e := by
  rw [canLearn, Learner.addSpell, Learner.addSpell]
  split
  · simp
  split
  · simp
  case h_2 sinfo found =>
    split
    case isFalse => simp
    case isTrue =>
      dsimp only
      split
      case isTrue mem =>
        have some : u.findSpell entry ≠ none := fun h => AList.lookup_eq_none.mp h mem
        simp [some]
      case isFalse out =>
        have none : u.findSpell entry = .none := AList.lookup_eq_none.mpr out
        by_cases same : e = entry
        · subst same
          simp [none]
        · simp [same]

/-- A spell does not change the element. -/
lemma element_addSpell (u : Learner templates) (entry level : Nat) (state : SpellUpdateState) :
    (u.addSpell entry level state).2.element = u.element := by
  rw [Learner.addSpell]
  split
  · rfl
  split
  · rfl
  split
  · split
    · rfl
    · rfl
  · rfl

/-- The level of a spell changes, and nothing else. -/
lemma findSpell_setSpellLevel (u : Learner templates) (entry level e : Nat) :
    ((u.setSpellLevel entry level).findSpell e).map Spell.level =
      ((u.findSpell e).map Spell.level).map fun cur => if entry = e ∧ entry ≠ 0 ∧ level ≠ 0 then level else cur := by
  rw [Learner.setSpellLevel]
  by_cases nothing : entry = 0 ∨ level = 0
  · have never : ¬(entry = e ∧ entry ≠ 0 ∧ level ≠ 0) := fun h => nothing.elim h.2.1 h.2.2
    simp only [if_pos nothing, if_neg never, Option.map_id']
  rw [if_neg nothing]
  by_cases same : e = entry
  · subst same
    have both : e ≠ 0 ∧ level ≠ 0 := not_or.mp nothing
    rw [Learner.findSpell_modify_self]
    cases u.findSpell e with
    | none => rfl
    | some spell => simp [both]
  · rw [Learner.findSpell_modify_ne _ _ same]
    simp only [Ne.symm same, false_and, if_false, Option.map_id']

/-- The spells of a template are learnt at level 1. -/
lemma findSpell_addSpells (u : Learner templates) (spells : List Nat) (e : Nat) :
    (spells.foldl (fun u entry => (u.addSpell entry 1 .unchanged).2) u).findSpell e =
      if e ∈ spells ∧ canLearn u e ∧ u.findSpell e = none then some ⟨1, .unchanged⟩ else u.findSpell e := by
  induction spells generalizing u with
  | nil => simp
  | cons entry spells ih =>
    have can : canLearn (u.addSpell entry 1 .unchanged).2 e = canLearn u e := canLearn_congr (element_addSpell ..) e
    rw [List.foldl_cons, ih, can, findSpell_addSpell]
    simp only [List.mem_cons]
    by_cases same : e = entry
    · subst same
      by_cases new : canLearn u e ∧ u.findSpell e = none
      · simp [new]
      · simp [new]
    · simp [same]

/-- The level that a list of levels leaves on a spell of level `cur`: level zero is no level. -/
def levelIn (levels : List (Nat × Nat)) (cur entry : Nat) : Nat :=
  levels.foldl (fun cur f => if f.1 = entry ∧ f.1 ≠ 0 ∧ f.2 ≠ 0 then f.2 else cur) cur

/-- The levels of the spells after they are set. -/
lemma findSpell_setSpellLevels (u : Learner templates) (levels : List (Nat × Nat)) (e : Nat) :
    ((setSpellLevels u levels).findSpell e).map Spell.level =
      ((u.findSpell e).map Spell.level).map fun cur => levelIn levels cur e := by
  induction levels generalizing u with
  | nil => exact Option.map_id'.symm
  | cons f levels ih =>
    show ((setSpellLevels (u.setSpellLevel f.1 f.2) levels).findSpell e).map Spell.level = _
    rw [ih, findSpell_setSpellLevel, Option.map_map]
    rfl

end Pet

/-- The values of a pet that nothing in play writes. -/
def identity (guid entry owner element : Nat) : List (Nat × Nat) :=
  guidFields objectFieldGuid guid highguidUnit ++ [(objectFieldType, typePet), (objectFieldEntry, entry)] ++
    guidFields unitFieldSummon owner highguidPlayer ++ guidFields unitFieldSummonedby owner highguidPlayer ++
    [(unitFieldElement, element), (unitNpcFlags, 0)]

/-- The maxima of the values are what they would be computed to. -/
def Rederived (root : Nat → Nat) (values : Nat → Nat) : Prop :=
  values unitFieldHpMax = getHPMax root values ∧ values unitFieldSpMax = getSPMax root values

/-- Every spell is one of the template, and the levels that are written for the places where it stands in the
template say its level. -/
def Levelled (petProto : CreatureInfo) (u : Learner templates) (levels : List Nat) : Prop :=
  ∀ entry spell, u.findSpell entry = some spell →
    entry ∈ petProto.spells ∧ spell.level = Pet.levelIn (petProto.spells.zip (levels.map u8)) 1 entry

namespace PetRecord

/-- What can happen to a pet in play, with its relog. -/
inductive Event where
  | setValue (index value : Nat)
  | addSpell (entry : Nat)
  | setSpellLevel (entry level : Nat)
  | setLoyalty (loyalty : Nat)
  | setBattle (mode : Nat)
  /-- source `SetState(PET_CHANGED)` -/
  | setChanged
  | saveToDB (order : List (Sigma fun _ : Nat => Spell))
  | load

section Runs

variable (root : Nat → Nat) (creatures : Nat → Option CreatureInfo) (petProto : CreatureInfo)
  (guid entry owner slot battle : Nat)

/-- A pet right after it is caught (source `Player::CreatePet` and `Player::SummonPet`); `battle` is what its
memory held. -/
def caught : PetRecord templates :=
  ⟨Pet.visualize { (Pet.init 0 0 battle).createFor root guid entry petProto owner with loyalty := 60 } slot owner, none⟩

/-- One event. -/
def step (r : PetRecord templates) : Event → Option (PetRecord templates)
  | .setValue index value =>
    if index ∈ (identity guid entry owner petProto.element).map Prod.fst then none
    else some { r with pet := r.pet.set [(index, value)] }
  | .addSpell entry => some { r with pet := r.pet.withSpells (r.pet.learner.addSpell entry 1 .new).2 }
  | .setSpellLevel entry level => some { r with pet := r.pet.withSpells (r.pet.learner.setSpellLevel entry level) }
  | .setLoyalty loyalty => if loyalty < 2 ^ 8 then some { r with pet := { r.pet with loyalty := loyalty } } else none
  | .setBattle mode => some { r with pet := { r.pet with battle := mode } }
  | .setChanged => some { r with pet := r.pet.setState .changed }
  | .saveToDB order => if order.Perm r.pet.m_spells.entries then r.saveToDB order else none
  | .load => r.row.bind fun f => (Pet.loadPet root creatures owner guid f).map fun p => { r with pet := p }

/-- Two pets with the same stored values, slot, battle flag, loyalty and levels of spells. -/
structure Same (p q : Pet templates) : Prop where
  values : ∀ i < playerEnd, p.values i = q.values i
  slot : p.slot = q.slot
  isBattle : p.isBattle = q.isBattle
  loyalty : p.loyalty = q.loyalty
  levels : ∀ entry, (p.learner.findSpell entry).map Spell.level = (q.learner.findSpell entry).map Spell.level

/-- The row of the pet gives the pet back. -/
def Survives (r : PetRecord templates) : Prop :=
  ∃ f p, r.row = some f ∧ Pet.loadPet root creatures owner guid f = some p ∧ Same r.pet p

/-- A save keeps the pet: its maxima are up to date and its levels stand where a load looks for them; an update
finds the loyalty that it does not write, and a pet that is not written is as its row says. -/
def Intact (r : PetRecord templates) (order : List (Sigma fun _ : Nat => Spell)) : Prop :=
  Rederived root r.pet.values ∧
    match r.pet.uState with
    | .new => Levelled petProto r.pet.learner (Pet.spellLevels order)
    | .changed =>
      Levelled petProto r.pet.learner (Pet.spellLevels order) ∧ ∀ f, r.row = some f → f.loyalty = r.pet.loyalty
    | .unchanged =>
      ∀ f, r.row = some f → Levelled petProto r.pet.learner f.spell_levels ∧ f.loyalty = r.pet.loyalty ∧
        (f.mode_battle = 1 ↔ r.pet.isBattle) ∧
          ∀ i < playerEnd, i ≠ unitFieldHpMax → i ≠ unitFieldSpMax → f.data.getD i 0 = r.pet.values i
    | .removed => False

/-- A row that a save of the pet wrote. -/
structure RowOf (f : PetRow) : Prop where
  owner_guid : f.owner_guid = owner
  length : f.data.length = playerEnd
  identity : ∀ g ∈ identity guid entry owner petProto.element, f.data.getD g.1 0 = g.2
  loyalty : f.loyalty < 2 ^ 8
  mode_battle : f.mode_battle < 2
  petslot : f.petslot = slot

/-- What holds of a pet and its row in every run. -/
structure Housed (r : PetRecord templates) : Prop where
  identity : ∀ g ∈ identity guid entry owner petProto.element, r.pet.values g.1 = g.2
  petslot : r.pet.slot = slot
  loyalty : r.pet.loyalty < 2 ^ 8
  taught : ∀ e ∈ petProto.spells, Pet.canLearn r.pet.learner e → r.pet.learner.findSpell e ≠ none
  learnt : ∀ e, r.pet.learner.findSpell e ≠ none → Pet.canLearn r.pet.learner e
  here : r.pet.uState ≠ .removed
  saved : r.pet.uState ≠ .new → r.row.isSome
  row : ∀ f, r.row = some f → RowOf petProto guid entry owner slot f

end Runs

end PetRecord

namespace Pet

variable {root : Nat → Nat} {creatures : Nat → Option CreatureInfo} {petProto : CreatureInfo}
  {guid entry owner slot : Nat} {f : PetRow}

/-- The pet with its spells at level 1. -/
def taught (petProto : CreatureInfo) (p : Pet templates) : Pet templates :=
  p.withSpells (petProto.spells.foldl (fun u entry => (u.addSpell entry 1 .unchanged).2) p.learner)

/-- The spells of a pet that is loaded. -/
def readSpells (petProto : CreatureInfo) (f : PetRow) : Learner templates :=
  setSpellLevels ((readValues f).taught petProto).learner (petProto.spells.zip (f.spell_levels.map u8))

/-- The values of a pet that is loaded: the maxima are computed anew. -/
def maximized (root : Nat → Nat) (values : Nat → Nat) : Nat → Nat :=
  Function.update (Function.update values unitFieldHpMax (getHPMax root values)) unitFieldSpMax (getSPMax root values)

/-- A pet that is loaded. -/
def loaded (root : Nat → Nat) (petProto : CreatureInfo) (f : PetRow) : Pet templates :=
  { (readValues f).withSpells (readSpells petProto f : Learner templates) with
    values := maximized root (readValues f : Pet templates).values
    name := f.name
    loyalty := u8 f.loyalty
    slot := u8 f.petslot
    battle := u8 f.mode_battle
    uState := .unchanged }

section Loading

variable {p : Pet templates} (same : ∀ g ∈ identity guid entry owner petProto.element, p.values g.1 = g.2)
include same

/-- Writing what nothing in play writes. -/
lemma setValues_of_identity {fields : List (Nat × Nat)} (sub : fields ⊆ identity guid entry owner petProto.element) :
    setValues p.values fields = p.values :=
  setValues_of_same fun g mem => same g (sub mem)

/-- The fields of the identity are set already. -/
lemma set_of_identity {fields : List (Nat × Nat)} (sub : fields ⊆ identity guid entry owner petProto.element) :
    p.set fields = p := by
  rw [set, setValues_of_identity same sub]

/-- Creating a pet over its own values writes nothing new. -/
lemma create_of_identity : p.create guid entry (cinfo p.values petProto) = p.taught petProto := by
  have first : p.set (guidFields objectFieldGuid guid highguidUnit ++ [(objectFieldType, typePet)]) = p := by
    apply set_of_identity same
    simp [identity, guidFields]
  have known : p.values objectFieldEntry = entry := same (objectFieldEntry, entry) (by simp [identity])
  have second : p.set (createFields entry (cinfo p.values petProto)) = p := by
    rw [set, setValues_of_same]
    simp [createFields, cinfo, known]
  rw [create, first, second]
  rfl

/-- Reading the columns into a pet with its identity sets the levels of the spells and the values. -/
lemma readColumns_of_identity : p.readColumns root owner guid petProto f =
    { p.withSpells (setSpellLevels p.learner (petProto.spells.zip (f.spell_levels.map u8))) with
      values := maximized root p.values
      name := f.name
      loyalty := u8 f.loyalty
      battle := u8 f.mode_battle } := by
  have guid_ : setValues p.values (guidFields objectFieldGuid guid highguidUnit) = p.values :=
    setValues_of_identity same (by simp [identity, guidFields])
  have summon : setValues p.values (guidFields unitFieldSummon owner highguidPlayer) = p.values :=
    setValues_of_identity same (by simp [identity, guidFields])
  have summonedby : setValues p.values (guidFields unitFieldSummonedby owner highguidPlayer) = p.values :=
    setValues_of_identity same (by simp [identity, guidFields])
  have flags : setValues p.values [(unitNpcFlags, 0)] = p.values :=
    setValues_of_identity same (by simp [identity, guidFields])
  simp only [readColumns, set, withSpells, guid_, summon, summonedby, flags]
  rfl

/-- Filling up the points keeps the identity. -/
lemma maximized_identity : ∀ g ∈ identity guid entry owner petProto.element, maximized root p.values g.1 = g.2 := by
  intro g mem
  have index : g.1 ∈ [0, 1, 2, 3, 6, 7, 8, 9, 11, 67] := List.mem_map_of_mem (f := Prod.fst) mem
  have out : ∀ i ∈ [0, 1, 2, 3, 6, 7, 8, 9, 11, 67], i ≠ unitFieldHpMax ∧ i ≠ unitFieldSpMax := by decide
  have out := out g.1 index
  rw [maximized, Function.update_of_ne out.2, Function.update_of_ne out.1, same g mem]

end Loading

/-- What a load of a row makes of it. -/
lemma loadPet_eq (known : creatures entry = some petProto) (small : slot ≤ maxPetSlot)
    (rowOf : PetRecord.RowOf petProto guid entry owner slot f) :
    loadPet root creatures owner guid f = some (loaded root petProto f : Pet templates) := by
  have in_ : ¬10 < u8 f.petslot := by
    rw [rowOf.petslot]
    exact not_lt.mpr ((Nat.mod_le _ _).trans small)
  have same : ∀ g ∈ identity guid entry owner petProto.element, (readValues f : Pet templates).values g.1 = g.2 :=
    rowOf.identity
  have at_ : (readValues f : Pet templates).values objectFieldEntry = entry :=
    same (objectFieldEntry, entry) (by simp [identity])
  have same' : ∀ g ∈ identity guid entry owner petProto.element,
      ((readValues f : Pet templates).taught petProto).values g.1 = g.2 := same
  rw [loadPet, if_neg in_, loadPetFromDB, if_neg (not_not.mpr rowOf.owner_guid), if_neg (not_not.mpr rowOf.length)]
  simp only [at_, known, Option.map_some, create_of_identity same, readColumns_of_identity same']
  rw [visualize, set_of_identity (maximized_identity same)]
  · rfl
  · simp [identity, guidFields]

/-- What a pet has learnt depends on its spells and its element. -/
lemma learner_congr {p q : Pet templates} (spells : p.m_spells = q.m_spells)
    (element : p.values unitFieldElement = q.values unitFieldElement) (e : Nat) :
    p.learner.findSpell e = q.learner.findSpell e ∧ canLearn p.learner e = canLearn q.learner e := by
  refine ⟨?_, canLearn_congr element e⟩
  rw [Learner.findSpell, Learner.findSpell]
  exact congrArg (AList.lookup e) spells

/-- A loaded pet has the spells of its template, with the levels of its row. -/
lemma findSpell_loaded (e : Nat) :
    ((loaded root petProto f : Pet templates).learner.findSpell e).map Spell.level =
      if e ∈ petProto.spells ∧ canLearn (loaded root petProto f : Pet templates).learner e then
        some (levelIn (petProto.spells.zip (f.spell_levels.map u8)) 1 e)
      else none := by
  have spells : (loaded root petProto f : Pet templates).learner.findSpell e =
      (readSpells petProto f : Learner templates).findSpell e := rfl
  have element : (readValues f : Pet templates).learner.element =
      (loaded root petProto f : Pet templates).learner.element := rfl
  have empty : (readValues f : Pet templates).learner.findSpell e = none := rfl
  have taught : ((readValues f : Pet templates).taught petProto).learner.findSpell e =
      if e ∈ petProto.spells ∧ canLearn (readValues f : Pet templates).learner e ∧
        (readValues f : Pet templates).learner.findSpell e = none then some ⟨1, .unchanged⟩
      else (readValues f : Pet templates).learner.findSpell e :=
    findSpell_addSpells (readValues f : Pet templates).learner petProto.spells e
  rw [spells, readSpells, findSpell_setSpellLevels, taught, empty, canLearn_congr element.symm]
  simp only [and_true]
  split
  · rfl
  · rfl

end Pet

namespace PetRecord

open Pet

variable {root : Nat → Nat} {creatures : Nat → Option CreatureInfo} {petProto : CreatureInfo}
  {guid entry owner slot battle : Nat}

/-- A pet that is caught is as its template says. -/
lemma housed_caught : Housed petProto guid entry owner slot
    (caught root petProto guid entry owner slot battle : PetRecord templates) := by
  let written : Pet templates :=
    ((init 0 0 battle).set (guidFields objectFieldGuid guid highguidUnit ++ [(objectFieldType, typePet)])).set
      (createFields entry petProto)
  have element : written.learner.element =
      (caught root petProto guid entry owner slot battle : PetRecord templates).pet.learner.element := rfl
  have spells (e : Nat) :
      (caught root petProto guid entry owner slot battle : PetRecord templates).pet.learner.findSpell e =
      if e ∈ petProto.spells ∧
          canLearn (caught root petProto guid entry owner slot battle : PetRecord templates).pet.learner e then
        some ⟨1, .unchanged⟩
      else none := by
    have taught := findSpell_addSpells written.learner petProto.spells e
    have empty : written.learner.findSpell e = none := rfl
    rw [empty, canLearn_congr element] at taught
    simp only [and_true] at taught
    exact taught
  refine ⟨fun g mem => ?identity, rfl, ?loyalty, fun e mem can => ?taught, fun e found => ?learnt,
    fun h => (by cases h),
    fun h => absurd rfl h, fun f h => (by cases h)⟩
  case identity =>
    simp only [identity, guidFields, List.mem_append, List.mem_cons, List.not_mem_nil, or_false] at mem
    rcases mem with ((((rfl | rfl) | (rfl | rfl)) | (rfl | rfl)) | (rfl | rfl)) | (rfl | rfl)
    all_goals rfl
  case loyalty =>
    show 60 < 2 ^ 8
    decide
  case taught =>
    rw [spells e, if_pos ⟨mem, can⟩]
    exact Option.some_ne_none _
  case learnt =>
    rw [spells e] at found
    split at found
    · next both => exact both.2
    · exact absurd rfl found

/-- A change of the pet that its identity and its spells do not notice. -/
lemma Housed.congr {r : PetRecord templates} (h : Housed petProto guid entry owner slot r) {p : Pet templates}
    (fixed : ∀ g ∈ Pets.identity guid entry owner petProto.element, p.values g.1 = r.pet.values g.1)
    (petslot : p.slot = r.pet.slot) (loyalty : p.loyalty < 2 ^ 8) (spells : p.m_spells = r.pet.m_spells)
    (here : p.uState ≠ .removed) (saved : p.uState ≠ .new → r.row.isSome) :
    Housed petProto guid entry owner slot { r with pet := p } := by
  have element : p.values unitFieldElement = r.pet.values unitFieldElement :=
    fixed (unitFieldElement, petProto.element) (by simp [Pets.identity])
  refine ⟨fun g mem => (fixed g mem).trans (h.identity g mem), petslot.trans h.petslot, loyalty, fun e mem can => ?_,
    fun e found => ?_, here, saved, h.row⟩
  · obtain ⟨find, learn⟩ := learner_congr spells element e
    rw [learn] at can
    rw [find]
    exact h.taught e mem can
  · obtain ⟨find, learn⟩ := learner_congr spells element e
    rw [find] at found
    rw [learn]
    exact h.learnt e found

/-- The spells change, and none is forgotten. -/
lemma Housed.withSpells {r : PetRecord templates} (h : Housed petProto guid entry owner slot r) {u : Learner templates}
    (kept : ∀ e, r.pet.learner.findSpell e ≠ none → u.findSpell e ≠ none)
    (new : ∀ e, u.findSpell e ≠ none → r.pet.learner.findSpell e ≠ none ∨ canLearn r.pet.learner e) :
    Housed petProto guid entry owner slot { r with pet := r.pet.withSpells u } := by
  have find (e : Nat) : (r.pet.withSpells u).learner.findSpell e = u.findSpell e := rfl
  have learn (e : Nat) : canLearn (r.pet.withSpells u).learner e = canLearn r.pet.learner e :=
    canLearn_congr (show (r.pet.withSpells u).learner.element = r.pet.learner.element from rfl) e
  refine ⟨h.identity, h.petslot, h.loyalty, fun e mem can => ?_, fun e found => ?_, h.here, h.saved, h.row⟩
  · exact kept e (h.taught e mem ((learn e).symm.trans can))
  · refine (learn e).trans ?_
    cases new e found with
    | inl old => exact h.learnt e old
    | inr can => exact can

/-- A save keeps the pet in its slot. -/
lemma Housed.saveToDB {r r' : PetRecord templates} (h : Housed petProto guid entry owner slot r)
    {order : List (Sigma fun _ : Nat => Spell)} (saved : r.saveToDB order = some r') :
    Housed petProto guid entry owner slot r' := by
  have row : RowOf petProto guid entry owner slot
      ⟨r.pet.values unitFieldSummonedby, r.pet.name, r.pet.data, r.pet.loyalty, Pet.spellLevels order, r.pet.slot,
        if r.pet.isBattle then 1 else 0⟩ := by
    refine ⟨?owner_guid, ?length, fun g mem => ?identity, h.loyalty, ?mode_battle, h.petslot⟩
    case owner_guid => exact h.identity (unitFieldSummonedby, owner) (by simp [Pets.identity, guidFields])
    case length => exact (List.length_map _).trans List.length_range
    case identity =>
      have index : g.1 ∈ [0, 1, 2, 3, 6, 7, 8, 9, 11, 67] := List.mem_map_of_mem (f := Prod.fst) mem
      have lt : ∀ i ∈ [0, 1, 2, 3, 6, 7, 8, 9, 11, 67], i < playerEnd := by decide
      exact (getD_data r.pet (lt g.1 index)).trans (h.identity g mem)
    case mode_battle =>
      show (if r.pet.isBattle then 1 else 0) < 2
      split
      · decide
      · decide
  have unchanged : ∀ row, (row.isSome) → (∀ f, row = some f → RowOf petProto guid entry owner slot f) →
      Housed petProto guid entry owner slot ⟨r.pet.setState .unchanged, row⟩ := by
    intro row some rowOf
    obtain ⟨identity, petslot, loyalty, taught, learnt, -, -, -⟩ := h
    exact ⟨identity, petslot, loyalty, taught, learnt, fun h => (by cases h), fun _ => some, rowOf⟩
  rw [PetRecord.saveToDB] at saved
  cases state : r.pet.uState with
  | new =>
    rw [state] at saved
    cases saved
    refine unchanged _ rfl fun f h => ?_
    cases h
    exact row
  | changed =>
    rw [state] at saved
    cases saved
    have some : r.row.isSome := h.saved (state ▸ PetUpdateState.noConfusion)
    refine unchanged _ ((Option.isSome_map ..).trans some) fun f found => ?_
    obtain ⟨old, here, rfl⟩ := Option.map_eq_some_iff.mp found
    have was := h.row old here
    exact ⟨row.owner_guid, row.length, row.identity, was.loyalty, row.mode_battle, was.petslot⟩
  | removed => exact absurd state h.here
  | unchanged =>
    rw [state] at saved
    cases saved
    exact unchanged _ (h.saved (state ▸ PetUpdateState.noConfusion)) h.row

/-- A pet that changes is marked, or is still to be inserted. -/
lemma Housed.setChanged {r : PetRecord templates} (h : Housed petProto guid entry owner slot r) :
    Housed petProto guid entry owner slot { r with pet := r.pet.setState .changed } := by
  -- a new pet stays new until it is saved
  by_cases new : r.pet.uState = .new
  · have same : r.pet.setState .changed = r.pet := by
      rw [setState, if_neg PetUpdateState.noConfusion, if_pos new]
    rw [same]
    exact h
  · have changed : r.pet.setState .changed = { r.pet with uState := .changed } := by
      rw [setState, if_neg PetUpdateState.noConfusion, if_neg new]
    rw [changed]
    exact h.congr (fun _ _ => rfl) rfl h.loyalty rfl PetUpdateState.noConfusion fun _ => h.saved new

/-- A record that is read back has its identity from the row and its spells from the prototype. -/
lemma Housed.load {r r' : PetRecord templates} (h : Housed petProto guid entry owner slot r)
    (known : creatures entry = some petProto) (small : slot ≤ maxPetSlot)
    (next : Pets.PetRecord.step root creatures petProto guid entry owner r .load = some r') :
    Housed petProto guid entry owner slot r' := by
  obtain ⟨f, row, found⟩ := Option.bind_eq_some_iff.mp next
  have rowOf := h.row f row
  rw [loadPet_eq known small rowOf] at found
  cases found
  have slot_ : u8 f.petslot = slot := by
    rw [rowOf.petslot]
    exact Nat.mod_eq_of_lt (small.trans_lt (by decide))
  have spells (e : Nat) : ((loaded root petProto f : Pet templates).learner.findSpell e).map Spell.level =
      if e ∈ petProto.spells ∧ canLearn (loaded root petProto f : Pet templates).learner e then
        some (levelIn (petProto.spells.zip (f.spell_levels.map u8)) 1 e)
      else none := findSpell_loaded e
  refine ⟨maximized_identity rowOf.identity, slot_, Nat.mod_lt _ (by decide), fun e mem can none => ?_,
    fun e found => ?_, PetUpdateState.noConfusion, fun _ => Option.isSome_of_eq_some row, h.row⟩
  · have level := spells e
    rw [none, if_pos ⟨mem, can⟩] at level
    cases level
  · have level := spells e
    split at level
    · next both => exact both.2
    · exact absurd (Option.map_eq_none_iff.mp level) found

/-- Every step keeps the pet in its slot. -/
lemma Housed.step {r r' : PetRecord templates} (h : Housed petProto guid entry owner slot r) {e : Event}
    (known : creatures entry = some petProto) (small : slot ≤ maxPetSlot)
    (next : step root creatures petProto guid entry owner r e = some r') :
    Housed petProto guid entry owner slot r' := by
  cases e with
  | setValue index value =>
    rw [PetRecord.step] at next
    split at next
    case isTrue => cases next
    case isFalse out =>
      cases next
      refine h.congr (fun g mem => ?_) rfl h.loyalty rfl h.here h.saved
      -- the step refuses the fields of the identity
      have ne : g.1 ≠ index := fun same => out (same ▸ List.mem_map_of_mem mem)
      exact Function.update_of_ne ne _ _
  | addSpell entry =>
    cases next
    refine h.withSpells (fun e old => ?_) fun e found => ?_
    · rw [findSpell_addSpell]
      split
      · exact Option.some_ne_none _
      · exact old
    · rw [findSpell_addSpell] at found
      split at found
      · next new => exact Or.inr (new.1 ▸ new.2.1)
      · exact Or.inl found
  | setSpellLevel entry level =>
    cases next
    have same (e : Nat) : (r.pet.learner.setSpellLevel entry level).findSpell e = none ↔
        r.pet.learner.findSpell e = none := by
      rw [← Option.map_eq_none_iff (f := Spell.level), findSpell_setSpellLevel, Option.map_eq_none_iff,
        Option.map_eq_none_iff]
    exact h.withSpells (fun e old new => old ((same e).mp new))
      fun e found => Or.inl fun none => found ((same e).mpr none)
  | setLoyalty loyalty =>
    rw [PetRecord.step] at next
    split at next
    case isTrue small =>
      cases next
      exact h.congr (fun _ _ => rfl) rfl small rfl h.here h.saved
    case isFalse => cases next
  | setBattle mode =>
    cases next
    exact h.congr (fun _ _ => rfl) rfl h.loyalty rfl h.here h.saved
  | setChanged =>
    cases next
    exact h.setChanged
  | saveToDB order =>
    rw [PetRecord.step] at next
    split at next
    case isTrue => exact h.saveToDB next
    case isFalse => cases next
  | load => exact h.load known small next

/-- After every run the pet is in its slot. -/
lemma housed_of_reaches {r : PetRecord templates} (known : creatures entry = some petProto) (small : slot ≤ maxPetSlot)
    (run : Reaches (step root creatures petProto guid entry owner) (fun _ _ => True)
      (caught root petProto guid entry owner slot battle) r) : Housed petProto guid entry owner slot r :=
  run.invariant housed_caught fun h _ next => h.step known small next

/-- The stored values come back when the row has them and the maxima are up to date. -/
lemma maximized_iff {p : Pet templates} {f : PetRow} :
    (∀ i < playerEnd, p.values i = maximized root (readValues f : Pet templates).values i) ↔
      Rederived root p.values ∧
        ∀ i < playerEnd, i ≠ unitFieldHpMax → i ≠ unitFieldSpMax → f.data.getD i 0 = p.values i := by
  have maxima (agree : ∀ i < playerEnd, i ≠ unitFieldHpMax → i ≠ unitFieldSpMax → f.data.getD i 0 = p.values i) :
      maximized root (readValues f : Pet templates).values unitFieldHpMax = getHPMax root p.values ∧
        maximized root (readValues f : Pet templates).values unitFieldSpMax = getSPMax root p.values := by
    have level : (readValues f : Pet templates).values unitFieldLevel = p.values unitFieldLevel :=
      agree _ (by decide) (by decide) (by decide)
    have hpx : (readValues f : Pet templates).values unitFieldHpx = p.values unitFieldHpx :=
      agree _ (by decide) (by decide) (by decide)
    have spx : (readValues f : Pet templates).values unitFieldSpx = p.values unitFieldSpx :=
      agree _ (by decide) (by decide) (by decide)
    have hpxMod : (readValues f : Pet templates).values unitFieldHpxMod = p.values unitFieldHpxMod :=
      agree _ (by decide) (by decide) (by decide)
    rw [maximized, Function.update_of_ne (by decide), Function.update_self, Function.update_self]
    simp only [getHPMax, getSPMax, level, hpx, spx, hpxMod, and_self]
  constructor
  · intro same
    have agree : ∀ i < playerEnd, i ≠ unitFieldHpMax → i ≠ unitFieldSpMax → f.data.getD i 0 = p.values i := by
      intro i lt hp sp
      rw [same i lt, maximized, Function.update_of_ne sp, Function.update_of_ne hp]
      rfl
    obtain ⟨hp, sp⟩ := maxima agree
    exact ⟨⟨(same _ (by decide)).trans hp, (same _ (by decide)).trans sp⟩, agree⟩
  · intro ⟨rederived, agree⟩ i lt
    obtain ⟨hp, sp⟩ := maxima agree
    by_cases isHp : i = unitFieldHpMax
    · rw [isHp, rederived.1, hp]
    by_cases isSp : i = unitFieldSpMax
    · rw [isSp, rederived.2, sp]
    rw [maximized, Function.update_of_ne isSp, Function.update_of_ne isHp]
    exact (agree i lt isHp isSp).symm

/-- The spells come back when all are of the template and the levels in the row are theirs. -/
lemma levels_iff {r : PetRecord templates} (h : Housed petProto guid entry owner slot r) {f : PetRow}
    (rowOf : RowOf petProto guid entry owner slot f) :
    (∀ e, (r.pet.learner.findSpell e).map Spell.level =
        ((loaded root petProto f : Pet templates).learner.findSpell e).map Spell.level) ↔
      Levelled petProto r.pet.learner f.spell_levels := by
  have element : (loaded root petProto f : Pet templates).learner.element = r.pet.learner.element := by
    have mem : (unitFieldElement, petProto.element) ∈ identity guid entry owner petProto.element := by simp [identity]
    have there : (loaded root petProto f : Pet templates).values unitFieldElement = petProto.element :=
      rowOf.identity _ mem
    exact there.trans (h.identity _ mem).symm
  simp only [findSpell_loaded, canLearn_congr element]
  constructor
  · intro same entry spell found
    have level := same entry
    rw [found] at level
    split at level
    · next both => exact ⟨both.1, Option.some.inj level⟩
    · cases level
  · intro levelled e
    cases found : r.pet.learner.findSpell e with
    | none =>
      have never : ¬(e ∈ petProto.spells ∧ canLearn r.pet.learner e) := fun both => h.taught e both.1 both.2 found
      rw [if_neg never]
      rfl
    | some spell =>
      obtain ⟨mem, level⟩ := levelled e spell found
      have can : canLearn r.pet.learner e := h.learnt e (found ▸ Option.some_ne_none _)
      rw [if_pos ⟨mem, can⟩, ← level]
      rfl

/-- The row gives the pet back when its columns are up to date. -/
lemma survives_iff_columns {r : PetRecord templates} (h : Housed petProto guid entry owner slot r)
    (known : creatures entry = some petProto) (small : slot ≤ maxPetSlot) {f : PetRow} (row : r.row = some f) :
    Survives root creatures guid owner r ↔
      (Rederived root r.pet.values ∧
        ∀ i < playerEnd, i ≠ unitFieldHpMax → i ≠ unitFieldSpMax → f.data.getD i 0 = r.pet.values i) ∧
      f.loyalty = r.pet.loyalty ∧ (f.mode_battle = 1 ↔ r.pet.isBattle) ∧
        Levelled petProto r.pet.learner f.spell_levels := by
  have rowOf := h.row f row
  have load : loadPet root creatures owner guid f = some (loaded root petProto f : Pet templates) :=
    loadPet_eq known small rowOf
  have loyalty : u8 f.loyalty = f.loyalty := Nat.mod_eq_of_lt rowOf.loyalty
  have mode : u8 f.mode_battle = f.mode_battle := Nat.mod_eq_of_lt (rowOf.mode_battle.trans (by decide))
  have slot_ : u8 f.petslot = slot := by
    rw [rowOf.petslot]
    exact Nat.mod_eq_of_lt (small.trans_lt (by decide))
  have battle : (f.mode_battle = 1 ↔ r.pet.isBattle) ↔
      r.pet.isBattle = (loaded root petProto f : Pet templates).isBattle := by
    rw [isBattle, isBattle, loaded, mode, decide_eq_true_eq, decide_eq_decide]
    exact iff_comm
  rw [← maximized_iff, ← levels_iff h rowOf, battle]
  constructor
  · intro ⟨f', p, row', load', same⟩
    cases row.symm.trans row'
    cases load.symm.trans load'
    exact ⟨same.values, loyalty.symm.trans same.loyalty.symm, same.isBattle, same.levels⟩
  · intro ⟨values, loyalty', isBattle, levels⟩
    exact ⟨f, _, row, load, ⟨values, h.petslot.trans slot_.symm, isBattle, loyalty'.symm.trans loyalty.symm, levels⟩⟩

/-- A save and a load give the pet back exactly when it is intact. -/
theorem survives_iff {r : PetRecord templates} {order : List (Sigma fun _ : Nat => Spell)}
    (known : creatures entry = some petProto) (housed : slot < maxPetSlot)
    (run : Reaches (step root creatures petProto guid entry owner) (fun _ _ => True)
      (caught root petProto guid entry owner slot battle) r) :
    (∃ r', r.saveToDB order = some r' ∧ Survives root creatures guid owner r') ↔ Intact root petProto r order := by
  have small : slot ≤ maxPetSlot := housed.le
  have h := housed_of_reaches known small run
  have written : ∀ r', r.saveToDB order = some r' → Housed petProto guid entry owner slot r' := fun r' => h.saveToDB
  have flag : ((if r.pet.isBattle then 1 else 0) = 1) ↔ r.pet.isBattle := by
    cases r.pet.isBattle with
    | true => simp
    | false => simp
  have agree : ∀ i < playerEnd, i ≠ unitFieldHpMax → i ≠ unitFieldSpMax → r.pet.data.getD i 0 = r.pet.values i :=
    fun i lt _ _ => getD_data r.pet lt
  rw [Intact]
  cases state : r.pet.uState with
  | new =>
    have saved : r.saveToDB order = some ⟨r.pet.setState .unchanged,
        some ⟨r.pet.values unitFieldSummonedby, r.pet.name, r.pet.data, r.pet.loyalty, spellLevels order, r.pet.slot,
          if r.pet.isBattle then 1 else 0⟩⟩ := by
      simp only [PetRecord.saveToDB, state]
    rw [saved]
    simp only [Option.some.injEq, exists_eq_left']
    rw [survives_iff_columns (written _ saved) known small rfl]
    constructor
    · intro ⟨⟨rederived, _⟩, _, _, levelled⟩
      exact ⟨rederived, levelled⟩
    · intro ⟨rederived, levelled⟩
      exact ⟨⟨rederived, agree⟩, rfl, flag, levelled⟩
  | changed =>
    obtain ⟨f, row⟩ := Option.isSome_iff_exists.mp (h.saved (state ▸ PetUpdateState.noConfusion))
    have saved : r.saveToDB order = some ⟨r.pet.setState .unchanged,
        some { f with
          owner_guid := r.pet.values unitFieldSummonedby
          data := r.pet.data
          spell_levels := spellLevels order
          mode_battle := if r.pet.isBattle then 1 else 0 }⟩ := by
      simp only [PetRecord.saveToDB, state, row, Option.map_some]
    rw [saved]
    simp only [Option.some.injEq, exists_eq_left', row, forall_eq']
    rw [survives_iff_columns (written _ saved) known small rfl]
    constructor
    · intro ⟨⟨rederived, _⟩, loyalty, _, levelled⟩
      exact ⟨rederived, levelled, loyalty⟩
    · intro ⟨rederived, levelled, loyalty⟩
      exact ⟨⟨rederived, agree⟩, loyalty, flag, levelled⟩
  | removed => exact absurd state h.here
  | unchanged =>
    obtain ⟨f, row⟩ := Option.isSome_iff_exists.mp (h.saved (state ▸ PetUpdateState.noConfusion))
    have saved : r.saveToDB order = some ⟨r.pet.setState .unchanged, r.row⟩ := by
      simp only [PetRecord.saveToDB, state]
    rw [saved]
    simp only [Option.some.injEq, exists_eq_left', row, forall_eq']
    rw [row] at saved
    rw [survives_iff_columns (written _ saved) known small rfl]
    constructor
    · intro ⟨⟨rederived, agree⟩, loyalty, flag, levelled⟩
      exact ⟨rederived, levelled, loyalty, flag, agree⟩
    · intro ⟨rederived, levelled, loyalty, flag, agree⟩
      exact ⟨⟨rederived, agree⟩, loyalty, flag, levelled⟩

/-- A creature of level 1 with one spell. -/
def cub : CreatureInfo := ⟨"cub", 300, 85, 60, 1, 1, 1, 1, 0, 1, 1, 1, [10004, 0, 0, 0, 0]⟩

/-- Its only spell, at level 2. -/
def raised : List (Sigma fun _ : Nat => Spell) := [⟨10004, ⟨2, .changed⟩⟩]

/-- The cub when it was caught. -/
abbrev catchCub : PetRecord Keeper.oneTemplate := caught (fun _ => 1) cub 3 700 1 0 0

/-- The spell is raised before the first save. -/
theorem survives_raised :
    ∃ r, Reaches (step (fun _ => 1) (fun _ => some cub) cub 3 700 1) (fun _ _ => True) catchCub r ∧
      ∃ r', r.saveToDB raised = some r' ∧ Survives (fun _ => 1) (fun _ => some cub) 3 1 r' := by
  have run : Reaches (step (fun _ => 1) (fun _ => some cub) cub 3 700 1) (fun _ _ => True) catchCub
      { catchCub with pet := catchCub.pet.withSpells (catchCub.pet.learner.setSpellLevel 10004 2) } :=
    Reaches.tail (e := .setSpellLevel 10004 2) Reaches.refl trivial rfl
  refine ⟨_, run, (survives_iff rfl (by decide) run).mpr ⟨⟨rfl, rfl⟩, ?_⟩⟩
  intro entry spell found
  have mem : entry ∈ [10004] := AList.lookup_isSome.mp (Option.isSome_of_eq_some found)
  cases List.mem_singleton.mp mem
  cases found
  exact ⟨by decide, rfl⟩

/-- A pet loses loyalty after its first save. -/
def beaten : List Event := [.saveToDB [⟨10004, ⟨1, .unchanged⟩⟩], .setLoyalty 59, .setChanged]

/-- It is saved again. -/
theorem not_survives_loyalty :
    ¬∀ r r' : PetRecord Keeper.oneTemplate, ∀ order : List (Sigma fun _ : Nat => Spell),
      Reaches (step (fun _ => 1) (fun _ => some cub) cub 3 700 1) (fun _ _ => True) catchCub r →
      order.Perm r.pet.m_spells.entries → r.saveToDB order = some r' →
      Survives (fun _ => 1) (fun _ => some cub) 3 1 r' := by
  intro all
  have loyalties : ((exec (step (fun _ => 1) (fun _ => some cub) cub 3 700 1) catchCub beaten).bind fun r =>
      (r.saveToDB [⟨10004, ⟨1, .unchanged⟩⟩]).map fun r' =>
        (decide ([⟨10004, ⟨1, .unchanged⟩⟩].Perm r.pet.m_spells.entries), r'.row.map PetRow.loyalty, r'.pet.loyalty)) =
      some (true, some 60, 59) := by decide +kernel
  obtain ⟨r, reached, loyalties⟩ := Option.bind_eq_some_iff.mp loyalties
  obtain ⟨r', saved, loyalties⟩ := Option.map_eq_some_iff.mp loyalties
  have run := reaches_of_exec beaten (along_true _ _) reached
  have perm := of_decide_eq_true (congrArg Prod.fst loyalties)
  have loyalty : r'.row.map PetRow.loyalty = some 60 ∧ r'.pet.loyalty = 59 := by
    simp only [Prod.mk.injEq] at loyalties
    exact loyalties.2
  obtain ⟨f, row, stored⟩ := Option.map_eq_some_iff.mp loyalty.1
  have small : 0 ≤ maxPetSlot := by decide
  have housed := (housed_of_reaches rfl small run).saveToDB saved
  have same := ((survives_iff_columns housed rfl (by decide) row).mp (all r r' _ run perm saved)).2.1
  rw [stored, loyalty.2] at same
  cases same

end PetRecord

end Legacy.Pets
