import Mathlib.Data.List.AList
import Legacy.Inventory.Handlers

/-!
# Learnt spells

Model of the spells of a unit (`src/src/game/Unit.cpp`, `src/src/game/Spell.h`). A unit holds its spells in
a map from entries; a spell is only added when its template exists, so `Learner.known` holds at all times.
-/

namespace Legacy.Spells
open Legacy.Lib
open Legacy.Inventory (applyModUInt32Value)

/-- A row of `spell_template`, as far as it is read here. -/
structure SpellInfo where
  element : Nat
  learnPoint : Nat
  levelMax : Nat
  deriving DecidableEq

/-- source `enum SpellUpdateState` -/
inductive SpellUpdateState where
  | unchanged | changed | new | removed
  deriving DecidableEq

/-- A spell that a unit has learnt, with its state in the next save. -/
structure Spell where
  level : Nat
  state : SpellUpdateState
  deriving DecidableEq

/-- source `SpellMap` -/
abbrev SpellMap := AList fun _ : Nat => Spell

/-- The spells that every unit has: basic attack, defense, the two catches and escape. -/
def basicSpells : List Nat := [10000, 17001, 15001, 15002, 18001]

/-- source `SPELL_BASIC` -/
def spellBasic : Nat := 10000

/-- A unit with its element, its free spell points and its spells, over the spell templates. -/
structure Learner (templates : Nat → Option SpellInfo) where
  element : Nat
  spellPoint : Nat
  m_spells : SpellMap
  known : ∀ entry ∈ m_spells, (templates entry).isSome

namespace Learner

variable {templates : Nat → Option SpellInfo}

/-- source `Unit::FindSpell` -/
def findSpell (u : Learner templates) (entry : Nat) : Option Spell := u.m_spells.lookup entry

/-- source `Unit::CanHaveSpell`: nobody has a spell of the element opposite to his own. -/
def canHaveSpell (u : Learner templates) (spell : SpellInfo) : Bool :=
  match u8 u.element with
  | 1 => spell.element ≠ 3
  | 2 => spell.element ≠ 4
  | 3 => spell.element ≠ 1
  | 4 => spell.element ≠ 2
  | _ => true

/-- source `Unit::GetSpellLearnPoint` -/
def getSpellLearnPoint (u : Learner templates) (entry : Nat) : Nat :=
  match templates entry with
  | none => 0
  | some sinfo => if u.element = sinfo.element then sinfo.learnPoint else u32 (sinfo.learnPoint * 2)

/-- source `Unit::HaveSpell` -/
def haveSpell (u : Learner templates) (entry : Nat) : Bool :=
  basicSpells.contains entry || (u.findSpell entry).isSome

/-- source `Unit::isSpellLevelMaxed` -/
def isSpellLevelMaxed (u : Learner templates) (entry : Nat) : Bool :=
  if entry = 0 ∨ entry = spellBasic then true
  else
    match u.findSpell entry with
    | none => true
    | some spell => (templates entry).any fun sinfo => sinfo.levelMax ≤ spell.level

/-- source `Unit::GetSpellLevel` -/
def getSpellLevel (u : Learner templates) (entry : Nat) : Nat :=
  if entry = spellBasic then 1
  else
    match u.findSpell entry with
    | none => 1
    | some spell => spell.level

/-- A known spell that is inserted leaves all spells known. -/
lemma known_insert {m_spells : SpellMap} (known : ∀ entry ∈ m_spells, (templates entry).isSome) {entry : Nat}
    (spell : Spell) (here : (templates entry).isSome) :
    ∀ entry' ∈ m_spells.insert entry spell, (templates entry').isSome := by
  intro entry' mem
  cases (AList.mem_insert m_spells).mp mem with
  | inl same => exact same ▸ here
  | inr mem => exact known entry' mem

/-- A new value of a spell of the unit, or a new spell. -/
def put (u : Learner templates) (entry : Nat) (spell : Spell) (here : (templates entry).isSome) : Learner templates :=
  { u with m_spells := u.m_spells.insert entry spell, known := known_insert u.known spell here }

/-- source `Unit::AddSpell`; inserting an entry that is in the map changes nothing. -/
def addSpell (u : Learner templates) (entry level : Nat) (state : SpellUpdateState) : Bool × Learner templates :=
  if entry = 0 then (false, u)
  else
    match h : templates entry with
    | none => (false, u)
    | some sinfo =>
      if u.canHaveSpell sinfo then
        (true, if entry ∈ u.m_spells then u else u.put entry ⟨level, state⟩ (h ▸ rfl))
      else (false, u)

/-- A spell that is found is known. -/
lemma known_of_findSpell {u : Learner templates} {entry : Nat} {spell : Spell}
    (h : u.findSpell entry = some spell) : (templates entry).isSome :=
  u.known entry (AList.lookup_isSome.mp (Option.isSome_of_mem h))

/-- A change of a spell that the unit has. -/
def modify (u : Learner templates) (entry : Nat) (f : Spell → Spell) : Learner templates :=
  match h : u.findSpell entry with
  | none => u
  | some spell => u.put entry (f spell) (known_of_findSpell h)

/-- source `Unit::SetSpellLevel` -/
def setSpellLevel (u : Learner templates) (entry level : Nat) : Learner templates :=
  if entry = 0 ∨ level = 0 then u
  else u.modify entry fun _ => ⟨level, .changed⟩

/-- source `Unit::AddSpellLevel` -/
def addSpellLevel (u : Learner templates) (entry value : Nat) : Learner templates :=
  if entry = 0 ∨ value = 0 then u
  else u.modify entry fun spell => ⟨u8 (spell.level + value), .changed⟩

/-- Takes points away (source `ApplyModUInt32Value(UNIT_FIELD_SPELL_POINT, val, false)`). -/
def takeSpellPoint (u : Learner templates) (val : Nat) : Learner templates :=
  { u with spellPoint := applyModUInt32Value u.spellPoint val false }

section lemmas

variable (u : Learner templates) (entry : Nat)

/-- A spell that is put in is found. -/
@[simp]
lemma findSpell_put_self (spell : Spell) (here : (templates entry).isSome) :
    (u.put entry spell here).findSpell entry = some spell :=
  AList.lookup_insert u.m_spells

/-- Putting a spell in keeps the others. -/
@[simp]
lemma findSpell_put_ne (spell : Spell) (here : (templates entry).isSome) {entry' : Nat} (ne : entry' ≠ entry) :
    (u.put entry spell here).findSpell entry' = u.findSpell entry' :=
  AList.lookup_insert_ne ne

/-- A spell that is not there is not modified. -/
lemma modify_of_none {f : Spell → Spell} (h : u.findSpell entry = none) : u.modify entry f = u := by
  rw [modify]
  split
  · rfl
  case h_2 spell here => cases h.symm.trans here

/-- A spell that is there is put in modified. -/
lemma modify_of_some {f : Spell → Spell} {spell : Spell} (h : u.findSpell entry = some spell) :
    u.modify entry f = u.put entry (f spell) (known_of_findSpell h) := by
  rw [modify]
  split
  case h_1 here => cases h.symm.trans here
  case h_2 spell' here =>
    cases h.symm.trans here
    rfl

end lemmas

/-- The points that are left. -/
lemma spellPoint_takeSpellPoint (u : Learner templates) (val : Nat) :
    (u.takeSpellPoint val).spellPoint = applyModUInt32Value u.spellPoint val false := by
  rw [takeSpellPoint]

/-- Putting a spell in costs nothing. -/
lemma spellPoint_put (u : Learner templates) (entry : Nat) (spell : Spell) (here : (templates entry).isSome) :
    (u.put entry spell here).spellPoint = u.spellPoint := rfl

/-- Taking points keeps the element. -/
@[simp]
lemma element_takeSpellPoint (u : Learner templates) (val : Nat) : (u.takeSpellPoint val).element = u.element := by
  rw [takeSpellPoint]

/-- Taking points keeps the spells. -/
@[simp]
lemma findSpell_takeSpellPoint (u : Learner templates) (val entry : Nat) :
    (u.takeSpellPoint val).findSpell entry = u.findSpell entry := by
  rw [findSpell, takeSpellPoint, findSpell]

end Learner

end Legacy.Spells
