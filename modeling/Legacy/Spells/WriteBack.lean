import Legacy.Lib.Reach
import Legacy.Spells.Book

/-!
# Writing spells back

Model of `Player::_SaveSpells` and `Player::ResetSpells` (`src/src/game/Player.cpp`) with the table
`character_spell`, where every statement does what it says. The state of a spell says what is known of its
rows (`Tracked`), and after a save the rows of a player are its spells (`saved_of_reaches`).
-/

namespace Legacy.Spells
open Legacy.Lib

variable {templates : Nat → Option SpellInfo}

/-- A row of `character_spell`. -/
structure SpellRow where
  owner_guid : Nat
  entry : Nat
  level : Nat
  deriving DecidableEq

/-- A player with its guid and the table. -/
structure Keeper (templates : Nat → Option SpellInfo) where
  guid : Nat
  player : Learner templates
  character_spell : List SpellRow

namespace Learner

/-- source `Player::_removeSpell` -/
def removeSpell (u : Learner templates) (entry : Nat) : Learner templates :=
  { u with
    m_spells := u.m_spells.erase entry
    known := fun entry' mem => u.known entry' (AList.mem_erase.mp mem).2 }

/-- A removed spell is gone. -/
lemma findSpell_removeSpell_self (u : Learner templates) (entry : Nat) :
    (u.removeSpell entry).findSpell entry = none := AList.lookup_erase entry u.m_spells

/-- Removing a spell keeps the others. -/
lemma findSpell_removeSpell_ne (u : Learner templates) {entry entry' : Nat} (ne : entry' ≠ entry) :
    (u.removeSpell entry).findSpell entry' = u.findSpell entry' := AList.lookup_erase_ne ne

end Learner

namespace Keeper

/-- `DELETE FROM character_spell WHERE owner_guid = … AND entry = …` -/
def deleteRows (k : Keeper templates) (entry : Nat) : Keeper templates :=
  { k with
    character_spell := k.character_spell.filter fun row => ¬(row.owner_guid = k.guid ∧ row.entry = entry) }

/-- `INSERT INTO character_spell (owner_guid, entry, level) VALUES …` -/
def insertRow (k : Keeper templates) (entry level : Nat) : Keeper templates :=
  { k with character_spell := k.character_spell ++ [⟨k.guid, entry, level⟩] }

/-- One pass of the loop of `Player::_SaveSpells`. -/
def saveSpell (k : Keeper templates) (itr : Sigma fun _ : Nat => Spell) : Keeper templates :=
  let spell := itr.2
  let k := if spell.state = .removed ∨ spell.state = .changed then k.deleteRows itr.1 else k
  let k := if spell.state = .new ∨ spell.state = .changed then k.insertRow itr.1 spell.level else k
  if spell.state = .removed then { k with player := k.player.removeSpell itr.1 }
  else { k with player := k.player.modify itr.1 fun spell => { spell with state := .unchanged } }

/-- source `Player::_SaveSpells`, with the spells in the order in which the map is visited -/
def saveSpells (k : Keeper templates) (order : List (Sigma fun _ : Nat => Spell)) : Keeper templates :=
  order.foldl saveSpell k

/-- The first loop of `Player::ResetSpells`. -/
def markRemoved (k : Keeper templates) (order : List (Sigma fun _ : Nat => Spell)) : Keeper templates :=
  { k with
    player := order.foldl (fun u itr => u.modify itr.1 fun spell => { spell with state := .removed }) k.player }

/-- A call on the player: a spell in play is added as new. -/
inductive Call where
  | addSpell (entry level : Nat)
  | setSpellLevel (entry level : Nat)
  | addSpellLevel (entry value : Nat)
  | resetSpells (first order : List (Sigma fun _ : Nat => Spell))
  | saveSpells (order : List (Sigma fun _ : Nat => Spell))

/-- A call happens when the orders in which it visits the map are orders of the map. -/
def step (k : Keeper templates) : Call → Option (Keeper templates)
  | .addSpell entry level => some { k with player := (k.player.addSpell entry level .new).2 }
  | .setSpellLevel entry level => some { k with player := k.player.setSpellLevel entry level }
  | .addSpellLevel entry value => some { k with player := k.player.addSpellLevel entry value }
  | .resetSpells first order =>
    if first.Perm k.player.m_spells.entries ∧ order.Perm (k.markRemoved first).player.m_spells.entries then
      some ((k.markRemoved first).saveSpells order)
    else none
  | .saveSpells order => if order.Perm k.player.m_spells.entries then some (k.saveSpells order) else none

/-- The calls that end in `Player::_SaveSpells`. -/
def Call.saves : Call → Bool
  | .resetSpells _ _ => true
  | .saveSpells _ => true
  | _ => false

/-- The levels in the rows of the player's spell. -/
def rows (k : Keeper templates) (entry : Nat) : List Nat :=
  (k.character_spell.filter fun row => row.owner_guid = k.guid ∧ row.entry = entry).map SpellRow.level

/-- The rows of the player are its spells, one row for each, and no spell has anything to save. -/
structure Saved (k : Keeper templates) : Prop where
  rows : ∀ entry, k.rows entry = ((k.player.findSpell entry).map Spell.level).toList
  unchanged : ∀ entry spell, k.player.findSpell entry = some spell → spell.state = .unchanged

/-- What the state of a spell says about its rows. -/
def Tracked (rows : List Nat) : Option Spell → Prop
  | none => rows = []
  | some ⟨level, .unchanged⟩ => rows = [level]
  | some ⟨_, .new⟩ => rows = []
  | some _ => True

/-- The rows of every spell are as its state says. -/
def Coherent (k : Keeper templates) : Prop := ∀ entry, Tracked (k.rows entry) (k.player.findSpell entry)

/-- The rows of one spell are the spell, which has nothing to save. -/
def SavedAt (k : Keeper templates) (entry : Nat) : Prop :=
  k.rows entry = ((k.player.findSpell entry).map Spell.level).toList ∧
    ∀ spell, k.player.findSpell entry = some spell → spell.state = .unchanged

/-- What is saved is coherent. -/
lemma Saved.coherent {k : Keeper templates} (saved : Saved k) : Coherent k := by
  intro entry
  have rows := saved.rows entry
  cases found : k.player.findSpell entry with
  | none =>
    rw [found] at rows
    exact rows
  | some spell =>
    obtain ⟨level, state⟩ := spell
    cases saved.unchanged entry _ found
    rw [found] at rows
    exact rows

section rows

variable (k : Keeper templates) (entry : Nat)

/-- Deleted rows are gone. -/
lemma rows_deleteRows_self : (k.deleteRows entry).rows entry = [] := by
  rw [rows, deleteRows, List.filter_filter, List.map_eq_nil_iff, List.filter_eq_nil_iff]
  intro row _
  simp

/-- Deleting rows keeps those of the other spells. -/
lemma rows_deleteRows_ne {entry' : Nat} (ne : entry' ≠ entry) : (k.deleteRows entry).rows entry' = k.rows entry' := by
  rw [rows, rows, deleteRows, List.filter_filter]
  apply congrArg (List.map SpellRow.level)
  apply List.filter_congr
  intro row _
  by_cases own : row.owner_guid = k.guid ∧ row.entry = entry'
  · simp [own, ne]
  · simp [own]

/-- An inserted row comes last. -/
lemma rows_insertRow_self (level : Nat) : (k.insertRow entry level).rows entry = k.rows entry ++ [level] := by
  rw [rows, rows, insertRow, List.filter_append, List.map_append, List.filter_cons_of_pos, List.filter_nil]
  · rfl
  · exact decide_eq_true ⟨rfl, rfl⟩

/-- Inserting a row keeps those of the other spells. -/
lemma rows_insertRow_ne (level : Nat) {entry' : Nat} (ne : entry' ≠ entry) :
    (k.insertRow entry level).rows entry' = k.rows entry' := by
  rw [rows, rows, insertRow, List.filter_append, List.map_append, List.filter_cons_of_neg, List.filter_nil]
  · exact List.append_nil _
  · exact fun same => ne (of_decide_eq_true same).2.symm

end rows

/-- The player changes and the table does not. -/
lemma rows_player (k : Keeper templates) (player : Learner templates) (entry : Nat) :
    { k with player := player }.rows entry = k.rows entry := rfl

end Keeper

namespace Learner

/-- The modified spell. -/
lemma findSpell_modify_self (u : Learner templates) (entry : Nat) (f : Spell → Spell) :
    (u.modify entry f).findSpell entry = (u.findSpell entry).map f := by
  cases found : u.findSpell entry with
  | none =>
    rw [modify_of_none u entry found, found]
    rfl
  | some spell =>
    rw [modify_of_some u entry found, findSpell_put_self]
    rfl

/-- Modifying a spell keeps the others. -/
lemma findSpell_modify_ne (u : Learner templates) {entry entry' : Nat} (f : Spell → Spell) (ne : entry' ≠ entry) :
    (u.modify entry f).findSpell entry' = u.findSpell entry' := by
  cases found : u.findSpell entry with
  | none => rw [modify_of_none u entry found]
  | some spell => rw [modify_of_some u entry found, findSpell_put_ne u _ _ _ ne]

end Learner

namespace Keeper

open Learner

/-- A pass of the loop saves its spell. -/
lemma savedAt_saveSpell {k : Keeper templates} {itr : Sigma fun _ : Nat => Spell}
    (found : k.player.findSpell itr.1 = some itr.2) (tracked : Tracked (k.rows itr.1) (some itr.2)) :
    SavedAt (k.saveSpell itr) itr.1 := by
  obtain ⟨entry, level, state⟩ := itr
  cases state with
  | unchanged =>
    have found' : ((k.saveSpell ⟨entry, level, .unchanged⟩).player.findSpell entry) = some ⟨level, .unchanged⟩ := by
      rw [saveSpell]
      simp [findSpell_modify_self, found]
    refine ⟨?_, fun spell h => ?_⟩
    · rw [found']
      exact tracked
    · cases found'.symm.trans h
      rfl
  | new =>
    have found' : ((k.saveSpell ⟨entry, level, .new⟩).player.findSpell entry) = some ⟨level, .unchanged⟩ := by
      rw [saveSpell]
      simp [findSpell_modify_self, found, insertRow]
    have rows' : (k.saveSpell ⟨entry, level, .new⟩).rows entry = [level] := by
      rw [saveSpell]
      simp only [reduceCtorEq, or_self, or_false, if_false, if_true, rows_player, rows_insertRow_self]
      rw [show k.rows entry = [] from tracked, List.nil_append]
    refine ⟨?_, fun spell h => ?_⟩
    · rw [found', rows']
      rfl
    · cases found'.symm.trans h
      rfl
  | changed =>
    have found' : ((k.saveSpell ⟨entry, level, .changed⟩).player.findSpell entry) = some ⟨level, .unchanged⟩ := by
      rw [saveSpell]
      simp [findSpell_modify_self, found, insertRow, deleteRows]
    have rows' : (k.saveSpell ⟨entry, level, .changed⟩).rows entry = [level] := by
      rw [saveSpell]
      simp only [reduceCtorEq, or_true, if_false, if_true, rows_player, rows_insertRow_self, rows_deleteRows_self,
        List.nil_append]
    refine ⟨?_, fun spell h => ?_⟩
    · rw [found', rows']
      rfl
    · cases found'.symm.trans h
      rfl
  | removed =>
    have found' : ((k.saveSpell ⟨entry, level, .removed⟩).player.findSpell entry) = none := by
      rw [saveSpell]
      simp [findSpell_removeSpell_self]
    have rows' : (k.saveSpell ⟨entry, level, .removed⟩).rows entry = [] := by
      rw [saveSpell]
      simp only [reduceCtorEq, true_or, or_self, if_false, if_true, rows_player, rows_deleteRows_self]
    refine ⟨?_, fun spell h => ?_⟩
    · rw [found', rows']
      rfl
    · cases found'.symm.trans h

/-- A pass of the loop leaves the other spells and their rows alone. -/
lemma saveSpell_ne (k : Keeper templates) {itr : Sigma fun _ : Nat => Spell} {entry : Nat} (ne : entry ≠ itr.1) :
    (k.saveSpell itr).rows entry = k.rows entry ∧
      (k.saveSpell itr).player.findSpell entry = k.player.findSpell entry := by
  obtain ⟨entry', level, state⟩ := itr
  rw [saveSpell]
  cases state with
  | unchanged =>
    simp only [reduceCtorEq, or_self, if_false]
    exact ⟨rfl, findSpell_modify_ne _ _ ne⟩
  | new =>
    simp only [reduceCtorEq, or_self, or_false, if_false, if_true]
    exact ⟨rows_insertRow_ne k entry' level ne, findSpell_modify_ne _ _ ne⟩
  | changed =>
    simp only [reduceCtorEq, or_true, if_false, if_true]
    exact ⟨(rows_insertRow_ne _ entry' level ne).trans (rows_deleteRows_ne k entry' ne), findSpell_modify_ne _ _ ne⟩
  | removed =>
    simp only [reduceCtorEq, true_or, or_self, if_false, if_true]
    exact ⟨rows_deleteRows_ne k entry' ne, findSpell_removeSpell_ne _ ne⟩

/-- The loop saves the spells that it visits and leaves the others alone. -/
lemma saveSpells_spec {order : List (Sigma fun _ : Nat => Spell)} (nodup : order.NodupKeys) (k : Keeper templates)
    (found : ∀ itr ∈ order, k.player.findSpell itr.1 = some itr.2 ∧ Tracked (k.rows itr.1) (some itr.2))
    (entry : Nat) :
    (entry ∈ order.keys → SavedAt (k.saveSpells order) entry) ∧
      (entry ∉ order.keys → (k.saveSpells order).rows entry = k.rows entry ∧
        (k.saveSpells order).player.findSpell entry = k.player.findSpell entry) := by
  induction order generalizing k with
  | nil => exact ⟨fun mem => absurd mem List.not_mem_nil, fun _ => ⟨rfl, rfl⟩⟩
  | cons itr order ih =>
    obtain ⟨new, nodup⟩ := List.nodupKeys_cons.mp nodup
    have rest : ∀ itr' ∈ order, (k.saveSpell itr).player.findSpell itr'.1 = some itr'.2 ∧
        Tracked ((k.saveSpell itr).rows itr'.1) (some itr'.2) := by
      intro itr' mem
      have ne : itr'.1 ≠ itr.1 := fun same => new (same ▸ List.mem_keys_of_mem mem)
      obtain ⟨rows, find⟩ := k.saveSpell_ne ne
      rw [rows, find]
      exact found itr' (List.mem_cons_of_mem _ mem)
    obtain ⟨saved, same⟩ := ih nodup (k.saveSpell itr) rest
    rw [List.keys_cons, List.mem_cons, not_or]
    refine ⟨fun mem => ?_, fun ⟨ne, notMem⟩ => ?_⟩
    · by_cases later : entry ∈ order.keys
      · exact saved later
      · cases mem with
        | inr later' => exact absurd later' later
        | inl here =>
          subst here
          obtain ⟨rows, find⟩ := same later
          obtain ⟨here, tracked⟩ := found itr List.mem_cons_self
          rw [SavedAt, saveSpells, List.foldl_cons, ← saveSpells, rows, find]
          exact savedAt_saveSpell here tracked
    · obtain ⟨rows, find⟩ := same notMem
      obtain ⟨rows', find'⟩ := k.saveSpell_ne ne
      exact ⟨rows.trans rows', find.trans find'⟩

/-- A save over the whole map leaves nothing to save. -/
lemma Coherent.saveSpells {k : Keeper templates} (coherent : Coherent k) {order : List (Sigma fun _ : Nat => Spell)}
    (perm : order.Perm k.player.m_spells.entries) : Saved (k.saveSpells order) := by
  have nodup : order.NodupKeys := (List.perm_nodupKeys perm).mpr k.player.m_spells.nodupKeys
  have found : ∀ itr ∈ order, k.player.findSpell itr.1 = some itr.2 ∧ Tracked (k.rows itr.1) (some itr.2) := by
    intro itr mem
    have here : k.player.findSpell itr.1 = some itr.2 := AList.mem_lookup_iff.mpr (perm.mem_iff.mp mem)
    exact ⟨here, here ▸ coherent itr.1⟩
  have savedAt (entry : Nat) : SavedAt (k.saveSpells order) entry := by
    obtain ⟨saved, same⟩ := saveSpells_spec nodup k found entry
    by_cases mem : entry ∈ order.keys
    · exact saved mem
    · obtain ⟨rows, find⟩ := same mem
      have unknown : k.player.findSpell entry = none := by
        apply AList.lookup_eq_none.mpr
        intro mem'
        exact mem ((perm.map Sigma.fst).mem_iff.mpr mem')
      have tracked := coherent entry
      rw [unknown] at tracked
      rw [SavedAt, rows, find, unknown]
      exact ⟨tracked, fun spell h => (by cases h)⟩
  exact ⟨fun entry => (savedAt entry).1, fun entry => (savedAt entry).2⟩

/-- A changed or removed spell may have any rows. -/
lemma Coherent.modify {k : Keeper templates} (coherent : Coherent k) (entry : Nat) {f : Spell → Spell}
    (dirty : ∀ spell rows, Tracked rows (some (f spell))) :
    Coherent { k with player := k.player.modify entry f } := by
  intro entry'
  rw [rows_player]
  by_cases same : entry' = entry
  · subst same
    simp only [findSpell_modify_self]
    cases found : k.player.findSpell entry' with
    | none =>
      have tracked := coherent entry'
      rwa [found] at tracked
    | some spell => exact dirty spell _
  · simp only [findSpell_modify_ne _ _ same]
    exact coherent entry'

/-- Learning a spell keeps the rows coherent. -/
lemma Coherent.addSpell {k : Keeper templates} (coherent : Coherent k) (entry level : Nat) :
    Coherent { k with player := (k.player.addSpell entry level .new).2 } := by
  rw [Learner.addSpell]
  split
  · exact coherent
  split
  · exact coherent
  split
  case isFalse => exact coherent
  case isTrue =>
    split
    case isTrue => exact coherent
    case isFalse new =>
      intro entry'
      rw [rows_player]
      by_cases same : entry' = entry
      · subst same
        have tracked := coherent entry'
        rw [show k.player.findSpell entry' = none from AList.lookup_eq_none.mpr new] at tracked
        simp only [findSpell_put_self]
        exact tracked
      · simp only [findSpell_put_ne _ _ _ _ same]
        exact coherent entry'

/-- Setting a level keeps the rows coherent. -/
lemma Coherent.setSpellLevel {k : Keeper templates} (coherent : Coherent k) (entry level : Nat) :
    Coherent { k with player := k.player.setSpellLevel entry level } := by
  rw [Learner.setSpellLevel]
  split
  · exact coherent
  · exact coherent.modify entry fun _ _ => trivial

/-- Raising a level keeps the rows coherent. -/
lemma Coherent.addSpellLevel {k : Keeper templates} (coherent : Coherent k) (entry value : Nat) :
    Coherent { k with player := k.player.addSpellLevel entry value } := by
  rw [Learner.addSpellLevel]
  split
  · exact coherent
  · exact coherent.modify entry fun _ _ => trivial

/-- Marking spells as removed keeps the rows coherent. -/
lemma Coherent.markRemoved {k : Keeper templates} (coherent : Coherent k)
    (order : List (Sigma fun _ : Nat => Spell)) : Coherent (k.markRemoved order) := by
  induction order generalizing k with
  | nil => exact coherent
  | cons itr order ih =>
    exact ih (coherent.modify itr.1 (f := fun spell => { spell with state := .removed }) fun _ _ => trivial)

/-- A call keeps the rows and the states in step, and a save leaves nothing to save. -/
lemma Coherent.step {k k' : Keeper templates} (coherent : Coherent k) {c : Call} (next : step k c = some k') :
    Coherent k' ∧ (c.saves → Saved k') := by
  cases c with
  | addSpell entry level =>
    cases next
    exact ⟨coherent.addSpell entry level, fun h => (by cases h)⟩
  | setSpellLevel entry level =>
    cases next
    exact ⟨coherent.setSpellLevel entry level, fun h => (by cases h)⟩
  | addSpellLevel entry value =>
    cases next
    exact ⟨coherent.addSpellLevel entry value, fun h => (by cases h)⟩
  | resetSpells first order =>
    rw [Keeper.step] at next
    split at next
    case isFalse => cases next
    case isTrue perm =>
      cases next
      have saved := (coherent.markRemoved first).saveSpells perm.2
      exact ⟨saved.coherent, fun _ => saved⟩
  | saveSpells order =>
    rw [Keeper.step] at next
    split at next
    case isFalse => cases next
    case isTrue perm =>
      cases next
      have saved := coherent.saveSpells perm
      exact ⟨saved.coherent, fun _ => saved⟩

/-- Right after each save the rows of the player are its spells. -/
theorem saved_of_reaches {loaded k k' : Keeper templates} (mirrors : Saved loaded)
    (run : Reaches step (fun _ _ => True) loaded k) {c : Call} (saves : c.saves) (next : step k c = some k') :
    Saved k' :=
  ((run.invariant mirrors.coherent fun coherent _ next => (coherent.step next).1).step next).2 saves

/-- Templates with one spell. -/
def oneTemplate (entry : Nat) : Option SpellInfo := if entry = 10004 then some ⟨1, 2, 10⟩ else none

/-- A player without spells; the table has a row of somebody else. -/
def unlearned : Keeper oneTemplate :=
  ⟨7, ⟨1, 5, ∅, fun _ mem => absurd mem (AList.notMem_empty _)⟩, [⟨8, 10004, 3⟩]⟩

/-- A spell is learnt and raised before it is saved. -/
def learnThenRaise : List Call := [.addSpell 10004 1, .setSpellLevel 10004 2]

/-- The row of the spell has the level to which it was raised. -/
theorem saved_learnThenRaise :
    ∃ k k' : Keeper oneTemplate, exec step unlearned learnThenRaise = some k ∧
      step k (.saveSpells [⟨10004, 2, .changed⟩]) = some k' ∧ Saved k' := by
  have last : ((exec step unlearned learnThenRaise).bind fun k =>
      step k (.saveSpells [⟨10004, 2, .changed⟩])).isSome := by decide +kernel
  obtain ⟨k', saved⟩ := Option.isSome_iff_exists.mp last
  obtain ⟨k, run, next⟩ := Option.bind_eq_some_iff.mp saved
  have mirrors : Saved unlearned := by
    refine ⟨fun entry => ?_, fun entry spell h => (by cases h)⟩
    simp [unlearned, rows, findSpell]
  exact ⟨k, k', run, next, saved_of_reaches mirrors (reaches_of_exec _ (along_true _ _) run) rfl next⟩

end Keeper

end Legacy.Spells
