import Legacy.Lib.Tally
import Legacy.Spells.Book
import Legacy.Wire.Requests
import Mathlib.Data.List.Induction

/-!
# Spell points

Model of `WorldSession::HandlePlayerSpellAddOpcodes` (`src/src/game/CharacterHandler.cpp`). An entry of the
packet teaches a spell for its learn points or sets the level of a known one for one point, whatever the
level is. `conserved_iff` says for which packets the points and the levels agree after every entry.
-/

namespace Legacy.Spells
open Legacy.Lib
open Legacy.Inventory (applyModUInt32Value applyModUInt32Value_take)
open Legacy.Wire (SpellAddRequest)

variable {templates : Nat → Option SpellInfo}

namespace Learner

/-- One pass of the loop of the handler. -/
def addEntry (u : Learner templates) (recv_data : Nat × Nat) : Learner templates :=
  let spell_entry := recv_data.1
  let mod_value := recv_data.2
  if u.haveSpell spell_entry then
    if u.spellPoint = 0 then u
    else if u.isSpellLevelMaxed spell_entry then u
    else if u.getSpellLevel spell_entry = mod_value then u
    else (u.setSpellLevel spell_entry mod_value).takeSpellPoint 1
  else
    let learn_point := u.getSpellLearnPoint spell_entry
    if learn_point = 0 then u
    else if u.spellPoint < learn_point then u
    else
      let added := u.addSpell spell_entry 1 .new
      if added.1 then added.2.takeSpellPoint learn_point else u

/-- The loop of the handler. -/
def addEntries (u : Learner templates) (entries : List (Nat × Nat)) : Learner templates :=
  entries.foldl addEntry u

/-- The handler on the unit that it has found. -/
def spellAdd (u : Learner templates) (entries : List (Nat × Nat)) : Learner templates :=
  if u.spellPoint = 0 then u else u.addEntries entries

end Learner

/-- A player and the pets it finds by `GetPet`. -/
structure Owner (templates : Nat → Option SpellInfo) where
  player : Learner templates
  pets : Nat → Option (Learner templates)

namespace Owner

/-- The unit that a packet is about; `petslot - 1` is cut to a `uint8`. -/
def unit (o : Owner templates) (recv_data : SpellAddRequest) : Option (Learner templates) :=
  if recv_data.target = 1 then some o.player
  else if recv_data.target = 2 then o.pets (u8 (recv_data.petslot + 255))
  else none

/-- source `WorldSession::HandlePlayerSpellAddOpcodes` -/
def spellAdd (o : Owner templates) (recv_data : SpellAddRequest) : Owner templates :=
  match o.unit recv_data with
  | none => o
  | some unit =>
    if recv_data.target = 1 then { o with player := unit.spellAdd recv_data.entries }
    else
      { o with
        pets := Function.update o.pets (u8 (recv_data.petslot + 255)) (some (unit.spellAdd recv_data.entries)) }

end Owner

namespace Learner

/-- What a change of one spell costs: the learn points of a new one, and one point for each level. -/
def cost (u : Learner templates) (entry : Nat) : Option Spell → Option Spell → Int
  | none, some spell => u.getSpellLearnPoint entry + (spell.level - 1)
  | some before, some spell => spell.level - before.level
  | _, none => 0

/-- The entries of spells, which are `uint16`. -/
def entries16 : List Nat := List.range (2 ^ 16)

/-- The levels are legal and not lower than before, new spells are allowed, and the free points have dropped
by the cost of the changes. -/
structure Exact (u u' : Learner templates) : Prop where
  legal : ∀ entry spell, u'.findSpell entry = some spell → ∀ sinfo ∈ templates entry, spell.level ≤ sinfo.levelMax
  kept : ∀ entry spell, u.findSpell entry = some spell →
    ∃ spell', u'.findSpell entry = some spell' ∧ spell.level ≤ spell'.level
  allowed : ∀ entry, u.findSpell entry = none → (u'.findSpell entry).isSome →
    ∀ sinfo ∈ templates entry, u.canHaveSpell sinfo
  paid : (u.spellPoint : Int) =
    u'.spellPoint + total entries16 fun entry => u.cost entry (u.findSpell entry) (u'.findSpell entry)

/-- What an entry of a packet asks for. -/
def price (u : Learner templates) (recv_data : Nat × Nat) : Nat :=
  match u.findSpell recv_data.1 with
  | none => u.getSpellLearnPoint recv_data.1
  | some spell => recv_data.2 - spell.level

/-- An entry that the handler gets right: it is refused; or it teaches a spell that has a level; or it raises a
spell by one level; and the points are no negative number. -/
def Fits (u : Learner templates) (recv_data : Nat × Nat) : Prop :=
  if u.haveSpell recv_data.1 then
    u.spellPoint = 0 ∨ u.isSpellLevelMaxed recv_data.1 ∨ u.getSpellLevel recv_data.1 = recv_data.2 ∨
      (recv_data.2 = u.getSpellLevel recv_data.1 + 1 ∧ u.spellPoint < 2 ^ 31 + 1)
  else
    u.getSpellLearnPoint recv_data.1 = 0 ∨ u.spellPoint < u.getSpellLearnPoint recv_data.1 ∨ recv_data.1 = 0 ∨
      ∀ sinfo ∈ templates recv_data.1, u.canHaveSpell sinfo →
        1 ≤ sinfo.levelMax ∧ u.spellPoint < 2 ^ 31 + u.getSpellLearnPoint recv_data.1

instance (u : Learner templates) (recv_data : Nat × Nat) : Decidable (Fits u recv_data) :=
  inferInstanceAs (Decidable (ite _ _ _))

/-- No spell is above the highest level of its template. -/
def Legal (u : Learner templates) : Prop :=
  ∀ entry spell, u.findSpell entry = some spell → ∀ sinfo ∈ templates entry, spell.level ≤ sinfo.levelMax

/-- What one entry does. -/
inductive Added (u : Learner templates) (recv_data : Nat × Nat) : Learner templates → Prop where
  | refused : Fits u recv_data → Added u recv_data u
  | learnt {sinfo : SpellInfo} (info : templates recv_data.1 = some sinfo) (unknown : u.findSpell recv_data.1 = none)
      (allowed : u.canHaveSpell sinfo) (pos : u.getSpellLearnPoint recv_data.1 ≠ 0)
      (enough : u.getSpellLearnPoint recv_data.1 ≤ u.spellPoint)
      (fits : Fits u recv_data ↔ 1 ≤ sinfo.levelMax ∧ u.spellPoint < 2 ^ 31 + u.getSpellLearnPoint recv_data.1)
      (here : (templates recv_data.1).isSome) :
      Added u recv_data ((u.put recv_data.1 ⟨1, .new⟩ here).takeSpellPoint (u.getSpellLearnPoint recv_data.1))
  | charged {spell : Spell} (found : u.findSpell recv_data.1 = some spell) (nothing : recv_data.2 = 0)
      (points : u.spellPoint ≠ 0) (fits : ¬Fits u recv_data) : Added u recv_data (u.takeSpellPoint 1)
  | set {spell : Spell} (found : u.findSpell recv_data.1 = some spell) (points : u.spellPoint ≠ 0)
      (low : ∀ sinfo ∈ templates recv_data.1, spell.level < sinfo.levelMax)
      (fits : Fits u recv_data ↔ recv_data.2 = spell.level + 1 ∧ u.spellPoint < 2 ^ 31 + 1)
      (here : (templates recv_data.1).isSome) :
      Added u recv_data ((u.put recv_data.1 ⟨recv_data.2, .changed⟩ here).takeSpellPoint 1)

/-- A spell that one does not have is not found. -/
lemma findSpell_of_not_haveSpell {u : Learner templates} {entry : Nat} (h : ¬u.haveSpell entry) :
    u.findSpell entry = none := by
  rw [haveSpell, Bool.or_eq_true, not_or] at h
  exact Option.not_isSome_iff_eq_none.mp h.2

/-- An entry for a spell that one has is one of the cases. -/
lemma added_of_haveSpell {u : Learner templates} {recv_data : Nat × Nat} (have_ : u.haveSpell recv_data.1) :
    Added u recv_data (u.addEntry recv_data) := by
  have refused (h : Fits u recv_data) (same : u.addEntry recv_data = u) : Added u recv_data (u.addEntry recv_data) := by
    rw [same]
    exact Added.refused h
  by_cases points : u.spellPoint = 0
  · apply refused
    · rw [Fits, if_pos have_]
      exact Or.inl points
    · rw [addEntry, if_pos have_, if_pos points]
  by_cases maxed : u.isSpellLevelMaxed recv_data.1
  · apply refused
    · rw [Fits, if_pos have_]
      exact Or.inr (Or.inl maxed)
    · rw [addEntry, if_pos have_, if_neg points, if_pos maxed]
  by_cases same : u.getSpellLevel recv_data.1 = recv_data.2
  · apply refused
    · rw [Fits, if_pos have_]
      exact Or.inr (Or.inr (Or.inl same))
    · rw [addEntry, if_pos have_, if_neg points, if_neg maxed, if_pos same]
  -- what is not maxed is a spell of the unit that is no basic attack
  have fits : Fits u recv_data ↔ recv_data.2 = u.getSpellLevel recv_data.1 + 1 ∧ u.spellPoint < 2 ^ 31 + 1 := by
    rw [Fits, if_pos have_, or_iff_right points, or_iff_right maxed, or_iff_right same]
  rw [isSpellLevelMaxed] at maxed
  split at maxed
  case isTrue => exact absurd rfl maxed
  case isFalse real =>
    rw [not_or] at real
    cases found : u.findSpell recv_data.1 with
    | none =>
      rw [found] at maxed
      exact absurd rfl maxed
    | some spell =>
      rw [found] at maxed
      have level : u.getSpellLevel recv_data.1 = spell.level := by rw [getSpellLevel, if_neg real.2, found]
      rw [level] at fits
      have eq : u.addEntry recv_data = (u.setSpellLevel recv_data.1 recv_data.2).takeSpellPoint 1 := by
        rw [addEntry, if_pos have_, if_neg points, if_neg, if_neg same]
        rw [isSpellLevelMaxed, if_neg (not_or.mpr real), found]
        exact maxed
      rw [eq, setSpellLevel]
      by_cases nothing : recv_data.2 = 0
      · rw [if_pos (Or.inr nothing)]
        refine Added.charged found nothing points ?_
        rw [fits, nothing]
        exact fun h => absurd h.1 (Nat.succ_ne_zero _).symm
      · rw [if_neg (not_or.mpr ⟨real.1, nothing⟩), modify_of_some u _ found]
        refine Added.set found points (fun sinfo info => ?_) fits _
        rw [Option.mem_def.mp info] at maxed
        simpa using maxed

/-- An entry for a spell that one does not have is one of the cases. -/
lemma added_of_not_haveSpell {u : Learner templates} {recv_data : Nat × Nat} (have_ : ¬u.haveSpell recv_data.1) :
    Added u recv_data (u.addEntry recv_data) := by
  have unknown := findSpell_of_not_haveSpell have_
  have refused (h : Fits u recv_data) (same : u.addEntry recv_data = u) : Added u recv_data (u.addEntry recv_data) := by
    rw [same]
    exact Added.refused h
  by_cases free : u.getSpellLearnPoint recv_data.1 = 0
  · apply refused
    · rw [Fits, if_neg have_]
      exact Or.inl free
    · rw [addEntry, if_neg have_]
      exact if_pos free
  by_cases short : u.spellPoint < u.getSpellLearnPoint recv_data.1
  · apply refused
    · rw [Fits, if_neg have_]
      exact Or.inr (Or.inl short)
    · rw [addEntry, if_neg have_]
      exact (if_neg free).trans (if_pos short)
  have eq : u.addEntry recv_data =
      if (u.addSpell recv_data.1 1 .new).1 then
        (u.addSpell recv_data.1 1 .new).2.takeSpellPoint (u.getSpellLearnPoint recv_data.1)
      else u := by
    rw [addEntry, if_neg have_]
    exact (if_neg free).trans (if_neg short)
  by_cases zero : recv_data.1 = 0
  · apply refused
    · rw [Fits, if_neg have_]
      exact Or.inr (Or.inr (Or.inl zero))
    · rw [eq, addSpell, if_pos zero]
      rfl
  have fits : Fits u recv_data ↔ ∀ sinfo ∈ templates recv_data.1, u.canHaveSpell sinfo →
      1 ≤ sinfo.levelMax ∧ u.spellPoint < 2 ^ 31 + u.getSpellLearnPoint recv_data.1 := by
    rw [Fits, if_neg have_, or_iff_right free, or_iff_right short, or_iff_right zero]
  rw [addSpell, if_neg zero] at eq
  split at eq
  case h_1 missing =>
    rw [getSpellLearnPoint, missing] at free
    exact absurd rfl free
  case h_2 sinfo info =>
    by_cases allowed : u.canHaveSpell sinfo
    · have new : ¬recv_data.1 ∈ u.m_spells := AList.lookup_eq_none.mp unknown
      simp only [if_pos allowed, if_neg new, if_true] at eq
      rw [eq]
      refine Added.learnt info unknown allowed free (Nat.le_of_not_lt short) ?_ _
      rw [fits, info]
      constructor
      · exact fun h => h sinfo rfl allowed
      · intro h sinfo' same _
        cases same
        exact h
    · simp only [if_neg allowed, Bool.false_eq_true, if_false] at eq
      apply refused _ eq
      rw [fits]
      intro sinfo' info' allowed'
      cases info.symm.trans info'
      exact absurd allowed' allowed

/-- Every entry of the packet is one of the cases. -/
lemma added (u : Learner templates) (recv_data : Nat × Nat) : Added u recv_data (u.addEntry recv_data) := by
  by_cases have_ : u.haveSpell recv_data.1
  · exact added_of_haveSpell have_
  · exact added_of_not_haveSpell have_

/-- An entry keeps the element. -/
lemma Added.element {u u' : Learner templates} {recv_data : Nat × Nat} (h : Added u recv_data u') :
    u'.element = u.element := by
  cases h with
  | refused => rfl
  | learnt => rw [element_takeSpellPoint, put]
  | charged => rw [element_takeSpellPoint]
  | set => rw [element_takeSpellPoint, put]

/-- Only the spell of the entry changes. -/
lemma Added.findSpell {u u' : Learner templates} {recv_data : Nat × Nat} (h : Added u recv_data u') {entry : Nat}
    (ne : entry ≠ recv_data.1) : u'.findSpell entry = u.findSpell entry := by
  cases h with
  | refused => rfl
  | learnt => rw [findSpell_takeSpellPoint, findSpell_put_ne u _ _ _ ne]
  | charged => rw [findSpell_takeSpellPoint]
  | set => rw [findSpell_takeSpellPoint, findSpell_put_ne u _ _ _ ne]

/-- The price of a spell depends on the element only. -/
lemma getSpellLearnPoint_congr {u u' : Learner templates} (element : u'.element = u.element) (entry : Nat) :
    u'.getSpellLearnPoint entry = u.getSpellLearnPoint entry := by
  rw [getSpellLearnPoint, getSpellLearnPoint, element]

/-- Whether one may have a spell depends on the element only. -/
lemma canHaveSpell_congr {u u' : Learner templates} (element : u'.element = u.element) (spell : SpellInfo) :
    u'.canHaveSpell spell = u.canHaveSpell spell := by
  rw [canHaveSpell, canHaveSpell, element]

/-- Nothing is spent where nothing is done. -/
lemma Exact.refl {u : Learner templates} (legal : Legal u) : Exact u u := by
  refine ⟨legal, fun entry spell found => ⟨spell, found, Nat.le_refl _⟩, fun entry unknown known => ?_, ?_⟩
  · rw [unknown] at known
    cases known
  · have free : total entries16 (fun entry => u.cost entry (u.findSpell entry) (u.findSpell entry)) = 0 := by
      apply total_eq_zero
      intro entry _
      cases u.findSpell entry with
      | none => rfl
      | some spell => exact Int.sub_self _
    rw [free, add_zero]

/-- The cost of one step: what the entry's spell costs more than before. -/
lemma total_cost {u v v' : Learner templates} {recv_data : Nat × Nat} (h : Added v recv_data v')
    (uint16 : recv_data.1 < 2 ^ 16) :
    total entries16 (fun entry => u.cost entry (u.findSpell entry) (v.findSpell entry)) +
        u.cost recv_data.1 (u.findSpell recv_data.1) (v'.findSpell recv_data.1) =
      total entries16 (fun entry => u.cost entry (u.findSpell entry) (v'.findSpell entry)) +
        u.cost recv_data.1 (u.findSpell recv_data.1) (v.findSpell recv_data.1) := by
  apply total_change List.nodup_range (List.mem_range.mpr uint16)
    (f := fun entry => u.cost entry (u.findSpell entry) (v.findSpell entry))
    (g := fun entry => u.cost entry (u.findSpell entry) (v'.findSpell entry))
  intro entry _ ne
  rw [h.findSpell ne]

/-- After an exact part of the packet only the spell of the next entry needs a look. -/
lemma Exact.step_iff {u v v' : Learner templates} {recv_data : Nat × Nat} (exact : Exact u v)
    (h : Added v recv_data v') (uint16 : recv_data.1 < 2 ^ 16) :
    Exact u v' ↔
      (∀ spell, v'.findSpell recv_data.1 = some spell → ∀ sinfo ∈ templates recv_data.1, spell.level ≤ sinfo.levelMax) ∧
      (∀ spell, u.findSpell recv_data.1 = some spell →
        ∃ spell', v'.findSpell recv_data.1 = some spell' ∧ spell.level ≤ spell'.level) ∧
      (u.findSpell recv_data.1 = none → (v'.findSpell recv_data.1).isSome →
        ∀ sinfo ∈ templates recv_data.1, u.canHaveSpell sinfo) ∧
      (v.spellPoint : Int) + u.cost recv_data.1 (u.findSpell recv_data.1) (v.findSpell recv_data.1) =
        v'.spellPoint + u.cost recv_data.1 (u.findSpell recv_data.1) (v'.findSpell recv_data.1) := by
  have change := total_cost (u := u) h uint16
  have paid := exact.paid
  constructor
  · intro exact'
    refine ⟨exact'.legal _, exact'.kept _, exact'.allowed _, ?_⟩
    have paid' := exact'.paid
    omega
  · intro ⟨legal, kept, allowed, paid'⟩
    refine ⟨fun entry spell found => ?_, fun entry spell found => ?_, fun entry unknown found => ?_, by omega⟩
    all_goals by_cases same : entry = recv_data.1
    · subst same
      exact legal spell found
    · exact exact.legal entry spell (h.findSpell same ▸ found)
    · subst same
      exact kept spell found
    · obtain ⟨spell', found', le⟩ := exact.kept entry spell found
      exact ⟨spell', (h.findSpell same).trans found', le⟩
    · subst same
      exact allowed unknown found
    · exact exact.allowed entry unknown (h.findSpell same ▸ found)

/-- A spell that is not there after the packet was not there before. -/
lemma Exact.unknown {u v : Learner templates} (exact : Exact u v) {entry : Nat} (h : v.findSpell entry = none) :
    u.findSpell entry = none := by
  cases found : u.findSpell entry with
  | none => rfl
  | some spell =>
    obtain ⟨spell', found', -⟩ := exact.kept entry spell found
    cases h.symm.trans found'

/-- One point is always taken from points that are free. -/
lemma take_one_ne {cur : Nat} (pos : cur ≠ 0) : applyModUInt32Value cur 1 false ≠ cur := by
  simp only [applyModUInt32Value, i32, Bool.false_eq_true, if_false]
  omega

/-- Levels that are bytes differ by what is taken only when that is one point. -/
lemma take_one_eq {cur level value : Nat} (pos : cur ≠ 0) (byte : value < 2 ^ 8)
    (paid : (cur : Int) - applyModUInt32Value cur 1 false = value - level) :
    value = level + 1 ∧ cur < 2 ^ 31 + 1 := by
  simp only [applyModUInt32Value, i32, Bool.false_eq_true, if_false] at paid
  omega

/-- The cost of a spell that was known or is learnt in the packet grows by its levels. -/
lemma cost_raise (u : Learner templates) (entry : Nat) (before : Option Spell) (spell spell' : Spell) :
    u.cost entry before (some spell') - u.cost entry before (some spell) = (spell'.level : Int) - spell.level := by
  cases before with
  | none =>
    simp only [cost]
    omega
  | some first =>
    simp only [cost]
    omega

/-- An entry is exact where it fits. -/
lemma Exact.added_iff {u v v' : Learner templates} {recv_data : Nat × Nat} (exact : Exact u v)
    (element : v.element = u.element) (h : Added v recv_data v') (uint16 : recv_data.1 < 2 ^ 16)
    (byte : recv_data.2 < 2 ^ 8) : Exact u v' ↔ Fits v recv_data := by
  have step := exact.step_iff h uint16
  cases h with
  | refused fits => exact iff_of_true exact fits
  | @learnt sinfo info unknown allowed pos enough fits here =>
    have new := exact.unknown unknown
    have points : ((v.put recv_data.1 ⟨1, .new⟩ here).takeSpellPoint (v.getSpellLearnPoint recv_data.1)).spellPoint =
        applyModUInt32Value v.spellPoint (v.getSpellLearnPoint recv_data.1) false := by
      rw [spellPoint_takeSpellPoint, spellPoint_put]
    have learnPoint := getSpellLearnPoint_congr element recv_data.1
    have take := applyModUInt32Value_take enough
    -- a spell that is learnt costs its learn point, and its level is 1
    rw [step, fits, new, unknown, findSpell_takeSpellPoint, findSpell_put_self, points, cost, cost, ← learnPoint]
    constructor
    · intro ⟨legal, _, _, paid⟩
      refine ⟨legal _ rfl sinfo info, take.mp ?_⟩
      simp only at paid
      omega
    · intro ⟨legal, small⟩
      refine ⟨fun spell same sinfo' info' => ?_, fun spell h => (by cases h), fun _ _ sinfo' info' => ?_, ?_⟩
      · cases same
        cases info.symm.trans info'
        exact legal
      · cases info.symm.trans info'
        rw [← canHaveSpell_congr element]
        exact allowed
      · have taken := take.mpr small
        simp only
        omega
  | @charged spell found nothing points fits =>
    refine iff_of_false (fun exact' => ?_) fits
    -- a point is taken and no level is given for it
    obtain ⟨-, -, -, paid⟩ := step.mp exact'
    rw [findSpell_takeSpellPoint, spellPoint_takeSpellPoint] at paid
    apply take_one_ne points
    exact Int.ofNat_inj.mp (add_right_cancel paid).symm
  | @set spell found points low fits here =>
    have raise := cost_raise u recv_data.1 (u.findSpell recv_data.1) spell ⟨recv_data.2, .changed⟩
    rw [step, fits, findSpell_takeSpellPoint, findSpell_put_self, found, spellPoint_takeSpellPoint, spellPoint_put,
      Nat.cast_one]
    constructor
    · intro ⟨_, _, _, paid⟩
      apply take_one_eq points byte
      simp only at raise
      omega
    · intro ⟨level, small⟩
      refine ⟨fun spell' same sinfo info => ?_, fun first known => ?_, fun new _ sinfo info => ?_, ?_⟩
      · cases same
        have below := low sinfo info
        simp only
        omega
      · obtain ⟨spell', found', le⟩ := exact.kept _ first known
        cases found.symm.trans found'
        refine ⟨_, rfl, ?_⟩
        simp only
        omega
      · exact exact.allowed _ new (Option.isSome_of_mem found) sinfo info
      · have taken := (applyModUInt32Value_take (Nat.one_le_iff_ne_zero.mpr points)).mpr small
        simp only [Nat.cast_one] at taken raise
        omega

/-- A unit without free points is left as it is. -/
lemma addEntry_of_spellPoint {u : Learner templates} (free : u.spellPoint = 0) (recv_data : Nat × Nat) :
    u.addEntry recv_data = u := by
  have h := added u recv_data
  generalize u.addEntry recv_data = u' at h
  cases h with
  | refused => rfl
  | learnt _ _ _ pos enough => exact absurd (Nat.le_zero.mp (free ▸ enough)) pos
  | charged _ _ points => exact absurd free points
  | set _ points => exact absurd free points

/-- The packet is the sequence of its entries. -/
lemma spellAdd_eq (u : Learner templates) (entries : List (Nat × Nat)) : u.spellAdd entries = u.addEntries entries := by
  rw [spellAdd]
  split
  case isFalse => rfl
  case isTrue free =>
    induction entries with
    | nil => rfl
    | cons recv_data entries ih =>
      rw [addEntries, List.foldl_cons, addEntry_of_spellPoint free]
      exact ih

/-- One more entry comes last. -/
lemma addEntries_append (u : Learner templates) (entries : List (Nat × Nat)) (recv_data : Nat × Nat) :
    u.addEntries (entries ++ [recv_data]) = (u.addEntries entries).addEntry recv_data := by
  rw [addEntries, List.foldl_append, addEntries]
  rfl

/-- The packet keeps the element. -/
lemma element_addEntries (u : Learner templates) (entries : List (Nat × Nat)) :
    (u.addEntries entries).element = u.element := by
  induction entries using List.reverseRecOn with
  | nil => rfl
  | append_singleton entries recv_data ih => rw [addEntries_append, (added _ recv_data).element, ih]

/-- An entry that fits changes nothing when the points do not suffice for it. -/
lemma Fits.refuses {u : Learner templates} {recv_data : Nat × Nat} (fits : Fits u recv_data)
    (short : u.spellPoint < u.price recv_data) : u.addEntry recv_data = u := by
  have h := added u recv_data
  generalize u.addEntry recv_data = u' at h
  cases h with
  | refused => rfl
  | learnt _ unknown _ _ enough =>
    rw [price, unknown] at short
    exact absurd enough (Nat.not_le_of_lt short)
  | charged _ _ _ misfit => exact absurd fits misfit
  | set found points _ fits' =>
    rw [price, found, (fits'.mp fits).1] at short
    simp only at short
    omega

end Learner

namespace Owner

open Learner

/-- After any number of entries the points and levels of the unit are exact, and an entry for which the points
do not suffice changes nothing. -/
def Conserved (o : Owner templates) (recv_data : SpellAddRequest) : Prop :=
  ∀ u ∈ o.unit recv_data,
    (∀ n, ∃ u' ∈ (o.spellAdd { recv_data with entries := recv_data.entries.take n }).unit recv_data, Exact u u') ∧
    ∀ before entry after, recv_data.entries = before ++ entry :: after →
      (u.addEntries before).spellPoint < (u.addEntries before).price entry →
      (u.addEntries before).addEntry entry = u.addEntries before

/-- The packet is for the unit that it names. -/
lemma unit_spellAdd {o : Owner templates} {recv_data : SpellAddRequest} {u : Learner templates}
    (found : o.unit recv_data = some u) (entries : List (Nat × Nat)) :
    (o.spellAdd { recv_data with entries := entries }).unit recv_data = some (u.addEntries entries) := by
  have same : o.unit { recv_data with entries := entries } = some u := found
  rw [spellAdd, same, ← spellAdd_eq]
  simp only
  rw [unit] at found ⊢
  by_cases player : recv_data.target = 1
  · rw [if_pos player, if_pos player]
  · rw [if_neg player] at found
    split at found
    case isFalse => cases found
    case isTrue pet =>
      rw [if_neg player, if_neg player, if_pos pet]
      exact Function.update_self _ _ _

/-- The packet is exact when the unit's levels are legal and every entry fits where it is handled. -/
theorem conserved_iff (o : Owner templates) {recv_data : SpellAddRequest}
    (uint16 : ∀ entry ∈ recv_data.entries, entry.1 < 2 ^ 16) (bytes : ∀ entry ∈ recv_data.entries, entry.2 < 2 ^ 8) :
    o.Conserved recv_data ↔
      ∀ u ∈ o.unit recv_data, Legal u ∧
        ∀ before entry after, recv_data.entries = before ++ entry :: after → Fits (u.addEntries before) entry := by
  have mem {before entry after} (split : recv_data.entries = before ++ entry :: after) :
      entry ∈ recv_data.entries := by
    rw [split]
    exact List.mem_append_right _ List.mem_cons_self
  constructor
  · intro conserved u found
    have exact_ (before after) (split : recv_data.entries = before ++ after) : Exact u (u.addEntries before) := by
      obtain ⟨u', found', exact_⟩ := (conserved u found).1 before.length
      rw [unit_spellAdd found, split, List.take_left] at found'
      cases found'
      exact exact_
    refine ⟨(exact_ [] _ rfl).legal, fun before entry after split => ?_⟩
    have next := exact_ (before ++ [entry]) after (split.trans (List.append_cons _ _ _))
    rw [addEntries_append] at next
    exact ((exact_ before _ split).added_iff (element_addEntries u before) (added _ entry) (uint16 _ (mem split))
      (bytes _ (mem split))).mp next
  · intro fits u found
    obtain ⟨legal, fits⟩ := fits u found
    refine ⟨fun n => ⟨_, unit_spellAdd found _, ?_⟩,
      fun before entry after split => (fits before entry after split).refuses⟩
    have exact_ (before after) (split : recv_data.entries = before ++ after) : Exact u (u.addEntries before) := by
      induction before using List.reverseRecOn generalizing after with
      | nil => exact Exact.refl legal
      | append_singleton before entry ih =>
        rw [List.append_assoc, List.singleton_append] at split
        rw [addEntries_append]
        exact ((ih _ split).added_iff (element_addEntries u before) (added _ entry) (uint16 _ (mem split))
          (bytes _ (mem split))).mpr (fits before entry after split)
    exact exact_ _ _ (List.take_append_drop n _).symm

/-- Templates with one spell of earth, which costs two points and has ten levels. -/
def oneSpell (entry : Nat) : Option SpellInfo := if entry = 10004 then some ⟨1, 2, 10⟩ else none

/-- A player of earth with free points and no spell or pet. -/
def apprentice (spellPoint : Nat) : Owner oneSpell :=
  ⟨⟨1, spellPoint, ∅, fun _ mem => absurd mem (AList.notMem_empty _)⟩, fun _ => none⟩

/-- The player learns the spell and raises it by one level. -/
def learnAndRaise : SpellAddRequest := ⟨1, 0, [(10004, 1), (10004, 2)]⟩

/-- Learning and raising a spell costs what it is worth. -/
theorem conserved_learnAndRaise : (apprentice 5).Conserved learnAndRaise := by
  apply (conserved_iff (apprentice 5) (by decide) (by decide)).mpr
  intro u found
  cases found
  refine ⟨fun entry spell h => (by cases h), fun before entry after split => ?_⟩
  cases before with
  | nil =>
    cases split
    decide
  | cons first before =>
    cases before with
    | nil =>
      cases split
      decide
    | cons second before =>
      have rest := congrArg (List.drop 2) split
      cases before <;> cases rest

/-- The player learns the spell and sets it to a level above the highest one for one point. -/
def overshoot : SpellAddRequest := ⟨1, 0, [(10004, 1), (10004, 200)]⟩

/-- The spell then has a level that its template does not allow. -/
theorem not_conserved_overshoot : ¬(apprentice 5).Conserved overshoot := by
  intro conserved
  obtain ⟨exact_, -⟩ := conserved _ rfl
  obtain ⟨u', found, exact_⟩ := exact_ 2
  cases found
  exact absurd (exact_.legal 10004 ⟨200, .changed⟩ (by decide) ⟨1, 2, 10⟩ rfl) (by decide)

end Owner

end Legacy.Spells
