import Legacy.Inventory.PetModifiers

/-!
# Putting an item on and taking it off again

`Player::_ApplyItemModsFor` (`src/src/game/Player.cpp`) is called with `apply` when an item is put on and without when
it is taken off. What it collects from the prototype does not depend on the modifiers, so the second call takes away
what the first one added, and the unit is as it was before (`applyItemModsFor_false_true`).
-/

namespace Legacy.Inventory
open Legacy.Lib

namespace Unit

/-- The modifiers are 32-bit fields. -/
def ModsFit (u : Unit) : Prop := ∀ flag, i32 (u.mods flag) = u.mods flag

variable {u : Unit}

/-- Modifiers that were added are taken away again. -/
lemma applyItemMods_false_true_mods (fit : u.ModsFit) (proto : ItemPrototype) :
    ((u.applyItemMods proto true).applyItemMods proto false).mods = u.mods := by
  funext flag
  obtain ⟨element, -⟩ := u.applyItemMods_rest proto true
  have applied := applyItemMods_mods proto true (fit flag).symm
  rw [if_pos rfl] at applied
  have unapplied := applyItemMods_mods proto false applied
  rw [if_neg Bool.false_ne_true, element, Int.add_sub_cancel] at unapplied
  exact unapplied.trans (fit flag)

/-- Besides the modifiers, only the set counter changes: it counts the marks, as long as it does not reach its cap. -/
lemma applyItemMods_true (proto : ItemPrototype) (room : u.itemSet + proto.elementMarks u.element ≤ 5) :
    u.applyItemMods proto true =
      { u with
        itemSet := u.itemSet + proto.elementMarks u.element
        mods := (u.applyItemMods proto true).mods } := by
  simp only [applyItemMods, if_true, incItemSet_iterate _ _ room]

/-- What is taken away when an item is taken off. -/
lemma applyItemMods_false (u : Unit) (proto : ItemPrototype) :
    u.applyItemMods proto false =
      { u with
        itemSet := u.itemSet - proto.elementMarks u.element
        mods := (u.applyItemMods proto false).mods } := by
  simp only [applyItemMods, Bool.false_eq_true, if_false, decItemSet_iterate]

/-- A unit is the same after an item was put on and taken off. -/
lemma applyItemMods_false_true (fit : u.ModsFit) (proto : ItemPrototype)
    (room : u.itemSet + proto.elementMarks u.element ≤ 5) :
    (u.applyItemMods proto true).applyItemMods proto false = u := by
  have mods := applyItemMods_false_true_mods fit proto
  rw [applyItemMods_false, mods, applyItemMods_true proto room]
  simp only [Nat.add_sub_cancel]

end Unit

namespace Player

/-- An item that is applied and unapplied leaves the six modifiers as they were, and the whole unit if the set counter
had room for the element marks of the item. -/
theorem applyItemModsFor_false_true (objmgr : ObjectMgr) {u : Unit} (fit : u.ModsFit) (it : Item) :
    (applyItemModsFor objmgr (applyItemModsFor objmgr u it true) it false).mods = u.mods ∧
      (u.itemSet + objmgr.marksOf u.element (some it.entry) ≤ 5 →
        applyItemModsFor objmgr (applyItemModsFor objmgr u it true) it false = u) := by
  by_cases worn : isEquipped it
  · cases known : objmgr.getItemPrototype it.entry with
    | none =>
      have idle (u : Unit) (apply : Bool) : applyItemModsFor objmgr u it apply = u := by
        simp only [applyItemModsFor, worn, if_true, known]
      rw [idle, idle]
      exact ⟨rfl, fun _ => rfl⟩
    | some proto =>
      have counted (u : Unit) (apply : Bool) : applyItemModsFor objmgr u it apply = u.applyItemMods proto apply := by
        simp only [applyItemModsFor, worn, if_true, known]
      rw [counted, counted, ObjectMgr.marksOf_some known]
      exact ⟨Unit.applyItemMods_false_true_mods fit proto, Unit.applyItemMods_false_true fit proto⟩
  · have idle (u : Unit) (apply : Bool) : applyItemModsFor objmgr u it apply = u := by
      rw [applyItemModsFor, if_neg worn]
    rw [idle, idle]
    exact ⟨rfl, fun _ => rfl⟩

/-- A sword with two entries for attack, one that takes from defence, and a mark of the earth element. -/
def earthSword : ItemPrototype where
  itemId := 100
  modelid := 1
  typeDesc := "sword"
  inventoryType := 1
  requiredLevel := 1
  equipmentSlot := 2
  buyprice := 0
  sellprice := 0
  maxCount := 1
  stackable := 1
  itemState := [⟨4, 10⟩, ⟨10, 5⟩, ⟨4, 20⟩, ⟨5, -3⟩]

/-- An earth unit whose modifiers are at the bounds of their fields, with four marks counted. -/
def earthUnit : Unit := ⟨10, 1, 100, 50, 100, 50, fun flag => if flag = .atkMod then 2 ^ 31 - 1 else -2 ^ 31, 4, false⟩

/-- A sword with an element is put on and taken off again. -/
theorem applyItemModsFor_earthSword :
    applyItemModsFor ⟨[earthSword], []⟩ (applyItemModsFor ⟨[earthSword], []⟩ earthUnit ⟨1, 100, 1, 7, 2, none⟩ true)
      ⟨1, 100, 1, 7, 2, none⟩ false = earthUnit := by
  have fit : earthUnit.ModsFit := by
    intro flag
    cases flag with
    | intMod | atkMod | defMod | hpxMod | spxMod | agiMod => rfl
  exact (applyItemModsFor_false_true ⟨[earthSword], []⟩ fit ⟨1, 100, 1, 7, 2, none⟩).2 (by decide)

end Player

end Legacy.Inventory
