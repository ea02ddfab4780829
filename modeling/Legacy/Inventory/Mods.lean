import Legacy.Inventory.Player

/-!
# Equipment modifiers

Model of `Player::_ApplyItemModsFor`, `Player::_ApplyItemSetModsFor` and `Player::_ApplyAllItemMods`
(`src/src/game/Player.cpp`). An item changes each modifier by a fixed amount that depends on its
prototype and on the element of the unit (`contribution`), and counts its element marks into the
unit's item set, a counter that saturates at five.
-/

namespace Legacy.Inventory
open Legacy.Lib

/-- The modifier a stat type stands for (source `ITEM_MOD_INT` to `ITEM_MOD_AGI`). -/
def statModOf : Nat → Option StatMod
  | 3 => some .intMod
  | 4 => some .atkMod
  | 5 => some .defMod
  | 6 => some .hpxMod
  | 7 => some .spxMod
  | 8 => some .agiMod
  | _ => none

/-- The element a stat type marks (source `ITEM_MOD_ELEMENT_EARTH` to `ITEM_MOD_ELEMENT_WIND`, and
`ELEMENT_EARTH` to `ELEMENT_WIND`). -/
def elementOf : Nat → Option Nat
  | 10 => some 1
  | 11 => some 2
  | 12 => some 3
  | 13 => some 4
  | _ => none

/-- What the loop over the modifiers of a prototype collects: the value of each modifier, the
element bonus, and how often the item set is counted. -/
structure ItemMods where
  itemMods : StatMod → Option Int
  el_bonus : Bool
  el_value : Int
  marks : Nat

/-- One step of the loop: the map keeps the first value of a modifier, and a mark counts only when it
is of the unit's element. -/
def ItemMods.add (element : Nat) (m : ItemMods) (s : ItemStat) : ItemMods :=
  match elementOf s.itemStatType with
  | some e =>
    if e = element then
      { m with el_bonus := true, el_value := i32 (m.el_value + s.itemStatValue), marks := m.marks + 1 }
    else m
  | none =>
    match statModOf s.itemStatType with
    | some flag =>
      if (m.itemMods flag).isSome then m
      else { m with itemMods := Function.update m.itemMods flag (some s.itemStatValue) }
    | none => m

/-- The modifiers of a prototype for a unit of this element. -/
def ItemPrototype.itemMods (proto : ItemPrototype) (element : Nat) : ItemMods :=
  proto.itemState.foldl (ItemMods.add (u8 element)) ⟨fun _ => none, false, 0, 0⟩

/-- What an item of this prototype adds to a modifier of a unit of this element. -/
def ItemPrototype.contribution (proto : ItemPrototype) (element : Nat) (flag : StatMod) : Int :=
  let m := proto.itemMods element
  match m.itemMods flag with
  | none => 0
  | some v => if m.el_bonus ∧ 0 < v then i32 (v + m.el_value) else v

/-- How many marks of the unit's element the prototype carries. -/
def ItemPrototype.elementMarks (proto : ItemPrototype) (element : Nat) : Nat :=
  (proto.itemMods element).marks

namespace Unit

/-- Counts one mark (source `Unit::IncItemSet`). -/
def incItemSet (u : Unit) : Unit :=
  { u with itemSet := if u.itemSet < 5 then u.itemSet + 1 else 5 }

/-- Takes one mark away (source `Unit::DecItemSet`). -/
def decItemSet (u : Unit) : Unit :=
  { u with itemSet := if 0 < u.itemSet then u.itemSet - 1 else 0 }

/-- Applies or unapplies a prototype (source `Player::_ApplyItemModsFor`, past its guards). -/
def applyItemMods (u : Unit) (proto : ItemPrototype) (apply : Bool) : Unit :=
  let marked := (if apply then incItemSet else decItemSet)^[proto.elementMarks u.element] u
  { marked with
    mods := fun flag =>
      if ((proto.itemMods u.element).itemMods flag).isSome then
        if apply then i32 (u.mods flag + proto.contribution u.element flag)
        else i32 (u.mods flag - proto.contribution u.element flag)
      else u.mods flag }

/-- The modifiers of the item set bonus. -/
def inSetBonus : StatMod → Bool
  | .intMod | .atkMod | .defMod | .agiMod => true
  | .hpxMod | .spxMod => false

/-- Adds or takes away the item set bonus (source `Player::_ApplyItemSetModsFor`). -/
def applyItemSetMods (u : Unit) (apply : Bool) : Unit :=
  if !apply && !u.itemSetApplied then u
  else
    let bonus : Int := if apply then 5 else -5
    { u with
      itemSetApplied := apply
      mods := fun flag => if inSetBonus flag then i32 (u.mods flag + bonus) else u.mods flag }

/-- The check of the set after a change of equipment: the bonus is added whenever the set counts
five (source `Player::_ApplyItemSetModsFor` and its callers). -/
def updateItemSet (u : Unit) : Unit :=
  u.applyItemSetMods (u.itemSet = 5)

end Unit

namespace Player

/-- An item that counts as equipped (source `Item::IsEquipped`). -/
def isEquipped (it : Item) : Bool := it.container.isSome || it.slot < equipmentSlotEnd

/-- Applies or unapplies an item for a unit (source `Player::_ApplyItemModsFor`). -/
def applyItemModsFor (objmgr : ObjectMgr) (u : Unit) (it : Item) (apply : Bool) : Unit :=
  if isEquipped it then
    match objmgr.getItemPrototype it.entry with
    | none => u
    | some proto => u.applyItemMods proto apply
  else u

/-- The items in equipment slots that the loops of `_ApplyAllItemMods` visit, in order. -/
def wornItems (p : Player) (equip : Nat → Option Nat) : List Item :=
  (List.range equipmentSlotEnd).filterMap fun i => (equip i).bind p.heap

/-- Applies a list of items and checks the set. -/
def applyWorn (objmgr : ObjectMgr) (u : Unit) (worn : List Item) : Unit :=
  (worn.foldl (fun u it => applyItemModsFor objmgr u it true) u).updateItemSet

/-- Applies all worn items of the player and of its pets (source `Player::_ApplyAllItemMods`). -/
def applyAllItemMods (objmgr : ObjectMgr) (p : Player) : Player :=
  { p with
    unit := applyWorn objmgr p.unit (p.wornItems p.items)
    pets := fun slot =>
      (p.pets slot).map fun pet =>
        if slot < maxPetSlot then
          { pet with unit := applyWorn objmgr pet.unit (p.wornItems pet.equip) }
        else pet }

end Player

end Legacy.Inventory
