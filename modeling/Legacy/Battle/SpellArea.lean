import Legacy.Battle.EmptyCells

/-!
# The area of a spell

`ParseSpell` asks `GetBattleUnit` for the neighbours of its target, and the bounds check there lets column 4
and row 5 pass. `parseSpellIn` is the function with the reads it makes: a read outside the array is an error.
`parseSpellIn_fits_iff` says for which targets the hits are read inside the grid and strike the side of the
target, `hitCells_mirror_iff` when a spell covers the mirror image on the other side, and
`hitCells_once` which cells are hit more than once.
-/

namespace Legacy.Battle
open Legacy.Lib

/-- A cell that the bounds check lets through although the array does not have it. -/
abbrev Outside (c : Nat × Nat) : Prop := ¬(battleColMax < c.1 ∨ battleRowMax < c.2) ∧ ¬InGrid c

namespace Engine

section Reads

/-- source `BattleSystem::GetBattleUnit`, with the cell of a read outside the array as its error -/
def readUnit (b : Engine) (c : Nat × Nat) : Except (Nat × Nat) (Option Nat) :=
  if battleColMax < c.1 ∨ battleRowMax < c.2 then .ok none
  else if InGrid c then .ok (b.battleUnit c.1 c.2)
  else .error c

/-- source `BattleSystem::isUnitAvail` -/
def unitAvailIn (b : Engine) (c : Nat × Nat) (linked : Bool) : Except (Nat × Nat) Bool := do
  let unit ← b.readUnit c
  return unit.any fun u => !(b.units u).isDead || linked

/-- A further hit, when there is a living unit. -/
def hitIn (b : Engine) (action : BattleAction) (c : Nat × Nat) : Except (Nat × Nat) (List BattleAction) := do
  if ← b.unitAvailIn c false then return [{ action.withTarget c with agility := 0 }] else return []

/-- The further hits on several cells. -/
def hitsIn (b : Engine) (action : BattleAction) :
    List (Nat × Nat) → Except (Nat × Nat) (List BattleAction)
  | [] => return []
  | c :: cells => do
    let hits ← b.hitIn action c
    return hits ++ (← b.hitsIn action cells)

/-- The hit above or below the primary target. -/
def sideHitIn (b : Engine) (action : BattleAction) (linked : Bool) (c : Nat × Nat) :
    Except (Nat × Nat) (List BattleAction) := do
  if action.skill = spellBerserker && !(← b.unitAvailIn c false) then return [action]
  else if ← b.unitAvailIn c linked then return [{ action.withTarget c with agility := 0 }]
  else return []

/-- The hits of hit model 3. -/
def lineHitsIn (b : Engine) (action : BattleAction) (linked : Bool) : Except (Nat × Nat) (List BattleAction) := do
  let above ← b.sideHitIn action linked (rowAbove action.tgtCell)
  let below ← b.sideHitIn action linked (rowBelow action.tgtCell)
  return action :: (above ++ below)

/-- The hits of hit model 4. -/
def crossHitsIn (b : Engine) (action : BattleAction) (linked : Bool) : Except (Nat × Nat) (List BattleAction) := do
  let facing ← b.hitIn action (facingCell action.tgtCell)
  return facing ++ (← b.lineHitsIn action linked)

/-- source `BattleSystem::ParseSpell`, with its reads -/
def parseSpellIn (b : Engine) (action : BattleAction) (hit : Nat) (linked : Bool) :
    Except (Nat × Nat) (List BattleAction) := do
  let c := action.tgtCell
  match hit with
  | 2 => return action :: (← b.hitIn action (rollingCell c))
  | 6 =>
    let above ← b.hitIn action (rowAbove (facingCell c))
    let below ← b.hitIn action (rowBelow (facingCell c))
    return above ++ below ++ (← b.crossHitsIn action linked)
  | 4 => b.crossHitsIn action linked
  | 3 => b.lineHitsIn action linked
  | 5 =>
    return action ::
      (← b.hitsIn action (((List.range battleRowMax).filter fun row => row ≠ c.2).map fun row => (c.1, row)))
  | 10 => return action :: (← b.hitsIn action ((sideCells c.1).filter fun d => d ≠ c))
  | _ => if ← b.unitAvailIn c false then return [action] else return []

variable {b : Engine} {action : BattleAction} {linked : Bool}

/-- A read returns what `getBattleUnit` models, unless it is outside the array. -/
lemma sat_readUnit (b : Engine) (c : Nat × Nat) (Q : Option Nat → Prop) :
    Sat (b.readUnit c) Q ↔ ¬Outside c ∧ Q (b.getBattleUnit c.1 c.2) := by
  rw [readUnit, getBattleUnit]
  split
  · next rejected =>
    rw [sat_ok]
    exact (and_iff_right fun outside => outside.1 rejected).symm
  · next passed =>
    split
    · next inside =>
      rw [sat_ok]
      exact (and_iff_right fun outside => outside.2 inside).symm
    · next outside =>
      rw [sat_error, false_iff]
      exact fun read => read.1 ⟨passed, outside⟩

/-- Asking for an available unit succeeds exactly inside the array, with the plain answer. -/
lemma sat_unitAvailIn (b : Engine) (c : Nat × Nat) (linked : Bool) (Q : Bool → Prop) :
    Sat (b.unitAvailIn c linked) Q ↔ ¬Outside c ∧ Q (b.isUnitAvail c linked) := by
  rw [unitAvailIn, sat_bind, sat_readUnit]
  rfl

/-- The hit at a cell is read without a fault exactly inside the array. -/
lemma sat_hitIn (b : Engine) (action : BattleAction) (c : Nat × Nat) (Q : List BattleAction → Prop) :
    Sat (b.hitIn action c) Q ↔ ¬Outside c ∧ Q (b.isUnitAvail.hitAt action c) := by
  rw [hitIn, sat_bind, sat_unitAvailIn, Avail.hitAt]
  split <;> rfl

/-- Hits are read without a fault when all of their cells are inside the array. -/
lemma sat_hitsIn (b : Engine) (action : BattleAction) (cells : List (Nat × Nat)) (Q : List BattleAction → Prop) :
    Sat (b.hitsIn action cells) Q ↔ (∀ c ∈ cells, ¬Outside c) ∧ Q (cells.flatMap (b.isUnitAvail.hitAt action)) := by
  induction cells generalizing Q with
  | nil =>
    rw [hitsIn, sat_pure]
    simp only [List.not_mem_nil, false_imp_iff, implies_true, true_and, List.flatMap_nil]
  | cons c cells ih =>
    rw [hitsIn, sat_bind, sat_hitIn, sat_bind, ih, List.forall_mem_cons, List.flatMap_cons, and_assoc]
    rfl

/-- A hit beside the target is read without a fault exactly inside the array. -/
lemma sat_sideHitIn (b : Engine) (action : BattleAction) (linked : Bool) (c : Nat × Nat)
    (Q : List BattleAction → Prop) :
    Sat (b.sideHitIn action linked c) Q ↔ ¬Outside c ∧ Q (b.isUnitAvail.sideHit action linked c) := by
  rw [sideHitIn, sat_bind, sat_unitAvailIn, Avail.sideHit]
  refine and_congr_right fun inside => ?_
  split
  · rfl
  · rw [sat_bind, sat_unitAvailIn, and_iff_right inside]
    split <;> rfl

/-- The hits of a line are read without a fault when the rows above and below are inside the array. -/
lemma sat_lineHitsIn (b : Engine) (action : BattleAction) (linked : Bool) (Q : List BattleAction → Prop) :
    Sat (b.lineHitsIn action linked) Q ↔
      (¬Outside (rowAbove action.tgtCell) ∧ ¬Outside (rowBelow action.tgtCell)) ∧
        Q (b.isUnitAvail.lineHits action linked) := by
  rw [lineHitsIn, sat_bind, sat_sideHitIn, sat_bind, sat_sideHitIn, and_assoc]
  rfl

/-- The hits of a cross are read without a fault when its three other cells are inside the array. -/
lemma sat_crossHitsIn (b : Engine) (action : BattleAction) (linked : Bool) (Q : List BattleAction → Prop) :
    Sat (b.crossHitsIn action linked) Q ↔
      (¬Outside (facingCell action.tgtCell) ∧ ¬Outside (rowAbove action.tgtCell) ∧
        ¬Outside (rowBelow action.tgtCell)) ∧ Q (b.isUnitAvail.crossHits action linked) := by
  rw [crossHitsIn, sat_bind, sat_hitIn, sat_bind, sat_lineHitsIn, and_assoc, and_assoc, and_assoc]
  rfl

/-- The function returns when all cells of its model are in the array, and then it returns the hits. -/
lemma sat_parseSpellIn (inGrid : InGrid action.tgtCell) (b : Engine) (hit : Nat) (linked : Bool)
    (Q : List BattleAction → Prop) :
    Sat (b.parseSpellIn action hit linked) Q ↔
      (∀ c ∈ spellCells action.tgtCell hit, ¬Outside c) ∧ Q (b.parseSpell action hit linked) := by
  have primary : ¬Outside action.tgtCell := fun outside => outside.2 inGrid
  rw [parseSpellIn.eq_def, parseSpell, Avail.parseSpell.eq_def, spellCells.eq_def]
  simp only
  split
  · rw [sat_bind, sat_hitIn]
    simp only [List.forall_mem_cons, List.not_mem_nil, false_imp_iff, implies_true, primary, not_false_eq_true,
      true_and, and_true, sat_pure]
  · rw [sat_bind, sat_hitIn, sat_bind, sat_hitIn, sat_bind, sat_crossHitsIn]
    simp only [List.cons_append, List.nil_append, List.forall_mem_cons, List.not_mem_nil, false_imp_iff,
      implies_true, primary, not_false_eq_true, true_and, and_true, sat_pure, and_assoc]
  · rw [sat_crossHitsIn]
    simp only [List.cons_append, List.nil_append, List.forall_mem_cons, List.not_mem_nil, false_imp_iff,
      implies_true, primary, not_false_eq_true, true_and, and_true]
  · rw [sat_lineHitsIn]
    simp only [List.forall_mem_cons, List.not_mem_nil, false_imp_iff, implies_true, primary, not_false_eq_true,
      true_and, and_true]
  · rw [sat_bind, sat_hitsIn]
    simp only [List.forall_mem_cons, List.flatMap_map, primary, not_false_eq_true, true_and, sat_pure]
  · rw [sat_bind, sat_hitsIn]
    simp only [List.forall_mem_cons, primary, not_false_eq_true, true_and, sat_pure]
  · rw [sat_bind, sat_unitAvailIn]
    simp only [List.forall_mem_cons, List.not_mem_nil, false_imp_iff, implies_true, primary, not_false_eq_true,
      true_and, and_true]
    split <;> rfl

end Reads

end Engine

namespace Avail

variable {avail : Avail} {action : BattleAction} {linked : Bool}

/-- Whatever the skill is, the hits are on cells that the model covers. -/
lemma sideHit_cell {c : Nat × Nat} {x : BattleAction} (mem : x ∈ avail.sideHit action linked c) :
    x.tgtCell = action.tgtCell ∨ x.tgtCell = c := by
  rw [sideHit] at mem
  split at mem
  · exact .inl (congrArg BattleAction.tgtCell (List.mem_singleton.mp mem))
  · split at mem
    · exact .inr (congrArg BattleAction.tgtCell (List.mem_singleton.mp mem))
    · cases mem

/-- A hit at a cell is on it. -/
lemma hitAt_cell {c : Nat × Nat} {x : BattleAction} (mem : x ∈ avail.hitAt action c) : x.tgtCell = c :=
  List.mem_singleton.mp ((avail.hitAt_targets action c).subset (List.mem_map_of_mem mem))

/-- A living unit is hit. -/
lemma hitAt_living {c : Nat × Nat} (living : avail c false = true) :
    avail.hitAt action c = [{ action.withTarget c with agility := 0 }] := if_pos living

/-- A cell without a unit has no hit. -/
lemma hitAt_gone {c : Nat × Nat} (gone : avail c false = false) : avail.hitAt action c = [] :=
  if_neg (Bool.eq_false_iff.mp gone)

/-- The cells that a line hits. -/
lemma lineHits_cell {x : BattleAction} (mem : x ∈ avail.lineHits action linked) :
    x.tgtCell ∈ [action.tgtCell, rowAbove action.tgtCell, rowBelow action.tgtCell] := by
  rw [lineHits, List.mem_cons, List.mem_append] at mem
  rcases mem with rfl | above | below
  · exact List.mem_cons_self
  · rcases sideHit_cell above with eq | eq <;> simp [eq]
  · rcases sideHit_cell below with eq | eq <;> simp [eq]

/-- The cells that a cross hits. -/
lemma crossHits_cell {x : BattleAction} (mem : x ∈ avail.crossHits action linked) :
    x.tgtCell ∈ [facingCell action.tgtCell, action.tgtCell, rowAbove action.tgtCell, rowBelow action.tgtCell] := by
  rcases List.mem_append.mp mem with facing | line
  · rw [hitAt_cell facing]
    exact List.mem_cons_self
  · exact List.mem_cons_of_mem _ (lineHits_cell line)

/-- The cells that a model hits. -/
lemma parseSpell_cell {hit : Nat} {x : BattleAction} (mem : x ∈ avail.parseSpell action hit linked) :
    x.tgtCell ∈ spellCells action.tgtCell hit := by
  rw [parseSpell.eq_def] at mem
  simp only at mem
  split at mem
  · rcases List.mem_cons.mp mem with rfl | rolling
    · exact List.mem_cons_self
    · rw [hitAt_cell rolling]
      exact List.mem_cons_of_mem _ List.mem_cons_self
  · rcases List.mem_append.mp mem with flanks | cross
    · rcases List.mem_append.mp flanks with above | below
      · rw [hitAt_cell above]
        exact List.mem_cons_self
      · rw [hitAt_cell below]
        exact List.mem_cons_of_mem _ List.mem_cons_self
    · exact List.mem_cons_of_mem _ (List.mem_cons_of_mem _ (crossHits_cell cross))
  · exact crossHits_cell mem
  · exact lineHits_cell mem
  · rcases List.mem_cons.mp mem with rfl | column
    · exact List.mem_cons_self
    · obtain ⟨row, kept, at'⟩ := List.mem_flatMap.mp column
      rw [hitAt_cell at']
      exact List.mem_cons_of_mem _ (List.mem_map_of_mem kept)
  · rcases List.mem_cons.mp mem with rfl | side
    · exact List.mem_cons_self
    · obtain ⟨d, kept, at'⟩ := List.mem_flatMap.mp side
      rw [hitAt_cell at']
      exact List.mem_cons_of_mem _ kept
  · split at mem
    · cases List.mem_singleton.mp mem
      rw [spellCells] <;> try assumption
      exact List.mem_cons_self
    · cases mem

end Avail

namespace Engine

section Fits

variable {b : Engine} {action : BattleAction} {linked : Bool}

/-- A hit inside the grid, on the side of the primary target and on an occupied cell. -/
structure HitFits (b : Engine) (action x : BattleAction) : Prop where
  inGrid : InGrid x.tgtCell
  sameSide : isDefPos x.tgtCol = isDefPos action.tgtCol
  occupied : (b.battleUnit x.tgtCol x.tgtRow).isSome

/-- Hit model 2 has no cell on the wrong side, and the models with a cell below their target have a row
there. -/
structure AreaFits (b : Engine) (action : BattleAction) (hit : Nat) : Prop where
  rolling : hit = 2 → action.tgtCol ≠ 3 ∧ (action.tgtCol = 2 → b.isUnitAvail (1, action.tgtRow) false = false)
  below : hit = 3 ∨ hit = 4 ∨ hit = 6 → action.tgtRow ≠ 4

/-- Every other model has its target only. -/
lemma spellCells_of_other {c : Nat × Nat} {hit : Nat} (other : hit ∉ [2, 3, 4, 5, 6, 10]) : spellCells c hit = [c] := by
  simp only [List.mem_cons, List.not_mem_nil, or_false, not_or] at other
  obtain ⟨ne2, ne3, ne4, ne5, ne6, ne10⟩ := other
  rw [spellCells] <;> assumption

/-- The cells of the grid. -/
lemma mem_cells {c : Nat × Nat} (inGrid : InGrid c) : c ∈ defenderCells ++ attackerCells := by
  have all : ∀ col < battleColMax, ∀ row < battleRowMax, (col, row) ∈ defenderCells ++ attackerCells := by decide
  exact all c.1 inGrid.1 c.2 inGrid.2

/-- Which cells of the grid keep every model inside the array. -/
lemma models_inside :
    ∀ hit ∈ [2, 3, 4, 5, 6, 10], ∀ c ∈ defenderCells ++ attackerCells,
      ((∀ d ∈ spellCells c hit, ¬Outside d) ↔
        (hit = 2 → c.1 ≠ 3) ∧ (hit = 3 ∨ hit = 4 ∨ hit = 6 → c.2 ≠ 4)) := by
  decide

/-- These models stay on the side of the target. -/
lemma models_side :
    ∀ hit ∈ [3, 4, 5, 6, 10], ∀ c ∈ defenderCells ++ attackerCells, ∀ d ∈ spellCells c hit,
      isDefPos d.1 = isDefPos c.1 := by
  decide

/-- The models that ask for a cell outside the array. -/
lemma spellCells_inside {c : Nat × Nat} (inGrid : InGrid c) (hit : Nat) :
    (∀ d ∈ spellCells c hit, ¬Outside d) ↔
      (hit = 2 → c.1 ≠ 3) ∧ (hit = 3 ∨ hit = 4 ∨ hit = 6 → c.2 ≠ 4) := by
  by_cases model : hit ∈ [2, 3, 4, 5, 6, 10]
  · exact models_inside hit model c (mem_cells inGrid)
  · rw [spellCells_of_other model]
    refine iff_of_true (fun d mem outside => ?_) ⟨fun eq => ?_, fun eq => ?_⟩
    · cases List.mem_singleton.mp mem
      exact outside.2 inGrid
    · exact absurd (by rw [eq]; decide) model
    · exact absurd (by rcases eq with rfl | rfl | rfl <;> decide) model

/-- All models but 2 stay on the side of their target. -/
lemma spellCells_side {c d : Nat × Nat} {hit : Nat} (inGrid : InGrid c) (model : hit ≠ 2)
    (mem : d ∈ spellCells c hit) : isDefPos d.1 = isDefPos c.1 := by
  by_cases others : hit ∈ [3, 4, 5, 6, 10]
  · exact models_side hit others c (mem_cells inGrid) d mem
  · have single : hit ∉ [2, 3, 4, 5, 6, 10] := fun listed => (List.mem_cons.mp listed).elim model others
    rw [spellCells_of_other single] at mem
    rw [List.mem_singleton.mp mem]

/-- An occupied cell that is read inside the array is in the grid. -/
lemma occupied_inGrid {c : Nat × Nat} (inside : ¬Outside c) (unit : (b.getBattleUnit c.1 c.2).isSome) :
    InGrid c ∧ (b.battleUnit c.1 c.2).isSome := by
  rw [getBattleUnit] at unit
  split at unit
  · cases unit
  · next passed => exact ⟨by_contra fun grid => inside ⟨passed, grid⟩, unit⟩

/-- Every hit is on an occupied cell, when the target is. -/
lemma parseSpell_occupied (target : (b.getVictim action).isSome) {hit : Nat} {x : BattleAction}
    (mem : x ∈ b.parseSpell action hit linked) : (b.getBattleUnit x.tgtCell.1 x.tgtCell.2).isSome :=
  (@parseSpell_strikes b action linked ⟨0, 0, hit, 0⟩ (fun _ => target) x mem).2

/-- The second cell of hit model 2 is on the wrong side exactly for the attackers' front column. -/
lemma rollingCell_side {c : Nat × Nat} (inGrid : InGrid c) (back : c.1 ≠ 3) :
    (c.1 = 2 ∧ rollingCell c = (1, c.2)) ∨ (c.1 ≠ 2 ∧ isDefPos (rollingCell c).1 = isDefPos c.1) := by
  have all : ∀ c ∈ defenderCells ++ attackerCells, c.1 ≠ 3 →
      (c.1 = 2 ∧ rollingCell c = (1, c.2)) ∨ (c.1 ≠ 2 ∧ isDefPos (rollingCell c).1 = isDefPos c.1) := by decide
  exact all c (mem_cells inGrid) back

/-- The hits of a spell fit exactly when its area does. -/
theorem parseSpellIn_fits_iff (inGrid : InGrid action.tgtCell) (target : (b.getVictim action).isSome) (hit : Nat)
    (linked : Bool) :
    Sat (b.parseSpellIn action hit linked) (fun hits => ∀ x ∈ hits, b.HitFits action x) ↔ b.AreaFits action hit := by
  rw [sat_parseSpellIn inGrid, spellCells_inside inGrid]
  have fits : (∀ d ∈ spellCells action.tgtCell hit, ¬Outside d) → ∀ x ∈ b.parseSpell action hit linked,
      isDefPos x.tgtCol = isDefPos action.tgtCol → b.HitFits action x := by
    intro inside x mem side
    obtain ⟨grid, unit⟩ := occupied_inGrid (inside _ (Avail.parseSpell_cell mem)) (parseSpell_occupied target mem)
    exact ⟨grid, side, unit⟩
  constructor
  · rintro ⟨⟨back, rows⟩, all⟩
    refine ⟨fun model => ⟨back model, fun front => ?_⟩, rows⟩
    rcases rollingCell_side inGrid (back model) with ⟨-, rolling⟩ | ⟨other, -⟩
    · refine Bool.eq_false_of_not_eq_true fun living => ?_
      have beyond : b.isUnitAvail (rollingCell action.tgtCell) false = true := by
        rw [rolling]
        exact living
      -- the defenders' front column against the attackers'
      have fit := all { action.withTarget (1, action.tgtRow) with agility := 0 } (by
        rw [model, parseSpell, Avail.parseSpell, Avail.hitAt_living beyond, rolling]
        exact List.mem_cons_of_mem _ (List.mem_singleton_self _))
      have side : isDefPos 1 = isDefPos action.tgtCol := fit.sameSide
      rw [front] at side
      cases side
    · exact absurd front other
  · rintro ⟨rolling, rows⟩
    have inside := (spellCells_inside inGrid hit).mpr ⟨fun model => (rolling model).1, rows⟩
    refine ⟨⟨fun model => (rolling model).1, rows⟩, fun x mem => fits inside x mem ?_⟩
    by_cases model : hit = 2
    · obtain ⟨back, alone⟩ := rolling model
      rw [model, parseSpell, Avail.parseSpell] at mem
      rcases List.mem_cons.mp mem with rfl | second
      · rfl
      · have cell := Avail.hitAt_cell second
        rcases rollingCell_side inGrid back with ⟨front, eq⟩ | ⟨-, side⟩
        · have gone : b.isUnitAvail (rollingCell action.tgtCell) false = false := by
            rw [eq]
            exact alone front
          rw [Avail.hitAt_gone gone] at second
          cases second
        · rw [← cell] at side
          exact side
    · exact spellCells_side inGrid model (Avail.parseSpell_cell mem)

/-- A player in the attackers' front column before a creature in the defenders'. -/
def faced : Engine := { duel with
  m_battleUnit := laidOut battleRowMax fun col row =>
    if col = 2 ∧ row = 2 then some 1 else if col = 1 ∧ row = 2 then some 10 else none }

/-- A fire arrow at the player is read and strikes as it should. -/
theorem parseSpellIn_fits_faced :
    Sat (faced.parseSpellIn ⟨1, 2, spellBasic, 2, 2, 0⟩ 3 true) fun hits =>
      ∀ x ∈ hits, faced.HitFits ⟨1, 2, spellBasic, 2, 2, 0⟩ x :=
  (parseSpellIn_fits_iff (by decide) (by decide) 3 true).mpr ⟨fun model => absurd model (by decide), fun _ => by decide⟩

/-- A rolling stone at the player also hits the creature that throws it. -/
theorem not_parseSpellIn_fits :
    ¬∀ (b : Engine) (action : BattleAction) (hit : Nat) (linked : Bool), InGrid action.tgtCell →
      (b.getVictim action).isSome →
        Sat (b.parseSpellIn action hit linked) fun hits => ∀ x ∈ hits, b.HitFits action x := by
  intro fits
  have all := fits faced ⟨1, 2, spellBasic, 2, 2, 0⟩ 2 false (by decide) (by decide)
  obtain ⟨-, fits⟩ := (sat_parseSpellIn (by decide) _ _ _ _).mp all
  have side := (fits ⟨1, 2, spellBasic, 1, 2, 0⟩ (by decide)).sameSide
  cases side

end Fits

section Mirror

/-- The units that are available when what lies outside the grid is an empty cell. -/
def bounded (b : Engine) : Avail := fun c linked => InGrid c && b.isUnitAvail c linked

/-- The grid reflected across the middle. -/
def mirror (b : Engine) : Engine :=
  { b with m_battleUnit := laidOut battleRowMax fun col row => b.battleUnit (battleColMax - 1 - col) row }

end Mirror

end Engine

/-- A cell reflected across the middle. -/
def mirrorCell (c : Nat × Nat) : Nat × Nat := (battleColMax - 1 - c.1, c.2)

/-- An action with its cells reflected. -/
def BattleAction.mirror (action : BattleAction) : BattleAction :=
  { action with atkCol := battleColMax - 1 - action.atkCol, tgtCol := battleColMax - 1 - action.tgtCol }

namespace Engine

section Mirror

variable {b : Engine} {action : BattleAction} {linked : Bool}

/-- The mirrored action has the mirrored target. -/
lemma mirror_tgtCell (action : BattleAction) : action.mirror.tgtCell = mirrorCell action.tgtCell := rfl

/-- The mirror of the mirror. -/
lemma mirrorCell_mirrorCell {c : Nat × Nat} (col : c.1 < battleColMax) : mirrorCell (mirrorCell c) = c := by
  refine Prod.ext ?_ rfl
  have col : c.1 < 4 := col
  show 4 - 1 - (4 - 1 - c.1) = c.1
  omega

/-- The mirror stays in the grid. -/
lemma mirrorCell_inGrid {c : Nat × Nat} (inGrid : InGrid c) : InGrid (mirrorCell c) := by
  refine ⟨Nat.lt_of_le_of_lt (Nat.sub_le _ _) ?_, inGrid.2⟩
  decide

/-- A cell of the reflected grid holds the unit of the reflected cell. -/
lemma mirror_getBattleUnit {c : Nat × Nat} (inGrid : InGrid c) :
    b.mirror.getBattleUnit (mirrorCell c).1 (mirrorCell c).2 = b.getBattleUnit c.1 c.2 := by
  have accepted {d : Nat × Nat} (inGrid : InGrid d) : ¬(battleColMax < d.1 ∨ battleRowMax < d.2) := by
    rintro (col | row)
    · exact absurd inGrid.1 (Nat.not_lt.mpr (Nat.le_of_lt col))
    · exact absurd inGrid.2 (Nat.not_lt.mpr (Nat.le_of_lt row))
  have inGrid' := mirrorCell_inGrid inGrid
  have back := mirrorCell_mirrorCell inGrid.1
  rw [getBattleUnit, getBattleUnit, if_neg (accepted inGrid), if_neg (accepted inGrid')]
  calc b.mirror.battleUnit (mirrorCell c).1 (mirrorCell c).2
      = b.battleUnit (mirrorCell (mirrorCell c)).1 (mirrorCell (mirrorCell c)).2 :=
        laidOut_rowMajor (fun col row => b.battleUnit (battleColMax - 1 - col) row) inGrid'.2
    _ = b.battleUnit c.1 c.2 := by rw [back]

/-- What lies outside the grid is not available. -/
lemma unavail_of_outside {c : Nat × Nat} (outside : ¬InGrid c) (linked : Bool) : b.bounded c linked = false := by
  rw [bounded, decide_eq_false outside, Bool.false_and]

/-- A cell of the grid is available when its unit is. -/
lemma bounded_of_inGrid {c : Nat × Nat} (inGrid : InGrid c) (linked : Bool) :
    b.bounded c linked = b.isUnitAvail c linked := by
  rw [bounded, decide_eq_true inGrid, Bool.true_and]

/-- Who stands in a reflected cell. -/
lemma bounded_mirror {c : Nat × Nat} (col : c.1 < battleColMax) (linked : Bool) :
    b.mirror.bounded (mirrorCell c) linked = b.bounded c linked := by
  by_cases inGrid : InGrid c
  · rw [bounded_of_inGrid inGrid, bounded_of_inGrid (mirrorCell_inGrid inGrid), isUnitAvail,
      mirror_getBattleUnit inGrid]
    rfl
  · have back := mirrorCell_mirrorCell col
    rw [unavail_of_outside inGrid, unavail_of_outside fun mirrored => inGrid (back ▸ mirrorCell_inGrid mirrored)]

/-- A living unit is hit where its image is. -/
lemma hitAt_mirror {c : Nat × Nat} (col : c.1 < battleColMax) :
    b.mirror.bounded.hitAt action.mirror (mirrorCell c) = (b.bounded.hitAt action c).map BattleAction.mirror := by
  rw [Avail.hitAt, Avail.hitAt, bounded_mirror col]
  split <;> rfl

/-- A hit beside the target is mirrored. -/
lemma sideHit_mirror {c : Nat × Nat} (col : c.1 < battleColMax) (linked : Bool) :
    b.mirror.bounded.sideHit action.mirror linked (mirrorCell c) =
      (b.bounded.sideHit action linked c).map BattleAction.mirror := by
  rw [Avail.sideHit, Avail.sideHit, bounded_mirror col, bounded_mirror col]
  show (if (decide (action.skill = spellBerserker) && _) = true then _ else _) = _
  split
  · rfl
  · split <;> rfl

/-- The hits of a line are mirrored. -/
lemma lineHits_mirror (col : action.tgtCol < battleColMax) (linked : Bool) :
    b.mirror.bounded.lineHits action.mirror linked = (b.bounded.lineHits action linked).map BattleAction.mirror := by
  rw [Avail.lineHits, Avail.lineHits, List.map_cons, List.map_append, ← sideHit_mirror col, ← sideHit_mirror col]
  rfl

/-- The facing cell is mirrored. -/
lemma facingCell_mirror {c : Nat × Nat} (inGrid : InGrid c) :
    facingCell (mirrorCell c) = mirrorCell (facingCell c) ∧ (facingCell c).1 < battleColMax := by
  have all : ∀ c ∈ defenderCells ++ attackerCells,
      facingCell (mirrorCell c) = mirrorCell (facingCell c) ∧ (facingCell c).1 < battleColMax := by decide
  exact all c (mem_cells inGrid)

/-- The cells of a side are mirrored. -/
lemma sideCells_mirror {c d : Nat × Nat} (inGrid : InGrid c) (mem : d ∈ (sideCells c.1).filter fun d => d ≠ c) :
    d.1 < battleColMax ∧ mirrorCell d ∈ (sideCells (mirrorCell c).1).filter fun d => d ≠ mirrorCell c := by
  have all : ∀ c ∈ defenderCells ++ attackerCells, ∀ d ∈ (sideCells c.1).filter fun d => d ≠ c,
      d.1 < battleColMax ∧ mirrorCell d ∈ (sideCells (mirrorCell c).1).filter fun d => d ≠ mirrorCell c := by decide
  exact all c (mem_cells inGrid) d mem

/-- The hits of a cross are mirrored. -/
lemma crossHits_mirror (inGrid : InGrid action.tgtCell) (linked : Bool) :
    b.mirror.bounded.crossHits action.mirror linked = (b.bounded.crossHits action linked).map BattleAction.mirror := by
  obtain ⟨facing, inside⟩ := facingCell_mirror inGrid
  rw [Avail.crossHits, Avail.crossHits, List.map_append, ← hitAt_mirror inside, ← facing, lineHits_mirror inGrid.1]
  rfl

/-- The hits of model 5, row by row. -/
lemma columnHits_mirror (inGrid : InGrid action.tgtCell) (rows : List Nat) :
    (rows.flatMap fun row => b.mirror.bounded.hitAt action.mirror (action.mirror.tgtCell.1, row)) =
      (rows.flatMap fun row => b.bounded.hitAt action (action.tgtCell.1, row)).map BattleAction.mirror := by
  rw [List.map_flatMap]
  exact congrArg (rows.flatMap ·) (funext fun row => hitAt_mirror (c := (action.tgtCell.1, row)) inGrid.1)

/-- Model 10 visits the columns in another order. -/
lemma sideHits_mirror (inGrid : InGrid action.tgtCell) (x : BattleAction) :
    x ∈ ((sideCells action.mirror.tgtCol).filter fun d => d ≠ action.mirror.tgtCell).flatMap
        (b.mirror.bounded.hitAt action.mirror) ↔
      x ∈ (((sideCells action.tgtCol).filter fun d => d ≠ action.tgtCell).flatMap
        (b.bounded.hitAt action)).map BattleAction.mirror := by
  rw [List.map_flatMap, List.mem_flatMap, List.mem_flatMap]
  constructor
  · rintro ⟨d, mem, at'⟩
    obtain ⟨col, mirrored⟩ := sideCells_mirror (mirrorCell_inGrid inGrid) mem
    rw [mirrorCell_mirrorCell inGrid.1] at mirrored
    have back := mirrorCell_mirrorCell col
    refine ⟨mirrorCell d, mirrored, ?_⟩
    rw [← hitAt_mirror (sideCells_mirror inGrid mirrored).1, back]
    exact at'
  · rintro ⟨d, mem, at'⟩
    obtain ⟨col, mirrored⟩ := sideCells_mirror inGrid mem
    refine ⟨mirrorCell d, mirrored, ?_⟩
    rw [hitAt_mirror col]
    exact at'

/-- Every model but 2 hits the mirror image. -/
lemma mem_parseSpell_mirror (inGrid : InGrid action.tgtCell) {hit : Nat} (model : hit ≠ 2) (linked : Bool)
    (x : BattleAction) :
    x ∈ b.mirror.bounded.parseSpell action.mirror hit linked ↔
      x ∈ (b.bounded.parseSpell action hit linked).map BattleAction.mirror := by
  obtain ⟨facing, inside⟩ := facingCell_mirror inGrid
  rw [Avail.parseSpell.eq_def, Avail.parseSpell.eq_def]
  simp only
  split
  · exact absurd rfl model
  · rw [List.map_append, List.map_append, ← crossHits_mirror inGrid,
      ← hitAt_mirror (c := rowAbove (facingCell action.tgtCell)) inside,
      ← hitAt_mirror (c := rowBelow (facingCell action.tgtCell)) inside, mirror_tgtCell, facing]
    rfl
  · rw [crossHits_mirror inGrid]
  · rw [lineHits_mirror inGrid.1]
  · rw [List.map_cons, ← columnHits_mirror inGrid]
    rfl
  · rw [List.map_cons, List.mem_cons, List.mem_cons]
    exact or_congr_right (sideHits_mirror inGrid x)
  · rw [mirror_tgtCell, bounded_mirror inGrid.1]
    split <;> rfl

/-- The cells that a spell hits, where no memory is read outside the array. -/
def hitCells (b : Engine) (action : BattleAction) (hit : Nat) (linked : Bool) : List (Nat × Nat) :=
  (b.bounded.parseSpell action hit linked).map BattleAction.tgtCell

/-- Hit model 2 finds nobody beside its target, neither before or behind it nor across the middle. -/
def AreaFair (b : Engine) (action : BattleAction) (hit : Nat) : Prop :=
  hit = 2 → b.bounded (facingCell action.tgtCell) false = false ∧
    (action.tgtCol = 1 ∨ action.tgtCol = 2 → b.bounded (mirrorCell action.tgtCell) false = false)

/-- The cells of hit model 2. -/
lemma hitCells_rolling (b : Engine) (action : BattleAction) (linked : Bool) :
    b.hitCells action 2 linked =
      action.tgtCell :: if b.bounded (rollingCell action.tgtCell) false then [rollingCell action.tgtCell]
        else [] := by
  rw [hitCells, Avail.parseSpell, List.map_cons, Avail.hitAt]
  split <;> rfl

/-- Two lists with at most one element beside the first have the same elements only when they have none. -/
lemma mem_extra_iff {α : Type} {a x y : α} {p q : Bool} (xa : p = true → x ≠ a) (ya : q = true → y ≠ a)
    (xy : p = true → q = true → x ≠ y) :
    (∀ d, d ∈ (a :: if p then [x] else []) ↔ d ∈ (a :: if q then [y] else [])) ↔ p = false ∧ q = false := by
  cases p with
  | false =>
    cases q with
    | false => simp
    | true =>
      refine iff_of_false (fun same => ?_) (by simp)
      exact ya rfl (by simpa using (same y).mpr (by simp))
  | true =>
    refine iff_of_false (fun same => ?_) (by simp)
    rcases List.mem_cons.mp ((same x).mp (by simp)) with eq | other
    · exact xa rfl eq
    · cases q with
      | false => cases other
      | true => exact xy rfl rfl (List.mem_singleton.mp other)

/-- A unit is available inside the grid only. -/
lemma inGrid_of_avail {c : Nat × Nat} (avail : b.bounded c linked = true) : InGrid c := by
  by_contra outside
  rw [unavail_of_outside outside] at avail
  cases avail

/-- The second cell of hit model 2, and that of the mirrored spell. -/
lemma rollingCell_cases {c : Nat × Nat} (inGrid : InGrid c) :
    (c.1 = 0 ∧ rollingCell c = facingCell c ∧ ¬InGrid (rollingCell (mirrorCell c))) ∨
      (c.1 = 1 ∧ rollingCell c = facingCell c ∧ rollingCell (mirrorCell c) = c) ∨
      (c.1 = 2 ∧ rollingCell c = mirrorCell c ∧ rollingCell (mirrorCell c) = mirrorCell (facingCell c)) ∨
      (c.1 = 3 ∧ ¬InGrid (rollingCell c) ∧ rollingCell (mirrorCell c) = mirrorCell (facingCell c)) := by
  have all : ∀ c ∈ defenderCells ++ attackerCells,
      (c.1 = 0 ∧ rollingCell c = facingCell c ∧ ¬InGrid (rollingCell (mirrorCell c))) ∨
        (c.1 = 1 ∧ rollingCell c = facingCell c ∧ rollingCell (mirrorCell c) = c) ∨
        (c.1 = 2 ∧ rollingCell c = mirrorCell c ∧ rollingCell (mirrorCell c) = mirrorCell (facingCell c)) ∨
        (c.1 = 3 ∧ ¬InGrid (rollingCell c) ∧ rollingCell (mirrorCell c) = mirrorCell (facingCell c)) := by decide
  exact all c (mem_cells inGrid)

/-- The second cell of hit model 2 is not mirrored. -/
lemma rollingCell_apart {c : Nat × Nat} (inGrid : InGrid c) (inside : InGrid (rollingCell c)) :
    rollingCell (mirrorCell c) ≠ mirrorCell (rollingCell c) := by
  have all : ∀ c ∈ defenderCells ++ attackerCells, InGrid (rollingCell c) →
      rollingCell (mirrorCell c) ≠ mirrorCell (rollingCell c) := by decide
  exact all c (mem_cells inGrid) inside

/-- Nobody is hit by the spell or its mirror image beside the primary target. -/
lemma rolling_alone_iff (inGrid : InGrid action.tgtCell) :
    (b.mirror.bounded (rollingCell (mirrorCell action.tgtCell)) false = false ∧
        b.bounded (rollingCell action.tgtCell) false = false) ↔
      b.bounded (facingCell action.tgtCell) false = false ∧
        (action.tgtCol = 1 ∨ action.tgtCol = 2 → b.bounded (mirrorCell action.tgtCell) false = false) := by
  obtain ⟨-, facing⟩ := facingCell_mirror inGrid
  have columns : action.tgtCell.1 = action.tgtCol := rfl
  rcases rollingCell_cases inGrid with ⟨col, here, there⟩ | ⟨col, here, there⟩ | ⟨col, here, there⟩ |
    ⟨col, here, there⟩
  · rw [here, unavail_of_outside there, ← columns, col]
    simp
  · have back := bounded_mirror (b := b) (mirrorCell_inGrid inGrid).1 false
    rw [mirrorCell_mirrorCell inGrid.1] at back
    rw [here, there, back, ← columns, col]
    simp [and_comm]
  · rw [here, there, bounded_mirror facing, ← columns, col]
    simp
  · rw [unavail_of_outside here, there, bounded_mirror facing, ← columns, col]
    simp

/-- A spell covers on one side the mirror image of what it covers on the other exactly when its area is fair. -/
theorem hitCells_mirror_iff (inGrid : InGrid action.tgtCell) (hit : Nat) (linked : Bool) :
    (∀ c, c ∈ b.mirror.hitCells action.mirror hit linked ↔ c ∈ (b.hitCells action hit linked).map mirrorCell) ↔
      b.AreaFair action hit := by
  by_cases model : hit = 2
  · subst model
    rw [hitCells_rolling, hitCells_rolling, List.map_cons, apply_ite (List.map mirrorCell), AreaFair,
      ← rolling_alone_iff inGrid, mirror_tgtCell]
    refine (mem_extra_iff (fun _ eq => ?_) (fun avail eq => ?_) fun _ avail => ?_).trans ?_
    · exact (rollingCell_ne _).1 (congrArg Prod.fst eq)
    · have same := congrArg mirrorCell eq
      rw [mirrorCell_mirrorCell (inGrid_of_avail avail).1, mirrorCell_mirrorCell inGrid.1] at same
      exact (rollingCell_ne _).1 (congrArg Prod.fst same)
    · exact rollingCell_apart inGrid (inGrid_of_avail avail)
    · exact ⟨fun alone _ => alone, fun fair => fair rfl⟩
  · refine iff_of_true (fun c => ?_) fun eq => absurd eq model
    rw [hitCells, hitCells, List.map_map]
    constructor
    · intro mem
      obtain ⟨x, hit', rfl⟩ := List.mem_map.mp mem
      obtain ⟨y, mem', rfl⟩ := List.mem_map.mp ((mem_parseSpell_mirror inGrid model linked x).mp hit')
      exact List.mem_map_of_mem (f := mirrorCell ∘ BattleAction.tgtCell) mem'
    · intro mem
      obtain ⟨y, mem', rfl⟩ := List.mem_map.mp mem
      exact List.mem_map_of_mem (f := BattleAction.tgtCell)
        ((mem_parseSpell_mirror inGrid model linked y.mirror).mpr (List.mem_map_of_mem mem'))

/-- An inferno on either side. -/
theorem hitCells_mirror_faced :
    faced.AreaFair ⟨3, 2, spellBasic, 1, 2, 0⟩ 10 ∧
      ∀ c, c ∈ faced.mirror.hitCells (BattleAction.mk 3 2 spellBasic 1 2 0).mirror 10 false ↔
        c ∈ (faced.hitCells ⟨3, 2, spellBasic, 1, 2, 0⟩ 10 false).map mirrorCell := by
  have fair : faced.AreaFair ⟨3, 2, spellBasic, 1, 2, 0⟩ 10 := fun model => absurd model (by decide)
  exact ⟨fair, (hitCells_mirror_iff (by decide) 10 false).mpr fair⟩

/-- A rolling stone at the creature hits it alone, and the mirrored one also hits a unit of the other side. -/
theorem not_hitCells_mirror :
    ¬∀ (b : Engine) (action : BattleAction) (hit : Nat) (linked : Bool), InGrid action.tgtCell →
      ∀ c, c ∈ b.mirror.hitCells action.mirror hit linked ↔ c ∈ (b.hitCells action hit linked).map mirrorCell := by
  intro same
  have mem := (same faced ⟨3, 2, spellBasic, 1, 2, 0⟩ 2 false (by decide) (1, 2)).mp (by decide)
  revert mem
  decide

end Mirror

section Once

variable {b : Engine} {action : BattleAction} {linked : Bool}

/-- A living unit stands there also for a linked action. -/
lemma bounded_linked {c : Nat × Nat} (living : b.bounded c false = true) : b.bounded c linked = true := by
  have inGrid := inGrid_of_avail living
  rw [bounded_of_inGrid inGrid, isUnitAvail] at living ⊢
  cases cell : b.getBattleUnit c.1 c.2 with
  | none =>
    rw [cell] at living
    cases living
  | some u =>
    rw [cell, Option.any_some, Bool.or_false] at living
    rw [Option.any_some, living]
    rfl

/-- Berserker strikes once above and once below, if need be the primary target. -/
lemma sideHit_berserker (skill : action.skill = spellBerserker) (linked : Bool) (c : Nat × Nat) :
    ∃ x, b.bounded.sideHit action linked c = [x] ∧ (x = action ∨ x.tgtCell = c ∧ b.bounded c false = true) := by
  rw [Avail.sideHit, skill]
  cases living : b.bounded c false with
  | false => exact ⟨action, rfl, .inl rfl⟩
  | true =>
    rw [bounded_linked living]
    exact ⟨{ action.withTarget c with agility := 0 }, rfl, .inr ⟨rfl, rfl⟩⟩

/-- A living primary target is hit. -/
lemma primary_mem {avail : Avail} (living : avail action.tgtCell false = true) (hit : Nat) (linked : Bool) :
    action ∈ avail.parseSpell action hit linked := by
  have line : action ∈ avail.lineHits action linked := List.mem_cons_self
  have cross : action ∈ avail.crossHits action linked := List.mem_append_right _ line
  rw [Avail.parseSpell.eq_def]
  simp only
  split
  · exact List.mem_cons_self
  · exact List.mem_append_right _ cross
  · exact cross
  · exact line
  · exact List.mem_cons_self
  · exact List.mem_cons_self
  · rw [if_pos living]
    exact List.mem_cons_self

/-- An occupied cell right above or below another one. -/
structure Beside (b : Engine) (c d : Nat × Nat) : Prop where
  column : d.1 = c.1
  row : d.2 + 1 = c.2 ∨ d.2 = c.2 + 1
  inGrid : InGrid d
  occupied : (b.battleUnit d.1 d.2).isSome

/-- A cell with an available unit is occupied. -/
lemma occupied_of_avail {c : Nat × Nat} (avail : b.bounded c linked = true) :
    (b.battleUnit c.1 c.2).isSome := by
  have inGrid := inGrid_of_avail avail
  rw [bounded_of_inGrid inGrid] at avail
  exact (occupied_inGrid (fun outside => outside.2 inGrid) (isUnitAvail_isSome avail)).2

/-- The living unit above a cell is beside it. -/
lemma beside_above {c : Nat × Nat} (inGrid : InGrid c) (living : b.bounded (rowAbove c) false = true) :
    b.Beside c (rowAbove c) where
  column := rfl
  row := by
    have above : u8 (c.2 + 255) < 5 := (inGrid_of_avail living).2
    have row : c.2 < 5 := inGrid.2
    show u8 (c.2 + 255) + 1 = c.2 ∨ u8 (c.2 + 255) = c.2 + 1
    rw [u8] at above ⊢
    omega
  inGrid := inGrid_of_avail living
  occupied := occupied_of_avail living

/-- The living unit below a cell is beside it. -/
lemma beside_below {c : Nat × Nat} (inGrid : InGrid c) (living : b.bounded (rowBelow c) false = true) :
    b.Beside c (rowBelow c) where
  column := rfl
  row := by
    have row : c.2 < 5 := inGrid.2
    show u8 (c.2 + 1) + 1 = c.2 ∨ u8 (c.2 + 1) = c.2 + 1
    rw [u8]
    omega
  inGrid := inGrid_of_avail living
  occupied := occupied_of_avail living

/-- A spell hits its living target, and no cell twice; berserker strikes three times, at its target and beside it. -/
theorem hitCells_once (living : b.bounded action.tgtCell false = true) (hit : Nat) (linked : Bool) :
    (action.skill ≠ spellBerserker →
        (b.hitCells action hit linked).Nodup ∧ action.tgtCell ∈ b.hitCells action hit linked) ∧
      (action.skill = spellBerserker → hit = 3 →
        (b.hitCells action hit linked).length = 3 ∧
          ∀ c ∈ b.hitCells action hit linked, c = action.tgtCell ∨ b.Beside action.tgtCell c) := by
  constructor
  · intro skill
    refine ⟨?_, List.mem_map_of_mem (primary_mem living hit linked)⟩
    exact (b.bounded.parseSpell_targets skill hit linked).nodup (spellCells_nodup _ _)
  · rintro skill rfl
    have inGrid := inGrid_of_avail living
    obtain ⟨x, above, aim⟩ := sideHit_berserker (b := b) skill linked (rowAbove action.tgtCell)
    obtain ⟨y, below, aim'⟩ := sideHit_berserker (b := b) skill linked (rowBelow action.tgtCell)
    rw [hitCells, Avail.parseSpell, Avail.lineHits, above, below]
    refine ⟨rfl, ?_⟩
    simp only [List.map_cons, List.map_nil, List.cons_append, List.nil_append, List.forall_mem_cons, List.not_mem_nil,
      false_imp_iff, implies_true, and_true]
    refine ⟨.inl trivial, ?_, ?_⟩
    · rcases aim with rfl | ⟨cell, unit⟩
      · exact .inl rfl
      · rw [cell]
        exact .inr (beside_above inGrid unit)
    · rcases aim' with rfl | ⟨cell, unit⟩
      · exact .inl rfl
      · rw [cell]
        exact .inr (beside_below inGrid unit)

/-- A spell of one column and berserker against the player alone. -/
theorem hitCells_once_faced :
    ((faced.hitCells ⟨1, 2, spellBasic, 2, 2, 0⟩ 3 true).Nodup ∧
        (2, 2) ∈ faced.hitCells ⟨1, 2, spellBasic, 2, 2, 0⟩ 3 true) ∧
      (faced.hitCells ⟨1, 2, spellBerserker, 2, 2, 0⟩ 3 true).length = 3 ∧
      ∀ c ∈ faced.hitCells ⟨1, 2, spellBerserker, 2, 2, 0⟩ 3 true, c = (2, 2) ∨ faced.Beside (2, 2) c :=
  ⟨(@hitCells_once faced ⟨1, 2, spellBasic, 2, 2, 0⟩ (by decide) 3 true).1 (by decide),
    (@hitCells_once faced ⟨1, 2, spellBerserker, 2, 2, 0⟩ (by decide) 3 true).2 rfl rfl⟩

end Once

end Engine

end Legacy.Battle
