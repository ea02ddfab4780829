import Mathlib.Tactic.Common
import Mathlib.Data.Int.Basic

/-!
# The cells of a map

A map is a square of grids, and every grid a square of cells, of which this server has one. `computeCellPair`
gives the cell of a position, in the exact arithmetic that the floating-point one of the source agrees with on
every coordinate of 16 bits. `Cell.visited` is the loop over the neighbouring cells of `Cell::Visit`.
-/

namespace Legacy.Map

/-- Number of grids of a map in each direction (source `MAX_NUMBER_OF_GRIDS`). -/
def MAX_NUMBER_OF_GRIDS : Nat := 64

/-- Width of a grid (source `SIZE_OF_GRIDS`). -/
def SIZE_OF_GRIDS : Nat := 5000

/-- Number of cells of a grid in each direction (source `MAX_NUMBER_OF_CELLS`). -/
def MAX_NUMBER_OF_CELLS : Nat := 1

/-- Width of a cell (source `SIZE_OF_GRID_CELL`). -/
def SIZE_OF_GRID_CELL : Nat := SIZE_OF_GRIDS / MAX_NUMBER_OF_CELLS

/-- source `CENTER_GRID_CELL_ID` -/
def CENTER_GRID_CELL_ID : Int := 0

/-- Half the width of a cell (source `CENTER_GRID_CELL_OFFSET`). -/
def CENTER_GRID_CELL_OFFSET : Nat := SIZE_OF_GRID_CELL / 2

/-- Number of cells of a map in each direction (source `TOTAL_NUMBER_OF_CELLS_PER_MAP`). -/
def TOTAL_NUMBER_OF_CELLS_PER_MAP : Nat := MAX_NUMBER_OF_GRIDS * MAX_NUMBER_OF_CELLS

/-- A position on a map. -/
structure Position where
  x : UInt16
  y : UInt16
  deriving DecidableEq, Repr

/-- A pair of cell coordinates (source `CellPair`). -/
structure CellPair where
  x_coord : Nat
  y_coord : Nat
  deriving DecidableEq, Repr

namespace CellPair

/-- Source `CoordPair::operator<<`, which adds. -/
def shiftLeft (p : CellPair) (val : Nat) : CellPair :=
  if p.x_coord + val < TOTAL_NUMBER_OF_CELLS_PER_MAP then { p with x_coord := p.x_coord + val } else p

/-- Source `CoordPair::operator>>`. -/
def shiftRight (p : CellPair) (val : Nat) : CellPair :=
  if p.x_coord + val < TOTAL_NUMBER_OF_CELLS_PER_MAP then { p with x_coord := p.x_coord + val } else p

/-- Source `CoordPair::operator-=`. -/
def subAssign (p : CellPair) (val : Nat) : CellPair :=
  if p.y_coord ≥ val then { p with y_coord := p.y_coord - val } else p

/-- Source `CoordPair::operator+=`. -/
def addAssign (p : CellPair) (val : Nat) : CellPair :=
  if p.y_coord + val < TOTAL_NUMBER_OF_CELLS_PER_MAP then { p with y_coord := p.y_coord + val } else p

/-- The coordinates are inside the map. -/
def Inside (p : CellPair) : Prop :=
  p.x_coord < TOTAL_NUMBER_OF_CELLS_PER_MAP ∧ p.y_coord < TOTAL_NUMBER_OF_CELLS_PER_MAP
  deriving Decidable

/-- The number of the cell in the tables of the object manager (source `cell_id`). -/
def cellId (p : CellPair) : Nat := p.y_coord * TOTAL_NUMBER_OF_CELLS_PER_MAP + p.x_coord

end CellPair

/-- One coordinate of `Compute`: the nearest cell, where half a cell is added before the fraction is dropped. -/
def computeCoord (CENTER_VAL : Int) (center_offset size : Nat) (c : Nat) : Int :=
  (2 * ((c : Int) - center_offset) + (2 * CENTER_VAL + 1) * size).tdiv (2 * size)

/-- The cell of a position (source `LeGACY::ComputeCellPair`). -/
def computeCellPair (pos : Position) : CellPair where
  x_coord := (computeCoord CENTER_GRID_CELL_ID CENTER_GRID_CELL_OFFSET SIZE_OF_GRID_CELL pos.x.toNat).toNat
  y_coord := (computeCoord CENTER_GRID_CELL_ID CENTER_GRID_CELL_OFFSET SIZE_OF_GRID_CELL pos.y.toNat).toNat

/-- A cell: a grid and a cell of the grid (source `Cell`). -/
structure Cell where
  grid_x : Nat
  grid_y : Nat
  cell_x : Nat
  cell_y : Nat
  deriving DecidableEq, Repr

namespace Cell

/-- The cell of a pair of coordinates (source `RedZone::Initialize`). -/
def ofPair (p : CellPair) : Cell :=
  ⟨p.x_coord / MAX_NUMBER_OF_CELLS, p.y_coord / MAX_NUMBER_OF_CELLS, p.x_coord % MAX_NUMBER_OF_CELLS,
    p.y_coord % MAX_NUMBER_OF_CELLS⟩

/-- The coordinates of the cell (source `Cell::cellPair`). -/
def cellPair (c : Cell) : CellPair :=
  ⟨c.grid_x * MAX_NUMBER_OF_CELLS + c.cell_x, c.grid_y * MAX_NUMBER_OF_CELLS + c.cell_y⟩

/-- Source `Cell::DiffCell`. -/
def DiffCell (c cell : Cell) : Prop := c.cell_x ≠ cell.cell_x ∨ c.cell_y ≠ cell.cell_y
  deriving Decidable

/-- Source `Cell::DiffGrid`, which compares `grid_x` twice. -/
def DiffGrid (c cell : Cell) : Prop := c.grid_x ≠ cell.grid_x ∨ c.grid_x ≠ cell.grid_y
  deriving Decidable

/-- The inner loop of `Cell::Visit` from `cell_iter` on. It ends after a round for every cell of a column. -/
def visitColumn (standing_cell : CellPair) : Nat → CellPair → List CellPair
  | 0, _ => []
  | n + 1, cell_iter =>
    if ((standing_cell.y_coord : Int) - cell_iter.y_coord).natAbs < 2 then
      cell_iter ::
        if cell_iter.y_coord = TOTAL_NUMBER_OF_CELLS_PER_MAP - 1 then []
        else visitColumn standing_cell n (cell_iter.addAssign 1)
    else []

/-- The outer loop of `Cell::Visit` from `update_cell` on. It ends after a round for every column. -/
def visitColumns (standing_cell : CellPair) : Nat → CellPair → List CellPair
  | 0, _ => []
  | n + 1, update_cell =>
    if ((standing_cell.x_coord : Int) - update_cell.x_coord).natAbs < 2 then
      visitColumn standing_cell TOTAL_NUMBER_OF_CELLS_PER_MAP update_cell ++
        if update_cell.x_coord = TOTAL_NUMBER_OF_CELLS_PER_MAP - 1 then []
        else visitColumns standing_cell n (update_cell.shiftRight 1)
    else []

/-- The cells that `Cell::Visit` visits for `ALL_DISTRICT`, in its order. -/
def visited (standing_cell : CellPair) : List CellPair :=
  visitColumns standing_cell TOTAL_NUMBER_OF_CELLS_PER_MAP ((standing_cell.shiftLeft 1).subAssign 1)

end Cell

section Coordinates

variable {p q : CellPair}

/-- The cell of a coordinate is its multiple of 5000. -/
lemma computeCoord_eq (c : Nat) :
    (computeCoord CENTER_GRID_CELL_ID CENTER_GRID_CELL_OFFSET SIZE_OF_GRID_CELL c).toNat = c / 5000 := by
  have half : 2 * ((c : Int) - (CENTER_GRID_CELL_OFFSET : Nat)) +
      (2 * CENTER_GRID_CELL_ID + 1) * (SIZE_OF_GRID_CELL : Nat) = 2 * c := by
    simp only [CENTER_GRID_CELL_OFFSET, CENTER_GRID_CELL_ID, SIZE_OF_GRID_CELL, SIZE_OF_GRIDS, MAX_NUMBER_OF_CELLS]
    omega
  rw [computeCoord, half, Int.tdiv_eq_ediv_of_nonneg (by omega)]
  simp only [SIZE_OF_GRID_CELL, SIZE_OF_GRIDS, MAX_NUMBER_OF_CELLS]
  omega

/-- A cell is a square of 5000 by 5000. -/
lemma computeCellPair_eq (pos : Position) : computeCellPair pos = ⟨pos.x.toNat / 5000, pos.y.toNat / 5000⟩ := by
  rw [computeCellPair, computeCoord_eq, computeCoord_eq]

/-- Every position is inside the map. -/
lemma inside_computeCellPair (pos : Position) : (computeCellPair pos).Inside := by
  have x := pos.x.toNat_lt
  have y := pos.y.toNat_lt
  rw [computeCellPair_eq]
  simp only [CellPair.Inside, TOTAL_NUMBER_OF_CELLS_PER_MAP, MAX_NUMBER_OF_GRIDS, MAX_NUMBER_OF_CELLS]
  omega

/-- The cells inside the map have different numbers. -/
lemma CellPair.cellId_inj (hp : p.Inside) (hq : q.Inside) (eq : p.cellId = q.cellId) : p = q := by
  obtain ⟨px, py⟩ := p
  obtain ⟨qx, qy⟩ := q
  simp only [CellPair.Inside, CellPair.cellId, TOTAL_NUMBER_OF_CELLS_PER_MAP, MAX_NUMBER_OF_GRIDS,
    MAX_NUMBER_OF_CELLS] at hp hq eq
  rw [CellPair.mk.injEq]
  omega

/-- `<<` stays on the map. -/
lemma CellPair.Inside.shiftLeft (inside : p.Inside) (val : Nat) : (p.shiftLeft val).Inside := by
  rw [CellPair.shiftLeft]
  split_ifs with fits
  · exact ⟨fits, inside.2⟩
  · exact inside

/-- `>>` stays on the map. -/
lemma CellPair.Inside.shiftRight (inside : p.Inside) (val : Nat) : (p.shiftRight val).Inside := inside.shiftLeft val

/-- `+=` stays on the map. -/
lemma CellPair.Inside.addAssign (inside : p.Inside) (val : Nat) : (p.addAssign val).Inside := by
  rw [CellPair.addAssign]
  split_ifs with fits
  · exact ⟨inside.1, fits⟩
  · exact inside

/-- `-=` stays on the map. -/
lemma CellPair.Inside.subAssign (inside : p.Inside) (val : Nat) : (p.subAssign val).Inside := by
  rw [CellPair.subAssign]
  split_ifs with fits
  · exact ⟨inside.1, Nat.lt_of_le_of_lt (Nat.sub_le _ _) inside.2⟩
  · exact inside

namespace Cell

/-- A cell is that of its coordinates. -/
lemma ofPair_cellPair {c : Cell} (x : c.cell_x < MAX_NUMBER_OF_CELLS) (y : c.cell_y < MAX_NUMBER_OF_CELLS) :
    ofPair c.cellPair = c := by
  obtain ⟨gx, gy, cx, cy⟩ := c
  simp only [MAX_NUMBER_OF_CELLS] at x y
  simp only [ofPair, cellPair, MAX_NUMBER_OF_CELLS, Cell.mk.injEq]
  omega

/-- The visited cells of a column are on the map. -/
lemma inside_visitColumn {standing_cell c : CellPair} {n : Nat} (inside : p.Inside)
    (mem : c ∈ visitColumn standing_cell n p) : c.Inside := by
  induction n generalizing p with
  | zero => cases mem
  | succ n ih =>
    rw [visitColumn] at mem
    split_ifs at mem
    · obtain rfl := List.mem_singleton.mp mem
      exact inside
    · obtain rfl | rest := List.mem_cons.mp mem
      · exact inside
      · exact ih (inside.addAssign 1) rest
    · cases mem

/-- All visited cells are on the map. -/
lemma inside_visitColumns {standing_cell c : CellPair} {n : Nat} (inside : p.Inside)
    (mem : c ∈ visitColumns standing_cell n p) : c.Inside := by
  induction n generalizing p with
  | zero => cases mem
  | succ n ih =>
    rw [visitColumns] at mem
    split_ifs at mem
    · rw [List.append_nil] at mem
      exact inside_visitColumn inside mem
    · obtain here | rest := List.mem_append.mp mem
      · exact inside_visitColumn inside here
      · exact ih (inside.shiftRight 1) rest
    · cases mem

/-- No cell outside the map is visited. -/
lemma inside_visited {c : CellPair} (inside : p.Inside) (mem : c ∈ visited p) : c.Inside :=
  inside_visitColumns ((inside.shiftLeft 1).subAssign 1) mem

end Cell

end Coordinates

/-- The cell of the last position, and the three cells visited around it. -/
example : computeCellPair ⟨65535, 65535⟩ = ⟨13, 13⟩ ∧ Cell.visited ⟨13, 13⟩ = [⟨14, 12⟩, ⟨14, 13⟩, ⟨14, 14⟩] := by
  decide

end Legacy.Map
