import Legacy.Lib.Linked
import Legacy.Map.Cells
import Legacy.Wire.Requests

/-!
# The grids of a map

The objects of a map and the lists of its cells that they are linked in. An object is linked when it is added to
the map or loaded with its grid, and its link names the list (`gridRef`). Nothing else writes the lists: a
relocation changes the position only. `step` has an event for every operation of the map and for what the rest of
the server does to an object that is off the map.
-/

namespace Legacy.Map
open Legacy.Lib Legacy.Wire

/-- The classes of objects that are players or creatures; a pet is a creature. -/
inductive ObjectType where
  | player
  | creature (isPet : Bool)
  deriving DecidableEq, Repr

/-- A player or creature. -/
structure MapObject where
  type : ObjectType
  position : Position
  /-- The object is on the map (source `IsInWorld`). -/
  m_inWorld : Bool
  /-- The list that the object is linked in (source `GetGridRef`). -/
  gridRef : Option Cell
  m_currentCell : Cell
  /-- The members of the team of a player. -/
  m_team : List Nat
  deriving DecidableEq, Repr

/-- A row of the table of creatures, for the creatures of this map (source `CreatureData`). -/
structure CreatureData where
  position : Position
  /-- The creature can be made from its template (source `Creature::LoadFromDB`). -/
  valid : Bool
  deriving DecidableEq, Repr

/-- A map and the objects that were made so far, under the numbers they were made with. -/
structure MapState where
  /-- The grids that were created, and whether their objects were loaded (source `isGridObjectDataLoaded`). -/
  i_grids : Nat × Nat → Option Bool
  /-- The objects linked in each cell. -/
  lists : Cell → List Nat
  objects : Nat → Option MapObject
  /-- The number of the next object. -/
  created : Nat
  i_creaturesToMove : List (Nat × Position)

/-- The map of a server that has just started. -/
def MapState.empty : MapState := ⟨fun _ => none, fun _ => [], fun _ => none, 0, []⟩

/-- The cell of a position. -/
def cellAt (pos : Position) : Cell := Cell.ofPair (computeCellPair pos)

namespace MapState

variable (s : MapState) (id : Nat)

/-- The list that the object is linked in. -/
def home : Option Cell := (s.objects id).bind MapObject.gridRef

/-- A change of one object. -/
def modify (f : MapObject → MapObject) : MapState :=
  { s with objects := Function.update s.objects id ((s.objects id).map f) }

/-- Source `WorldObject::Relocate`. -/
def relocate (pos : Position) : MapState := s.modify id fun o => { o with position := pos }

/-- Source `Object::AddToWorld`. -/
def addToWorld : MapState := s.modify id fun o => { o with m_inWorld := true }

/-- Source `Object::RemoveFromWorld`. -/
def removeFromWorld : MapState := s.modify id fun o => { o with m_inWorld := false }

/-- Source `Creature::SetCurrentCell`. -/
def setCurrentCell (cell : Cell) : MapState := s.modify id fun o => { o with m_currentCell := cell }

/-- Source `Reference::unlink`. -/
def unlink : MapState :=
  { s.modify id fun o => { o with gridRef := none } with lists := delink s.lists (s.home id) id }

/-- Source `Reference::link`: an object that is linked already is unlinked first. -/
def link (cell : Cell) : MapState :=
  { s.modify id fun o => { o with gridRef := some cell } with
    lists := insertFirst (delink s.lists (s.home id) id) cell id }

/-- A new object, which is not linked. -/
def construct (type : ObjectType) (pos : Position) : MapState :=
  { s with
    objects := Function.update s.objects s.created (some ⟨type, pos, false, none, ⟨0, 0, 0, 0⟩, []⟩)
    created := s.created + 1 }

/-- The end of an object; its link goes with it (source `GridReference::~GridReference`). -/
def destroy : MapState :=
  { s with
    objects := Function.update s.objects id none
    lists := delink s.lists (s.home id) id }

/-- A modification changes one object. -/
lemma objects_modify (f : MapObject → MapObject) :
    (s.modify id f).objects = Function.update s.objects id ((s.objects id).map f) := rfl

/-- An object that is unlinked is in no cell. -/
lemma objects_unlink :
    (s.unlink id).objects = Function.update s.objects id ((s.objects id).map fun o => { o with gridRef := none }) :=
  rfl

/-- An object that is linked is in its cell. -/
lemma objects_link (cell : Cell) : (s.link id cell).objects =
    Function.update s.objects id ((s.objects id).map fun o => { o with gridRef := some cell }) := rfl

/-- A new object is in no cell. -/
lemma objects_construct (type : ObjectType) (pos : Position) : (s.construct type pos).objects =
    Function.update s.objects s.created (some ⟨type, pos, false, none, ⟨0, 0, 0, 0⟩, []⟩) := rfl

/-- A destroyed object is gone. -/
lemma objects_destroy : (s.destroy id).objects = Function.update s.objects id none := rfl

end MapState

section Loading

variable (table : List CreatureData)

/-- The rows of a cell (source `ObjectMgr::GetCellObjectGuids`, which `AddCreatureToGrid` fills). -/
def cellObjectGuids (cell_id : Nat) : List CreatureData :=
  table.filter fun data => (computeCellPair data.position).cellId = cell_id

/-- One round of the loop of `LoadHelper`. -/
def loadObject (cell : Cell) (s : MapState) (data : CreatureData) : MapState :=
  if data.valid then
    ((((s.construct (.creature false) data.position).link s.created cell).setCurrentCell s.created
      (Cell.ofPair cell.cellPair)).addToWorld s.created)
  else s

/-- The cells of a grid. -/
def gridCells (grid : Nat × Nat) : List Cell :=
  (List.range MAX_NUMBER_OF_CELLS).flatMap fun x =>
    (List.range MAX_NUMBER_OF_CELLS).map fun y => ⟨grid.1, grid.2, x, y⟩

/-- Source `ObjectGridLoader::LoadN`. -/
def loadN (grid : Nat × Nat) (s : MapState) : MapState :=
  (gridCells grid).foldl (fun s cell => (cellObjectGuids table cell.cellPair.cellId).foldl (loadObject cell) s) s

/-- Source `Map::EnsureGridCreated`. -/
def ensureGridCreated (grid : Nat × Nat) (s : MapState) : MapState :=
  if s.i_grids grid = none then { s with i_grids := Function.update s.i_grids grid (some false) } else s

/-- The objects of the grid of a cell are loaded, once, and the player is linked in the cell (source
`Map::EnsureGridLoadedForPlayer`). -/
def ensureGridLoadedForPlayer (cell : Cell) (player : Option Nat) (s : MapState) : MapState :=
  let grid := (cell.grid_x, cell.grid_y)
  let s := ensureGridCreated grid s
  let s :=
    if s.i_grids grid = some true then s
    else
      let s := loadN table grid s
      { s with i_grids := Function.update s.i_grids grid (some true) }
  match player with
  | some id => s.link id cell
  | none => s

/-- Source `Map::Visit`, for a cell that may be created. What is visited is not changed. -/
def visit (s : MapState) (p : CellPair) : MapState := ensureGridLoadedForPlayer table (Cell.ofPair p) none s

/-- Source `Map::MessageBroadcast`. -/
def messageBroadcast (pos : Position) (s : MapState) : MapState :=
  let p := computeCellPair pos
  if p.Inside then visit table s p else s

end Loading

section Operations

variable (table : List CreatureData) (s : MapState) (id : Nat)

/-- Source `Map::Add(Player *)`: the player's own cell is visited by `UpdatePlayerVisibility`, and the cells around
it twice by `PlayerRelocationNotify`. -/
def addPlayer (pos : Position) : MapState :=
  let p := computeCellPair pos
  let s := s.addToWorld id
  let s := ensureGridLoadedForPlayer table (Cell.ofPair p) (some id) s
  (p :: (Cell.visited p ++ Cell.visited p)).foldl (visit table) s

/-- Source `Map::Add(T *)` for a creature. A pet is linked nowhere. -/
def addCreature (isPet : Bool) (pos : Position) : MapState :=
  let p := computeCellPair pos
  if p.Inside then
    let cell := Cell.ofPair p
    let s := ensureGridCreated (cell.grid_x, cell.grid_y) s
    let s := if isPet then s else (s.link id cell).setCurrentCell id cell
    s.addToWorld id
  else s

/-- Source `Map::Remove(Player *, bool)`. `RemoveGridObject` looks for players among the types of the grid's own
objects and finds none, so that the player stays linked. -/
def removePlayer (pos : Position) (remove : Bool) : MapState :=
  let p := computeCellPair pos
  if ¬ p.Inside then
    let s := s.removeFromWorld id
    if remove then s.destroy id else s
  else
    let cell := Cell.ofPair p
    if s.i_grids (cell.grid_x, cell.grid_y) = none then s
    else
      let s := s.removeFromWorld id
      if remove then s.destroy id else s

/-- Source `Map::Remove(T *, bool)` for a creature. -/
def removeCreature (pos : Position) (remove : Bool) : MapState :=
  let p := computeCellPair pos
  if ¬ p.Inside then s
  else
    let cell := Cell.ofPair p
    if s.i_grids (cell.grid_x, cell.grid_y) ≠ some true then s
    else
      let s := (s.unlink id).removeFromWorld id
      if remove then s.destroy id else s

/-- Source `Map::PlayerRelocation`. -/
def playerRelocation (pos : Position) : MapState := s.relocate id pos

/-- The move goes to another cell as far as `Map::CreatureRelocation` can see. -/
def Delayed (old_cell : Cell) (pos : Position) : Prop :=
  old_cell.DiffCell (cellAt pos) ∨ old_cell.DiffGrid (cellAt pos)
  deriving Decidable

/-- Source `Map::AddCreatureToMoveList`. -/
def addCreatureToMoveList (pos : Position) : MapState :=
  { s with i_creaturesToMove := (id, pos) :: s.i_creaturesToMove.filter (·.1 ≠ id) }

/-- Source `Map::CreatureRelocation`. -/
def creatureRelocation (old_cell : Cell) (pos : Position) : MapState :=
  if Delayed old_cell pos then addCreatureToMoveList s id pos else s.relocate id pos

/-- Relocations, one after the other. -/
def relocateAll (moves : List (Nat × Position)) : MapState := moves.foldl (fun s move => s.relocate move.1 move.2) s

/-- Source `Map::MoveAllCreaturesInMoveList`. -/
def moveAllCreaturesInMoveList : MapState := relocateAll { s with i_creaturesToMove := [] } s.i_creaturesToMove

/-- The position that a movement packet asks for, unless it is too short or the player may not move. -/
def movementOf (v : SessionView) (recv_data : ByteBuffer) : Option Position :=
  match readMovement v recv_data with
  | .ok (some [_, _, pos_x, pos_y, _], _) => some ⟨UInt16.ofNat pos_x, UInt16.ofNat pos_y⟩
  | _ => none

/-- Source `Player::UpdateRelocationToSet`. -/
def updateRelocationToSet (team : List Nat) (pos : Position) : MapState :=
  relocateAll (messageBroadcast table pos s) (team.map (·, pos))

/-- Source `WorldSession::HandleMovementOpcodes`. -/
def handleMovementOpcodes (team : List Nat) (v : SessionView) (recv_data : ByteBuffer) : MapState :=
  match movementOf v recv_data with
  | some pos => updateRelocationToSet table (s.relocate id pos) team pos
  | none => s

end Operations

/-- What happens to a map and its objects. -/
inductive MapEvent where
  /-- An object is made. -/
  | construct (type : ObjectType) (pos : Position)
  /-- An object off the map is put somewhere (source `Player::LoadFromDB`, `Player::TeleportTo`). -/
  | place (id : Nat) (pos : Position)
  /-- The team of a player changes. -/
  | team (id : Nat) (members : List Nat)
  /-- An object is deleted. -/
  | destroy (id : Nat)
  /-- Source `Map::Add`. -/
  | add (id : Nat)
  /-- Source `Map::Remove`. -/
  | remove (id : Nat) (remove : Bool)
  | playerRelocation (id : Nat) (pos : Position)
  | creatureRelocation (id : Nat) (pos : Position)
  | moveAllCreaturesInMoveList
  /-- A movement packet of a player. -/
  | movement (id : Nat) (v : SessionView) (recv_data : ByteBuffer)

/-- An event on an object that there is. A creature to be moved or a member of a team that was deleted is a dangling
pointer, from which no step is defined. -/
def step (table : List CreatureData) (s : MapState) : MapEvent → Option MapState
  | .construct type pos => some (s.construct type pos)
  | .place id pos => (s.objects id).bind fun o => if o.m_inWorld then none else some (s.relocate id pos)
  | .team id members => (s.objects id).map fun _ => s.modify id fun o => { o with m_team := members }
  | .destroy id => (s.objects id).map fun _ => s.destroy id
  | .add id => (s.objects id).map fun o =>
    match o.type with
    | .player => addPlayer table s id o.position
    | .creature isPet => addCreature s id isPet o.position
  | .remove id remove => (s.objects id).map fun o =>
    match o.type with
    | .player => removePlayer s id o.position remove
    | .creature _ => removeCreature s id o.position remove
  | .playerRelocation id pos => (s.objects id).bind fun o =>
    if o.type = .player then some (playerRelocation s id pos) else none
  | .creatureRelocation id pos => (s.objects id).bind fun o =>
    if o.type = .player then none else some (creatureRelocation s id o.m_currentCell pos)
  | .moveAllCreaturesInMoveList =>
    if ∀ move ∈ s.i_creaturesToMove, (s.objects move.1).isSome then some (moveAllCreaturesInMoveList s) else none
  | .movement id v recv_data => (s.objects id).bind fun o =>
    if o.type = .player ∧ ∀ m ∈ o.m_team, (s.objects m).isSome then
      some (handleMovementOpcodes table s id o.m_team v recv_data)
    else none

section CellChange

variable {c d : Cell} {old_pos pos : Position}

/-- A grid has one cell, so the cell of a position is that grid. -/
lemma ofPair_eq (p : CellPair) : Cell.ofPair p = ⟨p.x_coord, p.y_coord, 0, 0⟩ := by
  simp only [Cell.ofPair, MAX_NUMBER_OF_CELLS, Nat.div_one, Nat.mod_one]

/-- The two comparisons take a cell for another unless its column is both the column and the row of the other. -/
lemma not_diff_iff : ¬c.DiffCell d ∧ ¬c.DiffGrid d ↔
    c.cell_x = d.cell_x ∧ c.cell_y = d.cell_y ∧ c.grid_x = d.grid_x ∧ c.grid_x = d.grid_y := by
  simp only [Cell.DiffCell, Cell.DiffGrid, not_or, not_not, and_assoc]

/-- The comparisons find a difference exactly when there is one, on the cells that agree in what is compared
with the right field only as far as their columns tell their rows. -/
lemma not_diff_iff_eq : (¬c.DiffCell d ∧ ¬c.DiffGrid d ↔ c = d) ↔
    (c.cell_x = d.cell_x → c.cell_y = d.cell_y → c.grid_x = d.grid_x →
      (c.grid_x = d.grid_y ↔ c.grid_y = d.grid_y)) := by
  obtain ⟨gx, gy, cx, cy⟩ := c
  rw [not_diff_iff, Cell.mk.injEq]
  constructor
  · rintro found rfl rfl rfl
    exact ⟨fun row => (found.mp ⟨rfl, rfl, rfl, row⟩).2.1, fun row => (found.mpr ⟨rfl, row, rfl, rfl⟩).2.2.2⟩
  · intro rows
    constructor
    · rintro ⟨rfl, rfl, rfl, row⟩
      exact ⟨rfl, (rows rfl rfl rfl).mp row, rfl, rfl⟩
    · rintro ⟨rfl, row, rfl, rfl⟩
      exact ⟨rfl, rfl, rfl, (rows rfl rfl rfl).mpr row⟩

/-- A move of a creature is delayed exactly when it changes the cell, and made in place otherwise. -/
def DetectsCellChange (old_pos pos : Position) : Prop :=
  (Delayed (cellAt old_pos) pos ↔ computeCellPair old_pos ≠ computeCellPair pos) ∧
    (¬(cellAt old_pos).DiffCell (cellAt pos) ∧ ¬(cellAt old_pos).DiffGrid (cellAt pos) ↔
      cellAt old_pos = cellAt pos) ∧
    ∀ s id, creatureRelocation s id (cellAt old_pos) pos =
      if computeCellPair old_pos = computeCellPair pos then s.relocate id pos else addCreatureToMoveList s id pos

/-- Positions in the same cell. -/
lemma cellAt_eq_iff : cellAt old_pos = cellAt pos ↔ computeCellPair old_pos = computeCellPair pos := by
  rw [cellAt, cellAt, ofPair_eq, ofPair_eq, Cell.mk.injEq, CellPair.mk.injEq]
  simp only [and_true]

/-- What the two comparisons say decides the rest. -/
lemma detectsCellChange_iff : DetectsCellChange old_pos pos ↔
    (¬(cellAt old_pos).DiffCell (cellAt pos) ∧ ¬(cellAt old_pos).DiffGrid (cellAt pos) ↔
      cellAt old_pos = cellAt pos) := by
  refine ⟨fun detects => detects.2.1, fun found => ?_⟩
  have delayed : Delayed (cellAt old_pos) pos ↔ computeCellPair old_pos ≠ computeCellPair pos := by
    rw [Delayed, ← not_iff_not, not_or, found, cellAt_eq_iff, not_not]
  refine ⟨delayed, found, fun s id => ?_⟩
  rw [creatureRelocation]
  by_cases same : computeCellPair old_pos = computeCellPair pos
  · rw [if_pos same, if_neg fun late => delayed.mp late same]
  · rw [if_neg same, if_pos (delayed.mpr same)]

end CellChange

/-- A change of cell is found exactly as far as positions in one column of cells have their new row equal to the
column just when it is their old row; the same holds of any two cells. -/
theorem detectsCellChange (old_pos pos : Position) (c d : Cell) :
    (DetectsCellChange old_pos pos ↔
      ((computeCellPair old_pos).x_coord = (computeCellPair pos).x_coord →
        ((computeCellPair old_pos).x_coord = (computeCellPair pos).y_coord ↔
          (computeCellPair old_pos).y_coord = (computeCellPair pos).y_coord))) ∧
    ((¬c.DiffCell d ∧ ¬c.DiffGrid d ↔ c = d) ↔
      (c.cell_x = d.cell_x → c.cell_y = d.cell_y → c.grid_x = d.grid_x →
        (c.grid_x = d.grid_y ↔ c.grid_y = d.grid_y))) := by
  refine ⟨?_, not_diff_iff_eq⟩
  rw [detectsCellChange_iff, not_diff_iff_eq, cellAt, cellAt, ofPair_eq, ofPair_eq]
  exact ⟨fun rows => rows rfl rfl, fun rows _ _ => rows⟩

/-- A move inside the cell ⟨2, 1⟩ is delayed, and one from it to ⟨2, 2⟩ is not. -/
theorem cell_change_missed :
    ¬DetectsCellChange ⟨12000, 6000⟩ ⟨12100, 6000⟩ ∧ ¬DetectsCellChange ⟨12000, 6000⟩ ⟨12000, 12000⟩ ∧
      Delayed (cellAt ⟨12000, 6000⟩) ⟨12100, 6000⟩ ∧ cellAt ⟨12000, 6000⟩ = cellAt ⟨12100, 6000⟩ ∧
      ¬Delayed (cellAt ⟨12000, 6000⟩) ⟨12000, 12000⟩ ∧ cellAt ⟨12000, 6000⟩ ≠ cellAt ⟨12000, 12000⟩ := by
  refine ⟨fun detects => ?_, fun detects => ?_, by decide, by decide, by decide, by decide⟩
  · exact absurd (detects.1.mp (by decide)) (by decide)
  · exact absurd (detects.1.mpr (by decide)) (by decide)

end Legacy.Map
