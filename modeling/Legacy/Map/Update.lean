import Mathlib.Data.List.Nodup
import Legacy.Map.Cells

/-!
# The cells that an update visits

`ObjectAccessor::Update` walks the cells around every player and updates the objects of each cell that is not
marked yet. The walk is written with the operators of `CellPair`, of which both shifts add, so it begins and ends
in the column right of the player. `updateAround` is the walk for one player, `update` that for all players of a
map.
-/

namespace Legacy.Map

/-- The marks of the map, and the cells visited so far. -/
structure UpdateState where
  marked_cells : Nat → Bool
  visited : List CellPair

namespace UpdateState

variable (s : UpdateState)

/-- source `Map::isCellMarked` -/
def isCellMarked (pCellId : Nat) : Bool := s.marked_cells pCellId

/-- source `Map::markCell` -/
def markCell (pCellId : Nat) : UpdateState :=
  { s with marked_cells := fun id => if id = pCellId then true else s.marked_cells id }

/-- Source `Map::resetMarkedCells`. -/
def resetMarkedCells : UpdateState := { s with marked_cells := fun _ => false }

/-- The body of the inner loop, where the cell is visited alone (`CENTER_DISTRICT`). -/
def updateCell (cell_iter : CellPair) : UpdateState :=
  if s.isCellMarked cell_iter.cellId then s
  else
    let s := s.markCell cell_iter.cellId
    { s with visited := s.visited ++ [cell_iter] }

end UpdateState

section Loops

variable (standing_cell : CellPair)

/-- The inner loop. It may run for ever, so it has a bound on its rounds. -/
def updateColumn : Nat → CellPair → UpdateState → Option UpdateState
  | 0, _, _ => none
  | n + 1, cell_iter, s =>
    if ((standing_cell.y_coord : Int) - cell_iter.y_coord).natAbs < 2 then
      let s := s.updateCell cell_iter
      if cell_iter.y_coord = TOTAL_NUMBER_OF_CELLS_PER_MAP then some s
      else updateColumn n (cell_iter.addAssign 1) s
    else some s

/-- The outer loop, with `rounds` for each column. -/
def updateColumns (rounds : Nat) : Nat → CellPair → UpdateState → Option UpdateState
  | 0, _, _ => none
  | n + 1, update_cell, s =>
    if ((standing_cell.x_coord : Int) - update_cell.x_coord).natAbs < 2 then
      (updateColumn standing_cell rounds update_cell s).bind fun s =>
        if update_cell.x_coord = TOTAL_NUMBER_OF_CELLS_PER_MAP then some s
        else updateColumns rounds n (update_cell.shiftRight 1) s
    else some s

end Loops

/-- The walk around one player. -/
def updateAround (rounds : Nat) (pos : Position) (s : UpdateState) : Option UpdateState :=
  let standing_cell := computeCellPair pos
  if standing_cell.x_coord ≥ TOTAL_NUMBER_OF_CELLS_PER_MAP ∨ standing_cell.y_coord ≥ TOTAL_NUMBER_OF_CELLS_PER_MAP then
    some s
  else updateColumns standing_cell rounds rounds ((standing_cell.shiftLeft 1).subAssign 1) s

/-- Source `ObjectAccessor::Update` on one map, with the players in the order of its table. -/
def update (rounds : Nat) (players : List Position) (s : UpdateState) : Option UpdateState :=
  players.foldlM (fun s pos => updateAround rounds pos s) s.resetMarkedCells

/-- The cells around a cell, as far as the map has them. -/
def InBlock (standing_cell c : CellPair) : Prop :=
  c.Inside ∧ ((standing_cell.x_coord : Int) - c.x_coord).natAbs < 2 ∧
    ((standing_cell.y_coord : Int) - c.y_coord).natAbs < 2
  deriving Decidable

section Cell

variable {s : UpdateState} {c d : CellPair} {cells : List CellPair}

/-- After an update its cell is marked. -/
lemma isCellMarked_updateCell (id : Nat) :
    (s.updateCell c).isCellMarked id = (decide (id = c.cellId) || s.isCellMarked id) := by
  rw [UpdateState.updateCell]
  split_ifs with marked
  · by_cases eq : id = c.cellId
    · rw [eq, marked, Bool.or_true]
    · rw [decide_eq_false eq, Bool.false_or]
  · by_cases eq : id = c.cellId
    · simp [UpdateState.isCellMarked, UpdateState.markCell, eq]
    · simp [UpdateState.isCellMarked, UpdateState.markCell, eq]

/-- The mark of a cell says nothing about another cell of the map. -/
lemma isCellMarked_updateCell_of_ne (hc : c.Inside) (hd : d.Inside) (ne : d ≠ c) :
    (s.updateCell c).isCellMarked d.cellId = s.isCellMarked d.cellId := by
  have ids : ¬d.cellId = c.cellId := fun eq => ne (CellPair.cellId_inj hd hc eq)
  rw [isCellMarked_updateCell, decide_eq_false ids, Bool.false_or]

/-- An update visits its cell, unless it is marked. -/
lemma visited_updateCell :
    (s.updateCell c).visited = s.visited ++ [c].filter fun c => !s.isCellMarked c.cellId := by
  rw [UpdateState.updateCell]
  split_ifs with marked
  · simp [marked]
  · simp [marked, UpdateState.markCell]

/-- A walk over different cells visits those that were not marked. -/
lemma visited_foldl (distinct : cells.Nodup) (inside : ∀ c ∈ cells, c.Inside) :
    (cells.foldl UpdateState.updateCell s).visited =
      s.visited ++ cells.filter fun c => !s.isCellMarked c.cellId := by
  induction cells generalizing s with
  | nil => simp
  | cons c cells ih =>
    obtain ⟨fresh, distinct⟩ := List.nodup_cons.mp distinct
    have same : cells.filter (fun d => !(s.updateCell c).isCellMarked d.cellId) =
        cells.filter fun d => !s.isCellMarked d.cellId := by
      refine List.filter_congr fun d mem => ?_
      have ne : d ≠ c := fun eq => fresh (eq ▸ mem)
      rw [isCellMarked_updateCell_of_ne (inside c List.mem_cons_self) (inside d (List.mem_cons_of_mem c mem)) ne]
    rw [List.foldl_cons, ih distinct fun d mem => inside d (List.mem_cons_of_mem c mem), same, visited_updateCell,
      List.append_assoc, ← List.filter_append, List.singleton_append]

/-- A cell is visited if it was before, or is in the walk and was not marked. -/
lemma mem_visited_foldl (inside : ∀ c ∈ cells, c.Inside) :
    d ∈ (cells.foldl UpdateState.updateCell s).visited ↔
      d ∈ s.visited ∨ d ∈ cells ∧ s.isCellMarked d.cellId = false := by
  induction cells generalizing s with
  | nil => simp
  | cons c cells ih =>
    have rest : ∀ d ∈ cells, d.Inside := fun d mem => inside d (List.mem_cons_of_mem c mem)
    rw [List.foldl_cons, ih rest, visited_updateCell]
    by_cases eq : d = c
    · subst d
      simp [isCellMarked_updateCell]
    · by_cases mem : d ∈ cells
      · rw [isCellMarked_updateCell_of_ne (inside c List.mem_cons_self) (rest d mem) eq]
        simp [eq]
      · simp [eq, mem]

/-- No cell is visited twice, as long as the visited ones are marked. -/
lemma nodup_visited_foldl (once : s.visited.Nodup) (marked : ∀ c ∈ s.visited, s.isCellMarked c.cellId = true) :
    (cells.foldl UpdateState.updateCell s).visited.Nodup := by
  induction cells generalizing s with
  | nil => exact once
  | cons c cells ih =>
    rw [List.foldl_cons]
    by_cases fresh : s.isCellMarked c.cellId = true
    · rw [UpdateState.updateCell, if_pos fresh]
      exact ih once marked
    · have visited : (s.updateCell c).visited = s.visited ++ [c] := by
        rw [visited_updateCell]
        simp [fresh]
      refine ih ?_ fun d mem => ?_
      · rw [visited, List.nodup_append]
        refine ⟨once, List.nodup_singleton c, fun d mem c' mem' eq => fresh ?_⟩
        obtain rfl := List.mem_singleton.mp mem'
        exact eq ▸ marked d mem
      · rw [visited] at mem
        rw [isCellMarked_updateCell]
        obtain before | now := List.mem_append.mp mem
        · rw [marked d before, Bool.or_true]
        · rw [List.mem_singleton.mp now, decide_eq_true rfl, Bool.true_or]

end Cell

section Walk

variable {standing_cell p : CellPair} {n rounds : Nat} {s : UpdateState} {pos : Position}

/-- The cells of the column of `cell_iter`, down to the row below the standing cell. -/
def column (standing_cell cell_iter : CellPair) : List CellPair :=
  (List.range' cell_iter.y_coord (standing_cell.y_coord + 2 - cell_iter.y_coord)).map fun y => ⟨cell_iter.x_coord, y⟩

/-- Away from the border the inner loop visits the rest of its column, and one more test ends it. -/
lemma updateColumn_eq (border : standing_cell.y_coord + 2 < TOTAL_NUMBER_OF_CELLS_PER_MAP)
    (above : standing_cell.y_coord ≤ p.y_coord + 1) (below : p.y_coord ≤ standing_cell.y_coord + 2)
    (enough : standing_cell.y_coord + 2 - p.y_coord < n) :
    updateColumn standing_cell n p s = some ((column standing_cell p).foldl UpdateState.updateCell s) := by
  induction n generalizing p s with
  | zero => omega
  | succ n ih =>
    rw [updateColumn]
    by_cases last : p.y_coord = standing_cell.y_coord + 2
    · have far : ¬((standing_cell.y_coord : Int) - p.y_coord).natAbs < 2 := by omega
      have none_left : standing_cell.y_coord + 2 - p.y_coord = 0 := by omega
      rw [if_neg far, column, none_left]
      rfl
    · have near : ((standing_cell.y_coord : Int) - p.y_coord).natAbs < 2 := by omega
      have on : ¬p.y_coord = TOTAL_NUMBER_OF_CELLS_PER_MAP := by omega
      have next : p.addAssign 1 = ⟨p.x_coord, p.y_coord + 1⟩ := by
        rw [CellPair.addAssign, if_pos (by omega)]
      have left : standing_cell.y_coord + 2 - p.y_coord = standing_cell.y_coord + 2 - (p.y_coord + 1) + 1 := by omega
      rw [if_pos near, if_neg on, next, ih (by simp only; omega) (by simp only; omega) (by simp only; omega), column,
        column, left, List.range'_succ]
      rfl

/-- The cells that the walk around a player comes to. -/
def rightColumn (standing_cell : CellPair) : List CellPair :=
  column standing_cell ⟨standing_cell.x_coord + 1, standing_cell.y_coord - 1⟩

/-- The column to the right, by its coordinates. -/
lemma mem_rightColumn {c : CellPair} :
    c ∈ rightColumn p ↔ c.x_coord = p.x_coord + 1 ∧ ((p.y_coord : Int) - c.y_coord).natAbs < 2 := by
  obtain ⟨x, y⟩ := c
  simp only [rightColumn, column, List.mem_map, List.mem_range'_1, CellPair.mk.injEq]
  constructor
  · rintro ⟨row, range, rfl, rfl⟩
    exact ⟨rfl, by omega⟩
  · rintro ⟨rfl, near⟩
    exact ⟨y, by omega, rfl, rfl⟩

/-- The cells of the column to the right are different. -/
lemma nodup_rightColumn : (rightColumn p).Nodup := by
  refine List.Nodup.map (fun y y' eq => ?_) List.nodup_range'
  exact (CellPair.mk.inj eq).2

/-- A position is far from the border at the end of the map. -/
lemma computeCellPair_le (pos : Position) :
    (computeCellPair pos).x_coord ≤ 13 ∧ (computeCellPair pos).y_coord ≤ 13 := by
  have x := pos.x.toNat_lt
  have y := pos.y.toNat_lt
  rw [computeCellPair_eq]
  constructor <;> simp only <;> omega

/-- The walk around a player begins in the column right of him and ends with it. -/
lemma updateAround_eq (enough : 4 ≤ rounds) :
    updateAround rounds pos s = some ((rightColumn (computeCellPair pos)).foldl UpdateState.updateCell s) := by
  obtain ⟨x, y⟩ := computeCellPair_le pos
  have inside := inside_computeCellPair pos
  rw [updateAround]
  generalize computeCellPair pos = p at x y inside ⊢
  have total : TOTAL_NUMBER_OF_CELLS_PER_MAP = 64 := rfl
  have start : (p.shiftLeft 1).subAssign 1 = ⟨p.x_coord + 1, p.y_coord - 1⟩ := by
    rw [CellPair.shiftLeft, if_pos (by omega), CellPair.subAssign]
    split_ifs with positive
    · rfl
    · rw [CellPair.mk.injEq]
      exact ⟨rfl, by simp only at positive ⊢; omega⟩
  obtain ⟨n, rfl⟩ : ∃ n, rounds = n + 2 := ⟨rounds - 2, by omega⟩
  -- the walk begins right of the player, so the second column is out of reach already
  have first : ((p.x_coord : Int) - (p.x_coord + 1 : Nat)).natAbs < 2 := by omega
  have second : ¬((p.x_coord : Int) - (p.x_coord + 2 : Nat)).natAbs < 2 := by omega
  have next : (⟨p.x_coord + 1, p.y_coord - 1⟩ : CellPair).shiftRight 1 = ⟨p.x_coord + 2, p.y_coord - 1⟩ := by
    rw [CellPair.shiftRight, if_pos (by simp only; omega)]
  have on : ¬p.x_coord + 1 = TOTAL_NUMBER_OF_CELLS_PER_MAP := by omega
  rw [if_neg (by omega), start, updateColumns, if_pos first,
    updateColumn_eq (by omega) (by simp only; omega) (by simp only; omega) (by simp only; omega), Option.bind_some,
    if_neg on, next, updateColumns, if_neg second]
  rfl

/-- The cells of the column to the right are on the map. -/
lemma inside_rightColumn {c : CellPair} (mem : c ∈ rightColumn (computeCellPair pos)) : c.Inside := by
  obtain ⟨x, y⟩ := computeCellPair_le pos
  obtain ⟨col, row⟩ := mem_rightColumn.mp mem
  have total : TOTAL_NUMBER_OF_CELLS_PER_MAP = 64 := rfl
  exact ⟨by omega, by omega⟩

/-- The updates around all players update the columns to their right. -/
lemma foldlM_updateAround (enough : 4 ≤ rounds) (players : List Position) :
    players.foldlM (fun s pos => updateAround rounds pos s) s =
      some ((players.flatMap fun pos => rightColumn (computeCellPair pos)).foldl UpdateState.updateCell s) := by
  induction players generalizing s with
  | nil => rfl
  | cons pos players ih =>
    rw [List.foldlM_cons, updateAround_eq enough, List.flatMap_cons, List.foldl_append, ← ih]
    rfl

/-- An update ends. It visits the cells of the columns right of the players, each once, and no other cell. -/
theorem update_visits (enough : 4 ≤ rounds) (players : List Position) (none_before : s.visited = []) :
    ∃ s', update rounds players s = some s' ∧ s'.visited.Nodup ∧
      ∀ c, c ∈ s'.visited ↔ ∃ pos ∈ players, c ∈ rightColumn (computeCellPair pos) := by
  have fresh : s.resetMarkedCells.visited = [] := none_before
  refine ⟨_, foldlM_updateAround enough players, nodup_visited_foldl ?_ fun c mem => ?_, fun c => ?_⟩
  · rw [fresh]
    exact List.nodup_nil
  · rw [fresh] at mem
    cases mem
  · rw [mem_visited_foldl, fresh, List.mem_flatMap]
    · simp [UpdateState.isCellMarked, UpdateState.resetMarkedCells]
    · intro c mem
      obtain ⟨pos, -, mem⟩ := List.mem_flatMap.mp mem
      exact inside_rightColumn mem

end Walk

/-- The walk around a player ends, and visits the cells of the block around him that are not marked yet, each
once. -/
def VisitsBlock (pos : Position) (s : UpdateState) : Prop :=
  ∃ enough, ∀ rounds ≥ enough, ∃ s' cells, updateAround rounds pos s = some s' ∧ s'.visited = s.visited ++ cells ∧
    cells.Nodup ∧ ∀ c, c ∈ cells ↔ InBlock (computeCellPair pos) c ∧ s.isCellMarked c.cellId = false

section Block

variable {pos : Position} {s : UpdateState}

/-- The walk visits the unmarked cells of the column right of the player. -/
lemma visited_updateAround (pos : Position) (s : UpdateState) {rounds : Nat} (enough : 4 ≤ rounds) :
    ∃ s', updateAround rounds pos s = some s' ∧ s'.visited =
      s.visited ++ (rightColumn (computeCellPair pos)).filter fun c => !s.isCellMarked c.cellId :=
  ⟨_, updateAround_eq enough, visited_foldl nodup_rightColumn fun _ => inside_rightColumn⟩

/-- The column right of a player is in the block around him. -/
lemma inBlock_of_rightColumn {c : CellPair} (mem : c ∈ rightColumn (computeCellPair pos)) :
    InBlock (computeCellPair pos) c := by
  obtain ⟨col, row⟩ := mem_rightColumn.mp mem
  exact ⟨inside_rightColumn mem, by omega, row⟩

/-- The block is visited if what is not right of the player was visited for another one. -/
lemma visitsBlock_of_marked
    (marked : ∀ c, InBlock (computeCellPair pos) c → c.x_coord ≠ (computeCellPair pos).x_coord + 1 →
      s.isCellMarked c.cellId = true) : VisitsBlock pos s := by
  refine ⟨4, fun rounds enough => ?_⟩
  obtain ⟨s', run, visited⟩ := visited_updateAround pos s enough
  refine ⟨s', _, run, visited, nodup_rightColumn.filter _, fun c => ?_⟩
  rw [List.mem_filter, Bool.not_eq_true']
  constructor
  · rintro ⟨mem, unmarked⟩
    exact ⟨inBlock_of_rightColumn mem, unmarked⟩
  · rintro ⟨block, unmarked⟩
    refine ⟨mem_rightColumn.mpr ⟨?_, block.2.2⟩, unmarked⟩
    by_contra other
    rw [marked c block other] at unmarked
    cases unmarked

/-- What the walk visits is right of the player. -/
lemma marked_of_visitsBlock (visits : VisitsBlock pos s) {c : CellPair} (block : InBlock (computeCellPair pos) c)
    (other : c.x_coord ≠ (computeCellPair pos).x_coord + 1) : s.isCellMarked c.cellId = true := by
  obtain ⟨enough, visits⟩ := visits
  obtain ⟨s', cells, run, eq, -, mem⟩ := visits (enough + 4) (Nat.le_add_right _ _)
  obtain ⟨s'', run', visited⟩ := visited_updateAround pos s (Nat.le_add_left 4 enough)
  obtain rfl := Option.some.inj (run.symm.trans run')
  obtain rfl := List.append_cancel_left (eq.symm.trans visited)
  by_contra unmarked
  have visited := (mem c).mpr ⟨block, Bool.eq_false_iff.mpr unmarked⟩
  exact other (mem_rightColumn.mp (List.mem_filter.mp visited).1).1

/-- A player's own cell is in the block, and not right of him. -/
lemma inBlock_own : InBlock (computeCellPair pos) (computeCellPair pos) :=
  ⟨inside_computeCellPair pos, by omega, by omega⟩

end Block

/-- The block around a player is visited exactly when all of it but the column right of him was visited for
players before; for the first player of a map it never is. -/
theorem visitsBlock_iff (pos : Position) (s : UpdateState) :
    (VisitsBlock pos s ↔ ∀ c, InBlock (computeCellPair pos) c → c.x_coord ≠ (computeCellPair pos).x_coord + 1 →
      s.isCellMarked c.cellId = true) ∧ ¬VisitsBlock pos s.resetMarkedCells := by
  refine ⟨⟨fun visits c => marked_of_visitsBlock visits, visitsBlock_of_marked⟩, fun visits => ?_⟩
  have own := marked_of_visitsBlock visits inBlock_own (by omega)
  cases own

/-- A player in the middle of the map: his own cell is not visited. -/
theorem own_cell_not_visited :
    ¬VisitsBlock ⟨7000, 7000⟩ ⟨fun _ => false, []⟩ ∧
      ((updateAround 4 ⟨7000, 7000⟩ ⟨fun _ => false, []⟩).map UpdateState.visited) = some [⟨2, 0⟩, ⟨2, 1⟩, ⟨2, 2⟩] ∧
      computeCellPair ⟨7000, 7000⟩ = ⟨1, 1⟩ := by
  refine ⟨fun visits => ?_, by decide, by decide⟩
  have own := marked_of_visitsBlock visits inBlock_own (by omega)
  cases own

end Legacy.Map
