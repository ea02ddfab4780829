import Legacy.Lib.Reach
import Legacy.Lib.Table
import Legacy.Map.Grid

/-!
# Where the objects of a map are registered

Neighbours are found through the lists of the cells, so that an object has to be linked in the cell of its position.
Adding an object links it there, but `WorldObject::Relocate` leaves the link as it is, and nothing links an object
anew that has moved. `registered_of_reaches` says that the lists are right in every run whose relocations stay
inside a cell.
-/

namespace Legacy.Map
open Legacy.Lib Legacy.Wire

/-- Every object on the map is registered once, in the cell of its position and in no other. -/
def Registered (s : MapState) : Prop :=
  ∀ id o, s.objects id = some o → o.m_inWorld = true →
    ∀ cell, (s.lists cell).count id = if cell = cellAt o.position then 1 else 0

/-- The position is in the cell that the object is in, if the object is on the map. -/
def Stays (s : MapState) (id : Nat) (pos : Position) : Prop :=
  ∀ o ∈ s.objects id, o.m_inWorld = true → computeCellPair pos = computeCellPair o.position
  deriving Decidable

/-- No object is moved out of its cell, and no pet is added. -/
def Keeps (s : MapState) : MapEvent → Prop
  | .add id => ∀ o ∈ s.objects id, o.type ≠ .creature true
  | .playerRelocation id pos => Stays s id pos
  | .creatureRelocation id pos => ∀ o ∈ s.objects id, Delayed o.m_currentCell pos ∨ Stays s id pos
  | .moveAllCreaturesInMoveList => ∀ move ∈ s.i_creaturesToMove, Stays s move.1 move.2
  | .movement id v recv_data => ∀ o ∈ s.objects id, ∀ pos ∈ movementOf v recv_data, ∀ m ∈ id :: o.m_team, Stays s m pos
  | _ => True

instance (s : MapState) : DecidablePred (Keeps s)
  | .construct .. => inferInstanceAs (Decidable True)
  | .place .. => inferInstanceAs (Decidable True)
  | .team .. => inferInstanceAs (Decidable True)
  | .destroy _ => inferInstanceAs (Decidable True)
  | .add id => inferInstanceAs (Decidable (∀ o ∈ s.objects id, o.type ≠ .creature true))
  | .remove .. => inferInstanceAs (Decidable True)
  | .playerRelocation id pos => inferInstanceAs (Decidable (Stays s id pos))
  | .creatureRelocation id pos =>
    inferInstanceAs (Decidable (∀ o ∈ s.objects id, Delayed o.m_currentCell pos ∨ Stays s id pos))
  | .moveAllCreaturesInMoveList =>
    inferInstanceAs (Decidable (∀ move ∈ s.i_creaturesToMove, Stays s move.1 move.2))
  | .movement id v recv_data => inferInstanceAs
    (Decidable (∀ o ∈ s.objects id, ∀ pos ∈ movementOf v recv_data, ∀ m ∈ id :: o.m_team, Stays s m pos))

/-- The lists agree with the links of the objects, and no object has a number that was not given yet. -/
structure Indexed (s : MapState) : Prop where
  linked : Linked s.lists s.home
  fresh : ∀ id, s.created ≤ id → s.objects id = none

/-- Every object on the map is linked in the cell of its position. -/
def Placed (s : MapState) : Prop :=
  ∀ id o, s.objects id = some o → o.m_inWorld = true → o.gridRef = some (cellAt o.position)

section Indexes

variable {s s' : MapState} {id : Nat} {o : MapObject}

/-- The home of an object is its link. -/
lemma home_of_objects (there : s.objects id = some o) : s.home id = o.gridRef := by
  rw [MapState.home, there, Option.bind_some]

/-- Where one object changes, no other home does. -/
lemma home_of_update {new : Option MapObject} (e : s'.objects = Function.update s.objects id new) :
    s'.home = Function.update s.home id (new.bind MapObject.gridRef) := by
  funext k
  rw [MapState.home, e]
  rcases eq_or_ne k id with rfl | ne
  · rw [Function.update_self, Function.update_self]
  · rw [Function.update_of_ne ne, Function.update_of_ne ne, MapState.home]

/-- The lists are right where the links are. -/
lemma Indexed.registered_iff (indexed : Indexed s) : Registered s ↔ Placed s := by
  constructor
  · intro registered id o there inWorld
    have once := registered id o there inWorld (cellAt o.position)
    rw [if_pos rfl, indexed.linked, home_of_objects there] at once
    by_contra other
    rw [if_neg other] at once
    cases once
  · intro placed id o there inWorld cell
    rw [indexed.linked, home_of_objects there, placed id o there inWorld]
    exact if_congr (Option.some_inj.trans eq_comm) rfl rfl

/-- An object that is there was given its number. -/
lemma Indexed.lt_created (indexed : Indexed s) (there : s.objects id = some o) : id < s.created := by
  by_contra ge
  have absent := indexed.fresh id (Nat.le_of_not_lt ge)
  rw [there] at absent
  cases absent

/-- A change of one object that is there, or is gone or made by it, together with its link. -/
lemma Indexed.of_update {new : Option MapObject} (indexed : Indexed s)
    (objects : s'.objects = Function.update s.objects id new) (le : s.created ≤ s'.created)
    (known : new = none ∨ id < s'.created)
    (linked : Linked s'.lists (Function.update s.home id (new.bind MapObject.gridRef))) : Indexed s' where
  linked := by
    rw [home_of_update objects]
    exact linked
  fresh := by
    intro k out
    rw [objects]
    rcases eq_or_ne k id with rfl | ne
    · rw [Function.update_self]
      exact known.resolve_right (Nat.not_lt.mpr out)
    · rw [Function.update_of_ne ne]
      exact indexed.fresh k (Nat.le_trans le out)

/-- An object that is changed is there, or nothing is changed. -/
lemma Indexed.known_map (indexed : Indexed s) (id : Nat) {f : MapObject → MapObject} :
    (s.objects id).map f = none ∨ id < s.created := by
  cases there : s.objects id with
  | none => exact .inl rfl
  | some o => exact .inr (indexed.lt_created there)

/-- A change of an object that keeps its link. -/
lemma Indexed.modify (indexed : Indexed s) (id : Nat) {f : MapObject → MapObject}
    (link : ∀ o, (f o).gridRef = o.gridRef) : Indexed (s.modify id f) := by
  apply indexed.of_update (s.objects_modify id f) (Nat.le_refl _) (indexed.known_map id)
  have home : ((s.objects id).map f).bind MapObject.gridRef = s.home id := by
    rw [MapState.home]
    cases s.objects id with
    | none => rfl
    | some o => exact link o
  rw [home, Function.update_eq_self]
  exact indexed.linked

/-- Unlinking keeps lists and links in step. -/
lemma Indexed.unlink (indexed : Indexed s) (id : Nat) : Indexed (s.unlink id) := by
  apply indexed.of_update (s.objects_unlink id) (Nat.le_refl _) (indexed.known_map id)
  have home : ((s.objects id).map fun o => { o with gridRef := none }).bind MapObject.gridRef = none := by
    cases s.objects id with
    | none => rfl
    | some o => rfl
  rw [home]
  exact indexed.linked.delink id

/-- Linking keeps lists and links in step. -/
lemma Indexed.link (indexed : Indexed s) (there : s.objects id = some o) (cell : Cell) :
    Indexed (s.link id cell) := by
  apply indexed.of_update (s.objects_link id cell) (Nat.le_refl _) (indexed.known_map id)
  rw [there, Option.map_some, Option.bind_some]
  have linked := (indexed.linked.delink id).insertFirst (Function.update_self ..) cell
  rw [Function.update_idem] at linked
  exact linked

/-- A creature enters the map. -/
lemma Indexed.enter (indexed : Indexed s) (there : s.objects id = some o) (cell current : Cell) :
    Indexed (((s.link id cell).setCurrentCell id current).addToWorld id) := by
  have set : Indexed ((s.link id cell).setCurrentCell id current) := (indexed.link there cell).modify id fun _ => rfl
  exact set.modify id fun _ => rfl

/-- An object that enters a cell is linked there and in the world. -/
lemma objects_enter (there : s.objects id = some o) (cell current : Cell) :
    (((s.link id cell).setCurrentCell id current).addToWorld id).objects = Function.update s.objects id
      (some { o with m_inWorld := true, gridRef := some cell, m_currentCell := current }) := by
  simp only [MapState.addToWorld, MapState.setCurrentCell, MapState.objects_modify, MapState.objects_link, there,
    Function.update_self, Function.update_idem, Option.map_some]

/-- A new object keeps lists and links in step. -/
lemma Indexed.construct (indexed : Indexed s) (type : ObjectType) (pos : Position) :
    Indexed (s.construct type pos) := by
  apply indexed.of_update (s.objects_construct type pos) (Nat.le_succ _) (.inr (Nat.lt_succ_self _))
  have home : s.home s.created = none := by
    rw [MapState.home, indexed.fresh _ (Nat.le_refl _), Option.bind_none]
  rw [Option.bind_some, ← home, Function.update_eq_self]
  exact indexed.linked

/-- A destroyed object keeps lists and links in step. -/
lemma Indexed.destroy (indexed : Indexed s) (id : Nat) : Indexed (s.destroy id) := by
  apply indexed.of_update (s.objects_destroy id) (Nat.le_refl _) (.inl rfl)
  exact indexed.linked.delink id

/-- The empty map has lists and links in step. -/
lemma indexed_empty : Indexed MapState.empty := ⟨linked_empty, fun _ _ => rfl⟩

end Indexes

section Relocations

variable {s s' : MapState} {id m : Nat} {pos pos' : Position}

/-- A change of one object that is linked in its cell after it, if it is on the map. -/
lemma Placed.of_update {new : Option MapObject} (placed : Placed s)
    (objects : s'.objects = Function.update s.objects id new)
    (here : ∀ o, new = some o → o.m_inWorld = true → o.gridRef = some (cellAt o.position)) : Placed s' := by
  intro k o there inWorld
  rw [objects] at there
  obtain ⟨-, new⟩ | ⟨-, old⟩ := update_eq_some.mp there
  · exact here o new inWorld
  · exact placed k o old inWorld

/-- The lists agree with the links, and the links with the positions. -/
structure Filed (s : MapState) : Prop where
  indexed : Indexed s
  placed : Placed s

/-- The empty map has every object in its cell. -/
lemma filed_empty : Filed MapState.empty := ⟨indexed_empty, fun _ _ there => by cases there⟩

/-- A move inside a cell. -/
lemma Filed.relocate (filed : Filed s) (stays : Stays s id pos) : Filed (s.relocate id pos) where
  indexed := filed.indexed.modify id fun _ => rfl
  placed := by
    apply filed.placed.of_update (s.objects_modify id _)
    intro o new inWorld
    obtain ⟨old, there, rfl⟩ := Option.map_eq_some_iff.mp new
    rw [filed.placed id old there inWorld]
    exact congrArg (fun p => some (Cell.ofPair p)) (stays old there inWorld).symm

/-- After a move inside a cell the same moves stay inside their cells. -/
lemma Stays.relocate (stays : Stays s m pos') (moved : Stays s id pos) : Stays (s.relocate id pos) m pos' := by
  intro o there inWorld
  rw [MapState.relocate, MapState.objects_modify] at there
  obtain ⟨rfl, new⟩ | ⟨-, old⟩ := update_eq_some.mp there
  · obtain ⟨old, before, rfl⟩ := Option.map_eq_some_iff.mp new
    rw [stays old before inWorld]
    exact (moved old before inWorld).symm
  · exact stays o old inWorld

/-- Relocations that stay in their cells keep every object in its cell. -/
lemma Filed.relocateAll {moves : List (Nat × Position)} (filed : Filed s)
    (stay : ∀ move ∈ moves, Stays s move.1 move.2) : Filed (relocateAll s moves) := by
  induction moves generalizing s with
  | nil => exact filed
  | cons move moves ih =>
    have first := stay move (List.mem_cons_self ..)
    apply ih (filed.relocate first)
    intro other mem
    exact (stay other (List.mem_cons_of_mem _ mem)).relocate first

end Relocations

section Loads

variable {s s₁ s₂ : MapState} {table : List CreatureData} {id : Nat} {o : MapObject} {cell : Cell} {data : CreatureData}

/-- Objects were loaded, each into the cell of its position; the others are as they were. -/
structure Grown (s s' : MapState) : Prop where
  indexed : Indexed s'
  le : s.created ≤ s'.created
  same : ∀ id, id < s.created → s'.objects id = s.objects id
  placed : ∀ id o, s'.objects id = some o → s.created ≤ id → o.gridRef = some (cellAt o.position)

/-- Where nothing is loaded, the map has not grown. -/
lemma Indexed.grown (indexed : Indexed s) : Grown s s where
  indexed := indexed
  le := Nat.le_refl _
  same := fun _ _ => rfl
  placed := by
    intro id o there out
    rw [indexed.fresh id out] at there
    cases there

/-- Growing twice. -/
lemma Grown.trans (first : Grown s s₁) (second : Grown s₁ s₂) : Grown s s₂ where
  indexed := second.indexed
  le := Nat.le_trans first.le second.le
  same := fun id lt => (second.same id (Nat.lt_of_lt_of_le lt first.le)).trans (first.same id lt)
  placed := by
    intro id o there out
    by_cases lt : id < s₁.created
    · rw [second.same id lt] at there
      exact first.placed id o there out
    · exact second.placed id o there (Nat.le_of_not_lt lt)

/-- A loop of loads. -/
lemma Grown.foldl {α : Type} {f : MapState → α → MapState} {as : List α} (first : Grown s s₁)
    (grows : ∀ s a, Indexed s → a ∈ as → Grown s (f s a)) : Grown s (as.foldl f s₁) := by
  induction as generalizing s₁ with
  | nil => exact first
  | cons a as ih =>
    apply ih (first.trans (grows s₁ a first.indexed (List.mem_cons_self ..)))
    intro s b indexed mem
    exact grows s b indexed (List.mem_cons_of_mem _ mem)

/-- What was there is found again. -/
lemma Grown.objects_eq (grown : Grown s s₁) (indexed : Indexed s) (there : s.objects id = some o) :
    s₁.objects id = some o := by
  rw [grown.same id (indexed.lt_created there), there]

/-- What is found was there before, or was loaded into its cell. -/
lemma Grown.old_or_placed (grown : Grown s s₁) (there : s₁.objects id = some o) :
    s.objects id = some o ∨ o.gridRef = some (cellAt o.position) := by
  obtain lt | ge := Nat.lt_or_ge id s.created
  · exact .inl ((grown.same id lt).symm.trans there)
  · exact .inr (grown.placed id o there ge)

/-- Loading keeps every object in its cell. -/
lemma Filed.grown (filed : Filed s) (grown : Grown s s₁) : Filed s₁ where
  indexed := grown.indexed
  placed := by
    intro id o there inWorld
    obtain old | loaded := grown.old_or_placed there
    · exact filed.placed id o old inWorld
    · exact loaded

/-- A creature is loaded into the cell of its row. -/
lemma grown_loadObject (indexed : Indexed s) (here : cellAt data.position = cell) :
    Grown s (loadObject cell s data) := by
  rw [loadObject]
  split_ifs with valid
  · have made := indexed.construct (.creature false) data.position
    have entered := objects_enter (Function.update_self ..) cell (Cell.ofPair cell.cellPair)
      (s := s.construct (.creature false) data.position)
    rw [MapState.objects_construct, Function.update_idem] at entered
    refine ⟨made.enter (Function.update_self ..) cell _, Nat.le_succ _, fun id lt => ?_, fun id o there out => ?_⟩
    · rw [entered, Function.update_of_ne (Nat.ne_of_lt lt)]
    · rw [entered] at there
      obtain ⟨-, new⟩ | ⟨-, old⟩ := update_eq_some.mp there
      · cases new
        exact congrArg some here.symm
      · rw [indexed.fresh id out] at old
        cases old
  · exact indexed.grown

/-- The rows of a cell are in the cell. -/
lemma cellAt_of_mem_cellObjectGuids (inside : cell.cellPair.Inside) (own : Cell.ofPair cell.cellPair = cell)
    (mem : data ∈ cellObjectGuids table cell.cellPair.cellId) : cellAt data.position = cell := by
  have same := of_decide_eq_true (List.mem_filter.mp mem).2
  rw [cellAt, CellPair.cellId_inj (inside_computeCellPair _) inside same, own]

/-- Loading a grid only adds objects. -/
lemma grown_loadN (table : List CreatureData) (indexed : Indexed s) {x y : Nat} (ltX : x < MAX_NUMBER_OF_GRIDS)
    (ltY : y < MAX_NUMBER_OF_GRIDS) : Grown s (loadN table (x, y) s) := by
  apply indexed.grown.foldl
  intro s cell indexed mem
  have own : Cell.ofPair cell.cellPair = cell ∧ cell.cellPair.Inside := by
    rw [gridCells, List.mem_flatMap] at mem
    obtain ⟨cx, memX, mem⟩ := mem
    obtain ⟨cy, memY, rfl⟩ := List.mem_map.mp mem
    have cellX := List.mem_range.mp memX
    have cellY := List.mem_range.mp memY
    refine ⟨Cell.ofPair_cellPair cellX cellY, ?_⟩
    simp only [CellPair.Inside, Cell.cellPair, TOTAL_NUMBER_OF_CELLS_PER_MAP, MAX_NUMBER_OF_CELLS] at cellX cellY ⊢
    omega
  apply indexed.grown.foldl
  intro s data indexed mem
  exact grown_loadObject indexed (cellAt_of_mem_cellObjectGuids own.2 own.1 mem)

/-- A state with the same objects and lists. -/
lemma Indexed.grown_of_grids (indexed : Indexed s) (grids : Nat × Nat → Option Bool) :
    Grown s { s with i_grids := grids } where
  indexed := ⟨indexed.linked, indexed.fresh⟩
  le := Nat.le_refl _
  same := fun _ _ => rfl
  placed := indexed.grown.placed

/-- Creating a grid only adds objects. -/
lemma grown_ensureGridCreated (indexed : Indexed s) (grid : Nat × Nat) : Grown s (ensureGridCreated grid s) := by
  rw [ensureGridCreated]
  split_ifs with missing
  · exact indexed.grown_of_grids _
  · exact indexed.grown

/-- The grid of a cell is loaded. -/
lemma grown_ensureGridLoaded (indexed : Indexed s) (x : cell.grid_x < MAX_NUMBER_OF_GRIDS)
    (y : cell.grid_y < MAX_NUMBER_OF_GRIDS) : Grown s (ensureGridLoadedForPlayer table cell none s) := by
  have created := grown_ensureGridCreated indexed (cell.grid_x, cell.grid_y)
  rw [ensureGridLoadedForPlayer]
  split_ifs with loaded
  · exact created
  · have loads := created.trans (grown_loadN table created.indexed x y)
    exact loads.trans (loads.indexed.grown_of_grids _)

/-- A visit only adds objects. -/
lemma grown_visit (table : List CreatureData) {p : CellPair} (indexed : Indexed s) (inside : p.Inside) :
    Grown s (visit table s p) := by
  have grid : p.x_coord / MAX_NUMBER_OF_CELLS < MAX_NUMBER_OF_GRIDS ∧
      p.y_coord / MAX_NUMBER_OF_CELLS < MAX_NUMBER_OF_GRIDS := by
    simp only [CellPair.Inside, TOTAL_NUMBER_OF_CELLS_PER_MAP, MAX_NUMBER_OF_CELLS] at inside ⊢
    omega
  exact grown_ensureGridLoaded indexed grid.1 grid.2

/-- The visits around a cell. -/
lemma grown_visits (table : List CreatureData) {p : CellPair} (indexed : Indexed s) (inside : p.Inside) :
    Grown s ((p :: (Cell.visited p ++ Cell.visited p)).foldl (visit table) s) := by
  apply indexed.grown.foldl
  intro s q indexed mem
  obtain rfl | mem := List.mem_cons.mp mem
  · exact grown_visit table indexed inside
  · obtain mem | mem := List.mem_append.mp mem
    · exact grown_visit table indexed (Cell.inside_visited inside mem)
    · exact grown_visit table indexed (Cell.inside_visited inside mem)

/-- A broadcast only adds objects. -/
lemma grown_messageBroadcast (table : List CreatureData) (indexed : Indexed s) (pos : Position) :
    Grown s (messageBroadcast table pos s) := by
  rw [messageBroadcast, if_pos (inside_computeCellPair pos)]
  exact grown_visit table indexed (inside_computeCellPair pos)

end Loads

section Changes

variable {s s' : MapState} {table : List CreatureData} {id : Nat} {o : MapObject}

/-- Every other object on the map is linked in the cell of its position. -/
def PlacedBut (s : MapState) (id : Nat) : Prop :=
  ∀ k o, k ≠ id → s.objects k = some o → o.m_inWorld = true → o.gridRef = some (cellAt o.position)

/-- Where all objects are placed, so are the others. -/
lemma Placed.but (placed : Placed s) (id : Nat) : PlacedBut s id := fun k o _ => placed k o

/-- A change of one object leaves the others placed. -/
lemma PlacedBut.update {new : Option MapObject} (placed : PlacedBut s id)
    (objects : s'.objects = Function.update s.objects id new) : PlacedBut s' id := by
  intro k o ne there inWorld
  rw [objects, Function.update_of_ne ne] at there
  exact placed k o ne there inWorld

/-- Loading leaves the others placed. -/
lemma PlacedBut.grown (placed : PlacedBut s id) (grown : Grown s s') : PlacedBut s' id := by
  intro k o ne there inWorld
  obtain old | loaded := grown.old_or_placed there
  · exact placed k o ne old inWorld
  · exact loaded

/-- Where the others are placed and so is the object, all are. -/
lemma PlacedBut.placed (placed : PlacedBut s id) (there : s.objects id = some o)
    (own : o.m_inWorld = true → o.gridRef = some (cellAt o.position)) : Placed s := by
  intro k o' there' inWorld
  rcases eq_or_ne k id with rfl | ne
  · cases there.symm.trans there'
    exact own inWorld
  · exact placed k o' ne there' inWorld

/-- A change of an object that neither moves nor links it, and puts it on no map. -/
lemma Filed.modify (filed : Filed s) (id : Nat) {f : MapObject → MapObject} (link : ∀ o, (f o).gridRef = o.gridRef)
    (still : ∀ o, (f o).m_inWorld = true → o.m_inWorld = true ∧ (f o).position = o.position) :
    Filed (s.modify id f) where
  indexed := filed.indexed.modify id link
  placed := by
    apply filed.placed.of_update (s.objects_modify id f)
    intro o new inWorld
    obtain ⟨old, there, rfl⟩ := Option.map_eq_some_iff.mp new
    obtain ⟨before, same⟩ := still old inWorld
    rw [link, same]
    exact filed.placed id old there before

/-- Leaving the world keeps every object in its cell. -/
lemma Filed.removeFromWorld (filed : Filed s) (id : Nat) : Filed (s.removeFromWorld id) :=
  filed.modify id (fun _ => rfl) fun _ inWorld => by cases inWorld

/-- A new object keeps every object in its cell. -/
lemma Filed.construct (filed : Filed s) (type : ObjectType) (pos : Position) : Filed (s.construct type pos) where
  indexed := filed.indexed.construct type pos
  placed := by
    apply filed.placed.of_update (s.objects_construct type pos)
    intro o new inWorld
    cases new
    cases inWorld

/-- The move list plays no part. -/
lemma Filed.withMoves (filed : Filed s) (moves : List (Nat × Position)) : Filed { s with i_creaturesToMove := moves } :=
  ⟨⟨filed.indexed.linked, filed.indexed.fresh⟩, filed.placed⟩

/-- A destroyed object keeps every other in its cell. -/
lemma Filed.destroy (filed : Filed s) (id : Nat) : Filed (s.destroy id) where
  indexed := filed.indexed.destroy id
  placed := by
    apply filed.placed.of_update (s.objects_destroy id)
    intro o new
    cases new

/-- A player is linked in the cell of the position it is added at. -/
lemma Filed.addPlayer (filed : Filed s) (there : s.objects id = some o) :
    Filed (Map.addPlayer table s id o.position) := by
  have inside := inside_computeCellPair o.position
  have entered : Indexed (s.addToWorld id) := filed.indexed.modify id fun _ => rfl
  have present : (s.addToWorld id).objects id = some { o with m_inWorld := true } := by
    rw [MapState.addToWorld, MapState.objects_modify, Function.update_self, there, Option.map_some]
  have grown := grown_visit table entered inside
  have found := grown.objects_eq entered present
  have linked : Filed ((visit table (s.addToWorld id) (computeCellPair o.position)).link id (cellAt o.position)) := by
    refine ⟨grown.indexed.link found _, ?_⟩
    have others := ((filed.placed.but id).update (s.objects_modify id _)).grown grown
    apply (others.update (MapState.objects_link _ id _)).placed
    · rw [MapState.objects_link, Function.update_self, found, Option.map_some]
    · exact fun _ => rfl
  exact linked.grown (grown_visits table linked.indexed inside)

/-- A creature that is no pet is linked in the cell of the position it is added at. -/
lemma Filed.addCreature (filed : Filed s) (there : s.objects id = some o) :
    Filed (Map.addCreature s id false o.position) := by
  rw [Map.addCreature, if_pos (inside_computeCellPair o.position)]
  have grown := grown_ensureGridCreated filed.indexed ((cellAt o.position).grid_x, (cellAt o.position).grid_y)
  have found := grown.objects_eq filed.indexed there
  have entered := objects_enter found (cellAt o.position) (cellAt o.position)
  refine ⟨grown.indexed.enter found _ _, ?_⟩
  apply (((filed.placed.but id).grown grown).update entered).placed
  · exact (congrFun entered id).trans (Function.update_self ..)
  · exact fun _ => rfl

/-- Removing a player keeps every object in its cell. -/
lemma Filed.removePlayer (filed : Filed s) (id : Nat) (pos : Position) (remove : Bool) :
    Filed (Map.removePlayer s id pos remove) := by
  have removed := filed.removeFromWorld id
  rw [Map.removePlayer, if_neg (not_not.mpr (inside_computeCellPair pos))]
  dsimp only
  split_ifs
  · exact filed
  · exact removed.destroy id
  · exact removed

/-- Removing a creature keeps every object in its cell. -/
lemma Filed.removeCreature (filed : Filed s) (there : s.objects id = some o) (pos : Position) (remove : Bool) :
    Filed (Map.removeCreature s id pos remove) := by
  have removed : Filed ((s.unlink id).removeFromWorld id) := by
    refine ⟨(filed.indexed.unlink id).modify id fun _ => rfl, ?_⟩
    have others := (filed.placed.but id).update (s.objects_unlink id)
    apply (others.update ((s.unlink id).objects_modify id _)).placed
    · rw [MapState.objects_modify, MapState.objects_unlink, Function.update_self, Function.update_self, there,
        Option.map_some, Option.map_some]
    · intro inWorld
      cases inWorld
  rw [Map.removeCreature, if_neg (not_not.mpr (inside_computeCellPair pos))]
  dsimp only
  split_ifs
  · exact filed
  · exact removed.destroy id
  · exact removed

end Changes

section Moves

variable {s s' : MapState} {table : List CreatureData} {id m : Nat} {o : MapObject} {pos : Position} {e : MapEvent}

/-- A load moves nobody. -/
lemma Stays.grown (stays : Stays s id pos) (indexed : Indexed s) (there : s.objects id = some o) (grown : Grown s s') :
    Stays s' id pos := by
  intro o' there' inWorld
  cases (grown.objects_eq indexed there).symm.trans there'
  exact stays o there inWorld

/-- A player moves inside its cell, and its team with it. -/
lemma Filed.updateRelocationToSet (filed : Filed s) {team : List Nat} (there : ∀ m ∈ team, (s.objects m).isSome = true)
    (stay : ∀ m ∈ team, Stays s m pos) : Filed (Map.updateRelocationToSet table s team pos) := by
  have grown := grown_messageBroadcast table filed.indexed pos
  apply (filed.grown grown).relocateAll
  intro move mem
  obtain ⟨m, member, rfl⟩ := List.mem_map.mp mem
  obtain ⟨o, present⟩ := Option.isSome_iff_exists.mp (there m member)
  exact (stay m member).grown filed.indexed present grown

/-- A relocation removes nobody. -/
lemma isSome_relocate (id : Nat) (pos : Position) (there : (s.objects m).isSome = true) :
    ((s.relocate id pos).objects m).isSome = true := by
  rw [MapState.relocate, MapState.objects_modify]
  rcases eq_or_ne m id with rfl | ne
  · rw [Function.update_self, Option.isSome_map, there]
  · rw [Function.update_of_ne ne, there]

/-- Every event that moves no object out of its cell keeps the objects where they are registered. -/
lemma Filed.step (filed : Filed s) (keeps : Keeps s e) (next : step table s e = some s') : Filed s' := by
  cases e with
  | construct type pos =>
    cases next
    exact filed.construct type pos
  | place id pos =>
    obtain ⟨o, there, next⟩ := Option.bind_eq_some_iff.mp next
    split_ifs at next with inWorld
    cases next
    apply filed.relocate
    intro o' there' inWorld'
    cases there.symm.trans there'
    exact absurd inWorld' inWorld
  | team id members =>
    obtain ⟨o, -, rfl⟩ := Option.map_eq_some_iff.mp next
    exact filed.modify id (fun _ => rfl) fun _ inWorld => ⟨inWorld, rfl⟩
  | destroy id =>
    obtain ⟨o, -, rfl⟩ := Option.map_eq_some_iff.mp next
    exact filed.destroy id
  | add id =>
    obtain ⟨o, there, rfl⟩ := Option.map_eq_some_iff.mp next
    have noPet := keeps o there
    cases type : o.type with
    | player => exact filed.addPlayer there
    | creature isPet =>
      cases isPet with
      | false => exact filed.addCreature there
      -- a pet would be on the map and in no cell
      | true => exact absurd type noPet
  | remove id remove =>
    obtain ⟨o, there, rfl⟩ := Option.map_eq_some_iff.mp next
    cases o.type with
    | player => exact filed.removePlayer id o.position remove
    | creature isPet => exact filed.removeCreature there o.position remove
  | playerRelocation id pos =>
    obtain ⟨o, there, next⟩ := Option.bind_eq_some_iff.mp next
    split_ifs at next
    cases next
    exact filed.relocate keeps
  | creatureRelocation id pos =>
    obtain ⟨o, there, next⟩ := Option.bind_eq_some_iff.mp next
    split_ifs at next
    cases next
    rw [creatureRelocation]
    split_ifs with delayed
    · -- the relocation only enters the move list
      exact filed.withMoves _
    · exact filed.relocate ((keeps o there).resolve_left delayed)
  | moveAllCreaturesInMoveList =>
    rw [Map.step] at next
    split_ifs at next
    cases next
    exact (filed.withMoves []).relocateAll keeps
  | movement id v recv_data =>
    obtain ⟨o, there, next⟩ := Option.bind_eq_some_iff.mp next
    split_ifs at next with present
    cases next
    rw [handleMovementOpcodes]
    cases asked : movementOf v recv_data with
    | none => exact filed
    | some pos =>
      have stay := keeps o there pos asked
      have own := stay id (List.mem_cons_self ..)
      apply (filed.relocate own).updateRelocationToSet
      · exact fun m mem => isSome_relocate id pos (present.2 m mem)
      · exact fun m mem => (stay m (List.mem_cons_of_mem _ mem)).relocate own

end Moves

/-- In every run in which no object is moved out of its cell and no pet is added, every player and creature on the map
is registered in the cell of its position and in no other. -/
theorem registered_of_reaches {table : List CreatureData} {s : MapState}
    (run : Reaches (step table) Keeps MapState.empty s) : Registered s := by
  have filed : Filed s := run.invariant filed_empty fun filed keeps next => filed.step keeps next
  exact filed.indexed.registered_iff.mpr filed.placed

/-- A player who is on no team and may do anything. -/
def walker : SessionView := ⟨false, false, false, false, false, false, 0, 0, fun _ => none⟩

/-- The packet of a move to a position. -/
def movePacket (pos : Position) : ByteBuffer :=
  let bytes : List UInt8 := [1, 5, pos.x.toUInt8, (pos.x / 256).toUInt8, pos.y.toUInt8, (pos.y / 256).toUInt8, 0, 0]
  ⟨bytes.map ByteBuffer.encodeByte, 0, 8⟩

/-- A player enters a map with one creature and walks around in the first cell. -/
def stroll : List MapEvent :=
  [.construct .player ⟨4000, 70⟩, .add 0, .movement 0 walker (movePacket ⟨4999, 4999⟩)]

/-- The walk in the first cell leaves the player and the creature where they are registered. -/
theorem registered_stroll : ∃ s, exec (step [⟨⟨100, 200⟩, true⟩]) MapState.empty stroll = some s ∧ Registered s := by
  have along : Along (step [⟨⟨100, 200⟩, true⟩]) Keeps MapState.empty stroll := by decide +kernel
  have reached : (exec (step [⟨⟨100, 200⟩, true⟩]) MapState.empty stroll).isSome = true := by decide +kernel
  obtain ⟨s, e⟩ := Option.isSome_iff_exists.mp reached
  exact ⟨s, e, registered_of_reaches (reaches_of_exec stroll along e)⟩

/-- A player who walks from one cell to the next is still registered in the one it left. -/
theorem not_registered_walk : ∃ s, exec (step []) MapState.empty
    [.construct .player ⟨4999, 70⟩, .add 0, .movement 0 walker (movePacket ⟨5000, 70⟩)] = some s ∧ ¬ Registered s := by
  have seen : (exec (step []) MapState.empty
      [.construct .player ⟨4999, 70⟩, .add 0, .movement 0 walker (movePacket ⟨5000, 70⟩)]).map
        (fun s => (s.objects 0, (s.lists ⟨1, 0, 0, 0⟩).count 0)) =
      some (some ⟨.player, ⟨5000, 70⟩, true, some ⟨0, 0, 0, 0⟩, ⟨0, 0, 0, 0⟩, []⟩, 0) := by
    decide +kernel
  obtain ⟨s, e, values⟩ := Option.map_eq_some_iff.mp seen
  obtain ⟨there, absent⟩ := Prod.mk.inj values
  refine ⟨s, e, fun registered => ?_⟩
  have once := registered 0 _ there rfl ⟨1, 0, 0, 0⟩
  rw [absent] at once
  exact absurd once (by decide)

end Legacy.Map
