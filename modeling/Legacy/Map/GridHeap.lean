import Legacy.Map.Grid
import Legacy.Map.References
import Legacy.Map.Registration

/-!
# The grids on the heap

The lists of a map as the pointers of `GridReference`. A cell has one manager for its players and one for its
creatures. `calls` lists the calls that an event of the map makes on references and managers;
`map_on_heap` says that they are allowed in every run of a map, follow no pointer that is NULL or dead, and leave the
managers with the objects that the map has in its cells.
-/

namespace Legacy.Map
open Legacy.Lib Legacy.Wire

/-- The manager of the players of a cell, or of its creatures. -/
abbrev Manager := Cell × Bool

/-- A call on the reference of an object or on a manager. -/
abbrev Call := RefEvent Manager Nat Nat

/-- The object is a player. -/
def ofPlayer (s : MapState) (id : Nat) : Bool := (s.objects id).map MapObject.type = some .player

section Calls

variable (table : List CreatureData)

/-- The calls of a loop. -/
def foldCalls {α : Type} (f : MapState → α → MapState) (calls : MapState → α → List Call) :
    MapState → List α → List Call
  | _, [] => []
  | s, a :: as => calls s a ++ foldCalls f calls (f s a) as

/-- The calls of `loadObject`. -/
def loadObjectCalls (cell : Cell) (s : MapState) (data : CreatureData) : List Call :=
  if data.valid then [.construct s.created, .link s.created (some (cell, false)) s.created] else []

/-- The calls of `loadN`. -/
def loadNCalls (grid : Nat × Nat) (s : MapState) : List Call :=
  foldCalls (fun s cell => (cellObjectGuids table cell.cellPair.cellId).foldl (loadObject cell) s)
    (fun s cell => foldCalls (loadObject cell) (loadObjectCalls cell) s (cellObjectGuids table cell.cellPair.cellId))
    s (gridCells grid)

/-- The calls of `ensureGridCreated`: a new grid has a new cell, and this two managers. -/
def ensureGridCreatedCalls (grid : Nat × Nat) (s : MapState) : List Call :=
  if s.i_grids grid = none then
    [.constructManager (⟨grid.1, grid.2, 0, 0⟩, true), .constructManager (⟨grid.1, grid.2, 0, 0⟩, false)]
  else []

/-- The calls of `ensureGridLoadedForPlayer`. -/
def ensureGridLoadedForPlayerCalls (cell : Cell) (player : Option Nat) (s : MapState) : List Call :=
  let grid := (cell.grid_x, cell.grid_y)
  let created := ensureGridCreated grid s
  ensureGridCreatedCalls grid s ++
    (if created.i_grids grid = some true then [] else loadNCalls table grid created) ++
    match player with
    | some id => [.link id (some (cell, true)) id]
    | none => []

/-- The calls of `visit`. -/
def visitCalls (s : MapState) (p : CellPair) : List Call :=
  ensureGridLoadedForPlayerCalls table (Cell.ofPair p) none s

/-- The calls of `messageBroadcast`. -/
def messageBroadcastCalls (pos : Position) (s : MapState) : List Call :=
  let p := computeCellPair pos
  if p.Inside then visitCalls table s p else []

/-- The calls of `addPlayer`. -/
def addPlayerCalls (s : MapState) (id : Nat) (pos : Position) : List Call :=
  let p := computeCellPair pos
  let s := s.addToWorld id
  ensureGridLoadedForPlayerCalls table (Cell.ofPair p) (some id) s ++
    foldCalls (visit table) (visitCalls table) (ensureGridLoadedForPlayer table (Cell.ofPair p) (some id) s)
      (p :: (Cell.visited p ++ Cell.visited p))

/-- The calls of `addCreature`. -/
def addCreatureCalls (s : MapState) (id : Nat) (isPet : Bool) (pos : Position) : List Call :=
  let p := computeCellPair pos
  if p.Inside then
    let cell := Cell.ofPair p
    ensureGridCreatedCalls (cell.grid_x, cell.grid_y) s ++
      if isPet then [] else [.link id (some (cell, false)) id]
  else []

/-- The calls of `removePlayer`. -/
def removePlayerCalls (s : MapState) (id : Nat) (pos : Position) (remove : Bool) : List Call :=
  let p := computeCellPair pos
  if ¬ p.Inside then
    if remove then [.destroy id] else []
  else
    let cell := Cell.ofPair p
    if s.i_grids (cell.grid_x, cell.grid_y) = none then []
    else if remove then [.destroy id] else []

/-- The calls of `removeCreature`. -/
def removeCreatureCalls (s : MapState) (id : Nat) (pos : Position) (remove : Bool) : List Call :=
  let p := computeCellPair pos
  if ¬ p.Inside then []
  else
    let cell := Cell.ofPair p
    if s.i_grids (cell.grid_x, cell.grid_y) ≠ some true then []
    else .unlink id :: if remove then [.destroy id] else []

/-- The calls of `handleMovementOpcodes`. -/
def handleMovementCalls (s : MapState) (id : Nat) (v : SessionView) (recv_data : ByteBuffer) : List Call :=
  match movementOf v recv_data with
  | some pos => messageBroadcastCalls table pos (s.relocate id pos)
  | none => []

/-- The calls that an event makes. -/
def calls (s : MapState) : MapEvent → List Call
  | .construct _ _ => [.construct s.created]
  | .destroy id => [.destroy id]
  | .add id =>
    match s.objects id with
    | none => []
    | some o =>
      match o.type with
      | .player => addPlayerCalls table s id o.position
      | .creature isPet => addCreatureCalls s id isPet o.position
  | .remove id remove =>
    match s.objects id with
    | none => []
    | some o =>
      match o.type with
      | .player => removePlayerCalls s id o.position remove
      | .creature _ => removeCreatureCalls s id o.position remove
  | .movement id v recv_data => handleMovementCalls table s id v recv_data
  | .place .. | .team .. | .playerRelocation .. | .creatureRelocation .. | .moveAllCreaturesInMoveList => []

/-- The calls of a run. -/
def runCalls : MapState → List MapEvent → List Call
  | _, [] => []
  | s, e :: events =>
    match step table s e with
    | some s' => calls table s e ++ runCalls s' events
    | none => []

end Calls

/-- The lists hold what the map has in its cells, and the managers are those of the cells of its grids. -/
structure Mirrors (s : MapState) (t : GridLists Manager Nat) : Prop where
  indexed : Indexed s
  lists : t.lists = split (ofPlayer s) s.lists
  home : t.home = fun id => (s.home id).map fun cell => (cell, ofPlayer s id)
  refs : ∀ id, t.refs id = (s.objects id).isSome
  heads : ∀ cell b, t.heads (cell, b) =
    ((s.i_grids (cell.grid_x, cell.grid_y)).isSome && decide (cell.cell_x = 0 ∧ cell.cell_y = 0))

/-- The calls go from lists that hold what the one state has to lists that hold what the other has. -/
def Follows (s : MapState) (events : List Call) (s' : MapState) : Prop :=
  ∀ t, Mirrors s t → Along GridLists.step Allowed t events ∧
    ∃ t', exec GridLists.step t events = some t' ∧ Mirrors s' t'

section Follows

variable {s s₁ s' : MapState} {id : Nat} {o : MapObject} {cell : Cell} {events events' : List Call}

/-- Calls one after the other. -/
lemma Follows.trans (first : Follows s events s₁) (second : Follows s₁ events' s') :
    Follows s (events ++ events') s' := by
  intro t mirrors
  obtain ⟨along, t₁, reached, mirrors₁⟩ := first t mirrors
  obtain ⟨along', t', reached', mirrors'⟩ := second t₁ mirrors₁
  refine ⟨along_append along fun t₂ same => ?_, t', ?_, mirrors'⟩
  · cases reached.symm.trans same
    exact along'
  · rw [exec_append, reached]
    exact reached'

/-- One call. -/
lemma follows_call {e : Call} (call : ∀ t, Mirrors s t → Allowed t e ∧ ∃ t', GridLists.step t e = some t' ∧
    Mirrors s' t') : Follows s [e] s' := by
  intro t mirrors
  obtain ⟨allowed, t', next, mirrors'⟩ := call t mirrors
  refine ⟨⟨allowed, fun _ _ => trivial⟩, t', ?_, mirrors'⟩
  rw [exec, next]
  rfl

/-- What is written is neither a list nor the link or the type of an object. -/
lemma follows_nil (lists : s'.lists = s.lists)
    (same : ∀ id, (s'.objects id).map (fun o => (o.type, o.gridRef)) = (s.objects id).map fun o => (o.type, o.gridRef))
    (created : s'.created = s.created) (grids : ∀ g, (s'.i_grids g).isSome = (s.i_grids g).isSome) :
    Follows s [] s' := by
  intro t mirrors
  have isSome : ∀ id, (s'.objects id).isSome = (s.objects id).isSome := by
    intro id
    have eq := congrArg Option.isSome (same id)
    rwa [Option.isSome_map, Option.isSome_map] at eq
  have home : s'.home = s.home := by
    funext id
    have eq := congrArg (Option.bind · Prod.snd) (same id)
    simp only [Option.bind_map] at eq
    exact eq
  have player : ofPlayer s' = ofPlayer s := by
    funext id
    have eq := congrArg (Option.map Prod.fst) (same id)
    rw [Option.map_map, Option.map_map] at eq
    exact congrArg (fun type => decide (type = some ObjectType.player)) eq
  refine ⟨trivial, t, rfl, ⟨?_, fun id out => ?_⟩, ?_, ?_, fun id => ?_, fun cell b => ?_⟩
  · rw [lists, home]
    exact mirrors.indexed.linked
  · have absent := isSome id
    rw [created] at out
    rw [mirrors.indexed.fresh id out] at absent
    exact Option.isSome_eq_false_iff.mp absent |> Option.isNone_iff_eq_none.mp
  · rw [mirrors.lists, lists, player]
  · rw [mirrors.home, home, player]
  · rw [mirrors.refs, isSome]
  · rw [mirrors.heads, grids]

/-- One object is made, changed or deleted, and its link with it. -/
lemma Mirrors.change {t t' : GridLists Manager Nat} {new : Option MapObject} (mirrors : Mirrors s t)
    (objects : s'.objects = Function.update s.objects id new) (indexed : Indexed s')
    (lists : t'.lists = split (ofPlayer s) s'.lists)
    (type : s'.home id = none ∨ new.map MapObject.type = (s.objects id).map MapObject.type)
    (home : t'.home = Function.update t.home id ((new.bind MapObject.gridRef).map fun cell => (cell, ofPlayer s' id)))
    (refs : t'.refs = Function.update t.refs id new.isSome) (heads : t'.heads = t.heads)
    (grids : s'.i_grids = s.i_grids) : Mirrors s' t' := by
  have other : ∀ k, k ≠ id → ofPlayer s' k = ofPlayer s k := by
    intro k ne
    rw [ofPlayer, objects, Function.update_of_ne ne, ofPlayer]
  refine ⟨indexed, lists.trans (split_congr fun cell k mem => ?_), home.trans ?_, fun k => ?_, fun cell b => ?_⟩
  · rcases eq_or_ne k id with rfl | ne
    · rcases type with gone | same
      · have own := indexed.linked.mem_iff.mp mem
        rw [gone] at own
        cases own
      · rw [ofPlayer, ofPlayer, objects, Function.update_self, same]
    · exact (other k ne).symm
  · funext k
    rw [home_of_update objects, mirrors.home]
    rcases eq_or_ne k id with rfl | ne
    · rw [Function.update_self, Function.update_self]
    · rw [Function.update_of_ne ne, Function.update_of_ne ne, other k ne]
  · rw [refs, objects]
    rcases eq_or_ne k id with rfl | ne
    · rw [Function.update_self, Function.update_self]
    · rw [Function.update_of_ne ne, Function.update_of_ne ne, mirrors.refs]
  · rw [heads, grids, mirrors.heads]

/-- A new object follows the call that constructs its reference. -/
lemma follows_construct (type : ObjectType) (pos : Position) :
    Follows s [.construct s.created] (s.construct type pos) := by
  apply follows_call
  intro t mirrors
  have free := mirrors.indexed.fresh s.created (Nat.le_refl _)
  have unlinked : s.home s.created = none := by rw [MapState.home, free, Option.bind_none]
  refine ⟨?_, _, rfl, mirrors.change (s.objects_construct type pos) (mirrors.indexed.construct type pos) mirrors.lists
    (Or.inl ?_) ?_ rfl rfl rfl⟩
  · show t.refs s.created = false
    rw [mirrors.refs, free, Option.isSome_none]
  · rw [home_of_update (s.objects_construct type pos), Function.update_self]
    rfl
  · have absent : t.home s.created = none := by
      rw [mirrors.home]
      show (s.home s.created).map _ = none
      rw [unlinked, Option.map_none]
    exact (absent ▸ Function.update_eq_self s.created t.home).symm

/-- A destroyed object follows the call that destroys its reference. -/
lemma follows_destroy (there : (s.objects id).isSome = true) : Follows s [.destroy id] (s.destroy id) := by
  apply follows_call
  intro t mirrors
  refine ⟨(mirrors.refs id).trans there, _, rfl, mirrors.change (s.objects_destroy id) (mirrors.indexed.destroy id) ?_
    (Or.inl ?_) ?_ rfl rfl rfl⟩
  · show Lib.delink t.lists (t.home id) id = _
    rw [mirrors.home, mirrors.lists]
    exact mirrors.indexed.linked.delink_split (ofPlayer s) id
  · rw [home_of_update (s.objects_destroy id), Function.update_self]
    rfl
  · rfl

/-- The reference of an object that is there is there. -/
lemma refs_update {t : GridLists Manager Nat} (mirrors : Mirrors s t) (there : (s.objects id).isSome = true) :
    t.refs = Function.update t.refs id true := by
  have live := (mirrors.refs id).trans there
  exact (live ▸ Function.update_eq_self id t.refs).symm

/-- Unlinking an object follows the call on its reference. -/
lemma follows_unlink (there : (s.objects id).isSome = true) : Follows s [.unlink id] (s.unlink id) := by
  obtain ⟨o, present⟩ := Option.isSome_iff_exists.mp there
  apply follows_call
  intro t mirrors
  have objects := s.objects_unlink id
  rw [present] at objects
  refine ⟨(mirrors.refs id).trans there, _, rfl,
    mirrors.change objects (mirrors.indexed.unlink id) ?_ (Or.inr ?_) rfl ?_ rfl rfl⟩
  · show Lib.delink t.lists (t.home id) id = _
    rw [mirrors.home, mirrors.lists]
    exact mirrors.indexed.linked.delink_split (ofPlayer s) id
  · rw [present]
    rfl
  · show t.refs = Function.update t.refs id true
    exact refs_update mirrors there

/-- An object is linked in a cell of a grid that there is. -/
lemma follows_link (there : s.objects id = some o) (grid : (s.i_grids (cell.grid_x, cell.grid_y)).isSome = true)
    (only : cell.cell_x = 0 ∧ cell.cell_y = 0) (b : Bool) (class_eq : b = decide (o.type = .player)) :
    Follows s [.link id (some (cell, b)) id] (s.link id cell) := by
  have isSome : (s.objects id).isSome = true := Option.isSome_iff_exists.mpr ⟨o, there⟩
  have player : ofPlayer s id = b := by
    rw [ofPlayer, there, class_eq, Option.map_some]
    exact decide_eq_decide.mpr Option.some_inj
  apply follows_call
  intro t mirrors
  have objects := s.objects_link id cell
  rw [there] at objects
  have player' : ofPlayer (s.link id cell) id = b := by
    rw [← player, ofPlayer, ofPlayer, objects, Function.update_self, there]
    rfl
  refine ⟨⟨(mirrors.refs id).trans isSome, fun k mem => ?_⟩, _, rfl, mirrors.change objects
    (mirrors.indexed.link there cell) ?_ (Or.inr ?_) ?_ ?_ rfl rfl⟩
  · cases mem
    rw [mirrors.heads, grid, decide_eq_true only]
    rfl
  · show Lib.insertFirst (Lib.delink t.lists (t.home id) id) (cell, b) id = _
    rw [mirrors.home, mirrors.lists]
    show Lib.insertFirst (Lib.delink _ ((s.home id).map fun cell => (cell, ofPlayer s id)) id) (cell, b) id = _
    rw [mirrors.indexed.linked.delink_split (ofPlayer s) id, ← player]
    exact insertFirst_split (ofPlayer s) cell id
  · rw [there]
    rfl
  · show Function.update t.home id (some (cell, b)) = _
    rw [player']
    rfl
  · show t.refs = Function.update t.refs id true
    exact refs_update mirrors isSome

/-- A new grid has one cell, whose two managers are made with it. -/
lemma follows_ensureGridCreated (grid : Nat × Nat) :
    Follows s (ensureGridCreatedCalls grid s) (ensureGridCreated grid s) := by
  rw [ensureGridCreatedCalls, ensureGridCreated]
  split_ifs with missing
  · intro t mirrors
    let cell : Cell := ⟨grid.1, grid.2, 0, 0⟩
    have dead : ∀ b, t.heads (cell, b) = false := by
      intro b
      rw [mirrors.heads]
      show ((s.i_grids grid).isSome && _) = false
      rw [missing]
      rfl
    have apart : (cell, false) ≠ (cell, true) := fun eq => by cases (Prod.mk.inj eq).2
    refine ⟨⟨dead true, fun t₁ next => ⟨?_, fun _ _ => trivial⟩⟩,
      { t with heads := Function.update (Function.update t.heads (cell, true) true) (cell, false) true }, rfl,
      ⟨mirrors.indexed.linked, mirrors.indexed.fresh⟩, mirrors.lists, mirrors.home, mirrors.refs, fun c b => ?_⟩
    · cases next
      exact (Function.update_of_ne apart ..).trans (dead false)
    · show Function.update (Function.update t.heads (cell, true) true) (cell, false) true (c, b) =
        ((Function.update s.i_grids grid (some false) (c.grid_x, c.grid_y)).isSome && _)
      by_cases same : c = cell
      · subst same
        show _ = ((Function.update s.i_grids grid (some false) grid).isSome && true)
        rw [Function.update_self]
        cases b with
        | false => exact Function.update_self ..
        | true => exact (Function.update_of_ne apart.symm ..).trans (Function.update_self ..)
      · have other : ∀ b', (c, b) ≠ (cell, b') := fun b' eq => same (Prod.mk.inj eq).1
        rw [Function.update_of_ne (other false), Function.update_of_ne (other true), mirrors.heads]
        by_cases here : (c.grid_x, c.grid_y) = grid
        · -- another cell of this grid is none of its cells
          have beyond : ¬(c.cell_x = 0 ∧ c.cell_y = 0) := by
            rintro ⟨x, y⟩
            apply same
            subst here
            obtain ⟨gx, gy, cx, cy⟩ := c
            subst x y
            rfl
          rw [decide_eq_false beyond, Bool.and_false, Bool.and_false]
        · rw [Function.update_of_ne here]
  · exact follows_nil rfl (fun _ => rfl) rfl fun _ => rfl

/-- A loop whose rounds keep a condition. -/
lemma follows_fold {α : Type} (f : MapState → α → MapState) (calls : MapState → α → List Call) (as : List α)
    {P : MapState → Prop} (init : P s)
    (round : ∀ s, ∀ a ∈ as, P s → P (f s a) ∧ Follows s (calls s a) (f s a)) :
    P (as.foldl f s) ∧ Follows s (foldCalls f calls s as) (as.foldl f s) := by
  induction as generalizing s with
  | nil => exact ⟨init, follows_nil rfl (fun _ => rfl) rfl fun _ => rfl⟩
  | cons a as ih =>
    obtain ⟨kept, first⟩ := round s a List.mem_cons_self init
    obtain ⟨still, rest⟩ := ih kept fun s a mem => round s a (List.mem_cons_of_mem _ mem)
    exact ⟨still, first.trans rest⟩

end Follows

section Events

variable {s s' : MapState} {id : Nat} {o : MapObject} {cell : Cell} {table : List CreatureData}

/-- A change of an object that leaves its link. -/
lemma follows_modify (id : Nat) {f : MapObject → MapObject}
    (same : ∀ o, (f o).type = o.type ∧ (f o).gridRef = o.gridRef) : Follows s [] (s.modify id f) := by
  refine follows_nil rfl (fun k => ?_) rfl fun _ => rfl
  rw [MapState.objects_modify]
  rcases eq_or_ne k id with rfl | ne
  · rw [Function.update_self, Option.map_map]
    congr 1
    funext o
    exact Prod.ext (same o).1 (same o).2
  · rw [Function.update_of_ne ne]

/-- A relocation calls nothing. -/
lemma follows_relocate (id : Nat) (pos : Position) : Follows s [] (s.relocate id pos) :=
  follows_modify id fun _ => ⟨rfl, rfl⟩

/-- Relocations call nothing. -/
lemma follows_relocateAll (moves : List (Nat × Position)) : Follows s [] (relocateAll s moves) := by
  induction moves generalizing s with
  | nil => exact follows_nil rfl (fun _ => rfl) rfl fun _ => rfl
  | cons move moves ih => exact (follows_relocate move.1 move.2).trans ih

/-- A loaded creature is made and linked. -/
lemma follows_loadObject (grid : (s.i_grids (cell.grid_x, cell.grid_y)).isSome = true)
    (only : cell.cell_x = 0 ∧ cell.cell_y = 0) (data : CreatureData) :
    Follows s (loadObjectCalls cell s data) (loadObject cell s data) := by
  rw [loadObjectCalls, loadObject]
  split_ifs with valid
  · have made := follows_construct (.creature false) data.position (s := s)
    have present : (s.construct (.creature false) data.position).objects s.created =
        some ⟨.creature false, data.position, false, none, ⟨0, 0, 0, 0⟩, []⟩ := by
      rw [MapState.objects_construct, Function.update_self]
    have linked := made.trans (follows_link present grid only false rfl)
    have placed : Follows _ [] (MapState.setCurrentCell
        ((s.construct (.creature false) data.position).link s.created cell) s.created (Cell.ofPair cell.cellPair)) :=
      follows_modify s.created fun _ => ⟨rfl, rfl⟩
    exact linked.trans (placed.trans (follows_modify s.created fun _ => ⟨rfl, rfl⟩))
  · exact follows_nil rfl (fun _ => rfl) rfl fun _ => rfl

/-- Loading an object creates no grid. -/
lemma i_grids_loadObject (data : CreatureData) : (loadObject cell s data).i_grids = s.i_grids := by
  rw [loadObject]
  split_ifs <;> rfl

/-- The cells of a grid are in it. -/
lemma gridCells_eq {grid : Nat × Nat} (mem : cell ∈ gridCells grid) :
    (cell.grid_x, cell.grid_y) = grid ∧ cell.cell_x = 0 ∧ cell.cell_y = 0 := by
  rw [gridCells, List.mem_flatMap] at mem
  obtain ⟨x, memX, mem⟩ := mem
  obtain ⟨y, memY, rfl⟩ := List.mem_map.mp mem
  exact ⟨rfl, Nat.lt_one_iff.mp (List.mem_range.mp memX), Nat.lt_one_iff.mp (List.mem_range.mp memY)⟩

variable (table) in
/-- The creatures of a grid are loaded into its cells. -/
lemma follows_loadN {grid : Nat × Nat} (there : (s.i_grids grid).isSome = true) :
    ((loadN table grid s).i_grids grid).isSome = true ∧ Follows s (loadNCalls table grid s) (loadN table grid s) := by
  refine follows_fold _ _ _ (P := fun s => (s.i_grids grid).isSome = true) there fun s cell mem here => ?_
  obtain ⟨own, only⟩ := gridCells_eq mem
  refine follows_fold _ _ _ (P := fun s => (s.i_grids grid).isSome = true) here fun s data _ here => ⟨?_, ?_⟩
  · rw [i_grids_loadObject]
    exact here
  · apply follows_loadObject _ only
    rw [own]
    exact here

/-- A grid that was asked for is there. -/
lemma isSome_ensureGridCreated (grid : Nat × Nat) : ((ensureGridCreated grid s).i_grids grid).isSome = true := by
  rw [ensureGridCreated]
  split_ifs with missing
  · show (Function.update s.i_grids grid (some false) grid).isSome = true
    rw [Function.update_self]
    rfl
  · exact Option.isSome_iff_ne_none.mpr missing

variable (table cell) in
/-- The grid of a cell is made and loaded. -/
lemma follows_ensureGridLoaded : ((ensureGridLoadedForPlayer table cell none s).i_grids
      (cell.grid_x, cell.grid_y)).isSome = true ∧
    Follows s (ensureGridLoadedForPlayerCalls table cell none s) (ensureGridLoadedForPlayer table cell none s) := by
  have made := follows_ensureGridCreated (cell.grid_x, cell.grid_y) (s := s)
  have there := isSome_ensureGridCreated (cell.grid_x, cell.grid_y) (s := s)
  rw [ensureGridLoadedForPlayerCalls, ensureGridLoadedForPlayer, List.append_nil]
  dsimp only
  split_ifs with loaded
  · refine ⟨there, ?_⟩
    rw [List.append_nil]
    exact made
  · obtain ⟨still, loads⟩ := follows_loadN table there
    let before := loadN table (cell.grid_x, cell.grid_y) (ensureGridCreated (cell.grid_x, cell.grid_y) s)
    have marked : ∀ grid, (Function.update before.i_grids (cell.grid_x, cell.grid_y) (some true) grid).isSome =
        (before.i_grids grid).isSome := by
      intro grid
      rcases eq_or_ne grid (cell.grid_x, cell.grid_y) with rfl | ne
      · rw [Function.update_self, still]
        rfl
      · rw [Function.update_of_ne ne]
    refine ⟨(marked _).trans still, made.trans ?_⟩
    rw [← List.append_nil (loadNCalls ..)]
    exact loads.trans (follows_nil rfl (fun _ => rfl) rfl marked)

/-- A visit follows its calls. -/
lemma follows_visit (p : CellPair) : Follows s (visitCalls table s p) (visit table s p) :=
  (follows_ensureGridLoaded _ table).2

variable (table) in

/-- A broadcast follows its calls. -/
lemma follows_messageBroadcast (pos : Position) :
    Follows s (messageBroadcastCalls table pos s) (messageBroadcast table pos s) := by
  rw [messageBroadcastCalls, messageBroadcast]
  split_ifs
  · exact follows_visit _
  · exact follows_nil rfl (fun _ => rfl) rfl fun _ => rfl

/-- A player is linked in the cell of its position, after the creatures of the grid were loaded. -/
lemma follows_addPlayer (there : s.objects id = some o) (player : o.type = .player) :
    Follows s (addPlayerCalls table s id o.position) (addPlayer table s id o.position) := by
  intro t mirrors
  let cell := Cell.ofPair (computeCellPair o.position)
  have entered : Follows s [] (s.addToWorld id) := follows_modify id fun _ => ⟨rfl, rfl⟩
  have present : (s.addToWorld id).objects id = some { o with m_inWorld := true } := by
    rw [MapState.addToWorld, MapState.objects_modify, Function.update_self, there, Option.map_some]
  have indexed : Indexed (s.addToWorld id) := mirrors.indexed.modify id fun _ => rfl
  have found := (grown_visit table indexed (inside_computeCellPair o.position)).objects_eq indexed present
  obtain ⟨grid, loaded⟩ := follows_ensureGridLoaded cell table (s := s.addToWorld id)
  have linked := loaded.trans (follows_link found grid ⟨Nat.mod_one _, Nat.mod_one _⟩ true (by rw [player]; rfl))
  obtain ⟨-, visits⟩ := follows_fold (P := fun _ => True) (visit table) (visitCalls table)
    (computeCellPair o.position :: (Cell.visited (computeCellPair o.position) ++
      Cell.visited (computeCellPair o.position))) (s := (visit table (s.addToWorld id)
        (computeCellPair o.position)).link id cell) trivial
    fun s p _ _ => ⟨trivial, follows_visit p⟩
  have whole := (entered.trans linked).trans visits
  rw [List.nil_append, ensureGridLoadedForPlayerCalls, List.append_nil] at whole
  exact whole t mirrors

/-- Adding a creature follows its calls. -/
lemma follows_addCreature (there : s.objects id = some o) {isPet : Bool} (creature : o.type = .creature isPet) :
    Follows s (addCreatureCalls s id isPet o.position) (addCreature s id isPet o.position) := by
  let cell := Cell.ofPair (computeCellPair o.position)
  have made := follows_ensureGridCreated (cell.grid_x, cell.grid_y) (s := s)
  have grid := isSome_ensureGridCreated (cell.grid_x, cell.grid_y) (s := s)
  have present : (ensureGridCreated (cell.grid_x, cell.grid_y) s).objects id = some o := by
    rw [ensureGridCreated]
    split_ifs <;> exact there
  rw [addCreatureCalls, addCreature, if_pos (inside_computeCellPair o.position),
    if_pos (inside_computeCellPair o.position)]
  cases isPet with
  | true => exact made.trans (follows_modify id fun _ => ⟨rfl, rfl⟩)
  | false =>
    have linked := follows_link present grid ⟨Nat.mod_one _, Nat.mod_one _⟩ false (by rw [creature]; rfl)
    have placed : Follows _ [] (MapState.setCurrentCell ((ensureGridCreated (cell.grid_x, cell.grid_y) s).link id cell)
        id cell) := follows_modify id fun _ => ⟨rfl, rfl⟩
    exact made.trans (linked.trans (placed.trans (follows_modify id fun _ => ⟨rfl, rfl⟩)))

/-- An object that leaves the world is still there. -/
lemma isSome_removeFromWorld (there : (s.objects id).isSome = true) :
    ((s.removeFromWorld id).objects id).isSome = true := by
  rw [MapState.removeFromWorld, MapState.objects_modify, Function.update_self, Option.isSome_map]
  exact there

/-- A player leaves the world, and its link only when it is deleted. -/
lemma follows_removePlayer (there : (s.objects id).isSome = true) (pos : Position) (remove : Bool) :
    Follows s (removePlayerCalls s id pos remove) (removePlayer s id pos remove) := by
  have left : Follows s [] (s.removeFromWorld id) := follows_modify id fun _ => ⟨rfl, rfl⟩
  have gone : Follows s (if remove then [.destroy id] else [])
      (if remove then (s.removeFromWorld id).destroy id else s.removeFromWorld id) := by
    cases remove with
    | true => exact left.trans (follows_destroy (isSome_removeFromWorld there))
    | false => exact left
  rw [removePlayerCalls, removePlayer, if_neg (not_not.mpr (inside_computeCellPair pos)),
    if_neg (not_not.mpr (inside_computeCellPair pos))]
  dsimp only
  by_cases missing : s.i_grids ((Cell.ofPair (computeCellPair pos)).grid_x,
      (Cell.ofPair (computeCellPair pos)).grid_y) = none
  · rw [if_pos missing, if_pos missing]
    exact follows_nil rfl (fun _ => rfl) rfl fun _ => rfl
  · rw [if_neg missing, if_neg missing]
    exact gone

/-- Removing a creature follows its calls. -/
lemma follows_removeCreature (there : (s.objects id).isSome = true) (pos : Position) (remove : Bool) :
    Follows s (removeCreatureCalls s id pos remove) (removeCreature s id pos remove) := by
  have unlinked : ((s.unlink id).objects id).isSome = true := by
    rw [MapState.objects_unlink, Function.update_self, Option.isSome_map]
    exact there
  have left : Follows (s.unlink id) [] ((s.unlink id).removeFromWorld id) := follows_modify id fun _ => ⟨rfl, rfl⟩
  have gone : Follows s (.unlink id :: if remove then [.destroy id] else [])
      (if remove then ((s.unlink id).removeFromWorld id).destroy id else (s.unlink id).removeFromWorld id) := by
    cases remove with
    | true => exact (follows_unlink there).trans (left.trans (follows_destroy (isSome_removeFromWorld unlinked)))
    | false => exact (follows_unlink there).trans left
  rw [removeCreatureCalls, removeCreature, if_neg (not_not.mpr (inside_computeCellPair pos)),
    if_neg (not_not.mpr (inside_computeCellPair pos))]
  dsimp only
  by_cases missing : s.i_grids ((Cell.ofPair (computeCellPair pos)).grid_x,
      (Cell.ofPair (computeCellPair pos)).grid_y) ≠ some true
  · rw [if_pos missing, if_pos missing]
    exact follows_nil rfl (fun _ => rfl) rfl fun _ => rfl
  · rw [if_neg missing, if_neg missing]
    exact gone

/-- The calls of an event take the lists from the objects of the map before it to those after it. -/
lemma follows_step {e : MapEvent} (next : step table s e = some s') : Follows s (calls table s e) s' := by
  cases e with
  | construct type pos =>
    cases next
    exact follows_construct type pos
  | place id pos =>
    obtain ⟨o, there, next⟩ := Option.bind_eq_some_iff.mp next
    split_ifs at next with inWorld
    cases next
    exact follows_relocate id pos
  | team id members =>
    obtain ⟨o, -, rfl⟩ := Option.map_eq_some_iff.mp next
    exact follows_modify id fun _ => ⟨rfl, rfl⟩
  | destroy id =>
    obtain ⟨o, there, rfl⟩ := Option.map_eq_some_iff.mp next
    exact follows_destroy (Option.isSome_iff_exists.mpr ⟨o, there⟩)
  | add id =>
    obtain ⟨o, there, rfl⟩ := Option.map_eq_some_iff.mp next
    rw [calls, there]
    dsimp only
    cases type : o.type with
    | player => exact follows_addPlayer there type
    | creature isPet => exact follows_addCreature there type
  | remove id remove =>
    obtain ⟨o, there, rfl⟩ := Option.map_eq_some_iff.mp next
    have isSome := Option.isSome_iff_exists.mpr ⟨o, there⟩
    rw [calls, there]
    dsimp only
    cases o.type with
    | player => exact follows_removePlayer isSome o.position remove
    | creature isPet => exact follows_removeCreature isSome o.position remove
  | playerRelocation id pos =>
    obtain ⟨o, there, next⟩ := Option.bind_eq_some_iff.mp next
    split_ifs at next
    cases next
    exact follows_relocate id pos
  | creatureRelocation id pos =>
    obtain ⟨o, there, next⟩ := Option.bind_eq_some_iff.mp next
    split_ifs at next
    cases next
    rw [creatureRelocation]
    split_ifs with delayed
    · exact follows_nil rfl (fun _ => rfl) rfl fun _ => rfl
    · exact follows_relocate id pos
  | moveAllCreaturesInMoveList =>
    rw [Map.step] at next
    split_ifs at next
    cases next
    have emptied : Follows s [] { s with i_creaturesToMove := [] } :=
      follows_nil rfl (fun _ => rfl) rfl fun _ => rfl
    exact emptied.trans (follows_relocateAll s.i_creaturesToMove)
  | movement id v recv_data =>
    obtain ⟨o, there, next⟩ := Option.bind_eq_some_iff.mp next
    split_ifs at next
    cases next
    rw [calls, handleMovementCalls, handleMovementOpcodes]
    cases movementOf v recv_data with
    | none => exact follows_nil rfl (fun _ => rfl) rfl fun _ => rfl
    | some pos =>
      have moved := (follows_relocate id pos (s := s)).trans (follows_messageBroadcast table pos)
      have whole := moved.trans (follows_relocateAll (o.m_team.map (·, pos)))
      rw [List.append_nil, List.nil_append] at whole
      exact whole

/-- A run of the map follows its calls. -/
lemma follows_run (events : List MapEvent) (run : exec (step table) s events = some s') :
    Follows s (runCalls table s events) s' := by
  induction events generalizing s with
  | nil =>
    cases run
    exact follows_nil rfl (fun _ => rfl) rfl fun _ => rfl
  | cons e events ih =>
    obtain ⟨s₁, next, rest⟩ := Option.bind_eq_some_iff.mp run
    rw [runCalls, next]
    exact (follows_step next).trans (ih rest)

/-- The empty map mirrors empty lists. -/
lemma mirrors_empty : Mirrors MapState.empty GridLists.empty where
  indexed := indexed_empty
  lists := rfl
  home := rfl
  refs := fun _ => rfl
  heads := fun _ _ => rfl

end Events

/-- In every run of a map the calls that it makes on the references of its objects follow no pointer that is NULL or
points at a deleted object, and after them the loops over the players and over the creatures of a cell of any grid
come by the objects of that class in the cell, and by no others. -/
theorem map_on_heap (table : List CreatureData) (events : List MapEvent) (s : MapState)
    (run : exec (step table) MapState.empty events = some s) :
    ∃ r t, exec References.step References.empty (runCalls table MapState.empty events) = some r ∧
      exec GridLists.step GridLists.empty (runCalls table MapState.empty events) = some t ∧
      t.lists = split (ofPlayer s) s.lists ∧
      ∀ cell b, (s.i_grids (cell.grid_x, cell.grid_y)).isSome = true → cell.cell_x = 0 → cell.cell_y = 0 →
        Shows r t (cell, b) := by
  obtain ⟨along, t, reached, mirrors⟩ := follows_run events run _ mirrors_empty
  obtain ⟨r, t', onHeap, reached', ref⟩ := refines_empty.run _ along
  cases reached.symm.trans reached'
  refine ⟨r, t, onHeap, reached, mirrors.lists, fun cell b grid x y => ref.shows ?_⟩
  rw [mirrors.heads, grid, decide_eq_true ⟨x, y⟩]
  rfl

/-- A player enters a map with one creature, moves, and is deleted when it leaves. -/
theorem map_on_heap_stroll : ∃ s,
    exec (step [⟨⟨100, 200⟩, true⟩]) MapState.empty (stroll ++ [.remove 0 true]) = some s ∧
    ∃ r t, exec References.step References.empty
        (runCalls [⟨⟨100, 200⟩, true⟩] MapState.empty (stroll ++ [.remove 0 true])) = some r ∧
      exec GridLists.step GridLists.empty
        (runCalls [⟨⟨100, 200⟩, true⟩] MapState.empty (stroll ++ [.remove 0 true])) = some t ∧
      t.lists = split (ofPlayer s) s.lists ∧
      ∀ cell b, (s.i_grids (cell.grid_x, cell.grid_y)).isSome = true → cell.cell_x = 0 → cell.cell_y = 0 →
        Shows r t (cell, b) := by
  have reached : (exec (step [⟨⟨100, 200⟩, true⟩]) MapState.empty (stroll ++ [.remove 0 true])).isSome = true := by
    decide +kernel
  obtain ⟨s, run⟩ := Option.isSome_iff_exists.mp reached
  exact ⟨s, run, map_on_heap _ _ s run⟩

end Legacy.Map
