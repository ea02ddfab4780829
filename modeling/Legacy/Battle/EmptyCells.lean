import Legacy.Battle.Change

/-!
# Empty cells in the resolution of a turn

A queued action names cells that may be cleared before it is performed. The check of `RedirectTarget`,
`Escaped`, the catch and the hit models that push their primary target read such a cell without looking.
`noNull_of_reaches` says what they need: where an action is redirected its attacker is there, where it is
performed the cells that it reads are occupied, and a capture does not clear the cell of its attacker before
the last hit. The hits that are listed are then occupied until they are applied.
-/

namespace Legacy.Battle
open Legacy.Lib

/-- The cells that a hit model covers, in the order of the hits. -/
def spellCells (c : Nat × Nat) (hit : Nat) : List (Nat × Nat) :=
  match hit with
  | 2 => [c, rollingCell c]
  | 6 => [rowAbove (facingCell c), rowBelow (facingCell c), facingCell c] ++ [c, rowAbove c, rowBelow c]
  | 4 => [facingCell c] ++ [c, rowAbove c, rowBelow c]
  | 3 => [c, rowAbove c, rowBelow c]
  | 5 => c :: ((List.range battleRowMax).filter fun row => row ≠ c.2).map fun row => (c.1, row)
  | 10 => c :: (sideCells c.1).filter fun d => d ≠ c
  | _ => [c]

/-- The next byte is another one. -/
lemma u8_add_one_ne (n : Nat) : u8 (n + 1) ≠ n := by
  rw [u8]
  omega

/-- The byte before is another one. -/
lemma u8_add_max_ne (n : Nat) : u8 (n + 255) ≠ n := by
  rw [u8]
  omega

/-- The byte before is not the byte after. -/
lemma u8_add_max_ne_add_one (n : Nat) : u8 (n + 255) ≠ u8 (n + 1) := by
  rw [u8, u8]
  omega

/-- The cell in the next column is another one, in the same row. -/
lemma colAfter_ne (c : Nat × Nat) : (colAfter c).1 ≠ c.1 ∧ (colAfter c).2 = c.2 := ⟨u8_add_one_ne c.1, rfl⟩

/-- The cell in the column before is another one, in the same row. -/
lemma colBefore_ne (c : Nat × Nat) : (colBefore c).1 ≠ c.1 ∧ (colBefore c).2 = c.2 := ⟨u8_add_max_ne c.1, rfl⟩

/-- The facing cell is another one, in the same row. -/
lemma facingCell_ne (c : Nat × Nat) : (facingCell c).1 ≠ c.1 ∧ (facingCell c).2 = c.2 := by
  rw [facingCell]
  split
  · split
    · exact colAfter_ne c
    · exact colBefore_ne c
  · split
    · exact colBefore_ne c
    · exact colAfter_ne c

/-- The second cell of hit model 2 is not the target, and in its row. -/
lemma rollingCell_ne (c : Nat × Nat) : (rollingCell c).1 ≠ c.1 ∧ (rollingCell c).2 = c.2 := by
  rw [rollingCell]
  split
  · split
    · exact colAfter_ne c
    · exact colBefore_ne c
  · split
    · exact colAfter_ne c
    · exact colBefore_ne c

/-- The cells of a line are different. -/
lemma line_nodup (c : Nat × Nat) :
    [rowAbove c, rowBelow c, c].Nodup ∧ [c, rowAbove c, rowBelow c].Nodup := by
  have above := u8_add_max_ne c.2
  have below := u8_add_one_ne c.2
  have apart := u8_add_max_ne_add_one c.2
  simp [rowAbove, rowBelow, Prod.ext_iff, above, above.symm, below, below.symm, apart]

/-- The cells of a side are different. -/
lemma sideCells_nodup (col : Nat) : (sideCells col).Nodup := by
  rw [sideCells]
  split <;> decide

/-- Different cells of two columns are different together. -/
lemma nodup_of_columns {l l' : List (Nat × Nat)} {col col' : Nat} (nodup : l.Nodup) (nodup' : l'.Nodup)
    (column : ∀ c ∈ l, c.1 = col) (column' : ∀ c ∈ l', c.1 = col') (apart : col ≠ col') : (l ++ l').Nodup := by
  refine List.nodup_append.mpr ⟨nodup, nodup', fun c mem d mem' eq => apart ?_⟩
  rw [← column c mem, eq, column' d mem']

/-- The cells of a line are in one column. -/
lemma line_column {c d : Nat × Nat} (mem : d = rowAbove c ∨ d = rowBelow c ∨ d = c) : d.1 = c.1 := by
  rcases mem with rfl | rfl | rfl
  · rfl
  · rfl
  · rfl

/-- A hit model covers each cell once. -/
lemma spellCells_nodup (c : Nat × Nat) (hit : Nat) : (spellCells c hit).Nodup := by
  obtain ⟨col, -⟩ := facingCell_ne c
  rw [spellCells.eq_def]
  split
  · refine List.nodup_cons.mpr ⟨fun mem => ?_, List.nodup_singleton _⟩
    have eq := List.mem_singleton.mp mem
    exact (rollingCell_ne c).1 (congrArg Prod.fst eq).symm
  · refine nodup_of_columns (line_nodup (facingCell c)).1 (line_nodup c).2 (fun d mem => ?_) (fun d mem => ?_) col
    · exact line_column (by simpa using mem)
    · refine line_column ?_
      simp only [List.mem_cons, List.not_mem_nil, or_false] at mem
      exact or_assoc.mp mem.symm
  · refine nodup_of_columns (List.nodup_singleton _) (line_nodup c).2 (fun d mem => ?_) (fun d mem => ?_) col
    · rw [List.mem_singleton.mp mem]
    · refine line_column ?_
      simp only [List.mem_cons, List.not_mem_nil, or_false] at mem
      exact or_assoc.mp mem.symm
  · exact (line_nodup c).2
  · refine List.nodup_cons.mpr ⟨fun mem => ?_, ?_⟩
    · obtain ⟨row, kept, eq⟩ := List.mem_map.mp mem
      have other := (List.mem_filter.mp kept).2
      rw [← eq] at other
      exact absurd rfl (of_decide_eq_true other)
    · exact (List.nodup_range.filter _).map fun row row' eq => congrArg Prod.snd eq
  · refine List.nodup_cons.mpr ⟨fun mem => ?_, (sideCells_nodup c.1).filter _⟩
    exact absurd rfl (of_decide_eq_true (List.mem_filter.mp mem).2)
  · exact List.nodup_singleton c

namespace Avail

variable {action : BattleAction} (avail : Avail)

/-- A further hit is on its cell. -/
lemma hitAt_targets (action : BattleAction) (c : Nat × Nat) :
    ((avail.hitAt action c).map BattleAction.tgtCell).Sublist [c] := by
  rw [hitAt]
  split
  · exact List.Sublist.refl _
  · exact List.nil_sublist _

/-- Further hits are on their cells, in order. -/
lemma hitAts_targets (action : BattleAction) (cells : List (Nat × Nat)) :
    ((cells.flatMap (avail.hitAt action)).map BattleAction.tgtCell).Sublist cells := by
  induction cells with
  | nil => exact List.Sublist.refl _
  | cons c cells ih =>
    rw [List.flatMap_cons, List.map_append]
    exact (avail.hitAt_targets action c).append ih

/-- The hit above or below is on its cell. -/
lemma sideHit_targets (skill : action.skill ≠ spellBerserker) (linked : Bool) (c : Nat × Nat) :
    ((avail.sideHit action linked c).map BattleAction.tgtCell).Sublist [c] := by
  rw [sideHit, decide_eq_false skill, Bool.false_and, if_neg Bool.false_ne_true]
  split
  · exact List.Sublist.refl _
  · exact List.nil_sublist _

/-- The hits of a line are on the target and the cells above and below it. -/
lemma lineHits_targets (skill : action.skill ≠ spellBerserker) (linked : Bool) :
    ((avail.lineHits action linked).map BattleAction.tgtCell).Sublist
      [action.tgtCell, rowAbove action.tgtCell, rowBelow action.tgtCell] := by
  rw [lineHits, List.map_cons, List.map_append]
  exact ((avail.sideHit_targets skill linked _).append (avail.sideHit_targets skill linked _)).cons_cons _

/-- The hits of a cross are on the cell before or behind the target and on its line. -/
lemma crossHits_targets (skill : action.skill ≠ spellBerserker) (linked : Bool) :
    ((avail.crossHits action linked).map BattleAction.tgtCell).Sublist
      ([facingCell action.tgtCell] ++ [action.tgtCell, rowAbove action.tgtCell, rowBelow action.tgtCell]) := by
  rw [crossHits, List.map_append]
  exact (avail.hitAt_targets action _).append (avail.lineHits_targets skill linked)

/-- Any spell but berserker hits cells that its model covers, each at most once. -/
lemma parseSpell_targets (skill : action.skill ≠ spellBerserker) (hit : Nat) (linked : Bool) :
    ((avail.parseSpell action hit linked).map BattleAction.tgtCell).Sublist (spellCells action.tgtCell hit) := by
  rw [parseSpell.eq_def]
  simp only
  split
  · exact (avail.hitAt_targets action _).cons_cons _
  · rw [List.map_append, List.map_append]
    exact ((avail.hitAt_targets action _).append (avail.hitAt_targets action _)).append
      (avail.crossHits_targets skill linked)
  · exact avail.crossHits_targets skill linked
  · exact avail.lineHits_targets skill linked
  · rw [List.map_cons]
    refine List.Sublist.cons_cons _ ?_
    have targets := avail.hitAts_targets action
      (((List.range battleRowMax).filter fun row => row ≠ action.tgtCell.2).map fun row => (action.tgtCell.1, row))
    rw [List.flatMap_map] at targets
    exact targets
  · exact (avail.hitAts_targets action _).cons_cons _
  · rw [spellCells] <;> try assumption
    split
    · exact List.Sublist.refl _
    · exact List.nil_sublist _

end Avail

namespace Engine

variable {b b' : Engine} {action : BattleAction} {linked : Bool}

/-- A hit of the same attacker on an occupied cell. -/
def Strikes (b : Engine) (action hit : BattleAction) : Prop :=
  hit.atkCell = action.atkCell ∧ (b.getVictim hit).isSome

/-- A hit on a cell is given only where the cell is available. -/
lemma strikes_of_avail {c : Nat × Nat} {reached : Bool} {x : BattleAction}
    (mem : x ∈ if b.isUnitAvail c reached then [{ action.withTarget c with agility := 0 }] else []) :
    b.Strikes action x := by
  split at mem
  · next avail =>
    cases List.mem_singleton.mp mem
    exact ⟨rfl, isUnitAvail_isSome avail⟩
  · cases mem

/-- A further hit is on an occupied cell. -/
lemma hitAt_strikes {c : Nat × Nat} {x : BattleAction} (mem : x ∈ b.isUnitAvail.hitAt action c) :
    b.Strikes action x := strikes_of_avail mem

/-- The hit above or below is on an occupied cell when the primary target is there. -/
lemma sideHit_strikes (primary : (b.getVictim action).isSome) {c : Nat × Nat} {x : BattleAction}
    (mem : x ∈ b.isUnitAvail.sideHit action linked c) : b.Strikes action x := by
  rw [Avail.sideHit] at mem
  split at mem
  · cases List.mem_singleton.mp mem
    exact ⟨rfl, primary⟩
  · exact strikes_of_avail mem

/-- The hits of a line are on occupied cells when the primary target is there. -/
lemma lineHits_strikes (primary : (b.getVictim action).isSome) {x : BattleAction}
    (mem : x ∈ b.isUnitAvail.lineHits action linked) : b.Strikes action x := by
  rw [Avail.lineHits] at mem
  rcases List.mem_cons.mp mem with rfl | sides
  · exact ⟨rfl, primary⟩
  · rcases List.mem_append.mp sides with above | below
    · exact sideHit_strikes primary above
    · exact sideHit_strikes primary below

/-- The hits of a cross are on occupied cells when the primary target is there. -/
lemma crossHits_strikes (primary : (b.getVictim action).isSome) {x : BattleAction}
    (mem : x ∈ b.isUnitAvail.crossHits action linked) : b.Strikes action x := by
  rcases List.mem_append.mp mem with facing | line
  · exact hitAt_strikes facing
  · exact lineHits_strikes primary line

/-- The hits on many cells are on occupied ones when the primary target is there. -/
lemma spread_strikes (primary : (b.getVictim action).isSome) {ι : Type} {cells : List ι} {f : ι → Nat × Nat}
    {x : BattleAction} (mem : x ∈ action :: cells.flatMap fun i => b.isUnitAvail.hitAt action (f i)) :
    b.Strikes action x := by
  rcases List.mem_cons.mp mem with rfl | others
  · exact ⟨rfl, primary⟩
  · obtain ⟨i, -, at'⟩ := List.mem_flatMap.mp others
    exact hitAt_strikes at'

/-- When the primary target of a model that does not look at it is there, all hits are on occupied cells. -/
lemma parseSpell_strikes {sinfo : SpellInfo} (primary : sinfo.hitsPrimary → (b.getVictim action).isSome)
    {x : BattleAction} (mem : x ∈ b.parseSpell action sinfo.hit linked) : b.Strikes action x := by
  have there : ∀ n, sinfo.hit = n → n ∈ [2, 3, 4, 5, 6, 10] → (b.getVictim action).isSome := by
    intro n model spread
    exact primary (decide_eq_true (model ▸ spread))
  rw [parseSpell, Avail.parseSpell.eq_def] at mem
  simp only at mem
  split at mem
  · next model =>
    rcases List.mem_cons.mp mem with rfl | rolling
    · exact ⟨rfl, there 2 model (by decide)⟩
    · exact hitAt_strikes rolling
  · next model =>
    rcases List.mem_append.mp mem with flanks | cross
    · rcases List.mem_append.mp flanks with above | below
      · exact hitAt_strikes above
      · exact hitAt_strikes below
    · exact crossHits_strikes (there 6 model (by decide)) cross
  · next model => exact crossHits_strikes (there 4 model (by decide)) mem
  · next model => exact lineHits_strikes (there 3 model (by decide)) mem
  · next model => exact spread_strikes (there 5 model (by decide)) mem
  · next model => exact spread_strikes (there 10 model (by decide)) mem
  · split at mem
    · next avail =>
      cases List.mem_singleton.mp mem
      exact ⟨rfl, isUnitAvail_isSome avail⟩
    · cases mem

/-- The hits of a spell depend on the cells and on who is dead. -/
lemma parseSpell_congr (cells : b'.m_battleUnit = b.m_battleUnit)
    (dead : ∀ u, (b'.units u).isDead = (b.units u).isDead) (action : BattleAction) (hit : Nat) (linked : Bool) :
    b'.parseSpell action hit linked = b.parseSpell action hit linked := by
  have avail : b'.isUnitAvail = b.isUnitAvail := by
    funext c linked
    simp only [isUnitAvail, getBattleUnit, battleUnit, cells, dead]
  rw [parseSpell, parseSpell, avail]

/-- The action catches its target. -/
def captures (b : Engine) (action : BattleAction) (dice : ActDice) : Bool :=
  (action.skill = spellCatch || action.skill = spellCatch2) && dice.summoned.isSome &&
    (b.getVictim action).any fun victim => (b.getAttacker action).any fun attacker =>
      (b.catcher attacker).any fun p => (b.units p).canCatchPet (b.units victim) dice.catching

/-- A catch that returns succeeds exactly if the action captures its target. -/
lemma catchPet_captures {dice : ActDice} {catched : Bool}
    (run : b.catchPet action dice = .ok (b', catched)) : catched = b.captures action dice := by
  rw [catchPet] at run
  rw [captures, ← Bool.decide_or]
  split at run
  · next skill =>
    rw [decide_eq_true skill, Bool.true_and]
    split at run
    · next victim attacker at' by' =>
      rw [at', by', Option.any_some, Option.any_some]
      split at run
      · next p slot pet byPlayer summoned =>
        rw [byPlayer, summoned, Option.any_some, Option.isSome_some, Bool.true_and]
        split at run
        · next cannot =>
          cases run
          rw [Bool.not_eq_true'] at cannot
          exact cannot.symm
        · next can =>
          rw [Bool.not_eq_true, Bool.not_eq_false'] at can
          split at run
          · cases run
            exact can.symm
          · cases run
      · next nobody =>
        cases run
        cases byPlayer : b.catcher attacker with
        | none => rw [Option.any_none, Bool.and_false]
        | some p =>
          cases summoned : dice.summoned with
          | none => rfl
          | some place => exact absurd summoned (nobody p place.1 place.2 byPlayer)
    · cases run
  · next other =>
    cases run
    rw [decide_eq_false other]
    rfl

/-- A catch leaves the cells and the dead as they are, and only captures a target that the catcher can catch. -/
lemma catchPet_grid {dice : ActDice} {catched : Bool} (run : b.catchPet action dice = .ok (b', catched)) :
    b'.m_battleUnit = b.m_battleUnit ∧ (∀ u, (b'.units u).isDead = (b.units u).isDead) ∧
      (catched = true → b.captures action dice = true) := by
  refine ⟨?_, fun u => ?_, ?_⟩
  · rcases catchPet_cases run with ⟨-, rfl⟩ | ⟨p, slot, pet, -, -, rfl⟩
    · rfl
    · rfl
  · rcases catchPet_cases run with ⟨-, rfl⟩ | ⟨p, slot, pet, -, -, rfl⟩
    · rfl
    · rw [summonPet, setUnit_units]
      split
      · next eq =>
        rw [eq]
        rfl
      · rfl
  · rintro rfl
    exact (catchPet_captures run).symm

/-- A catch with an attacker and a target reads no empty cell. -/
lemma catchPet_error {dice : ActDice} {u : Nat} {halt : Halt} (attacker : b.getAttacker action = some u)
    (target : action.skill = spellCatch ∨ action.skill = spellCatch2 → (b.getVictim action).isSome)
    (run : b.catchPet action dice = .error halt) : ∀ site, halt ≠ .null site := by
  rw [catchPet] at run
  split at run
  · next skill =>
    obtain ⟨victim, cell⟩ := Option.isSome_iff_exists.mp (target skill)
    rw [attacker, cell] at run
    simp only at run
    split at run
    · split at run
      · cases run
      · split at run
        · cases run
        · cases run
          intro site null
          cases null
    · cases run
  · cases run

/-- The unit of a cell depends on the grid alone. -/
lemma getBattleUnit_congr (cells : b'.m_battleUnit = b.m_battleUnit) (col row : Nat) :
    b'.getBattleUnit col row = b.getBattleUnit col row := by
  rw [getBattleUnit, getBattleUnit, battleUnit, battleUnit, cells]

/-- A cell that is set aside leaves the units at other places. -/
lemma clearCell_getBattleUnit (b : Engine) {c : Nat × Nat} {col row : Nat}
    (other : cellIndex c ≠ cellIndex (col, row)) :
    (b.clearCell c).getBattleUnit col row = b.getBattleUnit col row := by
  rw [getBattleUnit, getBattleUnit, clearCell_battleUnit, if_neg (Ne.symm other)]

/-- What the items and the animations need is not the place of a unit. -/
lemma giveItemDropped_error {halt : Halt} (run : b.giveItemDropped = .error halt) : halt = .noReceiver := by
  rw [giveItemDropped] at run
  split at run
  · cases run
  · split at run <;> cases run
    rfl

/-- The check for the end fails for want of a receiver only. -/
lemma battleConcluded_error {halt : Halt} (run : b.battleConcluded = .error halt) : halt = .noReceiver := by
  rw [battleConcluded] at run
  split at run
  · cases run
  · rcases bind_eq_error.mp run with give | ⟨b₁, -, run⟩
    · exact giveItemDropped_error give
    · cases run

/-- The drops fail for want of a receiver only. -/
lemma giveAfterKill_error {halt : Halt} (run : b.giveAfterKill = .error halt) : halt = .noReceiver := by
  rw [giveAfterKill] at run
  split at run
  · exact giveItemDropped_error run
  · cases run

/-- A list is taken without its attacker only to redirect its first action. -/
lemma takeList_error {i : Nat} {halt : Halt} (run : b.takeList i = .error halt) :
    ∃ action ∈ (b.actions i).head?, b.needRedirectTarget action ∧ b.getAttacker action = none := by
  rw [takeList] at run
  cases list : b.actions i with
  | nil =>
    rw [list] at run
    cases run
  | cons action rest =>
    rw [list] at run
    simp only at run
    split at run
    · next need =>
      refine ⟨action, rfl, need, ?_⟩
      cases attacker : b.getAttacker action with
      | none => rfl
      | some u =>
        rw [redirectTarget_some _ attacker] at run
        cases run
    · cases run

/-- The next list reads an empty cell only when it is taken. -/
lemma nextActions_error {site : Site} (run : b.nextActions = .error (.null site)) :
    ∃ b₁, Quiet b b₁ ∧ ∃ i, b₁.firstList = some i ∧ b₁.takeList i = .error (.null site) := by
  rw [nextActions] at run
  rcases bind_eq_error.mp run with give | ⟨b₁, give, run⟩
  · cases giveAfterKill_error give
  · refine ⟨b₁, giveAfterKill_quiet give, ?_⟩
    split at run
    · cases run
    · next i first =>
      rcases bind_eq_error.mp run with take | ⟨taken, -, run⟩
      · exact ⟨i, first, take⟩
      · cases run

/-- An update reads through an empty cell only to redirect the first action that waits. -/
lemma updateBattleAction_error {site : Site} (run : b.updateBattleAction = .error (.null site)) :
    b.Sends ∧ ∃ i, b.firstList = some i ∧
      ∃ action ∈ (b.actions i).head?, b.needRedirectTarget action ∧ b.getAttacker action = none := by
  rw [updateBattleAction] at run
  split at run
  · cases run
  · next noItems =>
    rcases bind_eq_error.mp run with conclude | ⟨⟨concluded, b₁⟩, conclude, run⟩
    · cases battleConcluded_error conclude
    · obtain ⟨quiet, animation, goes⟩ := battleConcluded_cases conclude
      simp only at run
      split at run
      · cases run
      · next running =>
        split at run
        · cases run
        · next resolving =>
          split at run
          · cases run
          · next animated =>
            have still : b.animationTime = 0 := by omega
            have given : b.animationTimeItemDropped = 0 := by omega
            obtain ⟨b₂, quiet', i, first, take⟩ := nextActions_error run
            rw [quiet.sameTurn.waitForAction, Bool.not_eq_true] at resolving
            refine ⟨⟨given, still, resolving, goes (Bool.eq_false_of_not_eq_true running) given still⟩, i, ?_⟩
            have taken := takeList_error take
            obtain ⟨_, _, _, _, rfl⟩ := quiet.trans quiet'
            exact ⟨first, taken⟩

end Engine

/-- The hits that are applied. -/
def Control.hitting : Control → Option Hits
  | .hits h => some h
  | _ => none

namespace Combat

open Engine

variable {rules : Rules} {s s' : Combat}

/-- The action that is performed next, and whether it is linked. -/
def nextAct (s : Combat) : Option (BattleAction × Bool) :=
  match s.control with
  | .group g => g.rest.head?.map fun action => (action, g.linked || !g.rest.tail.isEmpty)
  | _ => none

/-- Hits that empty their places one after the other leave the places of the attacker and of the hits to come. -/
def Apart (action : BattleAction) (hits : List BattleAction) : Prop :=
  hits.Pairwise fun x y => cellIndex x.tgtCell ≠ cellIndex y.tgtCell ∧ cellIndex x.tgtCell ≠ cellIndex action.atkCell

instance (action : BattleAction) (hits : List BattleAction) : Decidable (Apart action hits) :=
  inferInstanceAs (Decidable (hits.Pairwise _))

/-- The cells that an action reads are occupied, and a capture empties none that is still to be read. -/
abbrev ActOccupied (rules : Rules) (b : Engine) (action : BattleAction) (linked : Bool) (dice : ActDice) : Prop :=
  if action.skill = spellEscape ∧ 65 < dice.escape then
    (b.getBattleUnit (escapeCol action.atkCol) action.atkRow).isSome = true
  else
    (action.skill = spellCatch ∨ action.skill = spellCatch2 → (b.getVictim action).isSome) ∧
      ∀ sinfo ∈ rules.spellTemplate action.skill,
        (sinfo.hitsPrimary → (b.getVictim action).isSome) ∧
          (b.captures action dice → Apart action (b.parseSpell action sinfo.hit linked))

/-- An attack is queued from a cell of the grid, an action that is redirected has an attacker, and one that is
performed finds the cells occupied. -/
def Occupied (rules : Rules) (s : Combat) : Event → Prop
  | .attack p action =>
    p ∈ s.engine.playerList → s.engine.isActionComplete = false → InGrid action.atkCell
  | .update =>
    s.engine.Sends → ∀ i ∈ s.engine.firstList, ∀ action ∈ (s.engine.actions i).head?,
      s.engine.needRedirectTarget action → (s.engine.getAttacker action).isSome
  | .act dice =>
    ∀ x ∈ s.nextAct, ∀ u ∈ s.engine.getAttacker x.1, (s.engine.units u).isDead = false →
      (s.engine.units u).isDisabled = false → x.1.skill ≠ spellDefense → ActOccupied rules s.engine x.1 x.2 dice
  | _ => True

instance (b : Engine) : Decidable b.Sends := inferInstanceAs (Decidable (_ ∧ _ ∧ _ ∧ _))

instance (rules : Rules) (s : Combat) : DecidablePred (Occupied rules s)
  | .attack p action => inferInstanceAs (Decidable (p ∈ s.engine.playerList → s.engine.isActionComplete = false →
      InGrid action.atkCell))
  | .update => inferInstanceAs (Decidable (s.engine.Sends → ∀ i ∈ s.engine.firstList,
      ∀ action ∈ (s.engine.actions i).head?,
        s.engine.needRedirectTarget action → (s.engine.getAttacker action).isSome))
  | .act dice => inferInstanceAs (Decidable (∀ x ∈ s.nextAct, ∀ u ∈ s.engine.getAttacker x.1,
      (s.engine.units u).isDead = false → (s.engine.units u).isDisabled = false → x.1.skill ≠ spellDefense →
        ActOccupied rules s.engine x.1 x.2 dice))
  | .petCommand _ _ _ | .useItem _ | .leave _ | .tick | .build _ | .hit _ | .finish | .conclude =>
    inferInstanceAs (Decidable True)

/-- The hits that are left are on occupied cells, also after the cells of a capture are cleared. -/
structure HitsOccupied (b : Engine) (h : Hits) : Prop where
  attackers : ∀ x ∈ h.pending, (b.getAttacker x).isSome
  victims : ∀ x ∈ h.pending, (b.getVictim x).isSome
  cleared : h.catched = true → h.pending.Pairwise fun x y =>
    cellIndex x.tgtCell ≠ cellIndex y.tgtCell ∧ cellIndex x.tgtCell ≠ cellIndex y.atkCell

/-- A step reads no empty cell, and leaves no hit on one. -/
def Sound : Except Halt Combat → Prop
  | .error (.null _) => False
  | .error _ => True
  | .ok s => ∀ h ∈ s.control.hitting, HitsOccupied s.engine h

/-- A step that halts elsewhere reads no empty cell. -/
lemma sound_error {halt : Halt} (other : ∀ site, halt ≠ .null site) : Sound (.error halt) := by
  cases halt with
  | null site => exact other site rfl
  | _ => trivial

/-- A step that leaves no hit leaves none on an empty cell. -/
lemma sound_of_control (control : s'.control.hitting = none) : Sound (.ok s') := by
  intro h eq
  rw [control] at eq
  cases eq

/-- Counting leaves no hit. -/
lemma counted_control (s : Combat) : s.counted.control.hitting = none := by
  show (if _ then _ else _ : Control).hitting = none
  split <;> rfl

/-- The loop over the hits goes on with the hits that are left. -/
lemma resume_hitting {h h' : Hits} (eq : h' ∈ (Control.resume h).hitting) : h' = h := by
  rw [Control.resume] at eq
  split at eq
  · cases eq
  · cases eq
    rfl

/-- The hits of an action that is performed. -/
lemma listed_occupied {b b' : Engine} {action : BattleAction} {dice : ActDice} {catched : Bool} {u : Nat}
    {sinfo : SpellInfo} {linked : Bool} (attacker : b.getAttacker action = some u)
    (caught : b.catchPet action dice = .ok (b', catched))
    (primary : sinfo.hitsPrimary → (b.getVictim action).isSome)
    (apart : b.captures action dice → Apart action (b.parseSpell action sinfo.hit linked)) (g : Group) :
    HitsOccupied b' ⟨b'.parseSpell action sinfo.hit linked, sinfo, catched, g⟩ := by
  obtain ⟨cells, dead, captures⟩ := catchPet_grid caught
  have strikes : ∀ x ∈ b.parseSpell action sinfo.hit linked, b.Strikes action x :=
    fun x => parseSpell_strikes primary
  rw [parseSpell_congr cells dead]
  refine ⟨fun x mem => ?_, fun x mem => ?_, fun got => ?_⟩
  · rw [getAttacker, getBattleUnit_congr cells]
    show (b.getAttacker x).isSome = true
    rw [getAttacker_of_cell b (strikes x mem).1, attacker]
    rfl
  · rw [getVictim, getBattleUnit_congr cells]
    exact (strikes x mem).2
  · refine (apart (captures got)).imp_of_mem fun {x y} _ mem both => ⟨both.1, ?_⟩
    rw [(strikes y mem).1]
    exact both.2

/-- An attack packet reads no empty cell. -/
lemma handlePlayerAttack_sound (idle : s.control = .idle) (p : Nat) (action : BattleAction) :
    Sound (s.handlePlayerAttack rules p action) := by
  have still : Sound (.ok s) := sound_of_control (by rw [idle]; rfl)
  rw [handlePlayerAttack]
  split
  · exact still
  · split
    · trivial
    · simp only
      split
      · exact still
      · exact sound_of_control (counted_control _)

/-- An action reads no empty cell when its hits are on occupied ones. -/
lemma act_sound {g : Group} {action : BattleAction} {dice : ActDice}
    (occupied : ∀ u ∈ s.engine.getAttacker action, (s.engine.units u).isDead = false →
      (s.engine.units u).isDisabled = false → action.skill ≠ spellDefense →
        ActOccupied rules s.engine action (g.linked || !g.rest.isEmpty) dice) :
    Sound (s.act rules g action dice) := by
  rw [act]
  split
  · exact sound_of_control rfl
  · next u attacker =>
    simp only
    split
    · exact sound_of_control rfl
    · next active =>
      rw [Bool.or_eq_true, not_or, Bool.not_eq_true, Bool.not_eq_true] at active
      split
      · exact sound_of_control rfl
      · next attacks =>
        have there := occupied u attacker active.1 active.2 attacks
        rw [ActOccupied] at there
        split
        · next flees =>
          rw [if_pos flees] at there
          obtain ⟨v, cell⟩ := Option.isSome_iff_exists.mp there
          rw [escaped, cell]
          simp only
          split
          · exact sound_of_control rfl
          · trivial
        · next stays =>
          rw [if_neg stays] at there
          rw [buildUpdateBlockAction]
          cases caught : s.engine.catchPet action dice with
          | error halt => exact sound_error (catchPet_error attacker there.1 caught)
          | ok res =>
            obtain ⟨b, catched⟩ := res
            simp only [bind, Except.bind]
            split
            · trivial
            · next sinfo template =>
              obtain ⟨primary, apart⟩ := there.2 sinfo template
              intro h eq
              cases resume_hitting eq
              exact listed_occupied attacker caught primary apart
                { g with linked := g.linked || !g.rest.isEmpty, skillId := action.skill, valid := true }

/-- A hit moves nobody. -/
lemma spellMod_cells (s : Combat) (h : Hits) (hit : BattleAction) (attacker victim : Nat) (dice : HitDice) :
    (s.spellMod h hit attacker victim dice).engine.m_battleUnit = s.engine.m_battleUnit := by
  rcases spellMod_cases s h hit attacker victim dice with eq | ⟨unit, -, eq | ⟨-, -, eq⟩⟩
  · rw [eq]
  · rw [eq]
    rfl
  · obtain ⟨items, kills, drops, paid, -⟩ :=
      reward_cases { s with engine := s.engine.setUnit victim unit } hit attacker victim dice.drop
    rw [eq, paid]
    rfl

/-- A hit finds its cells occupied, and so will the hits after it. -/
lemma hit_sound {hit : BattleAction} {pending : List BattleAction} {sinfo : SpellInfo} {catched : Bool} {g : Group}
    (occupied : HitsOccupied s.engine ⟨hit :: pending, sinfo, catched, g⟩) (dice : HitDice) :
    Sound (s.hit ⟨hit :: pending, sinfo, catched, g⟩ hit dice) := by
  obtain ⟨attacker, at'⟩ := Option.isSome_iff_exists.mp (occupied.attackers hit List.mem_cons_self)
  obtain ⟨victim, against⟩ := Option.isSome_iff_exists.mp (occupied.victims hit List.mem_cons_self)
  rw [Combat.hit, at', against]
  intro h eq
  cases resume_hitting eq
  have cells := spellMod_cells s ⟨hit :: pending, sinfo, catched, g⟩ hit attacker victim dice
  simp only
  split
  · next got =>
    obtain ⟨others, rest⟩ := List.pairwise_cons.mp (occupied.cleared got)
    refine ⟨fun x mem => ?_, fun x mem => ?_, fun _ => rest⟩
    · rw [getAttacker, clearCell_getBattleUnit _ (others x mem).2, getBattleUnit_congr cells]
      exact occupied.attackers x (List.mem_cons_of_mem hit mem)
    · rw [getVictim, clearCell_getBattleUnit _ (others x mem).1, getBattleUnit_congr cells]
      exact occupied.victims x (List.mem_cons_of_mem hit mem)
  · next missed =>
    refine ⟨fun x mem => ?_, fun x mem => ?_, fun got => absurd got missed⟩
    · rw [getAttacker, getBattleUnit_congr cells]
      exact occupied.attackers x (List.mem_cons_of_mem hit mem)
    · rw [getVictim, getBattleUnit_congr cells]
      exact occupied.victims x (List.mem_cons_of_mem hit mem)

/-- An update reads no empty cell if the first action that waits is redirected with its attacker. -/
lemma update_sound (occupied : Occupied rules s .update) :
    Sound (s.engine.updateBattleAction.map fun res => { s with engine := res.1, control := res.2 }) := by
  cases update : s.engine.updateBattleAction with
  | error halt =>
    refine sound_error fun site null => ?_
    subst null
    obtain ⟨sends, i, first, action, head, need, none⟩ := updateBattleAction_error update
    have there := occupied sends i first action head need
    rw [none] at there
    cases there
  | ok res =>
    obtain ⟨b, control⟩ := res
    refine sound_of_control ?_
    rcases updateBattleAction_cases update with ⟨-, eq | eq⟩ | ⟨-, b₁, -, ⟨-, -, eq⟩ | ⟨i, g, -, -, eq⟩⟩
    · exact congrArg Control.hitting eq
    · exact congrArg Control.hitting eq
    · exact congrArg Control.hitting eq
    · exact congrArg Control.hitting eq

/-- A step on occupied cells reads no empty one, and leaves the hits occupied. -/
lemma step_sound {e : Event} (before : ∀ h ∈ s.control.hitting, HitsOccupied s.engine h)
    (occupied : Occupied rules s e) : Sound (step rules s e) := by
  rw [step.eq_def]
  split
  · next idle => exact handlePlayerAttack_sound idle _ _
  · next idle =>
    rw [handlePetCommand]
    split
    · exact sound_of_control (by rw [idle]; rfl)
    · split
      · exact sound_of_control (by rw [idle]; rfl)
      · exact sound_of_control (counted_control _)
  · next idle =>
    rw [handleUseItem]
    split
    · exact sound_of_control (by rw [idle]; rfl)
    · exact sound_of_control (counted_control _)
  · next idle =>
    rw [leave]
    split
    · exact sound_of_control (by rw [idle]; rfl)
    · exact sound_of_control (by rw [idle]; rfl)
  · rw [tick]
    split
    · refine sound_of_control ?_
      simp only
      split <;> rfl
    · exact sound_of_control rfl
  · rw [build]
    split
    · trivial
    · refine sound_of_control ?_
      simp only
      split <;> rfl
  · exact update_sound occupied
  · next control =>
    refine act_sound (occupied (_, _) ?_)
    rw [nextAct, control]
    rfl
  · exact sound_of_control rfl
  · next control => exact hit_sound (before _ (congrArg Control.hitting control)) _
  · rw [conclude]
    cases ends : s.engine.battleConcluded with
    | error halt => exact sound_error fun site null => by cases null.symm.trans (battleConcluded_error ends)
    | ok res =>
      refine sound_of_control ?_
      simp only
      split <;> rfl
  · trivial

/-- No empty cell: after a run on occupied cells, a further step on occupied cells reads through no null pointer. -/
theorem noNull_of_reaches {b : Engine} (ready : Ready b) (run : Runs rules (Occupied rules) (start b) s) {e : Event}
    (occupied : Occupied rules s e) (site : Site) : step rules s e ≠ .error (.null site) := by
  have before : ∀ h ∈ s.control.hitting, HitsOccupied s.engine h := by
    refine Runs.induct (P := fun s => ∀ h ∈ s.control.hitting, HitsOccupied s.engine h) run (start_staffed ready)
      (fun h mem => by cases mem) ?_
    intro s₁ s₂ e₁ _ before allowed next
    have sound := step_sound before allowed
    rw [next] at sound
    exact sound
  intro null
  have sound := step_sound before occupied
  rw [null] at sound
  exact sound

/-- The player of the duel attacks, and the first action is taken. -/
def firstAct : List Event := [.attack 1 ⟨3, 2, spellBasic, 0, 2, 0⟩, .build (evenDice 70), .tick, .update]

/-- The first action of the duel is performed. -/
theorem noNull_duel :
    ∃ s, Runs basicRules (Occupied basicRules) (start duel) s ∧ s.control.acts.length = 1 ∧
      ∀ site, step basicRules s (.act ⟨0, 0, none⟩) ≠ .error (.null site) := by
  have run : Runs basicRules (Occupied basicRules) (start duel) _ :=
    reaches_of_exec firstAct (by decide +kernel) rfl
  exact ⟨_, run, rfl, noNull_of_reaches ready_duel run (by decide +kernel)⟩

/-- The player stands with its pet before two slow creatures. -/
def restDuel : Engine := { petDuel with
  units := fun u =>
    if u = 1 then { fighter .player 40 with pets := [2], battlePet := some 2 }
    else if u = 2 then fighter (.pet 1) 25
    else fighter .creature 5
  m_battleUnit := Function.update petDuel.m_battleUnit (cellIndex (0, 3)) (some 11) }

/-- The duel with the resting pet is ready. -/
lemma ready_restDuel : Ready restDuel :=
  ready_of_herd 3 (fun _ le => (if_neg (Nat.ne_of_gt (Nat.lt_of_succ_lt le))).trans (if_neg (Nat.ne_of_gt le)))
    (by decide) (by decide) rfl (fun _ => rfl) (by decide)

/-- The player and its pet attack a creature, and the pet is rested before the player kills it. -/
def rested : List Event :=
  [.attack 1 ⟨3, 2, spellBasic, 0, 2, 0⟩, .attack 1 ⟨2, 2, spellBasic, 0, 2, 0⟩, .build (evenDice 70),
    .petCommand 1 .rest false, .tick, .update, .act ⟨0, 0, none⟩, .hit ⟨100, 0, none⟩, .finish, .conclude] ++
    (List.replicate 12 [.tick, .update, .conclude]).flatten ++ [.tick]

/-- After the run of the example the next action to redirect is that of a cell that is empty. -/
lemma rested_run :
    (exec (fun s e => (step basicRules s e).toOption) (start restDuel) rested).map (fun s =>
      match step basicRules s .update with
      | .error halt => decide (halt = .null .redirectTarget)
      | .ok _ => false) = some true := by
  decide +kernel

/-- The attack of the rested pet is redirected, and the name of its attacker is read through a null pointer. -/
theorem not_noNull_rested :
    ¬∀ (rules : Rules) (b : Engine) (s : Combat) (e : Event) (site : Site), Ready b →
      Runs rules (fun _ _ => True) (start b) s → step rules s e ≠ .error (.null site) := by
  intro noNull
  obtain ⟨s, reached, last⟩ := Option.map_eq_some_iff.mp rested_run
  have run : Runs basicRules (fun _ _ => True) (start restDuel) s := reaches_of_exec _ (along_true _ _) reached
  cases update : step basicRules s .update with
  | error halt =>
    rw [update] at last
    rw [of_decide_eq_true last] at update
    exact noNull basicRules restDuel s .update .redirectTarget ready_restDuel run update
  | ok s' =>
    rw [update] at last
    cases last

end Combat

end Legacy.Battle
