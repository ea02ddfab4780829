import Legacy.Battle.SpellArea

/-!
# Redirected actions

`RedirectTarget` looks for a living unit on the side that is not the attacker's, whatever the action is for.
`redirectTarget_keeps_iff` says when the action keeps its side: an action against the other side always does,
and one for an ally only when nobody is left to be turned against.
-/

namespace Legacy.Battle
open Legacy.Lib

/-- The cells that a redirected action is turned to. -/
def Engine.foeCells (col : Nat) : List (Nat × Nat) := if isDefPos col then attackerCells else defenderCells

namespace Engine

variable {b : Engine} {action new : BattleAction}

/-- The cells of a side, by their column. -/
lemma mem_sideCells {c : Nat × Nat} {col : Nat} (inGrid : InGrid c) (side : isDefPos c.1 = isDefPos col) :
    c ∈ sideCells col := by
  have all : ∀ c ∈ defenderCells ++ attackerCells, c ∈ sideCells c.1 := by decide
  have mem := all c (mem_cells inGrid)
  rwa [sideCells, side] at mem

/-- The cells of the foes are on the other side. -/
lemma foeCells_side {c : Nat × Nat} {col : Nat} (mem : c ∈ foeCells col) : isDefPos c.1 ≠ isDefPos col := by
  have attackers : ∀ c ∈ attackerCells, isDefPos c.1 = false := by decide
  have defenders : ∀ c ∈ defenderCells, isDefPos c.1 = true := by decide
  rw [foeCells] at mem
  split at mem
  · next defends =>
    rw [attackers c mem, defends]
    decide
  · next attacks =>
    rw [defenders c mem, Bool.eq_false_of_not_eq_true attacks]
    decide

/-- The cells of a target on the other side. -/
lemma foeCells_eq {col col' : Nat} (apart : isDefPos col' ≠ isDefPos col) : foeCells col = sideCells col' := by
  rw [foeCells, sideCells]
  cases side : isDefPos col with
  | true =>
    have other := Bool.eq_false_of_not_eq_true (side ▸ apart)
    rw [other]
    rfl
  | false =>
    have other : isDefPos col' = true := by
      rw [side] at apart
      exact Bool.eq_true_of_not_eq_false apart
    rw [other]
    rfl

/-- The new target is the first of the foes that stands. -/
lemma redirected_eq (b : Engine) (action : BattleAction) :
    b.redirected action = ((foeCells action.atkCol).find? b.standing).elim action action.withTarget := by
  rw [redirected]
  split
  · next found =>
    have found' : (foeCells action.atkCol).find? b.standing = none := found
    rw [found', Option.elim_none]
  · next c found =>
    have found' : (foeCells action.atkCol).find? b.standing = some c := found
    rw [found', Option.elim_some]

/-- A living unit is found, or nobody is alive and the action stays as it is. -/
lemma redirected_cases (b : Engine) (action : BattleAction) :
    (∃ c ∈ foeCells action.atkCol, b.standing c ∧ b.redirected action = action.withTarget c) ∨
      ((foeCells action.atkCol).any b.standing = false ∧ b.redirected action = action) := by
  rw [redirected_eq]
  cases found : (foeCells action.atkCol).find? b.standing with
  | some c => exact .inl ⟨c, List.mem_of_find?_eq_some found, List.find?_some found, rfl⟩
  | none =>
    refine .inr ⟨?_, rfl⟩
    rw [List.any_eq_false]
    exact List.find?_eq_none.mp found

/-- The new target is on the side of the old one, and a living unit of it if there is one. -/
structure KeepsMeaning (b : Engine) (action new : BattleAction) : Prop where
  sameSide : isDefPos new.tgtCol = isDefPos action.tgtCol
  living : (sideCells action.tgtCol).any b.standing = true →
    new.tgtCell ∈ sideCells action.tgtCol ∧ b.standing new.tgtCell = true

/-- The action is against the other side; or nobody there is alive, and its own side is dead too or its target
is alive. -/
def RedirectKeeps (b : Engine) (action : BattleAction) : Prop :=
  isDefPos action.tgtCol ≠ isDefPos action.atkCol ∨
    (foeCells action.atkCol).any b.standing = false ∧
      ((sideCells action.tgtCol).any b.standing = false ∨ b.standing action.tgtCell = true)

/-- Redirection keeps the meaning of an action exactly in these cases. -/
theorem redirectTarget_keeps_iff (occupied : (b.getAttacker action).isSome) (target : InGrid action.tgtCell) :
    Sat (b.redirectTarget action) (b.KeepsMeaning action) ↔ b.RedirectKeeps action := by
  obtain ⟨u, cell⟩ := Option.isSome_iff_exists.mp occupied
  rw [redirectTarget, cell, sat_ok, RedirectKeeps]
  by_cases apart : isDefPos action.tgtCol ≠ isDefPos action.atkCol
  · refine iff_of_true ?_ (.inl apart)
    have cells := foeCells_eq apart
    rcases redirected_cases b action with ⟨c, mem, standing, eq⟩ | ⟨nobody, eq⟩
    · have side : isDefPos c.1 = isDefPos action.tgtCol :=
        (Bool.eq_not_of_ne (foeCells_side mem)).trans (Bool.eq_not_of_ne apart).symm
      rw [eq]
      exact ⟨side, fun _ => ⟨cells ▸ mem, standing⟩⟩
    · rw [eq]
      refine ⟨rfl, fun someone => ?_⟩
      rw [← cells, nobody] at someone
      cases someone
  · have own : isDefPos action.tgtCol = isDefPos action.atkCol := not_not.mp apart
    rcases redirected_cases b action with ⟨c, mem, standing, eq⟩ | ⟨nobody, eq⟩
    · rw [eq]
      refine iff_of_false (fun keeps => ?_) (fun keeps => ?_)
      · exact foeCells_side mem (keeps.sameSide.trans own)
      · rcases keeps with other | ⟨nobody, -⟩
        · exact apart other
        · exact List.any_eq_false.mp nobody c mem standing
    · rw [eq]
      constructor
      · intro keeps
        refine .inr ⟨nobody, ?_⟩
        cases someone : (sideCells action.tgtCol).any b.standing with
        | false => exact .inl rfl
        | true => exact .inr (keeps.living someone).2
      · rintro (other | ⟨-, dead | standing⟩)
        · exact absurd other apart
        · refine ⟨rfl, fun someone => ?_⟩
          rw [dead] at someone
          cases someone
        · exact ⟨rfl, fun _ => ⟨mem_sideCells target rfl, standing⟩⟩

/-- The pet of the player has fallen behind it. -/
def fallen : Engine := { faced with
  units := fun u => if u = 2 then { fighter (.pet 1) 25 with hp := 0, deathState := .dead } else faced.units u
  m_battleUnit := Function.update faced.m_battleUnit (cellIndex (3, 2)) (some 2) }

/-- An attack on an empty cell of the defenders is turned against the creature. -/
theorem redirectTarget_keeps_fallen :
    Sat (fallen.redirectTarget ⟨2, 2, spellBasic, 0, 2, 20⟩) (fallen.KeepsMeaning ⟨2, 2, spellBasic, 0, 2, 20⟩) :=
  (redirectTarget_keeps_iff (by decide) (by decide)).mpr (.inl (by decide))

/-- A spell that magnifies the fallen pet is turned on the creature. -/
theorem not_redirectTarget_keeps :
    ¬∀ (b : Engine) (action : BattleAction), InGrid action.atkCell → (b.getAttacker action).isSome →
      InGrid action.tgtCell → Sat (b.redirectTarget action) (b.KeepsMeaning action) := by
  intro keeps
  obtain ⟨new, run, keeps⟩ := sat_iff.mp
    (keeps fallen ⟨2, 2, 13012, 3, 2, 20⟩ (by decide) (by decide) (by decide))
  have turned : fallen.redirectTarget ⟨2, 2, 13012, 3, 2, 20⟩ = .ok ⟨2, 2, 13012, 1, 2, 20⟩ := rfl
  cases turned.symm.trans run
  cases keeps.sameSide

end Engine

end Legacy.Battle
