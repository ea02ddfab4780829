import Legacy.Unit.Experience
import Legacy.Lib.Reach

/-!
# The pending experience of a battle

Model of `Unit::AddKillExp`, `Unit::AddHitExp` and `Unit::AddExpGained(int32)` (`src/src/game/Unit.cpp`). The
floating-point arithmetic of the awards is given from outside. `grows_iff` says when the pending experience of a
fight is the sum of its awards: no kill may round to nothing while something is pending, and the sum has to fit.
-/

namespace Legacy.Unit
open Legacy.Lib

/-- The floating-point operations of the awards, in `double`; `single` cuts to `float`. -/
structure Floats (F : Type*) where
  ofInt : Int → F
  add : F → F → F
  mul : F → F → F
  /-- `0.1` -/
  tenth : F
  /-- `0.75` -/
  threeQuarters : F
  single : F → F
  /-- `(uint32) round(x)` -/
  round : F → UInt32

/-- The rates of the world (source `World::getRate`). -/
structure Rates (F : Type*) where
  /-- `RATE_XP_KILL` -/
  kill : F
  /-- `int32` of `RATE_XP_LOST` -/
  lost : Int

/-- The calls of a fight. -/
inductive FightCall where
  /-- source `Unit::AddKillExp` -/
  | kill (enemyLevel : Nat) (linked inTeam : Bool) (lowestLevelInGroup lowerLevelCount : Nat)
  /-- source `Unit::AddHitExp` -/
  | hit (enemyLevel : Nat) (linked : Bool)
  deriving DecidableEq, Repr

/-- The call is for a hit. -/
def FightCall.isHit : FightCall → Bool
  | .kill .. => false
  | .hit .. => true

/-- source `SPELL_TEACHING` -/
abbrev spellTeaching : Nat := 14027

/-- source `SPELL_UNITED` -/
abbrev spellUnited : Nat := 14028

namespace Growth

/-- source `Unit::FindSpell` -/
def findSpell (u : Growth) (entry : Nat) : Option Spell := u.spells.find? fun s => s.entry = entry

/-- Books a gain, resets it, or takes a loss (source `Unit::AddExpGained(int32)`). -/
def addPending (lost : Int) (u : Growth) (xp : Int) : Growth :=
  if xp = 0 then { u with tmpXp := 0 }
  else if xp < 0 then { u with tmpXp := i32 (xp * lost) }
  else { u with tmpXp := i32 (u.tmpXp + xp) }

section
variable {F : Type*} (fl : Floats F) (rates : Rates F)

/-- The experience of a kill before the rate (source, in `Unit::AddKillExp`). -/
def killXp (u : Growth) (enemyLevel : Nat) (linked inTeam : Bool) (lowestLevelInGroup lowerLevelCount : Nat) : F :=
  let level : Int := u8 u.level
  let diffLevel : Int := u8 enemyLevel - level
  let base := fl.ofInt (if 0 < diffLevel then diffLevel else 2)
  let xp :=
    if 15 < level - u8 enemyLevel then fl.ofInt 0
    else if linked then fl.single (fl.add base (fl.mul base fl.tenth))
    else fl.single base
  if (u.findSpell spellUnited).isSome && u.type = .player && inTeam then
    let xp := fl.single (fl.add xp (fl.mul xp fl.tenth))
    let diff := u8 (level - u8 lowestLevelInGroup).natAbs
    if (u.findSpell spellTeaching).isSome && inTeam && 10 < diff then
      fl.single (fl.add xp (fl.mul (fl.mul (fl.ofInt diff) fl.threeQuarters) (fl.ofInt (u8 lowerLevelCount))))
    else xp
  else xp

/-- The award of a kill, a `uint32`. -/
def killAward (u : Growth) (enemyLevel : Nat) (linked inTeam : Bool) (lowestLevelInGroup lowerLevelCount : Nat) : Nat :=
  let xp := killXp fl u enemyLevel linked inTeam lowestLevelInGroup lowerLevelCount
  (fl.round (fl.single (fl.mul xp rates.kill))).toNat

/-- The award of a hit, a `uint32`. -/
def hitAward : Nat := (fl.round (fl.single (fl.mul (fl.ofInt 1) rates.kill))).toNat

/-- source `Unit::AddKillExp` -/
def addKillExp (u : Growth) (enemyLevel : Nat) (linked inTeam : Bool) (lowestLevelInGroup lowerLevelCount : Nat) :
    Growth :=
  if 200 ≤ u8 u.level then u
  else u.addPending rates.lost (i32 (killAward fl rates u enemyLevel linked inTeam lowestLevelInGroup lowerLevelCount))

/-- source `Unit::AddHitExp` -/
def addHitExp (u : Growth) (enemyLevel : Nat) (_linked : Bool) : Growth :=
  if 200 ≤ u8 u.level then u
  else if 15 < (u8 u.level : Int) - u8 enemyLevel then u
  else if u.tmpXp ≠ 0 then u
  else u.addPending rates.lost (i32 (hitAward fl rates))

/-- What a call does to the experience that waits. -/
def fight (u : Growth) : FightCall → Growth
  | .kill enemyLevel linked inTeam lowestLevelInGroup lowerLevelCount =>
    addKillExp fl rates u enemyLevel linked inTeam lowestLevelInGroup lowerLevelCount
  | .hit enemyLevel linked => addHitExp fl rates u enemyLevel linked

/-- What a call is worth; `none` if the level of the unit is too high for it. -/
def worth (u : Growth) : FightCall → Option Nat
  | .kill enemyLevel linked inTeam lowestLevelInGroup lowerLevelCount =>
    if 200 ≤ u8 u.level then none
    else some (killAward fl rates u enemyLevel linked inTeam lowestLevelInGroup lowerLevelCount)
  | .hit enemyLevel _ =>
    if 200 ≤ u8 u.level ∨ 15 < (u8 u.level : Int) - u8 enemyLevel then none else some (hitAward fl rates)

/-- The pending experience does not shrink. -/
def Rises (u : Growth) (c : FightCall) : Prop := u.tmpXp ≤ (fight fl rates u c).tmpXp

/-- What the kills among the calls are worth together. -/
def killSum (u : Growth) (calls : List FightCall) : Nat :=
  (calls.map fun c => if c.isHit then 0 else (worth fl rates u c).getD 0).sum

/-- A fight in which the pending experience never shrinks, and that ends with the sum of the kills and at most one
hit. -/
structure Grows (u : Growth) (calls : List FightCall) : Prop where
  rises : Along (fun u c => some (fight fl rates u c)) (Rises fl rates) u calls
  total : ∃ h : Nat, (h = 0 ∨ ∃ c ∈ calls, c.isHit ∧ worth fl rates u c = some h) ∧
    (calls.foldl (fight fl rates) u).tmpXp = killSum fl rates u calls + h

/-- A kill that is worth nothing finds nothing pending, and what a kill or the first hit is worth can be added. -/
def Fits (u : Growth) (c : FightCall) : Prop :=
  ∀ xp ∈ worth fl rates u c,
    if c.isHit then u.tmpXp = 0 → xp < 2 ^ 31 ∨ i32 (i32 xp * rates.lost) = 0
    else (xp = 0 → u.tmpXp = 0) ∧ u.tmpXp + xp < 2 ^ 31

instance (u : Growth) (c : FightCall) : Decidable (Rises fl rates u c) :=
  inferInstanceAs (Decidable (u.tmpXp ≤ (fight fl rates u c).tmpXp))

instance (u : Growth) (c : FightCall) : Decidable (Fits fl rates u c) :=
  inferInstanceAs (Decidable (∀ xp ∈ worth fl rates u c,
    if c.isHit then u.tmpXp = 0 → xp < 2 ^ 31 ∨ i32 (i32 xp * rates.lost) = 0
    else (xp = 0 → u.tmpXp = 0) ∧ u.tmpXp + xp < 2 ^ 31))

variable {fl rates} {u : Growth} {c : FightCall} {calls : List FightCall} {xp : Nat}

/-- What a kill or a hit is worth fits into 32 bits. -/
lemma worth_lt (some : worth fl rates u c = some xp) : xp < 2 ^ 32 := by
  cases c with
  | kill =>
    rw [worth] at some
    split at some
    · cases some
    · exact Option.some.inj some ▸ UInt32.toNat_lt _
  | hit =>
    rw [worth] at some
    split at some
    · cases some
    · exact Option.some.inj some ▸ UInt32.toNat_lt _

/-- A call that is worth nothing to the unit does nothing. -/
lemma fight_of_none (none : worth fl rates u c = none) : fight fl rates u c = u := by
  cases c with
  | kill enemyLevel linked inTeam lowestLevelInGroup lowerLevelCount =>
    rw [worth] at none
    split at none
    · next high => exact if_pos high
    · cases none
  | hit enemyLevel linked =>
    rw [worth] at none
    split at none
    · next high =>
      rw [fight, addHitExp]
      rcases high with high | low
      · rw [if_pos high]
      · rw [if_pos low, ite_self]
    · cases none

/-- What a kill adds. -/
lemma fight_kill (some : worth fl rates u c = some xp) (kill : c.isHit = false) :
    fight fl rates u c = u.addPending rates.lost (i32 xp) := by
  cases c with
  | kill =>
    rw [worth] at some
    split at some
    · cases some
    · next low =>
      rw [← Option.some.inj some]
      exact if_neg low
  | hit => cases kill

/-- What a hit adds. -/
lemma fight_hit (some : worth fl rates u c = some xp) (hit : c.isHit = true) :
    xp = hitAward fl rates ∧ fight fl rates u c = if u.tmpXp ≠ 0 then u else u.addPending rates.lost (i32 xp) := by
  cases c with
  | kill => cases hit
  | hit =>
    rw [worth] at some
    split at some
    · cases some
    · next low =>
      cases some
      rw [not_or] at low
      rw [fight, addHitExp, if_neg low.1, if_neg low.2]
      exact ⟨rfl, rfl⟩

/-- A cast to 32 bits is in range. -/
lemma i32_lt (z : Int) : i32 z < 2 ^ 31 := by
  rw [i32]
  omega

/-- The cut of a `uint32` that does not fit is negative. -/
lemma i32_award (small : xp < 2 ^ 32) : i32 xp = if xp < 2 ^ 31 then (xp : Int) else xp - 2 ^ 32 := by
  rw [i32]
  split <;> omega

/-- Only the pending experience changes. -/
lemma addPending_eq (lost : Int) (u : Growth) (z : Int) :
    ∃ pending < 2 ^ 31, u.addPending lost z = { u with tmpXp := pending } := by
  rw [addPending]
  split
  · exact ⟨0, by decide, rfl⟩
  · split
    · exact ⟨_, i32_lt _, rfl⟩
    · exact ⟨_, i32_lt _, rfl⟩

variable (fl rates) in

/-- A call changes the pending experience only, and keeps it in range. -/
lemma fight_eq (small : u.tmpXp < 2 ^ 31) (c : FightCall) :
    ∃ pending < 2 ^ 31, fight fl rates u c = { u with tmpXp := pending } := by
  cases some : worth fl rates u c with
  | none => exact ⟨u.tmpXp, small, fight_of_none some⟩
  | some xp =>
    cases hit : c.isHit with
    | false =>
      rw [fight_kill some hit]
      exact addPending_eq ..
    | true =>
      rw [(fight_hit some hit).2]
      split
      · exact ⟨u.tmpXp, small, rfl⟩
      · exact addPending_eq ..

/-- What a call is worth does not depend on what is pending. -/
lemma worth_pending (u : Growth) (pending : Int) (c : FightCall) :
    worth fl rates { u with tmpXp := pending } c = worth fl rates u c := by
  cases c <;> rfl

/-- The sum of one more call. -/
lemma killSum_cons (u : Growth) (pending : Int) (c : FightCall) (calls : List FightCall) :
    killSum fl rates u (c :: calls) =
      (if c.isHit then 0 else (worth fl rates u c).getD 0) + killSum fl rates { u with tmpXp := pending } calls := by
  simp only [killSum, worth_pending, List.map_cons, List.sum_cons]

/-- A worth that fits is added. -/
lemma addPending_add {lost : Int} (small : xp < 2 ^ 31) (pos : 0 ≤ u.tmpXp) (fits : u.tmpXp + xp < 2 ^ 31)
    (zero : xp = 0 → u.tmpXp = 0) : (u.addPending lost (i32 xp)).tmpXp = u.tmpXp + xp := by
  rw [i32_award (by omega), if_pos small, addPending]
  split
  · next none =>
    have none : xp = 0 := by omega
    rw [zero none, none]
    rfl
  · rw [if_neg (by omega)]
    exact i32_of_range (by omega) (by omega)

/-- A `uint32` that does not fit into an `int32` is booked as a loss. -/
lemma addPending_lost (lost : Int) (big : 2 ^ 31 ≤ xp) (small : xp < 2 ^ 32) :
    (u.addPending lost (i32 xp)).tmpXp = i32 (i32 xp * lost) := by
  have negative : i32 xp < 0 := by
    rw [i32_award small, if_neg (by omega)]
    omega
  rw [addPending, if_neg negative.ne, if_pos negative]

/-- A call that fits adds what it is worth, a hit only if nothing is pending. -/
lemma fight_of_fits (pos : 0 ≤ u.tmpXp) (fits : Fits fl rates u c) :
    ∃ h : Nat, (h = 0 ∨ u.tmpXp = 0 ∧ c.isHit ∧ worth fl rates u c = some h) ∧
      (fight fl rates u c).tmpXp = u.tmpXp + (if c.isHit then 0 else (worth fl rates u c).getD 0 : Nat) + h := by
  cases some : worth fl rates u c with
  | none =>
    refine ⟨0, Or.inl rfl, ?_⟩
    rw [fight_of_none some]
    simp
  | some xp =>
    have fits := fits xp some
    cases hit : c.isHit with
    | false =>
      rw [hit, if_neg Bool.false_ne_true] at fits
      refine ⟨0, Or.inl rfl, ?_⟩
      rw [fight_kill some hit, addPending_add (by omega) pos fits.2 fits.1]
      simp
    | true =>
      rw [hit, if_pos rfl] at fits
      rw [(fight_hit some hit).2]
      split
      · exact ⟨0, Or.inl rfl, by simp⟩
      · next none =>
        have none := not_not.mp none
        rcases Nat.lt_or_ge xp (2 ^ 31) with small | big
        · refine ⟨xp, Or.inr ⟨none, rfl, rfl⟩, ?_⟩
          rw [addPending_add small pos (by omega) (fun _ => none)]
          simp
        · refine ⟨0, Or.inl rfl, ?_⟩
          rw [addPending_lost _ big (worth_lt some), (fits none).resolve_left (Nat.not_lt.mpr big), none]
          rfl

/-- A fight whose calls fit only adds up. -/
lemma along_of_fits (pos : 0 ≤ u.tmpXp) (small : u.tmpXp < 2 ^ 31)
    (fits : Along (fun u c => some (fight fl rates u c)) (Fits fl rates) u calls) :
    Along (fun u c => some (fight fl rates u c)) (Rises fl rates) u calls ∧
    ∃ h : Nat, (h = 0 ∨ u.tmpXp = 0 ∧ ∃ c ∈ calls, c.isHit ∧ worth fl rates u c = some h) ∧
      (calls.foldl (fight fl rates) u).tmpXp = u.tmpXp + killSum fl rates u calls + h := by
  induction calls generalizing u with
  | nil => exact ⟨trivial, 0, Or.inl rfl, by simp [killSum]⟩
  | cons c calls ih =>
    obtain ⟨h, first, sum⟩ := fight_of_fits pos fits.1
    obtain ⟨pending, below, eq⟩ := fight_eq fl rates small c
    rw [eq] at sum
    have tail := fits.2 _ rfl
    rw [eq] at tail
    obtain ⟨rises, h', later, total⟩ := ih (u := { u with tmpXp := pending }) (by simp only at sum ⊢; omega) below tail
    refine ⟨⟨?_, ?_⟩, h + h', ?_, ?_⟩
    · rw [Rises, eq, sum]
      omega
    · intro u₁ next
      cases next
      rw [eq]
      exact rises
    · rcases later with rfl | ⟨none, c', mem, hit, some⟩
      · refine first.imp_right fun hit => ⟨hit.1, c, List.mem_cons_self, hit.2⟩
      · -- nothing is pending after the call, so it was no hit that counted
        simp only at none sum
        have zero : h = 0 := by omega
        rw [worth_pending] at some
        refine Or.inr ⟨by omega, c', List.mem_cons_of_mem _ mem, hit, ?_⟩
        rw [some, zero, Nat.zero_add]
    · rw [List.foldl_cons, eq, total, killSum_cons u pending]
      simp only at sum ⊢
      omega

variable (fl rates) in

/-- The pending experience stays in range. -/
lemma foldl_fight_lt (small : u.tmpXp < 2 ^ 31) (calls : List FightCall) :
    (calls.foldl (fight fl rates) u).tmpXp < 2 ^ 31 := by
  induction calls generalizing u with
  | nil => exact small
  | cons c calls ih =>
    obtain ⟨pending, below, eq⟩ := fight_eq fl rates small c
    rw [List.foldl_cons, eq]
    exact ih below

/-- A kill that does not make the pending experience shrink fits, if its award does. -/
lemma fits_of_kill (pos : 0 ≤ u.tmpXp) (small : u.tmpXp < 2 ^ 31) (some : worth fl rates u c = some xp)
    (kill : c.isHit = false) (award : xp < 2 ^ 31) (rises : Rises fl rates u c) : Fits fl rates u c := by
  rw [Rises, fight_kill some kill, i32_award (by omega), if_pos award, addPending] at rises
  intro xp' mem
  cases some.symm.trans mem
  rw [kill, if_neg Bool.false_ne_true]
  split at rises
  · simp only at rises
    omega
  · rw [if_neg (by omega)] at rises
    simp only [i32] at rises
    omega

/-- A hit that does not make the pending experience shrink, and a fight that is no more than its awards. -/
lemma fits_of_along (pos : 0 ≤ u.tmpXp) (small : u.tmpXp < 2 ^ 31)
    (rises : Along (fun u c => some (fight fl rates u c)) (Rises fl rates) u calls) {k : Nat}
    (once : u.tmpXp = 0 → k = 0 ∨ k = hitAward fl rates)
    (total : (calls.foldl (fight fl rates) u).tmpXp = killSum fl rates u calls + k) :
    Along (fun u c => some (fight fl rates u c)) (Fits fl rates) u calls := by
  induction calls generalizing u k with
  | nil => trivial
  | cons c calls ih =>
    obtain ⟨pending, below, eq⟩ := fight_eq fl rates small c
    have first : u.tmpXp ≤ pending := by
      have first := rises.1
      rwa [Rises, eq] at first
    have tail := rises.2 _ rfl
    have bound := foldl_fight_lt fl rates small (c :: calls)
    rw [List.foldl_cons, eq] at bound
    rw [List.foldl_cons, eq, killSum_cons u pending] at total
    rw [eq] at tail
    -- the rest of the fight is one of the same kind, whatever the call counts for
    have next (k' : Nat) (once' : pending = 0 → k' = 0 ∨ k' = hitAward fl rates)
        (all : (if c.isHit then 0 else (worth fl rates u c).getD 0) + k = k') :=
      ih (u := { u with tmpXp := pending }) (k := k') (by simp only; omega) below tail once' (by omega)
    have both (fits : Fits fl rates u c)
        (rest : Along (fun u c => some (fight fl rates u c)) (Fits fl rates) { u with tmpXp := pending } calls) :
        Along (fun u c => some (fight fl rates u c)) (Fits fl rates) u (c :: calls) := by
      refine ⟨fits, fun u₁ step => ?_⟩
      cases step
      rw [eq]
      exact rest
    cases hit : c.isHit with
    | false =>
      have fits : Fits fl rates u c := by
        intro xp some
        rw [hit, some, if_neg Bool.false_ne_true, Option.getD_some] at total
        exact fits_of_kill pos small some hit (by omega) rises.1 xp some
      obtain ⟨h, counted, sum⟩ := fight_of_fits pos fits
      have none : h = 0 := by
        rcases counted with zero | ⟨-, isHit, -⟩
        · exact zero
        · cases hit.symm.trans isHit
      rw [eq, hit, none] at sum
      refine both fits (next _ (fun zero => ?_) rfl)
      simp only [hit, Bool.false_eq_true, if_false] at sum ⊢
      have nothing : (worth fl rates u c).getD 0 = 0 := by omega
      rw [nothing, Nat.zero_add]
      exact once (by omega)
    | true =>
      have rest := next k (fun zero => once (by omega)) (by simp [hit])
      refine both (fun xp some => ?_) rest
      rw [hit, if_pos rfl]
      intro none
      by_contra unfit
      rw [not_or] at unfit
      obtain ⟨award, step⟩ := fight_hit some hit
      rw [eq, if_neg (not_not.mpr none)] at step
      have lost := addPending_lost (u := u) rates.lost (Nat.not_lt.mp unfit.1) (worth_lt some)
      rw [← step] at lost
      obtain ⟨-, h, later, sum⟩ := along_of_fits (u := { u with tmpXp := pending }) (by simp only; omega) below rest
      simp only at lost later sum
      have zero : h = 0 := later.resolve_right fun more => unfit.2 (lost ▸ more.1)
      rw [hit, if_pos rfl] at total
      have same : pending = k := by omega
      rcases once none with rfl | rfl
      · exact unfit.2 (lost ▸ same)
      · have big := unfit.1
        omega

/-- Nothing is pending when a fight begins. Its pending experience never shrinks, and is in the end the sum of the
kills and at most one hit, exactly if every call finds a state that it fits. -/
theorem grows_iff (fl : Floats F) (rates : Rates F) (u : Growth) (start : u.tmpXp = 0) (calls : List FightCall) :
    Grows fl rates u calls ↔ Along (fun u c => some (fight fl rates u c)) (Fits fl rates) u calls := by
  constructor
  · rintro ⟨rises, h, counted, total⟩
    refine fits_of_along start.ge (start ▸ by decide) rises (fun _ => ?_) total
    rcases counted with rfl | ⟨c, -, hit, some⟩
    · exact Or.inl rfl
    · exact Or.inr (fight_hit some hit).1
  · intro fits
    obtain ⟨rises, h, counted, total⟩ := along_of_fits start.ge (start ▸ by decide) fits
    rw [start, Int.zero_add] at total
    exact ⟨rises, h, counted.imp_right And.right, total⟩

end

/-- Exact arithmetic, which `float` and `double` agree with on small integers. -/
def exactFloats : Floats ℚ where
  ofInt z := z
  add := (· + ·)
  mul := (· * ·)
  tenth := 1 / 10
  threeQuarters := 3 / 4
  single := id
  round x := UInt32.ofNat (x + 1 / 2).floor.toNat

/-- The rates of the distribution. -/
def defaultRates : Rates ℚ := ⟨1, 1⟩

/-- A player of level 30. -/
def veteran : Growth := { newcomer 0 with level := 30 }

/-- A hit on an equal and a kill of a stronger creature count one each. -/
theorem grows_veteran : Grows exactFloats defaultRates veteran [.hit 30 false, .kill 31 false false 0 0] := by
  refine (grows_iff exactFloats defaultRates veteran rfl _).mpr ?_
  decide +kernel

/-- The kill of a creature that is too weak takes back what was earned before. -/
theorem not_grows_weak :
    ¬∀ (u : Growth) (calls : List FightCall), u.tmpXp = 0 → Grows exactFloats defaultRates u calls := by
  intro grows
  have rises := (grows veteran [.kill 31 false false 0 0, .kill 5 false false 0 0] rfl).rises
  have second := (rises.2 _ rfl).1
  exact absurd second (by decide +kernel)

end Growth

end Legacy.Unit
