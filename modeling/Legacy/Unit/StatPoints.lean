import Legacy.Unit.Experience
import Legacy.Wire.Requests

/-!
# Stat points

Model of `WorldSession::HandlePlayerStatAddOpcodes` (`src/src/game/CharacterHandler.cpp`). The handler adds
the amount of the packet to a stat and takes it from the free points, where the subtraction is clamped at
zero. `statAdds_conserved_iff` says for which packets of a sequence the sum of the stats and the free points is kept.
-/

namespace Legacy.Unit
open Legacy.Lib
open Legacy.Inventory (applyModUInt32Value applyModUInt32Value_take)
open Legacy.Wire (StatAddRequest)

/-- The base stats and the free points (source `UNIT_FIELD_STAT_POINT`). -/
structure Attributes where
  stats : Stat → Nat
  statPoint : Nat

/-- The stat of an update flag (source `UPD_FLAG_INT` to `UPD_FLAG_SPX`). -/
def statOfFlag : Nat → Option Stat
  | 0x1B => some .int
  | 0x1C => some .atk
  | 0x1D => some .defense
  | 0x1F => some .hpx
  | 0x20 => some .spx
  | 0x1E => some .agi
  | _ => none

namespace Attributes

/-- source `WorldSession::HandlePlayerStatAddOpcodes` -/
def statAdd (a : Attributes) (recv_data : StatAddRequest) : Attributes :=
  if a.statPoint = 0 then a
  else
    match statOfFlag recv_data.upd_stat_flag with
    | none => a
    | some flag =>
      if recv_data.mod_value = 0 then a
      else
        { stats := Function.update a.stats flag (applyModUInt32Value (a.stats flag) recv_data.mod_value true)
          statPoint := applyModUInt32Value a.statPoint recv_data.mod_value false }

/-- The stats and the free points. -/
def sum (a : Attributes) : Nat :=
  a.stats .int + a.stats .atk + a.stats .defense + a.stats .hpx + a.stats .spx + a.stats .agi + a.statPoint

/-- Nothing changes, or one stat rises by what is taken from the points; in both cases the sum is kept. -/
def Conserved (a a' : Attributes) : Prop :=
  (a' = a ∨ ∃ flag n, n ≤ a.statPoint ∧ a' = ⟨Function.update a.stats flag (a.stats flag + n), a.statPoint - n⟩) ∧
    a'.sum = a.sum

/-- The packet changes nothing, or the points suffice for it and neither field reaches the sign bit. -/
def Affordable (a : Attributes) (recv_data : StatAddRequest) : Prop :=
  a.statPoint = 0 ∨ recv_data.mod_value = 0 ∨
    ∀ flag ∈ statOfFlag recv_data.upd_stat_flag,
      recv_data.mod_value ≤ a.statPoint ∧ a.statPoint < 2 ^ 31 + recv_data.mod_value ∧
        a.stats flag + recv_data.mod_value < 2 ^ 31

/-- The state after a sequence of packets. -/
def statAdds (a : Attributes) (packets : List StatAddRequest) : Attributes := packets.foldl statAdd a

/-- Nothing is spent where nothing is done. -/
lemma Conserved.refl (a : Attributes) : Conserved a a := ⟨Or.inl rfl, rfl⟩

/-- Points that move to one stat stay in the sum. -/
lemma conserved_move (a : Attributes) (flag : Stat) {n : Nat} (le : n ≤ a.statPoint) :
    Conserved a ⟨Function.update a.stats flag (a.stats flag + n), a.statPoint - n⟩ := by
  refine ⟨Or.inr ⟨flag, n, le, rfl⟩, ?_⟩
  cases flag
  all_goals
    simp only [sum, Function.update_self, Function.update_of_ne, ne_eq, reduceCtorEq, not_false_eq_true]
    omega

/-- An amount is added exactly when the sum fits. -/
lemma apply_eq {cur n : Nat} : applyModUInt32Value cur n true = cur + n ↔ cur + n < 2 ^ 31 := by
  simp only [applyModUInt32Value, i32, if_true]
  omega

/-- A raised stat has risen by the amount of the packet. -/
lemma apply_add {cur v n : Nat} (byte : v < 2 ^ 8) (h : applyModUInt32Value cur v true = cur + n) :
    n = v ∧ cur + v < 2 ^ 31 := by
  simp only [applyModUInt32Value, i32, if_true] at h
  omega

/-- A change of one stat that is conserved adds to the stat what it takes from the points. -/
lemma Conserved.move {a : Attributes} {flag : Stat} {stat statPoint : Nat} (changed : stat ≠ a.stats flag)
    (c : Conserved a ⟨Function.update a.stats flag stat, statPoint⟩) :
    ∃ n ≤ a.statPoint, stat = a.stats flag + n ∧ statPoint = a.statPoint - n := by
  cases c.1 with
  | inl same =>
    have stats : Function.update a.stats flag stat = a.stats := congrArg Attributes.stats same
    have here := congrFun stats flag
    rw [Function.update_self] at here
    exact absurd here changed
  | inr moved =>
    obtain ⟨flag', n, le, same⟩ := moved
    have stats : Function.update a.stats flag stat = Function.update a.stats flag' (a.stats flag' + n) :=
      congrArg Attributes.stats same
    have here := congrFun stats flag
    rw [Function.update_self] at here
    refine ⟨n, le, ?_, congrArg Attributes.statPoint same⟩
    by_cases eq : flag = flag'
    · rw [eq, Function.update_self] at here
      rw [eq]
      exact here
    · rw [Function.update_of_ne eq] at here
      exact absurd here changed

/-- A packet conserves the points exactly when it is affordable. -/
lemma conserved_statAdd_iff (a : Attributes) {recv_data : StatAddRequest} (byte : recv_data.mod_value < 2 ^ 8) :
    Conserved a (a.statAdd recv_data) ↔ Affordable a recv_data := by
  rw [statAdd, Affordable]
  by_cases free : a.statPoint = 0
  · rw [if_pos free]
    exact iff_of_true (Conserved.refl a) (Or.inl free)
  rw [if_neg free, or_iff_right free]
  cases known : statOfFlag recv_data.upd_stat_flag with
  | none => exact iff_of_true (Conserved.refl a) (Or.inr fun flag mem => (by cases mem))
  | some flag =>
    dsimp only
    by_cases nothing : recv_data.mod_value = 0
    · rw [if_pos nothing]
      exact iff_of_true (Conserved.refl a) (Or.inl nothing)
    rw [if_neg nothing, or_iff_right nothing]
    constructor
    · intro c flag' mem
      cases mem
      have changed : applyModUInt32Value (a.stats flag) recv_data.mod_value true ≠ a.stats flag := by
        simp only [applyModUInt32Value, i32, if_true]
        omega
      obtain ⟨n, le, stat, point⟩ := c.move changed
      obtain ⟨rfl, small⟩ := apply_add byte stat
      exact ⟨le, (applyModUInt32Value_take le).mp point, small⟩
    · intro affordable
      obtain ⟨le, point, stat⟩ := affordable flag rfl
      rw [apply_eq.mpr stat, (applyModUInt32Value_take le).mpr point]
      exact conserved_move a flag le

/-- In every sequence of packets, each one keeps the sum of the stats and the free points exactly when it is
affordable where it is handled. -/
theorem statAdds_conserved_iff (a : Attributes) {packets : List StatAddRequest}
    (bytes : ∀ recv_data ∈ packets, recv_data.mod_value < 2 ^ 8) :
    (∀ before recv_data after, packets = before ++ recv_data :: after →
      Conserved (a.statAdds before) ((a.statAdds before).statAdd recv_data)) ↔
    ∀ before recv_data after, packets = before ++ recv_data :: after →
      Affordable (a.statAdds before) recv_data := by
  have byte : ∀ before recv_data after, packets = before ++ recv_data :: after → recv_data.mod_value < 2 ^ 8 := by
    intro before recv_data after split
    apply bytes
    rw [split]
    exact List.mem_append_right _ List.mem_cons_self
  constructor
  · intro conserved before recv_data after split
    exact (conserved_statAdd_iff _ (byte before recv_data after split)).mp (conserved before recv_data after split)
  · intro affordable before recv_data after split
    exact (conserved_statAdd_iff _ (byte before recv_data after split)).mpr (affordable before recv_data after split)

/-- One point of a level goes to the attack. -/
def attackPoint : StatAddRequest := ⟨0x08, 0x1C, 1⟩

/-- Both points of a level go to the attack, one after the other. -/
theorem conserved_twoPoints :
    Conserved (statAdds ⟨fun _ => 0, 2⟩ [attackPoint])
      ((statAdds ⟨fun _ => 0, 2⟩ [attackPoint]).statAdd attackPoint) := by
  have affordable : ∀ before recv_data after, [attackPoint, attackPoint] = before ++ recv_data :: after →
      Affordable (statAdds ⟨fun _ => 0, 2⟩ before) recv_data := by
    intro before recv_data after split
    cases before with
    | nil =>
      cases split
      exact Or.inr (Or.inr (by decide))
    | cons first before =>
      obtain ⟨rfl, rest⟩ := List.cons.inj split
      cases before with
      | nil =>
        cases rest
        exact Or.inr (Or.inr (by decide))
      | cons second before =>
        obtain ⟨-, rest⟩ := List.cons.inj rest
        exact absurd (congrArg List.length rest) (by simp)
  have bytes : ∀ recv_data ∈ [attackPoint, attackPoint], recv_data.mod_value < 2 ^ 8 := by decide
  have both := (statAdds_conserved_iff ⟨fun _ => 0, 2⟩ bytes).mpr affordable
  exact both [attackPoint] attackPoint [] rfl

/-- A packet asks for more points than are free. -/
theorem not_conserved_overdraft :
    ¬∀ (a : Attributes) (recv_data : StatAddRequest), recv_data.mod_value < 2 ^ 8 →
      Conserved a (a.statAdd recv_data) := by
  intro all
  have sum := (all ⟨fun _ => 0, 1⟩ ⟨0x08, 0x1C, 200⟩ (by decide)).2
  exact absurd sum (by decide)

end Attributes

end Legacy.Unit
