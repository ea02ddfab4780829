import Legacy.Inventory.Vendor

/-!
# Consuming an item

A consumed item should charge what it used: the stack shrinks by the amount, and every HP or SP value of
the prototype raises the consuming unit by the value times the amount, up to the limit of that unit.
`charges_iff` gives the exact condition under which `Player::ConsumeInventoryItemFor` does so: the loop
compares with the limits of the player whoever consumes, adds the full gain without its limit, and does not
compare the amount with the stack.
-/

namespace Legacy.Inventory
open Legacy.Lib

namespace Player

/-- A stat that consuming raises: its limit for a unit, and how it is read and written. -/
structure Stat where
  limit : Unit → Nat
  get : Unit → Nat
  set : Unit → Nat → Unit

/-- The stat a value of a prototype is about (source `ITEM_MOD_HP` and `ITEM_MOD_SP`). -/
def statOf (s : ItemStat) : Option Stat :=
  if s.itemStatType = 15 then some ⟨getHPMax, Unit.hp, fun u n => { u with hp := n }⟩
  else if s.itemStatType = 16 then some ⟨getSPMax, Unit.sp, fun u n => { u with sp := n }⟩
  else none

/-- What one value of a prototype is worth for the amount that is consumed. -/
def gain (amount : Nat) (s : ItemStat) : Int := s.itemStatValue * amount

/-- A stat after a gain, at most its limit. -/
def limited (limit cur : Nat) (gain : Int) : Int := min (limit : Int) (cur + gain)

/-- A value of the prototype has raised the unit up to its limit, and changed nothing else. -/
def Credits (amount : Nat) (s : ItemStat) (unit unit' : Option Unit) : Prop :=
  match statOf s with
  | none => unit' = unit
  | some stat => ∃ u n, unit = some u ∧ unit' = some (stat.set u n) ∧
      (n : Int) = limited (stat.limit u) (stat.get u) (gain amount s)

/-- The loop has credited every value of the prototype. -/
inductive Credited (p : Player) (amount : Nat) : List ItemStat → Option Unit → Option Unit → Prop
  | nil {unit : Option Unit} : Credited p amount [] unit unit
  | cons {s : ItemStat} {ss : List ItemStat} {unit unit' unit'' : Option Unit}
      (step : p.consumeStat amount unit s = .ok unit') (credits : Credits amount s unit unit')
      (rest : Credited p amount ss unit' unit'') : Credited p amount (s :: ss) unit unit''

/-- The player with a new consuming unit. -/
def fed (p : Player) (target : Nat) : Option Unit → Player
  | none => p
  | some u => p.setConsumer target u

/-- The stack has shrunk by the amount, the consuming unit is the new one, and no other field has changed. -/
structure Charged (p : Player) (target slot amount : Nat) (it : Item) (eater : Option Unit) (p' : Player) : Prop where
  enough : amount ≤ it.count
  taken : p'.itemIn (.slot slot) = if it.count = amount then none else some { it with count := it.count - amount }
  items : ∀ l, l ≠ .slot slot → p'.itemIn l = p.itemIn l
  unit : p'.unit = (p.fed target eater).unit
  pets : p'.pets = (p.fed target eater).pets
  gold : p'.gold = p.gold

/-- Consuming is refused and changes nothing, or charges exactly what it used. -/
def ChargesExactly (objmgr : ObjectMgr) (p : Player) (target slot amount : Nat) : Prop :=
  consumeInventoryItemFor objmgr p target slot amount = .ok none ∨
    ∃ it proto unit p', p.itemAt slot = some it ∧ objmgr.getItemPrototype it.entry = some proto ∧
      p.Credited amount proto.itemState (p.consumer target) unit ∧
      consumeInventoryItemFor objmgr p target slot amount = .ok (some p') ∧
      p.Charged target slot amount it unit p'

/-- The condition on one gain: a unit at or above the limit of the player keeps its value, so the gain must
not matter there; below it the whole sum is written, so it must be at most the limit of the unit, or be cut to
it when it is stored in 32 bits. -/
def GainOk (guard limit cur : Nat) (gain : Int) : Prop :=
  if guard ≤ cur then cur = limit ∧ 0 ≤ gain ∨ cur ≤ limit ∧ gain = 0
  else 0 ≤ cur + gain ∧ (cur + gain ≤ limit ∨ (cur + gain) % 2 ^ 32 = limit ∨
    limit = 0 ∧ 2 ^ 31 ≤ (cur + gain) % 2 ^ 32)

/-- The condition on one value of the prototype: there is a unit when it is an HP or SP value, and its gain is
as it should be. -/
def StatOk (p : Player) (amount : Nat) (s : ItemStat) (unit : Option Unit) : Prop :=
  ∀ stat, statOf s = some stat →
    ∃ u, unit = some u ∧ GainOk (stat.limit p.unit) (stat.limit u) (stat.get u) (gain amount s)

/-- The unit that a value of the prototype should leave. -/
def credit (amount : Nat) (s : ItemStat) (u : Unit) : Unit :=
  match statOf s with
  | none => u
  | some stat => stat.set u (limited (stat.limit u) (stat.get u) (gain amount s)).toNat

/-- The condition on the values of the prototype, each with the unit that the values before it should leave. -/
def StatsOk (p : Player) (amount : Nat) : List ItemStat → Option Unit → Prop
  | [], _ => True
  | s :: ss, unit => p.StatOk amount s unit ∧ p.StatsOk amount ss (unit.map (credit amount s))

/-- The item can be taken out of the update queue when it is destroyed before it was ever saved. -/
def QueuePlace (p : Player) (g : Nat) : Prop :=
  (p.marks g).uState = .new → (p.marks g).uQueuePos = -1 ∨ p.itemUpdateQueueBlocked = true ∨
    0 ≤ (p.marks g).uQueuePos ∧ (p.marks g).uQueuePos < p.itemUpdateQueue.length

/-- The condition on the player: when the item can be consumed then the stack holds the amount, every value of
the prototype meets its condition, and a stack that is used up can be destroyed. -/
def ConsumeOk (objmgr : ObjectMgr) (p : Player) (target slot amount : Nat) : Prop :=
  ∀ it proto, p.itemAt slot = some it → objmgr.getItemPrototype it.entry = some proto → amount ≠ 0 → target ≤ 4 →
    isConsumable proto = true →
      amount ≤ it.count ∧ p.StatsOk amount proto.itemState (p.consumer target) ∧
        (it.count = amount → p.QueuePlace it.guid)

section Stats

/-- A gain that is stored as a signed number and cut at zero. -/
lemma applyModUInt32Value_gain (cur : Nat) (gain : Int) :
    applyModUInt32Value cur (i32 gain) true = (i32 (cur + gain)).toNat := by
  rw [applyModUInt32Value, if_pos rfl, i32_i32, i32_i32_add, i32_add_i32]

/-- A sum that is stored as a signed number and cut at zero is at most a small limit exactly in these cases. -/
lemma toNat_i32_iff {limit : Nat} {x : Int} (small : limit < 2 ^ 16) :
    ((i32 x).toNat : Int) = min (limit : Int) x ↔
      0 ≤ x ∧ (x ≤ limit ∨ x % 2 ^ 32 = limit ∨ limit = 0 ∧ 2 ^ 31 ≤ x % 2 ^ 32) := by
  simp only [i32]
  omega

/-- What the loop makes of a stat is right exactly under the condition. -/
lemma gain_iff {guard limit cur : Nat} {gain : Int} (small : limit < 2 ^ 16) :
    ((if guard ≤ cur then cur else applyModUInt32Value cur (i32 gain) true : Nat) : Int) = limited limit cur gain ↔
      GainOk guard limit cur gain := by
  rw [limited, GainOk]
  split_ifs with full
  · omega
  · rw [applyModUInt32Value_gain]
    exact toNat_i32_iff small

variable {p : Player} {amount : Nat} {s : ItemStat} {ss : List ItemStat} {unit unit' : Option Unit} {u : Unit}

/-- A limit fits in 16 bits. -/
lemma limit_lt {stat : Stat} (known : statOf s = some stat) (u : Unit) : stat.limit u < 2 ^ 16 := by
  rw [statOf] at known
  split_ifs at known <;> cases known <;> exact Nat.mod_lt _ (by decide)

/-- A stat that was set is read back. -/
lemma get_set {stat : Stat} (known : statOf s = some stat) (u : Unit) (n : Nat) : stat.get (stat.set u n) = n := by
  rw [statOf] at known
  split_ifs at known <;> cases known <;> rfl

/-- A value that is no HP or SP value changes nothing. -/
lemma consumeStat_other (other : statOf s = none) : p.consumeStat amount unit s = .ok unit := by
  rw [statOf] at other
  split_ifs at other with hp sp
  simp only [consumeStat, if_neg hp, if_neg sp]

/-- An HP or SP value for nobody reads a null pointer. -/
lemma consumeStat_nobody {stat : Stat} (known : statOf s = some stat) :
    p.consumeStat amount none s = .error .nullPointer := by
  rw [statOf] at known
  split_ifs at known with hp sp
  · simp only [consumeStat, if_pos hp]
  · simp only [consumeStat, if_neg hp, if_pos sp]

/-- What the loop makes of a value, with the limits of the player in the place of those of the unit. -/
lemma consumeStat_some {stat : Stat} (known : statOf s = some stat) :
    p.consumeStat amount (some u) s = .ok (some (stat.set u
      (if stat.limit p.unit ≤ stat.get u then stat.get u
      else applyModUInt32Value (stat.get u) (i32 (gain amount s)) true))) := by
  rw [statOf] at known
  split_ifs at known with hp sp
  · cases known
    simp only [consumeStat, if_pos hp]
    split_ifs with full
    · rfl
    · rfl
  · cases known
    simp only [consumeStat, if_neg hp, if_pos sp]
    split_ifs with full
    · rfl
    · rfl

/-- One value of the prototype is credited exactly under its condition. -/
lemma statOk_iff :
    (∃ unit', p.consumeStat amount unit s = .ok unit' ∧ Credits amount s unit unit') ↔ p.StatOk amount s unit := by
  cases known : statOf s with
  | none =>
    refine iff_of_true ⟨unit, consumeStat_other known, ?_⟩ fun stat other => ?_
    · simp only [Credits, known]
    · cases known.symm.trans other
  | some stat =>
    cases unit with
    | none =>
      refine iff_of_false (fun credited => ?_) fun ok => ?_
      · obtain ⟨unit', step, -⟩ := credited
        cases (consumeStat_nobody known).symm.trans step
      · obtain ⟨u, nobody, -⟩ := ok stat known
        cases nobody
    | some u =>
      rw [consumeStat_some known]
      simp only [Except.ok.injEq, exists_eq_left', Credits, known, Option.some_inj]
      constructor
      · intro credits
        obtain ⟨w, n, rfl, set, exact_⟩ := credits
        have value := congrArg stat.get set
        rw [get_set known, get_set known] at value
        rw [← value] at exact_
        intro stat' known'
        cases known.symm.trans known'
        exact ⟨u, rfl, (gain_iff (limit_lt known u)).mp exact_⟩
      · intro ok
        obtain ⟨w, eq, gainOk⟩ := ok stat known
        cases eq
        exact ⟨u, _, rfl, rfl, (gain_iff (limit_lt known u)).mpr gainOk⟩

/-- A credited value leaves the unit it should. -/
lemma Credits.eq (credits : Credits amount s unit unit') : unit' = unit.map (credit amount s) := by
  rw [Credits] at credits
  cases known : statOf s with
  | none =>
    simp only [known] at credits
    have same : credit amount s = id := by
      funext u
      simp only [credit, known, id]
    rw [credits, same, Option.map_id, id]
  | some stat =>
    simp only [known] at credits
    obtain ⟨u, n, rfl, rfl, value⟩ := credits
    simp only [Option.map_some, credit, known, ← value, Int.toNat_natCast]

/-- The loop credits all values exactly under their conditions. -/
lemma credited_iff (p : Player) (amount : Nat) (ss : List ItemStat) (unit : Option Unit) :
    (∃ unit', p.Credited amount ss unit unit') ↔ p.StatsOk amount ss unit := by
  induction ss generalizing unit with
  | nil => exact iff_of_true ⟨unit, .nil⟩ trivial
  | cons s ss ih =>
    rw [StatsOk, ← statOk_iff, ← ih]
    constructor
    · intro credited
      obtain ⟨unit'', credited⟩ := credited
      cases credited with
      | cons step credits rest => exact ⟨⟨_, step, credits⟩, ⟨unit'', credits.eq ▸ rest⟩⟩
    · intro both
      obtain ⟨⟨unit', step, credits⟩, ⟨unit'', rest⟩⟩ := both
      exact ⟨unit'', .cons step credits (credits.eq ▸ rest)⟩

/-- The stats that are credited are those that the handler adds. -/
lemma Credited.consumeStats (credited : p.Credited amount ss unit unit') :
    p.consumeStats amount ss unit = .ok unit' := by
  induction credited with
  | nil => rfl
  | cons step _ _ ih =>
    rw [Player.consumeStats, step]
    exact ih

end Stats

section Stack

variable {objmgr : ObjectMgr} {p p' : Player} {slot count : Nat} {it : Item}

/-- An item leaves the update queue without a fault exactly when its place is there. -/
lemma removeFromUpdateQueueOf_ok_iff {g : Nat} (owner : it.owner = p.guid) :
    (∃ p', p.removeFromUpdateQueueOf g it = .ok p') ↔
      (p.marks g).uQueuePos = -1 ∨ p.itemUpdateQueueBlocked = true ∨
        0 ≤ (p.marks g).uQueuePos ∧ (p.marks g).uQueuePos < p.itemUpdateQueue.length := by
  simp only [removeFromUpdateQueueOf, owner, ne_eq, not_true_eq_false, if_false]
  split_ifs with out blocked inside
  · exact iff_of_true ⟨p, rfl⟩ (.inl out)
  · exact iff_of_true ⟨p, rfl⟩ (.inr (.inl blocked))
  · exact iff_of_true ⟨_, rfl⟩ (.inr (.inr inside))
  · refine iff_of_false (fun ok => ?_) (by simp [out, blocked, inside])
    obtain ⟨p', ok⟩ := ok
    cases ok

variable (h : p.Stored objmgr) (lt : slot < playerSlotsCount) (e : p.itemAt slot = some it)
include h lt e

/-- An item is destroyed without a fault exactly when its place in the queue is right. -/
lemma Stored.destroyItem_ok_iff : (∃ p', p.destroyItem slot = .ok p') ↔ p.QueuePlace it.guid := by
  obtain ⟨-, live, -⟩ := h.items_of_itemAt e
  have owner : it.owner = p.guid := (h.known live).2.2
  have gone : (p.emptied slot it).heap it.guid = some { it with slot := nullSlot } := setItem_heap_self ..
  rw [h.destroyItem_eq lt e, QueuePlace]
  by_cases new : (p.marks it.guid).uState = .new
  · rw [setState_removed_new gone new]
    have place : (∃ q, (p.emptied slot it).removeFromUpdateQueueOf it.guid { it with slot := nullSlot } = .ok q) ↔ _ :=
      removeFromUpdateQueueOf_ok_iff owner
    refine Iff.trans ⟨fun ok => ?_, fun ok => ?_⟩ (place.trans ⟨fun left _ => left, fun left => left new⟩)
    · obtain ⟨p', ok⟩ := ok
      cases left : (p.emptied slot it).removeFromUpdateQueueOf it.guid { it with slot := nullSlot } with
      | error f =>
        rw [left] at ok
        cases ok
      | ok q => exact ⟨q, rfl⟩
    · obtain ⟨q, left⟩ := ok
      rw [left]
      exact ⟨q.deleteItem it.guid, rfl⟩
  · exact iff_of_true ⟨_, setState_removed_old gone new⟩ fun eq => absurd eq new

/-- A stack can get a new count, and a stack that is used up can be destroyed when its place in the queue is
right. -/
lemma Stored.shrink_ok_iff : (∃ p', p.shrink slot it count = .ok p') ↔ (count = 0 → p.QueuePlace it.guid) := by
  obtain ⟨st, e'⟩ := h.counted e count
  rw [Player.shrink]
  by_cases zero : count = 0
  · rw [if_pos zero]
    exact (st.destroyItem_ok_iff lt e').trans ⟨fun place _ => place, fun place => place zero⟩
  · rw [if_neg zero]
    exact iff_of_true ⟨_, setState_changed (setItem_heap_self ..)⟩ fun eq => absurd eq zero

omit lt

/-- A smaller stack is in its slot, a stack that is used up is not, and nothing else has changed. -/
lemma Shrunk.itemIn (s : p.Shrunk slot it count p') :
    p'.itemIn (.slot slot) = (if count = 0 then none else some { it with count := count }) ∧
      (∀ l, l ≠ .slot slot → p'.itemIn l = p.itemIn l) ∧
      p'.unit = p.unit ∧ p'.pets = p.pets ∧ p'.gold = p.gold := by
  cases s with
  | kept pos =>
    obtain ⟨self, off⟩ := h.itemIn_recount e count
    rw [if_neg pos]
    exact ⟨self, off, requeue_unit .., requeue_pets .., requeue_gold ..⟩
  | destroyed zero gone =>
    obtain ⟨at_, -⟩ := h.items_of_itemAt e
    obtain ⟨m, q, hp, rfl, -, off⟩ := (setState_removed_post (setItem_heap_self ..)).of_ok gone
    rw [if_pos zero]
    refine ⟨?_, fun l ne => itemIn_congr ?_ fun g held => ?_, rfl, rfl, rfl⟩
    · exact Option.bind_eq_none_iff.mpr fun g held => absurd ((setSlot_items_self ..).symm.trans held) (by simp)
    · cases l with
      | slot i => exact setSlot_items_ne _ _ fun eq => ne (congrArg Loc.slot eq)
      | worn i e => rfl
    · have other : g ≠ it.guid := by
        rintro rfl
        exact ne (h.unique held (k := .slot slot) at_)
      exact (off g other).1.trans ((setItem_heap_ne _ _ other).trans (setItem_heap_ne _ _ other))

end Stack

section Fed

variable {objmgr : ObjectMgr} {p p' : Player} {target slot amount : Nat} {it : Item} {unit : Option Unit}
  {proto : ItemPrototype}

/-- A new consuming unit leaves everything else alone. -/
lemma fed_eq (p : Player) (target : Nat) (unit : Option Unit) :
    ∃ u pets, p.fed target unit = { p with unit := u, pets := pets } := by
  cases unit with
  | none => exact ⟨p.unit, p.pets, rfl⟩
  | some u =>
    rw [fed, setConsumer]
    split_ifs
    · exact ⟨u, p.pets, rfl⟩
    · exact ⟨p.unit, _, rfl⟩

/-- Feeding a unit moves no item. -/
lemma Stored.fed (h : p.Stored objmgr) (target : Nat) (unit : Option Unit) : (p.fed target unit).Stored objmgr := by
  cases unit with
  | none => exact h
  | some u => exact h.setConsumer target u

/-- The places keep their items. -/
lemma itemIn_fed (p : Player) (target : Nat) (unit : Option Unit) (l : Loc) :
    (p.fed target unit).itemIn l = p.itemIn l := by
  have heap : (p.fed target unit).heap = p.heap := by
    obtain ⟨u, pets, eq⟩ := fed_eq p target unit
    rw [eq]
  have holds : (p.fed target unit).holds l = p.holds l := by
    cases unit with
    | none => rfl
    | some u => exact holds_setConsumer target u l
  rw [itemIn, itemIn, heap, holds]

/-- The queue is that of before. -/
lemma queuePlace_fed {g : Nat} : (p.fed target unit).QueuePlace g ↔ p.QueuePlace g := by
  obtain ⟨u, pets, eq⟩ := fed_eq p target unit
  rw [eq]
  exact Iff.rfl

/-- The call past its checks: the loop over the values, and then the stack. -/
lemma Stored.consume_eq (h : p.Stored objmgr) (lt : slot < playerSlotsCount) (e : p.itemAt slot = some it)
    (known : objmgr.getItemPrototype it.entry = some proto) (pos : amount ≠ 0) (le : target ≤ 4)
    (kind : isConsumable proto = true) :
    consumeInventoryItemFor objmgr p target slot amount =
      (p.consumeStats amount proto.itemState (p.consumer target) >>= fun unit =>
        (p.fed target unit).shrink slot it (u32 (it.count + 2 ^ 32 - amount)) >>= fun p' => .ok (some p')) := by
  rw [consumeInventoryItemFor, h.getItemByPos_eq lt, e]
  simp only [ok_bind, if_neg pos, known, if_neg (Nat.not_lt.mpr le), kind, Bool.not_true, Bool.false_eq_true, if_false]
  refine congrArg (p.consumeStats amount proto.itemState (p.consumer target) >>= ·) (funext fun unit => ?_)
  cases unit with
  | none => rfl
  | some u => rfl

/-- The count that is written, when the amount is in the stack. -/
lemma u32_sub {count amount : Nat} (le : amount ≤ count) (small : count < 2 ^ 32) :
    u32 (count + 2 ^ 32 - amount) = count - amount := by
  simp only [u32]
  omega

section Asked

variable (h : p.Stored objmgr) (lt : slot < playerSlotsCount) (e : p.itemAt slot = some it)
  (known : objmgr.getItemPrototype it.entry = some proto) (pos : amount ≠ 0) (le : target ≤ 4)
  (kind : isConsumable proto = true)

include h lt e known pos le kind

/-- Past its checks the call is not refused any more. -/
lemma Stored.consume_ne_none : consumeInventoryItemFor objmgr p target slot amount ≠ .ok none := by
  rw [h.consume_eq lt e known pos le kind]
  intro refused
  obtain ⟨unit, -, fed⟩ := bind_eq_ok.mp refused
  obtain ⟨p', -, done⟩ := bind_eq_ok.mp fed
  cases done

variable (small : it.count < 2 ^ 32) (enough : amount ≤ it.count)

include small enough

/-- After the loop the call returns when the stack can get its new count. -/
lemma Stored.consume_ok_iff (credited : p.Credited amount proto.itemState (p.consumer target) unit) :
    consumeInventoryItemFor objmgr p target slot amount = .ok (some p') ↔
      (p.fed target unit).shrink slot it (it.count - amount) = .ok p' := by
  rw [h.consume_eq lt e known pos le kind, credited.consumeStats, ok_bind, u32_sub enough small]
  constructor
  · intro done
    obtain ⟨q, shrunk, ⟨⟩⟩ := bind_eq_ok.mp done
    exact shrunk
  · intro shrunk
    rw [shrunk, ok_bind]

/-- A credited call charges the stack, when that can be destroyed if it is used up. -/
lemma Stored.charged_iff (credited : p.Credited amount proto.itemState (p.consumer target) unit) :
    (∃ p', consumeInventoryItemFor objmgr p target slot amount = .ok (some p') ∧
        p.Charged target slot amount it unit p') ↔
      (it.count = amount → p.QueuePlace it.guid) := by
  have st := h.fed target unit
  have at' : (p.fed target unit).itemAt slot = some it := (itemIn_fed p target unit (.slot slot)).trans e
  have can : (∃ q, (p.fed target unit).shrink slot it (it.count - amount) = .ok q) ↔ _ := st.shrink_ok_iff lt at'
  simp only [h.consume_ok_iff lt e known pos le kind small enough credited]
  constructor
  · intro charged all
    obtain ⟨p', shrunk, -⟩ := charged
    exact queuePlace_fed.mp (can.mp ⟨p', shrunk⟩ (by omega))
  · intro place
    obtain ⟨p', shrunk⟩ := can.mpr fun zero => queuePlace_fed.mpr (place (by omega))
    obtain ⟨self, off, sameUnit, samePets, sameGold⟩ :=
      Shrunk.itemIn st at' ((st.shrink lt at').of_ok shrunk)
    refine ⟨p', shrunk, enough, ?_, fun l ne => (off l ne).trans (itemIn_fed p target unit l), sameUnit, samePets, ?_⟩
    · have used : it.count - amount = 0 ↔ it.count = amount := by omega
      simpa only [used] using self
    · obtain ⟨u, pets, eq⟩ := fed_eq p target unit
      rw [sameGold, eq]

end Asked

/-- The call is refused, and nothing is asked of it. -/
lemma chargesExactly_refused (refused : consumeInventoryItemFor objmgr p target slot amount = .ok none)
    (ok : ConsumeOk objmgr p target slot amount) :
    ChargesExactly objmgr p target slot amount ↔ ConsumeOk objmgr p target slot amount :=
  iff_of_true (.inl refused) ok

/-- Consuming charges exactly what it used if and only if the amount is in the stack, every HP or SP value has a
unit whose stat it raises to the right value although the limits of the player are compared and none is applied,
and the item can leave the update queue. -/
theorem charges_iff (h : p.Stored objmgr) (lt : slot < playerSlotsCount)
    (small : ∀ it, p.itemAt slot = some it → it.count < 2 ^ 32) :
    ChargesExactly objmgr p target slot amount ↔ ConsumeOk objmgr p target slot amount := by
  cases e : p.itemAt slot with
  | none =>
    refine chargesExactly_refused ?_ fun it proto at_ => ?_
    · rw [consumeInventoryItemFor, h.getItemByPos_eq lt, e]
      rfl
    · cases e.symm.trans at_
  | some it =>
    obtain ⟨-, -, -, -, isSome⟩ := h.items_of_itemAt e
    obtain ⟨proto, known⟩ := Option.isSome_iff_exists.mp isSome
    by_cases asked : amount ≠ 0 ∧ target ≤ 4 ∧ isConsumable proto = true
    · obtain ⟨pos, le, kind⟩ := asked
      have ok : ConsumeOk objmgr p target slot amount ↔ amount ≤ it.count ∧
          p.StatsOk amount proto.itemState (p.consumer target) ∧ (it.count = amount → p.QueuePlace it.guid) := by
        refine ⟨fun ok => ok it proto e known pos le kind, fun cond it' proto' at_ known' _ _ _ => ?_⟩
        cases e.symm.trans at_
        cases known.symm.trans known'
        exact cond
      rw [ok]
      constructor
      · intro exact_
        obtain refused | ⟨it', proto', unit, p', at_, known', credited, done, charged⟩ := exact_
        · exact absurd refused (h.consume_ne_none lt e known pos le kind)
        · cases e.symm.trans at_
          cases known.symm.trans known'
          have enough := charged.enough
          exact ⟨enough, (credited_iff ..).mp ⟨unit, credited⟩,
            (h.charged_iff lt e known pos le kind (small it e) enough credited).mp ⟨p', done, charged⟩⟩
      · intro cond
        obtain ⟨enough, stats, place⟩ := cond
        obtain ⟨unit, credited⟩ := (credited_iff ..).mpr stats
        obtain ⟨p', done, charged⟩ :=
          (h.charged_iff lt e known pos le kind (small it e) enough credited).mpr place
        exact .inr ⟨it, proto, unit, p', e, known, credited, done, charged⟩
    · refine chargesExactly_refused ?_ fun it' proto' at_ known' pos le kind => ?_
      · rw [consumeInventoryItemFor, h.getItemByPos_eq lt, e]
        simp only [ok_bind, known]
        split_ifs with zero far other
        · rfl
        · rfl
        · rfl
        · exact absurd ⟨zero, Nat.not_lt.mp far, by simpa using other⟩ asked
      · cases e.symm.trans at_
        cases known.symm.trans known'
        exact absurd ⟨pos, le, kind⟩ asked

/-- A herb that heals ten points. -/
def herbs : ObjectMgr := ⟨[⟨1, 7, "Medicine", 0, 0, 0, 3, 1, 0, 50, [⟨15, 10⟩]⟩], []⟩

/-- A character that bought two herbs. -/
def gatherer : Player :=
  match handleBuy herbs (Session.created 1 10).player (some [⟨0, 1⟩]) 0 2 with
  | .ok p => p
  | .error _ => (Session.created 1 10).player

/-- The same character with fifty points left. -/
def wounded : Player := { gatherer with unit := { (Session.created 1 10).player.unit with hp := 50 } }

/-- The wounded player can be reached. -/
lemma wounded_reachable : Session.Reachable herbs ⟨wounded, (Session.created 1 10).db⟩ := by
  have bought : handleBuy herbs (Session.created 1 10).player (some [⟨0, 1⟩]) 0 2 = .ok gatherer := rfl
  have first : Session.Reachable herbs ⟨gatherer, (Session.created 1 10).db⟩ :=
    .step (Session.created_reachable herbs (by decide)) (.buy bought)
  have lt : gatherer.gold < 2 ^ 32 := first.stored.gold
  exact .step first (.progress lt)

/-- Both herbs heal twenty points, and the slot is empty. -/
theorem charges_herbs : ChargesExactly herbs wounded 0 10 2 := by
  have at_ : wounded.itemAt 10 = some ⟨2, 1, 2, 1, 10, none⟩ := by decide +kernel
  refine (charges_iff wounded_reachable.stored (by decide) ?_).mpr ?_
  · intro it here
    cases at_.symm.trans here
    decide
  · intro it proto here known _ _ _
    cases at_.symm.trans here
    cases known
    refine ⟨by decide, ⟨fun stat hp => ?_, trivial⟩, fun _ _ => .inr (.inr (by decide +kernel))⟩
    cases hp
    have limit : getHPMax wounded.unit = 81 := by decide +kernel
    refine ⟨wounded.unit, rfl, ?_⟩
    show GainOk (getHPMax wounded.unit) (getHPMax wounded.unit) 50 20
    rw [limit, GainOk, if_neg (by decide)]
    exact ⟨by decide, .inl (by decide)⟩

/-- Five potions are taken of a stack of two. -/
theorem not_charges_potions :
    Session.Reachable wares ⟨customer, (Session.created 1 10).db⟩ ∧ ¬ ChargesExactly wares customer 0 10 5 := by
  refine ⟨customer_reachable, fun charges => ?_⟩
  have accepted : (consumeInventoryItemFor wares customer 0 10 5).map Option.isSome = .ok true := by decide +kernel
  have at_ : customer.itemAt 10 = some ⟨2, 1, 2, 1, 10, none⟩ := by decide +kernel
  obtain refused | ⟨it, proto, unit, p', here, -, -, -, charged⟩ := charges
  · rw [refused] at accepted
    cases accepted
  · cases at_.symm.trans here
    exact absurd charged.enough (by decide)

end Fed

end Player

end Legacy.Inventory
