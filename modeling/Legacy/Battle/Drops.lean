import Legacy.Battle.Roster
import Legacy.Battle.Turn
import Legacy.Lib.Ordering

/-!
# The items of a kill

`BattleSystem::GiveItemDropped` and `BattleSystem::SendItemDropped` (`src/src/game/BattleSystem.cpp`) with
the packets that they send. The drops are sorted by the cell they come from and given one after the other;
the loop compares the cell of a drop with the one before, and starts with a column that was never set.
-/

namespace Legacy.Battle
open Legacy.Lib

/-- The cell that an item comes from. -/
def ItemDropped.contributor (d : ItemDropped) : Nat × Nat := (d.ctrCol, d.ctrRow)

/-- The cell that an item goes to. -/
def ItemDropped.receiver (d : ItemDropped) : Nat × Nat := (d.rcvCol, d.rcvRow)

/-- source `compare_position` -/
def comparePosition (first second : ItemDropped) : Bool :=
  first.ctrCol < second.ctrCol || first.ctrRow < second.ctrRow

/-- The packet of an animation: after `Initialize` an item and the cell it comes from, then the cells that it
goes to. -/
structure DropPacket where
  header : Option (Nat × Nat × Nat)
  receivers : List (Nat × Nat)
  deriving DecidableEq, Repr

namespace DropPacket

/-- The cell that the packet names. -/
def cell (p : DropPacket) : Option (Nat × Nat) := p.header.map Prod.snd

/-- source `ByteBuffer::size`; the header of the packet takes five bytes, its code one and the item two -/
def size (p : DropPacket) : Nat := (if p.header.isSome then 10 else 0) + 2 * p.receivers.length

end DropPacket

/-- Why the drops cannot be given. -/
inductive DropFault where
  /-- `std::list::sort` with a comparison that is no strict weak order on the list. -/
  | comparison
  /-- The receiver has left its cell. -/
  | noReceiver
  /-- A creature is used as a player. -/
  | creatureReceiver
  deriving DecidableEq, Repr

/-- The player that an item is sent to (source `BattleSystem::SendItemDropped`). -/
def Engine.sendItemDropped (b : Engine) (d : ItemDropped) : Except DropFault Nat :=
  match b.getBattleUnit d.rcvCol d.rcvRow with
  | none => .error .noReceiver
  | some u =>
    match (b.units u).type with
    | .player => .ok u
    | .pet owner => .ok owner
    | .creature => .error .creatureReceiver

/-- The loop of `BattleSystem::GiveItemDropped`: the packet that it fills, the cell of the last drop, the
packets sent and the items given, each with its player. -/
structure DropLoop where
  data : DropPacket
  last : Nat × Nat
  sent : List DropPacket
  given : List (Nat × ItemDropped)

namespace DropLoop

/-- The loop before its first round; nothing sets the column of the last drop. -/
def start (lastX : Nat) : DropLoop := ⟨⟨none, []⟩, (lastX, 0), [], []⟩

/-- Sends the packet when it is long enough. -/
def flush (s : DropLoop) : DropLoop := if 6 < s.data.size then { s with sent := s.sent ++ [s.data] } else s

/-- The animation of one drop. -/
def animate (s : DropLoop) (d : ItemDropped) : DropLoop :=
  if d.contributor ≠ s.last then
    { s.flush with data := ⟨some (d.item, d.contributor), [d.receiver]⟩, last := d.contributor }
  else { s with data := { s.data with receivers := s.data.receivers ++ [d.receiver] }, last := d.contributor }

/-- One round. -/
def give (b : Engine) (s : DropLoop) (d : ItemDropped) : Except DropFault DropLoop := do
  let player ← b.sendItemDropped d
  return { s.animate d with given := s.given ++ [(player, d)] }

end DropLoop

/-- What is left of a call: the battle, the packets sent to its players and the items given. -/
structure DropResult where
  engine : Engine
  packets : List DropPacket
  given : List (Nat × ItemDropped)

/-- source `BattleSystem::GiveItemDropped` -/
def Drops.giveItemDropped (b : Engine) (lastX : Nat) : Except DropFault DropResult :=
  if b.itemDropped = [] then .ok ⟨b, [], []⟩
  else if StrictWeakOn comparePosition b.itemDropped then do
    let s ← (sortBy comparePosition b.itemDropped).foldlM (DropLoop.give b) (DropLoop.start lastX)
    return ⟨{ b with animationTimeItemDropped := 3, itemDropped := [] }, s.flush.sent, s.given⟩
  else .error .comparison

/-- One packet for each cell that a drop of the list comes from, with the receivers of that cell. -/
structure Packets (drops : List ItemDropped) (packets : List DropPacket) : Prop where
  nodup : (packets.map DropPacket.cell).Nodup
  cells : ∀ c, c ∈ packets.map DropPacket.cell ↔ ∃ d ∈ drops, c = some d.contributor
  receivers : ∀ p ∈ packets,
    p.receivers.Perm ((drops.filter fun d => p.cell = some d.contributor).map ItemDropped.receiver)

/-- Every drop of the list is given once, to its player. -/
structure Given (b : Engine) (drops : List ItemDropped) (given : List (Nat × ItemDropped)) : Prop where
  once : (given.map Prod.snd).Perm drops
  player : ∀ g ∈ given, b.sendItemDropped g.2 = .ok g.1

/-- The comparison orders the drops, and they are given and shown by contributor. -/
def Engine.DropsGrouped (b : Engine) (lastX : Nat) : Prop :=
  StrictWeakOn comparePosition b.itemDropped ∧
    Sat (Drops.giveItemDropped b lastX) fun r => Packets b.itemDropped r.packets ∧ Given b b.itemDropped r.given

/-- Somebody who can be given an item stands where the drop goes. -/
def Engine.Receives (b : Engine) (d : ItemDropped) : Prop :=
  ∃ u, b.getBattleUnit d.rcvCol d.rcvRow = some u ∧ (b.units u).isMember = true

/-- No drop comes from a cell to the left of another and below it. -/
def Chained (drops : List ItemDropped) : Prop :=
  ∀ a ∈ drops, ∀ b ∈ drops, a.ctrCol < b.ctrCol → a.ctrRow ≤ b.ctrRow

/-- The first drop after the sort comes from the cell that the loop starts with. -/
def StartsAt (lastX : Nat) (drops : List ItemDropped) : Prop :=
  (∃ d ∈ drops, d.contributor = (lastX, 0)) ∧ ∀ d ∈ drops, lastX ≤ d.ctrCol

/-- When the drops are given by contributor. -/
def Engine.Groupable (b : Engine) (lastX : Nat) : Prop :=
  b.itemDropped = [] ∨
    Chained b.itemDropped ∧ (∀ d ∈ b.itemDropped, b.Receives d) ∧ ¬StartsAt lastX b.itemDropped

/-- Two cells that are neither one before the other compare as equal, so on a chain the comparison is the
product order. -/
lemma strictWeakOn_comparePosition (drops : List ItemDropped) :
    StrictWeakOn comparePosition drops ↔ Chained drops := by
  constructor
  · intro weak a ha b hb left
    have before : comparePosition a b = true := by simp [comparePosition, left]
    have after := weak.asymm ha hb before
    simp only [comparePosition, Bool.or_eq_false_iff, decide_eq_false_iff_not, not_lt] at after
    exact after.2
  · intro chained
    refine ⟨fun a _ => by simp [comparePosition], fun a ha b hb c hc ab bc => ?_, fun a ha b hb c hc => ?_⟩
    · have hab := chained a ha b hb
      have hba := chained b hb a ha
      have hbc := chained b hb c hc
      have hcb := chained c hc b hb
      simp only [comparePosition, Bool.or_eq_true, decide_eq_true_eq] at ab bc ⊢
      omega
    · simp only [comparePosition, Bool.or_eq_false_iff, decide_eq_false_iff_not, not_lt]
      omega

namespace Packets

variable {drops : List ItemDropped} {packets : List DropPacket}

/-- The order of the drops does not matter. -/
lemma perm {drops' : List ItemDropped} (p : Packets drops packets) (same : drops.Perm drops') :
    Packets drops' packets := by
  refine ⟨p.nodup, fun c => ?_, fun q mem => ?_⟩
  · rw [p.cells c]
    exact exists_congr fun d => and_congr_left fun _ => same.mem_iff
  · exact (p.receivers q mem).trans ((same.filter _).map _)

/-- A packet that does not name the cell of a further drop stays as it is. -/
lemma receivers_other (p : Packets drops packets) {d : ItemDropped} {q : DropPacket} (mem : q ∈ packets)
    (other : q.cell ≠ some d.contributor) :
    q.receivers.Perm (((drops ++ [d]).filter fun d => q.cell = some d.contributor).map ItemDropped.receiver) := by
  rw [List.filter_append, List.map_append, List.filter_singleton, decide_eq_false other]
  simpa using p.receivers q mem

/-- A drop of a cell that no packet names gets a packet of its own. -/
lemma next (p : Packets drops packets) {d : ItemDropped} (fresh : ∀ e ∈ drops, e.contributor ≠ d.contributor) :
    Packets (drops ++ [d]) (packets ++ [⟨some (d.item, d.contributor), [d.receiver]⟩]) := by
  have unnamed : some d.contributor ∉ packets.map DropPacket.cell := by
    intro mem
    obtain ⟨e, mem, same⟩ := (p.cells _).mp mem
    exact fresh e mem (Option.some.inj same).symm
  refine ⟨?_, fun c => ?_, fun q mem => ?_⟩
  · rw [List.map_append, List.map_singleton, List.nodup_append]
    refine ⟨p.nodup, List.nodup_singleton _, fun c mem c' mem' same => ?_⟩
    have named : c = some d.contributor := same.trans (List.mem_singleton.mp mem')
    exact unnamed (named ▸ mem)
  · simp only [List.map_append, List.mem_append, p.cells c, List.map_singleton, List.mem_singleton, or_and_right,
      exists_or, exists_eq_left]
    rfl
  · obtain mem | mem := List.mem_append.mp mem
    · exact p.receivers_other mem fun same => unnamed (List.mem_map.mpr ⟨q, mem, same⟩)
    · rw [List.filter_append, List.map_append, List.mem_singleton.mp mem]
      have none : ∀ e ∈ drops, ¬d.contributor = e.contributor := fun e mem same => fresh e mem same.symm
      simpa [DropPacket.cell] using none

/-- A drop of the cell that the last packet names is added to that packet. -/
lemma same {p : DropPacket} (ps : Packets drops (packets ++ [p])) {d : ItemDropped}
    (cell : p.cell = some d.contributor) :
    Packets (drops ++ [d]) (packets ++ [{ p with receivers := p.receivers ++ [d.receiver] }]) := by
  have unnamed : some d.contributor ∉ packets.map DropPacket.cell := by
    intro mem
    have nodup := ps.nodup
    rw [List.map_append, List.map_singleton, List.nodup_append] at nodup
    exact nodup.2.2 _ mem _ (List.mem_singleton_self _) cell.symm
  refine ⟨?_, fun c => ?_, fun q mem => ?_⟩
  · simpa [DropPacket.cell] using ps.nodup
  · have before := ps.cells c
    simp only [List.map_append, List.map_singleton] at before ⊢
    have kept : ({ p with receivers := p.receivers ++ [d.receiver] } : DropPacket).cell = p.cell := rfl
    rw [kept, before]
    constructor
    · rintro ⟨e, mem, named⟩
      exact ⟨e, List.mem_append_left _ mem, named⟩
    · rintro ⟨e, mem, named⟩
      obtain mem | mem := List.mem_append.mp mem
      · exact ⟨e, mem, named⟩
      · have isLast : c = p.cell := by rw [named, List.mem_singleton.mp mem, cell]
        exact before.mp (List.mem_append_right _ (List.mem_singleton.mpr isLast))
  · obtain mem | mem := List.mem_append.mp mem
    · exact ps.receivers_other (List.mem_append_left _ mem) fun same => unnamed (List.mem_map.mpr ⟨q, mem, same⟩)
    · rw [List.filter_append, List.map_append, List.mem_singleton.mp mem]
      have last := ps.receivers p (List.mem_append_right _ (List.mem_singleton_self _))
      have kept : ({ p with receivers := p.receivers ++ [d.receiver] } : DropPacket).cell = p.cell := rfl
      rw [kept, List.filter_singleton, decide_eq_true cell]
      exact last.append_right _

end Packets

/-- Not after another drop: neither to its right nor below it. -/
def Upto (a b : ItemDropped) : Prop := a.ctrCol ≤ b.ctrCol ∧ a.ctrRow ≤ b.ctrRow

/-- After the sort the drops of a chain stand in the product order. -/
lemma pairwise_upto {drops : List ItemDropped} (weak : StrictWeakOn comparePosition drops) :
    (sortBy comparePosition drops).Pairwise Upto := by
  refine (pairwise_sortBy weak).imp fun after => ?_
  simp only [comparePosition, Bool.or_eq_false_iff, decide_eq_false_iff_not, not_lt] at after
  exact after

namespace DropLoop

variable {b : Engine} {s s' : DropLoop} {d : ItemDropped} {drops : List ItemDropped}

/-- A packet with a header is long enough. -/
lemma flush_headed (headed : s.data.cell ≠ none) : s.flush = { s with sent := s.sent ++ [s.data] } := by
  have header : s.data.header.isSome := by
    cases e : s.data.header with
    | none => exact absurd (by rw [DropPacket.cell, e]; rfl) headed
    | some _ => rfl
  rw [flush, if_pos]
  rw [DropPacket.size, if_pos header]
  omega

/-- The packets of the drops so far, the last of them being filled. -/
structure Grouping (drops : List ItemDropped) (s : DropLoop) : Prop where
  packets : Packets drops (s.sent ++ [s.data])
  cell : s.data.cell = some s.last
  top : ∀ e ∈ drops, e.ctrCol ≤ s.last.1 ∧ e.ctrRow ≤ s.last.2

/-- The first drop, which does not come from the cell that the loop starts with. -/
lemma grouping_first {lastX : Nat} (other : d.contributor ≠ (lastX, 0)) :
    Grouping [d] ((start lastX).animate d) := by
  have first : (start lastX).animate d =
      ⟨⟨some (d.item, d.contributor), [d.receiver]⟩, d.contributor, [], []⟩ := by
    simp only [animate, if_pos (show d.contributor ≠ (start lastX).last from other)]
    rfl
  have none : Packets [] [] := ⟨List.nodup_nil, fun c => by simp, nofun⟩
  rw [first]
  refine ⟨none.next nofun, rfl, fun e mem => ?_⟩
  rw [List.mem_singleton.mp mem]
  exact ⟨Nat.le_refl _, Nat.le_refl _⟩

/-- Every further drop. A drop of another cell is of a new one, since the drops are sorted. -/
lemma Grouping.animate (g : Grouping drops s) (sorted : ∀ e ∈ drops, Upto e d) :
    Grouping (drops ++ [d]) (s.animate d) := by
  have top : ∀ e ∈ drops ++ [d], e.ctrCol ≤ d.ctrCol ∧ e.ctrRow ≤ d.ctrRow := by
    intro e mem
    obtain mem | mem := List.mem_append.mp mem
    · exact sorted e mem
    · rw [List.mem_singleton.mp mem]
      exact ⟨Nat.le_refl _, Nat.le_refl _⟩
  rw [DropLoop.animate]
  split
  case isTrue other =>
    have fresh : ∀ e ∈ drops, e.contributor ≠ d.contributor := by
      intro e mem same
      obtain ⟨l, mem', last⟩ := (g.packets.cells s.last).mp (by simp [g.cell])
      have below := g.top e mem
      have above := sorted l mem'
      rw [Option.some.inj last] at below other
      obtain ⟨sameCol, sameRow⟩ := Prod.ext_iff.mp same
      refine other (Prod.ext ?_ ?_)
      · exact Nat.le_antisymm (sameCol ▸ below.1) above.1
      · exact Nat.le_antisymm (sameRow ▸ below.2) above.2
    rw [flush_headed (by simp [g.cell])]
    exact ⟨g.packets.next fresh, rfl, top⟩
  case isFalse same =>
    have same := not_not.mp same
    exact ⟨g.packets.same (same ▸ g.cell), same ▸ g.cell, top⟩

/-- An item is given when its packet finds a player. -/
lemma give_ok : give b s d = .ok s' ↔
    ∃ player, b.sendItemDropped d = .ok player ∧
      s' = { s.animate d with given := s.given ++ [(player, d)] } := by
  rw [give, bind_eq_ok]
  exact exists_congr fun player => and_congr_right fun _ => ⟨fun run => by cases run; rfl, fun e => e ▸ rfl⟩

/-- The items given so far. -/
lemma give_given (given : Given b drops s.given) (run : give b s d = .ok s') :
    Given b (drops ++ [d]) s'.given := by
  obtain ⟨player, sent, rfl⟩ := give_ok.mp run
  refine ⟨?_, fun g mem => ?_⟩
  · rw [List.map_append]
    exact given.once.append_right _
  · obtain mem | mem := List.mem_append.mp mem
    · exact given.player g mem
    · rw [List.mem_singleton.mp mem]
      exact sent

/-- The packets are grouped when the loop does not start at the first cell. -/
lemma give_run {lastX : Nat} (sorted : drops.Pairwise Upto) (full : drops ≠ [])
    (off : ¬StartsAt lastX drops) (run : drops.foldlM (give b) (start lastX) = .ok s') :
    Packets drops s'.flush.sent := by
  have kept : drops ≠ [] → Grouping drops s' := by
    refine foldlM_induct (P := fun done s => (done = [] → s = start lastX) ∧ (done ≠ [] → Grouping done s)) run
      ⟨fun _ => rfl, fun no => absurd rfl no⟩ (fun done d s s' pre kept run => ⟨by simp, fun _ => ?_⟩) |>.2
    obtain ⟨player, -, rfl⟩ := give_ok.mp run
    have ordered := List.pairwise_append.mp (sorted.sublist pre.sublist)
    cases done with
    | nil =>
      rw [kept.1 rfl]
      have first : d.contributor ≠ (lastX, 0) := by
        intro same
        obtain ⟨rest, rfl⟩ := pre
        refine off ⟨⟨d, by simp, same⟩, fun e mem => ?_⟩
        have col : d.ctrCol = lastX := (Prod.ext_iff.mp same).1
        rw [← col]
        obtain rfl | mem := List.mem_cons.mp mem
        · exact Nat.le_refl _
        · exact (List.rel_of_pairwise_cons sorted mem).1
      have g := grouping_first first
      exact ⟨g.packets, g.cell, g.top⟩
    | cons e done =>
      have g := (kept.2 (List.cons_ne_nil e done)).animate fun e mem => ordered.2.2 e mem d (by simp)
      exact ⟨g.packets, g.cell, g.top⟩
  have g := kept full
  rw [flush_headed (by simp [g.cell])]
  exact g.packets

/-- What a flush has sent was sent before, or is the packet that was collected. -/
lemma mem_flush {p : DropPacket} (mem : p ∈ s.flush.sent) : p ∈ s.sent ++ [s.data] := by
  rw [flush] at mem
  split at mem
  · exact mem
  · exact List.mem_append_left _ mem

/-- A loop that starts at the first cell never names it. -/
lemma give_unnamed {lastX : Nat} (sorted : drops.Pairwise Upto) (first : StartsAt lastX drops)
    (run : drops.foldlM (give b) (start lastX) = .ok s') :
    ∀ p ∈ s'.flush.sent, p.cell ≠ some (lastX, 0) := by
  refine fun p mem => (foldlM_induct (P := fun done s => (∀ p ∈ s.sent ++ [s.data], p.cell ≠ some (lastX, 0)) ∧
    (s.last = (lastX, 0) ∨ ∃ e ∈ done, e.contributor ≠ (lastX, 0))) run ⟨?_, .inl rfl⟩ ?_).1 p (mem_flush mem)
  · simp [start, DropPacket.cell]
  · rintro done d s s' pre ⟨unnamed, left⟩ run
    obtain ⟨player, -, rfl⟩ := give_ok.mp run
    have ordered := List.pairwise_append.mp (sorted.sublist pre.sublist)
    rw [animate]
    split
    case isTrue other =>
      have new : d.contributor ≠ (lastX, 0) := by
        obtain last | ⟨e, mem, away⟩ := left
        · exact last ▸ other
        · intro same
          -- an earlier drop is not after the first cell, and no drop is before it
          have le := ordered.2.2 e mem d (by simp)
          have ge := first.2 e (pre.subset (List.mem_append_left _ mem))
          obtain ⟨col, row⟩ := Prod.ext_iff.mp same
          refine away (Prod.ext (Nat.le_antisymm (col ▸ le.1) ge) (Nat.le_antisymm (row ▸ le.2) (Nat.zero_le _)))
      refine ⟨fun p mem => ?_, .inr ⟨d, by simp, new⟩⟩
      obtain mem | mem := List.mem_append.mp mem
      · exact unnamed p (mem_flush mem)
      · rw [List.mem_singleton.mp mem]
        exact fun named => new (Option.some.inj named)
    case isFalse same =>
      have same := not_not.mp same
      refine ⟨fun p mem => ?_, ?_⟩
      · obtain mem | mem := List.mem_append.mp mem
        · exact unnamed p (List.mem_append_left _ mem)
        · rw [List.mem_singleton.mp mem]
          exact unnamed s.data (by simp)
      · obtain last | ⟨e, mem, away⟩ := left
        · exact .inl (same.trans last)
        · exact .inr ⟨e, List.mem_append_left _ mem, away⟩

end DropLoop

/-- An item can be sent when somebody who can have it stands in the cell. -/
lemma Engine.receives_iff {b : Engine} {d : ItemDropped} :
    b.Receives d ↔ ∃ player, b.sendItemDropped d = .ok player := by
  rw [Receives, sendItemDropped]
  cases b.getBattleUnit d.rcvCol d.rcvRow with
  | none => simp
  | some u => cases type : (b.units u).type <;> simp [Unit.isMember, type]

namespace Drops

variable {b : Engine} {lastX : Nat} {r : DropResult}

/-- A call that returns took the drops in their order, if there were any. -/
lemma giveItemDropped_cases (run : giveItemDropped b lastX = .ok r) :
    b.itemDropped = [] ∧ r = ⟨b, [], []⟩ ∨
      b.itemDropped ≠ [] ∧ StrictWeakOn comparePosition b.itemDropped ∧ ∃ s,
        (sortBy comparePosition b.itemDropped).foldlM (DropLoop.give b) (DropLoop.start lastX) = .ok s ∧
          r = ⟨{ b with animationTimeItemDropped := 3, itemDropped := [] }, s.flush.sent, s.given⟩ := by
  rw [giveItemDropped] at run
  split at run
  case isTrue empty =>
    cases run
    exact .inl ⟨empty, rfl⟩
  case isFalse full =>
    split at run
    case isTrue weak =>
      obtain ⟨s, loop, run⟩ := bind_eq_ok.mp run
      cases run
      exact .inr ⟨full, weak, s, loop, rfl⟩
    case isFalse => cases run

/-- What the call does to the battle is what the steps of a battle do. -/
theorem giveItemDropped_engine (run : giveItemDropped b lastX = .ok r) : b.giveItemDropped = .ok r.engine := by
  obtain ⟨empty, rfl⟩ | ⟨full, -, s, loop, rfl⟩ := giveItemDropped_cases run
  · rw [Engine.giveItemDropped, if_pos empty]
  · have there : (b.itemDropped.all fun d => (b.getBattleUnit d.rcvCol d.rcvRow).isSome) = true := by
      refine List.all_eq_true.mpr (fun d mem => ?_)
      obtain ⟨_, _, round⟩ := foldlM_round loop ((sortBy_perm _ _).mem_iff.mpr mem)
      obtain ⟨player, sent, -⟩ := DropLoop.give_ok.mp round
      obtain ⟨u, unit, -⟩ := Engine.receives_iff.mpr ⟨player, sent⟩
      rw [unit]
      rfl
    rw [Engine.giveItemDropped, if_neg full, if_pos there]

/-- A call with drops that it can group. -/
lemma grouped (full : b.itemDropped ≠ []) (chained : Chained b.itemDropped)
    (receives : ∀ d ∈ b.itemDropped, b.Receives d) (off : ¬StartsAt lastX b.itemDropped) :
    b.DropsGrouped lastX := by
  have weak := (strictWeakOn_comparePosition _).mpr chained
  have same := sortBy_perm comparePosition b.itemDropped
  have total : ∀ d ∈ sortBy comparePosition b.itemDropped, ∀ s, ∃ s', DropLoop.give b s d = .ok s' := by
    intro d mem s
    obtain ⟨player, sent⟩ := Engine.receives_iff.mp (receives d (same.mem_iff.mp mem))
    exact ⟨_, DropLoop.give_ok.mpr ⟨player, sent, rfl⟩⟩
  obtain ⟨s, loop⟩ := foldlM_total total (DropLoop.start lastX)
  have run : giveItemDropped b lastX =
      .ok ⟨{ b with animationTimeItemDropped := 3, itemDropped := [] }, s.flush.sent, s.given⟩ := by
    rw [giveItemDropped, if_neg full, if_pos weak, loop]
    rfl
  refine ⟨weak, sat_iff.mpr ⟨_, run, ?_, ?_⟩⟩
  · have sortedFull : sortBy comparePosition b.itemDropped ≠ [] := fun e => full (e ▸ same).symm.eq_nil
    have sortedOff : ¬StartsAt lastX (sortBy comparePosition b.itemDropped) := by
      rintro ⟨⟨d, mem, cell⟩, least⟩
      exact off ⟨⟨d, same.mem_iff.mp mem, cell⟩, fun e mem => least e (same.mem_iff.mpr mem)⟩
    exact (DropLoop.give_run (pairwise_upto weak) sortedFull sortedOff loop).perm same
  · have init : Given b [] (DropLoop.start lastX).given := ⟨List.Perm.nil, nofun⟩
    have given : Given b (sortBy comparePosition b.itemDropped) s.given :=
      foldlM_induct (P := fun done s => Given b done s.given) loop init
        fun _ _ _ _ _ given run => DropLoop.give_given given run
    exact ⟨given.once.trans same, given.player⟩

/-- A call without drops gives nothing. -/
lemma grouped_nil (empty : b.itemDropped = []) : b.DropsGrouped lastX := by
  have run : giveItemDropped b lastX = .ok ⟨b, [], []⟩ := by rw [giveItemDropped, if_pos empty]
  refine ⟨(strictWeakOn_comparePosition _).mpr (by rw [empty]; nofun), sat_iff.mpr ⟨_, run, ?_, ?_⟩⟩
  · rw [empty]
    exact ⟨List.nodup_nil, fun c => by simp, nofun⟩
  · rw [empty]
    exact ⟨List.Perm.nil, nofun⟩

/-- Exactly these lists are given and shown by contributor. -/
theorem dropsGrouped_iff (b : Engine) (lastX : Nat) : b.DropsGrouped lastX ↔ b.Groupable lastX := by
  constructor
  · rintro ⟨weak, sat⟩
    obtain ⟨r, run, packets, -⟩ := sat_iff.mp sat
    obtain ⟨empty, -⟩ | ⟨-, -, s, loop, rfl⟩ := giveItemDropped_cases run
    · exact .inl empty
    · have same := sortBy_perm comparePosition b.itemDropped
      refine .inr ⟨(strictWeakOn_comparePosition _).mp weak, fun d mem => ?_, fun first => ?_⟩
      · obtain ⟨_, _, round⟩ := foldlM_round loop (same.mem_iff.mpr mem)
        obtain ⟨player, sent, -⟩ := DropLoop.give_ok.mp round
        exact Engine.receives_iff.mpr ⟨player, sent⟩
      · obtain ⟨⟨d, mem, cell⟩, least⟩ := first
        have sortedFirst : StartsAt lastX (sortBy comparePosition b.itemDropped) :=
          ⟨⟨d, same.mem_iff.mpr mem, cell⟩, fun e mem => least e (same.mem_iff.mp mem)⟩
        obtain ⟨p, mem', named⟩ := List.mem_map.mp ((packets.cells (some (lastX, 0))).mpr ⟨d, mem, by rw [cell]⟩)
        exact DropLoop.give_unnamed (pairwise_upto weak) sortedFirst loop p mem' named
  · rintro (empty | ⟨chained, receives, off⟩)
    · exact grouped_nil empty
    · cases drops : b.itemDropped with
      | nil => exact grouped_nil drops
      | cons d rest => exact grouped (by simp [drops]) chained receives off

/-- A duel in which two creatures were killed, each by a hit of the player that dropped something. -/
def crossed : Engine := { Engine.duel with itemDropped := [⟨3, 2, 7, 0, 1⟩, ⟨3, 2, 8, 1, 0⟩] }

/-- Each of the two cells is before the other, and there is no order to sort by. -/
theorem not_dropsGrouped : ¬crossed.DropsGrouped 255 ∧ ¬∀ drops, StrictWeakOn comparePosition drops := by
  have crosses : ¬StrictWeakOn comparePosition crossed.itemDropped := by decide
  exact ⟨fun grouped => crosses grouped.1, fun order => crosses (order _)⟩

end Drops

end Legacy.Battle
