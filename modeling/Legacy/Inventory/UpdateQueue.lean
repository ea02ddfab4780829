import Legacy.Inventory.Loading
import Legacy.Lib.Reach

/-!
# The item update queue

An item in the queue knows its index there, and an item that is deleted before it was ever saved leaves a
null entry. `faithful_of_reaches` says that the queue and the positions agree in every state of a run of
`SetState` calls and saves in which the queue has at most 32767 entries.
-/

namespace Legacy.Inventory
open Legacy.Lib

namespace Player

/-- The index of an item in the queue. -/
def QueuedAt (p : Player) (k g : Nat) : Prop := p.itemUpdateQueue[k]? = some (some g)

/-- The state that `SetState` leaves on an item: a new item stays new until it is saved. -/
def kept (p : Player) (g : Nat) (state : ItemUpdateState) : ItemUpdateState :=
  if (p.marks g).uState = .new then .new else state

/-- An item that waits is not unchanged. -/
lemma kept_ne {p : Player} {g : Nat} {state : ItemUpdateState} (ne : state ≠ .unchanged) :
    p.kept g state ≠ .unchanged := by
  rw [kept]
  split
  · exact ItemUpdateState.noConfusion
  · exact ne

/-- An item that is in the queue, or whose queue is blocked, only gets its state. -/
lemma requeue_eq_remark {p : Player} {g : Nat} {it : Item} (state : ItemUpdateState)
    (stays : (p.marks g).uQueuePos ≠ -1 ∨ p.itemUpdateQueueBlocked) :
    p.requeue g it state =
      { p with marks := Function.update p.marks g ⟨p.kept g state, (p.marks g).uQueuePos⟩ } := by
  have pos : ∀ q : Player, (q.marks g).uQueuePos = (p.marks g).uQueuePos →
      q.itemUpdateQueueBlocked = p.itemUpdateQueueBlocked → q.addToUpdateQueueOf g it = q := by
    intro q pos blocked
    rw [addToUpdateQueueOf, pos, blocked]
    split_ifs with out foreign free
    · rfl
    · rfl
    · rfl
    · cases stays with
      | inl queued => exact absurd queued out
      | inr stuck => exact absurd stuck free
  rw [requeue, kept]
  by_cases new : (p.marks g).uState = .new
  · rw [if_neg (not_not.mpr new), if_pos new, pos p rfl rfl, ← new, Function.update_eq_self]
  · have marked : ((p.setMark g ⟨state, (p.marks g).uQueuePos⟩).marks g).uQueuePos = (p.marks g).uQueuePos := by
      simp only [setMark, Function.update_self]
    rw [if_pos new, if_neg new]
    exact pos _ marked rfl

/-- An item that is in no queue goes to the end of the free queue of its owner. -/
lemma requeue_eq_push {p : Player} {g : Nat} {it : Item} (state : ItemUpdateState)
    (out : (p.marks g).uQueuePos = -1) (owner : it.owner = p.guid) (unblocked : p.itemUpdateQueueBlocked = false) :
    p.requeue g it state =
      { p with
        itemUpdateQueue := p.itemUpdateQueue ++ [some g]
        marks := Function.update p.marks g ⟨p.kept g state, i16 p.itemUpdateQueue.length⟩ } := by
  rw [requeue, kept]
  by_cases new : (p.marks g).uState = .new
  · rw [if_neg (not_not.mpr new), if_pos new, addToUpdateQueueOf, if_neg (not_not.mpr out),
      if_neg (not_not.mpr owner.symm), unblocked, if_neg Bool.false_ne_true, ← new]
  · rw [if_pos new, if_neg new, addToUpdateQueueOf]
    simp only [setMark, Function.update_self, out, owner, unblocked, ne_eq, not_true_eq_false, if_false,
      Bool.false_eq_true, Function.update_idem]

/-- An item of the player that is alive. -/
def Owns (p : Player) (g : Nat) : Prop := ∃ it, p.heap g = some it ∧ it.owner = p.guid

end Player

/-- A player with its tables, and the items that had `SetState` called while the queue was not blocked. -/
structure Queueing where
  player : Player
  database : Database
  called : Nat → Bool

namespace Queueing

/-- A step of a run: an item is created for the player, `SetState` is called on an item, the load ends, or the
inventory is saved. -/
inductive Event where
  | create (it : Item)
  | setState (g : Nat) (state : ItemUpdateState)
  | unblock
  | save
  deriving DecidableEq

/-- A new object has a guid that no other object has. `SetState` is called on items of the player, with
`ITEM_UNCHANGED` only by the load and the save. -/
def step (objmgr : ObjectMgr) (s : Queueing) : Event → Option Queueing
  | .create it =>
    if s.player.heap it.guid = none ∧ it.owner = s.player.guid then
      some { s with player := s.player.newObject it, called := Function.update s.called it.guid false }
    else none
  | .setState g state =>
    match s.player.heap g with
    | none => none
    | some it =>
      if it.owner = s.player.guid ∧ (state = .unchanged → s.player.itemUpdateQueueBlocked) then
        match s.player.setState g state with
        | .ok p =>
          some { s with
            player := p
            called := Function.update s.called g (s.called g || !s.player.itemUpdateQueueBlocked) }
        | .error _ => none
      else none
  | .unblock => some { s with player := { s.player with itemUpdateQueueBlocked := false } }
  | .save =>
    match s.player.saveInventory objmgr s.database with
    | .ok (p, db) => some { s with player := p, database := db }
    | .error _ => none

/-- The step leaves at most 32767 entries in the queue. -/
def Short (objmgr : ObjectMgr) (s : Queueing) (e : Event) : Prop :=
  ∀ s' ∈ step objmgr s e, s'.player.itemUpdateQueue.length ≤ 32767

instance (objmgr : ObjectMgr) (s : Queueing) (e : Event) : Decidable (Short objmgr s e) :=
  inferInstanceAs (Decidable (∀ s' ∈ step objmgr s e, _))

/-- The queue and the positions of the items agree. -/
structure Faithful (s : Queueing) : Prop where
  live : ∀ k g, s.player.QueuedAt k g → s.player.Owns g ∧ (s.player.marks g).uQueuePos = k
  once : ∀ j k g, s.player.QueuedAt j g → s.player.QueuedAt k g → j = k
  queued : ∀ g, s.player.Owns g → (s.player.marks g).uState ≠ .unchanged → s.called g → ∃ k, s.player.QueuedAt k g
  outside : ∀ g, s.player.Owns g → (∀ k, ¬s.player.QueuedAt k g) → (s.player.marks g).uQueuePos = -1

/-- An empty queue, in which no item believes to be. -/
structure Initial (s : Queueing) : Prop where
  named : ∀ g it, s.player.heap g = some it → it.guid = g
  empty : s.player.itemUpdateQueue = []
  outside : ∀ g, (s.player.marks g).uQueuePos = -1
  fresh : ∀ g, s.called g = false

/-- What carries the agreement: a blocked queue is empty, and what is in the queue knows its index. -/
structure Indexed (s : Queueing) : Prop where
  named : ∀ g it, s.player.heap g = some it → it.guid = g
  blocked : s.player.itemUpdateQueueBlocked → s.player.itemUpdateQueue = [] ∧ ∀ g, s.called g = false
  short : s.player.itemUpdateQueue.length ≤ 32767
  live : ∀ k g, s.player.QueuedAt k g → s.player.Owns g ∧ (s.player.marks g).uQueuePos = k
  known : ∀ g, s.player.Owns g → (s.player.marks g).uQueuePos ≠ -1 → ∃ k, s.player.QueuedAt k g
  queued : ∀ g, s.player.Owns g → (s.player.marks g).uState ≠ .unchanged → s.called g → ∃ k, s.player.QueuedAt k g

/-- A queue with its indices is faithful. -/
lemma Indexed.faithful {s : Queueing} (h : Indexed s) : Faithful s := by
  refine ⟨h.live, fun j k g at_ at' => ?_, h.queued, fun g owns notQueued => ?_⟩
  · have pos := (h.live j g at_).2
    rw [(h.live k g at').2] at pos
    exact (Int.ofNat_inj.mp pos).symm
  · by_contra pos
    obtain ⟨k, at_⟩ := h.known g owns pos
    exact notQueued k at_

/-- An empty queue has its indices. -/
lemma Initial.indexed {s : Queueing} (h : Initial s) : Indexed s := by
  have nowhere (k g : Nat) : ¬s.player.QueuedAt k g := by
    intro at_
    rw [Player.QueuedAt, h.empty] at at_
    cases at_
  refine ⟨h.named, fun _ => ⟨h.empty, h.fresh⟩, ?_, fun k g at_ => absurd at_ (nowhere k g), fun g _ pos => ?_,
    fun g _ _ called => ?_⟩
  · rw [h.empty]
    exact Nat.zero_le _
  · exact absurd (h.outside g) pos
  · rw [h.fresh g] at called
    cases called

/-- A new object is in no queue. -/
lemma Indexed.create {s : Queueing} (h : Indexed s) {it : Item} (new : s.player.heap it.guid = none) :
    Indexed { s with player := s.player.newObject it, called := Function.update s.called it.guid false } := by
  have notQueued (k : Nat) : ¬s.player.QueuedAt k it.guid := by
    intro at_
    obtain ⟨⟨it', here, -⟩, -⟩ := h.live k it.guid at_
    cases new.symm.trans here
  have heapSelf : (s.player.newObject it).heap it.guid = some it := Function.update_self _ _ _
  have marksSelf : (s.player.newObject it).marks it.guid = .fresh := Function.update_self _ _ _
  have owns {g : Nat} (ne : g ≠ it.guid) : (s.player.newObject it).Owns g ↔ s.player.Owns g := by
    simp only [Player.Owns, Player.newObject, Function.update_of_ne ne]
  have marks {g : Nat} (ne : g ≠ it.guid) : (s.player.newObject it).marks g = s.player.marks g :=
    Function.update_of_ne ne _ _
  refine ⟨fun g it' here => ?named, fun blocked => ⟨(h.blocked blocked).1, fun g => ?blocked⟩, h.short,
    fun k g at_ => ?live, fun g own pos => ?known, fun g own dirty called => ?queued⟩
  case named =>
    by_cases same : g = it.guid
    · subst same
      cases heapSelf.symm.trans here
      rfl
    · exact h.named g it' ((Function.update_of_ne same _ _).symm.trans here)
  case blocked => simp only [Function.update_apply, (h.blocked blocked).2 g, ite_self]
  case live =>
    have ne : g ≠ it.guid := fun same => notQueued k (same ▸ at_)
    rw [owns ne, marks ne]
    exact h.live k g at_
  case known =>
    by_cases same : g = it.guid
    · subst same
      exact absurd (congrArg Mark.uQueuePos marksSelf) pos
    · rw [owns same] at own
      rw [marks same] at pos
      exact h.known g own pos
  case queued =>
    by_cases same : g = it.guid
    · subst same
      simp only [Function.update_self, Bool.false_eq_true] at called
    · rw [owns same] at own
      rw [marks same] at dirty
      simp only [Function.update_of_ne same] at called
      exact h.queued g own dirty called

/-- An item is deleted whose entry, if it has one, is null. -/
lemma Indexed.delete {s : Queueing} (h : Indexed s) {g : Nat} {queue : List (Option Nat)}
    {marks : Nat → Mark} {called : Nat → Bool}
    (length : queue.length = s.player.itemUpdateQueue.length)
    (others : ∀ g', g' ≠ g → marks g' = s.player.marks g' ∧ called g' = s.called g' ∧
      ∀ k : Nat, queue[k]? = some (some g') ↔ s.player.QueuedAt k g')
    (gone : ∀ k : Nat, queue[k]? ≠ some (some g))
    (unblocked : s.player.itemUpdateQueueBlocked → queue = s.player.itemUpdateQueue ∧ called g = false) :
    Indexed { s with
      player := { s.player with itemUpdateQueue := queue, marks := marks }.deleteItem g
      called := called } := by
  have owns {g' : Nat} (own : ({ s.player with itemUpdateQueue := queue, marks := marks }.deleteItem g).Owns g') :
      g' ≠ g ∧ s.player.Owns g' := by
    obtain ⟨it, here, owner⟩ := own
    have ne : g' ≠ g := by
      rintro rfl
      cases (Player.deleteItem_heap_self _ _).symm.trans here
    exact ⟨ne, it, (Player.deleteItem_heap_ne _ ne).symm.trans here, owner⟩
  refine ⟨fun g' it here => ?named, fun blocked => ⟨?empty, fun g' => ?uncalled⟩, ?short, fun k g' at_ => ?live,
    fun g' own pos => ?known, fun g' own dirty called' => ?queued⟩
  case named =>
    have ne : g' ≠ g := by
      rintro rfl
      cases (Player.deleteItem_heap_self _ _).symm.trans here
    exact h.named g' it ((Player.deleteItem_heap_ne _ ne).symm.trans here)
  case empty => exact (unblocked blocked).1.trans (h.blocked blocked).1
  case uncalled =>
    by_cases same : g' = g
    · exact same ▸ (unblocked blocked).2
    · exact (others g' same).2.1.trans ((h.blocked blocked).2 g')
  case short => exact length ▸ h.short
  case live =>
    have ne : g' ≠ g := by
      rintro rfl
      exact gone k at_
    obtain ⟨mark, -, queued⟩ := others g' ne
    obtain ⟨⟨it, here, owner⟩, pos⟩ := h.live k g' ((queued k).mp at_)
    exact ⟨⟨it, (Player.deleteItem_heap_ne _ ne).trans here, owner⟩, (congrArg Mark.uQueuePos mark).trans pos⟩
  case known =>
    obtain ⟨ne, own⟩ := owns own
    obtain ⟨mark, -, queued⟩ := others g' ne
    have pos' : (s.player.marks g').uQueuePos ≠ -1 := mark ▸ pos
    obtain ⟨k, at_⟩ := h.known g' own pos'
    exact ⟨k, (queued k).mpr at_⟩
  case queued =>
    obtain ⟨ne, own⟩ := owns own
    obtain ⟨mark, same, queued⟩ := others g' ne
    have dirty' : (s.player.marks g').uState ≠ .unchanged := mark ▸ dirty
    obtain ⟨k, at_⟩ := h.queued g' own dirty' (same ▸ called')
    exact ⟨k, (queued k).mpr at_⟩

/-- A mark may change that keeps its position. -/
lemma Indexed.remark {s : Queueing} (h : Indexed s) {g : Nat} {m : Mark} {c : Bool}
    (pos : m.uQueuePos = (s.player.marks g).uQueuePos)
    (queued : m.uState ≠ .unchanged → c → ∃ k, s.player.QueuedAt k g)
    (blocked : s.player.itemUpdateQueueBlocked → c = false) :
    Indexed { s with
      player := { s.player with marks := Function.update s.player.marks g m }
      called := Function.update s.called g c } := by
  have same (g' : Nat) : (Function.update s.player.marks g m g').uQueuePos = (s.player.marks g').uQueuePos := by
    by_cases here : g' = g
    · subst here
      rw [Function.update_self, pos]
    · rw [Function.update_of_ne here]
  refine ⟨h.named, fun blocked' => ⟨(h.blocked blocked').1, fun g' => ?blocked⟩, h.short, fun k g' at_ => ?live,
    fun g' own pos' => ?known, fun g' own dirty called => ?queued⟩
  case blocked =>
    by_cases here : g' = g
    · subst here
      exact (Function.update_self _ _ _).trans (blocked blocked')
    · exact (Function.update_of_ne here _ _).trans ((h.blocked blocked').2 g')
  case live =>
    obtain ⟨own, index⟩ := h.live k g' at_
    exact ⟨own, (same g').trans index⟩
  case known =>
    have pos'' : (s.player.marks g').uQueuePos ≠ -1 := same g' ▸ pos'
    exact h.known g' own pos''
  case queued =>
    simp only at dirty called
    by_cases here : g' = g
    · subst here
      rw [Function.update_self] at dirty called
      exact queued dirty called
    · rw [Function.update_of_ne here] at dirty called
      exact h.queued g' own dirty called

/-- An item that is in no queue is appended. -/
lemma Indexed.push {s : Queueing} (h : Indexed s) {g : Nat} (own : s.player.Owns g)
    (out : (s.player.marks g).uQueuePos = -1) (unblocked : s.player.itemUpdateQueueBlocked = false)
    (short : s.player.itemUpdateQueue.length + 1 ≤ 32767) (state : ItemUpdateState) (c : Bool) :
    Indexed { s with
      player := { s.player with
        itemUpdateQueue := s.player.itemUpdateQueue ++ [some g]
        marks := Function.update s.player.marks g ⟨state, s.player.itemUpdateQueue.length⟩ }
      called := Function.update s.called g c } := by
  have old {k g' : Nat} (at_ : s.player.QueuedAt k g') :
      (s.player.itemUpdateQueue ++ [some g])[k]? = some (some g') := by
    rw [List.getElem?_append_left (List.getElem?_eq_some_iff.mp at_).1]
    exact at_
  have new : (s.player.itemUpdateQueue ++ [some g])[s.player.itemUpdateQueue.length]? = some (some g) :=
    List.getElem?_concat_length
  -- the index of a queued item is not -1
  have notQueued (k : Nat) : ¬s.player.QueuedAt k g := by
    intro at_
    have pos := (h.live k g at_).2
    rw [out] at pos
    cases pos
  refine ⟨h.named, fun blocked => ?blocked, ?short, fun k g' at_ => ?live, fun g' own' pos => ?known,
    fun g' own' dirty called => ?queued⟩
  case blocked => exact absurd (unblocked.symm.trans blocked) Bool.false_ne_true
  case short =>
    rw [List.length_append]
    exact short
  case live =>
    have place := at_
    rw [Player.QueuedAt, List.getElem?_append] at place
    split at place
    case isTrue =>
      have ne : g' ≠ g := fun here => notQueued k (here ▸ place)
      obtain ⟨own', index⟩ := h.live k g' place
      exact ⟨own', (congrArg Mark.uQueuePos (Function.update_of_ne ne _ _)).trans index⟩
    case isFalse late =>
      have last : k - s.player.itemUpdateQueue.length = 0 := by
        by_contra more
        rw [List.getElem?_eq_none] at place
        · cases place
        · exact Nat.one_le_iff_ne_zero.mpr more
      rw [last] at place
      cases place
      have index : k = s.player.itemUpdateQueue.length := by omega
      refine ⟨own, ?_⟩
      simp only [Function.update_self, index]
  case known =>
    by_cases here : g' = g
    · subst here
      exact ⟨_, new⟩
    · simp only [Function.update_of_ne here] at pos
      obtain ⟨k, at_⟩ := h.known g' own' pos
      exact ⟨k, old at_⟩
  case queued =>
    by_cases here : g' = g
    · subst here
      exact ⟨_, new⟩
    · simp only [Function.update_of_ne here] at dirty called
      obtain ⟨k, at_⟩ := h.queued g' own' dirty called
      exact ⟨k, old at_⟩

/-- An item in the queue of an unblocked player leaves a null entry; one that is not in it leaves nothing. -/
lemma Indexed.removeFromUpdateQueueOf {s : Queueing} (h : Indexed s) {g : Nat} {it : Item}
    (here : s.player.heap g = some it) (owner : it.owner = s.player.guid) :
    ∃ queue marks, s.player.removeFromUpdateQueueOf g it =
        .ok { s.player with itemUpdateQueue := queue, marks := marks } ∧
      queue.length = s.player.itemUpdateQueue.length ∧
      (∀ g', g' ≠ g → marks g' = s.player.marks g' ∧ ∀ k : Nat, queue[k]? = some (some g') ↔ s.player.QueuedAt k g') ∧
      (∀ k : Nat, queue[k]? ≠ some (some g)) ∧
      (s.player.itemUpdateQueueBlocked → queue = s.player.itemUpdateQueue) := by
  rw [Player.removeFromUpdateQueueOf]
  by_cases out : (s.player.marks g).uQueuePos = -1
  · refine ⟨s.player.itemUpdateQueue, s.player.marks, if_pos out, rfl, fun g' _ => ⟨rfl, fun k => Iff.rfl⟩,
      fun k at_ => ?_, fun _ => rfl⟩
    have pos := (h.live k g at_).2
    rw [out] at pos
    cases pos
  obtain ⟨k, at_⟩ := h.known g ⟨it, here, owner⟩ out
  have pos := (h.live k g at_).2
  have lt := (List.getElem?_eq_some_iff.mp at_).1
  -- the queue of a blocked player is empty
  have unblocked : ¬s.player.itemUpdateQueueBlocked := by
    intro blocked
    rw [(h.blocked blocked).1] at lt
    exact Nat.not_lt_zero _ lt
  have range : 0 ≤ (s.player.marks g).uQueuePos ∧ (s.player.marks g).uQueuePos < s.player.itemUpdateQueue.length := by
    rw [pos]
    exact ⟨Int.natCast_nonneg k, Int.ofNat_lt.mpr lt⟩
  have index : (s.player.marks g).uQueuePos.toNat = k := by
    rw [pos]
    exact Int.toNat_natCast k
  simp only [if_neg out, if_neg (not_not.mpr owner.symm), if_neg unblocked, if_pos range, index]
  refine ⟨_, _, rfl, List.length_set, fun g' ne => ⟨Function.update_of_ne ne _ _, fun j => ?_⟩, fun j again => ?_,
    fun blocked => absurd blocked unblocked⟩
  · rw [Player.QueuedAt]
    by_cases same : j = k
    · subst same
      rw [List.getElem?_set_self lt, at_]
      constructor
      · intro null
        cases null
      · intro mine
        cases mine
        exact absurd rfl ne
    · rw [List.getElem?_set_ne (Ne.symm same)]
  · by_cases same : j = k
    · subst same
      rw [List.getElem?_set_self lt] at again
      cases again
    · rw [List.getElem?_set_ne (Ne.symm same)] at again
      have pos' := (h.live j g again).2
      rw [pos] at pos'
      exact same (Int.ofNat_inj.mp pos').symm

/-- `SetState` on an item of the player returns, and the queue stays indexed. -/
lemma Indexed.setState {s : Queueing} (h : Indexed s) {g : Nat} {it : Item} (here : s.player.heap g = some it)
    (owner : it.owner = s.player.guid) {state : ItemUpdateState}
    (allowed : state = .unchanged → s.player.itemUpdateQueueBlocked) :
    ∃ p, s.player.setState g state = .ok p ∧
      (p.itemUpdateQueue.length ≤ 32767 →
        Indexed { s with
          player := p
          called := Function.update s.called g (s.called g || !s.player.itemUpdateQueueBlocked) }) := by
  have own : s.player.Owns g := ⟨it, here, owner⟩
  have calledBlocked (blocked : s.player.itemUpdateQueueBlocked) :
      (s.called g || !s.player.itemUpdateQueueBlocked) = false := by
    rw [(h.blocked blocked).2 g, blocked]
    rfl
  have outBlocked (blocked : s.player.itemUpdateQueueBlocked) : (s.player.marks g).uQueuePos = -1 := by
    by_contra out
    obtain ⟨k, at_⟩ := h.known g own out
    rw [Player.QueuedAt, (h.blocked blocked).1] at at_
    cases at_
  -- the four ways of `SetState`: erased, loaded, marked only, marked and appended
  by_cases never : (s.player.marks g).uState = .new ∧ state = .removed
  · obtain ⟨new, rfl⟩ := never
    obtain ⟨queue, marks, eq, length, others, gone, unblocked⟩ := h.removeFromUpdateQueueOf here owner
    rw [Player.setState_removed_new here new, eq]
    refine ⟨_, rfl, fun _ => h.delete length (fun g' ne => ⟨(others g' ne).1, ?_, (others g' ne).2⟩) gone
      fun blocked => ⟨unblocked blocked, ?_⟩⟩
    · exact Function.update_of_ne ne _ _
    · exact (Function.update_self _ _ _).trans (calledBlocked blocked)
  by_cases loaded : state = .unchanged
  · subst loaded
    refine ⟨s.player.setMark g ⟨.unchanged, -1⟩, ?_, fun _ => ?_⟩
    · exact Player.setState_unchanged here
    · exact h.remark (outBlocked (allowed rfl)).symm (fun dirty => absurd rfl dirty) calledBlocked
  refine ⟨s.player.requeue g it state, ?_, fun short => ?_⟩
  · simp only [Player.setState, Player.deref_eq here, Player.requeue, bind, Except.bind, pure, Except.pure, never,
      if_false, ne_eq, loaded, not_false_eq_true, if_true]
  have dirty : s.player.kept g state ≠ .unchanged := Player.kept_ne loaded
  by_cases stays : (s.player.marks g).uQueuePos ≠ -1 ∨ s.player.itemUpdateQueueBlocked
  · rw [Player.requeue_eq_remark state stays]
    refine h.remark rfl (fun _ called => ?_) calledBlocked
    cases stays with
    | inl queued => exact h.known g own queued
    | inr blocked =>
      rw [calledBlocked blocked] at called
      cases called
  · obtain ⟨out, unblocked⟩ := not_or.mp stays
    have out := not_not.mp out
    have unblocked := Bool.eq_false_iff.mpr unblocked
    rw [Player.requeue_eq_push state out owner unblocked] at short ⊢
    rw [List.length_append, List.length_singleton] at short
    have index : i16 s.player.itemUpdateQueue.length = s.player.itemUpdateQueue.length :=
      i16_of_range (by omega) (by omega)
    rw [index]
    exact h.push own out unblocked short _ _

/-- What the loop of a save has done to the items: those of a list are deleted or have nothing to save. -/
structure Processed (p p' : Player) (queue : List (Option Nat)) : Prop where
  guid : p'.guid = p.guid
  blocked : p'.itemUpdateQueueBlocked = p.itemUpdateQueueBlocked
  heap : ∀ g it, p'.heap g = some it → p.heap g = some it
  inside : ∀ g, some g ∈ queue → p'.heap g = none ∨ p'.marks g = ⟨.unchanged, -1⟩
  outside : ∀ g, some g ∉ queue → p'.marks g = p.marks g

/-- An item that is saved is marked. -/
lemma processed_mark {p : Player} {g : Nat} : Processed p (p.setMark g ⟨.unchanged, -1⟩) [some g] := by
  refine ⟨rfl, rfl, fun _ _ here => here, fun g' mem => ?_, fun g' notMem => ?_⟩
  · cases List.mem_singleton.mp mem
    exact Or.inr (Function.update_self _ _ _)
  · have ne : g' ≠ g := fun same => notMem (List.mem_singleton.mpr (congrArg some same))
    exact Function.update_of_ne ne _ _

/-- An item that is removed is deleted. -/
lemma processed_delete {p : Player} {g : Nat} : Processed p (p.deleteItem g) [some g] := by
  refine ⟨rfl, rfl, fun g' it here => ?_, fun g' mem => ?_, fun g' _ => rfl⟩
  · have ne : g' ≠ g := by
      rintro rfl
      cases (Player.deleteItem_heap_self _ _).symm.trans here
    exact (Player.deleteItem_heap_ne _ ne).symm.trans here
  · cases List.mem_singleton.mp mem
    exact Or.inl (Player.deleteItem_heap_self _ _)

/-- An entry of the queue is deleted or has nothing to save. -/
lemma processed_saveEntry {objmgr : ObjectMgr} {p p' : Player} {db db' : Database} {g : Nat}
    (named : ∀ g it, p.heap g = some it → it.guid = g) (run : p.saveEntry objmgr db g = .ok (p', db')) :
    Processed p p' [some g] := by
  obtain ⟨it, here, saved⟩ := Player.saveEntry_saved run
  cases named g it here
  cases state : (p.marks it.guid).uState with
  | removed =>
    simp only [Player.saveToDB, state] at saved
    cases saved
    exact processed_delete
  | _ =>
    simp only [Player.saveToDB, state, Player.setState_unchanged here] at saved
    cases saved
    exact processed_mark

/-- A save processes its queue. -/
lemma processed_saveQueue {objmgr : ObjectMgr} {p p' : Player} {db db' : Database} {queue : List (Option Nat)}
    (named : ∀ g it, p.heap g = some it → it.guid = g) (run : p.saveQueue objmgr db queue = .ok (p', db')) :
    Processed p p' queue := by
  induction queue generalizing p db with
  | nil =>
    cases run
    exact ⟨rfl, rfl, fun _ _ here => here, fun _ mem => absurd mem List.not_mem_nil, fun _ _ => rfl⟩
  | cons entry queue ih =>
    cases entry with
    | none =>
      have rest := ih named run
      refine ⟨rest.guid, rest.blocked, rest.heap, fun g mem => ?_, fun g notMem => ?_⟩
      · cases mem with
        | tail _ mem => exact rest.inside g mem
      · exact rest.outside g fun mem => notMem (List.mem_cons_of_mem _ mem)
    | some g =>
      obtain ⟨⟨p₁, db₁⟩, first, run⟩ := Player.saveQueue_some_ok.mp run
      have head := processed_saveEntry named first
      have rest := ih (fun g it here => named g it (head.heap g it here)) run
      refine ⟨rest.guid.trans head.guid, rest.blocked.trans head.blocked,
        fun g' it here => head.heap g' it (rest.heap g' it here), fun g' mem => ?_, fun g' notMem => ?_⟩
      · by_cases later : some g' ∈ queue
        · exact rest.inside g' later
        · cases mem with
          | tail _ mem => exact absurd mem later
          | head =>
            cases head.inside g List.mem_cons_self with
            | inl gone =>
              refine Or.inl ?_
              cases here : p'.heap g with
              | none => rfl
              | some it => cases gone.symm.trans (rest.heap g it here)
            | inr marked => exact Or.inr ((rest.outside g later).trans marked)
      · rw [rest.outside g' fun mem => notMem (List.mem_cons_of_mem _ mem)]
        exact head.outside g' fun mem => notMem (List.mem_singleton.mp mem ▸ List.mem_cons_self)

/-- After a save the queue is empty and no item believes to be in it. -/
lemma Indexed.save {s : Queueing} (h : Indexed s) {p : Player} {db : Database}
    (processed : Processed s.player p s.player.itemUpdateQueue) :
    Indexed { s with player := { p with itemUpdateQueue := [] }, database := db } := by
  have before {g : Nat} (own : Player.Owns { p with itemUpdateQueue := [] } g) : s.player.Owns g := by
    obtain ⟨it, here, owner⟩ := own
    exact ⟨it, processed.heap g it here, owner.trans processed.guid⟩
  have clean {g : Nat} (own : Player.Owns { p with itemUpdateQueue := [] } g)
      (mem : some g ∈ s.player.itemUpdateQueue) :
      p.marks g = ⟨.unchanged, -1⟩ := by
    cases processed.inside g mem with
    | inr marked => exact marked
    | inl gone =>
      obtain ⟨it, here, -⟩ := own
      cases gone.symm.trans here
  refine ⟨fun g it here => h.named g it (processed.heap g it here), fun blocked => ⟨rfl, ?_⟩, Nat.zero_le _,
    fun k g at_ => (by cases at_), fun g own pos => ?_, fun g own dirty called => ?_⟩
  · exact (h.blocked (processed.blocked ▸ blocked)).2
  · by_cases mem : some g ∈ s.player.itemUpdateQueue
    · exact absurd (congrArg Mark.uQueuePos (clean own mem)) pos
    · have pos' : (s.player.marks g).uQueuePos ≠ -1 := processed.outside g mem ▸ pos
      obtain ⟨k, at_⟩ := h.known g (before own) pos'
      exact absurd (List.mem_of_getElem? at_) mem
  · by_cases mem : some g ∈ s.player.itemUpdateQueue
    · exact absurd (congrArg Mark.uState (clean own mem)) dirty
    · have dirty' : (s.player.marks g).uState ≠ .unchanged := processed.outside g mem ▸ dirty
      obtain ⟨k, at_⟩ := h.queued g (before own) dirty' called
      exact absurd (List.mem_of_getElem? at_) mem

/-- Every event keeps the indices. -/
lemma Indexed.step {objmgr : ObjectMgr} {s s' : Queueing} {e : Event} (h : Indexed s) (short : Short objmgr s e)
    (next : step objmgr s e = some s') : Indexed s' := by
  have length := short s' next
  cases e with
  | create it =>
    rw [Queueing.step] at next
    split at next
    case isFalse => cases next
    case isTrue new =>
      cases next
      exact h.create new.1
  | setState g state =>
    rw [Queueing.step] at next
    split at next
    · cases next
    case h_2 it here =>
      split at next
      case isFalse => cases next
      case isTrue allowed =>
        obtain ⟨p, eq, indexed⟩ := h.setState here allowed.1 allowed.2
        rw [eq] at next
        cases next
        exact indexed length
  | unblock =>
    cases next
    exact ⟨h.named, fun blocked => (by cases blocked), h.short, h.live, h.known, h.queued⟩
  | save =>
    rw [Queueing.step] at next
    split at next
    case h_2 => cases next
    case h_1 ran =>
      cases next
      obtain ⟨r, saved, ⟨⟩⟩ := Player.saveInventory_ok ran
      exact h.save (processed_saveQueue h.named saved)

/-- The queue and the positions agree in every state of a run with at most 32767 entries in the queue. -/
theorem faithful_of_reaches (objmgr : ObjectMgr) {start s : Queueing} (init : Initial start)
    (run : Reaches (step objmgr) (Short objmgr) start s) : Faithful s :=
  (run.invariant init.indexed fun indexed short next => indexed.step short next).faithful

/-- A table with one potion. -/
def potions : ObjectMgr := ⟨[⟨1, 7, "Medicine", 0, 0, 0, 3, 1, 0, 50, []⟩], []⟩

/-- A player without items, after the load. -/
def unburdened : Queueing where
  player :=
    { guid := 1, gold := 0
      unit := ⟨1, 1, 94, 66, 0, 0, fun _ => 0, 0, false⟩
      items := fun _ => none
      pets := fun _ => none
      heap := fun _ => none
      marks := fun _ => .fresh
      hiItemGuid := 0
      itemUpdateQueue := []
      itemUpdateQueueBlocked := false }
  database := ⟨fun _ => none, fun _ => none⟩
  called := fun _ => false

/-- One potion is deleted before it was saved, and another one changes after the save. -/
def drinkOne : List Event :=
  [.create ⟨5, 1, 1, 1, 10, none⟩, .setState 5 .new, .create ⟨6, 1, 1, 1, 11, none⟩, .setState 6 .new,
    .setState 5 .removed, .save, .setState 6 .changed]

/-- The potion that is left waits in the queue for its next save. -/
theorem faithful_drinkOne :
    ∃ s, exec (step potions) unburdened drinkOne = some s ∧ s.player.QueuedAt 0 6 ∧ Faithful s := by
  have queue : (exec (step potions) unburdened drinkOne).map (fun s => s.player.itemUpdateQueue) = some [some 6] := by
    decide +kernel
  obtain ⟨s, run, queued⟩ := Option.map_eq_some_iff.mp queue
  have init : Initial unburdened := ⟨fun _ _ here => (by cases here), rfl, fun _ => rfl, fun _ => rfl⟩
  refine ⟨s, run, congrArg (fun queue => queue[0]?) queued, faithful_of_reaches potions init ?_⟩
  exact reaches_of_exec drinkOne (by decide +kernel) run

/-- In such a run `SetState` on an item of the player never leaves the bounds of the queue. -/
theorem setState_returns_of_reaches (objmgr : ObjectMgr) {start s : Queueing} (init : Initial start)
    (run : Reaches (step objmgr) (Short objmgr) start s) {g : Nat} (own : s.player.Owns g) {state : ItemUpdateState}
    (allowed : state = .unchanged → s.player.itemUpdateQueueBlocked) : ∃ p, s.player.setState g state = .ok p := by
  have indexed := run.invariant init.indexed fun indexed short next => indexed.step short next
  obtain ⟨it, here, owner⟩ := own
  obtain ⟨p, eq, -⟩ := indexed.setState here owner allowed
  exact ⟨p, eq⟩

end Queueing

end Legacy.Inventory
