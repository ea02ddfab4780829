import Mathlib.Data.List.Sort
import Mathlib.Data.List.Flatten
import Mathlib.Data.List.Chain
import Mathlib.Logic.Function.Basic

/-!
# Sorting a queue and cutting it into groups

`StableSort` says that a list is sorted by descending key and keeps the order of equal keys.
`Buckets groups n l` says that the first `n` groups of an array are not empty, the others are, and together
they hold `l`; appending an element to the last group or to the next one keeps this. `Chains R groups n last`
says that neighbours of one group are related by `R`.
-/

namespace Legacy.Lib

universe u

variable {α : Type u}

/-- `l'` is `l` sorted by descending key, elements of equal key in their old order. -/
structure StableSort (key : α → Int) (l l' : List α) : Prop where
  sorted : l'.Pairwise fun a b => key b ≤ key a
  stable : ∀ k, l'.filter (fun a => key a = k) = l.filter fun a => key a = k

/-- Insertion keeps the order of equal keys. -/
lemma stableSort_insertionSort (key : α → Int) (l : List α) :
    StableSort key l (l.insertionSort fun a b => key b ≤ key a) := by
  have total : Std.Total fun a b : α => key b ≤ key a := ⟨fun a b => Int.le_total (key b) (key a)⟩
  have trans : IsTrans α fun a b => key b ≤ key a := ⟨fun _ _ _ h h' => Int.le_trans h' h⟩
  refine ⟨List.pairwise_insertionSort _ l, fun k => ?_⟩
  have equal : (l.filter fun a => key a = k).Pairwise fun a b => key b ≤ key a := by
    refine List.pairwise_of_forall_mem_list (fun a mem b mem' => ?_)
    have ka : key a = k := of_decide_eq_true (List.mem_filter.mp mem).2
    have kb : key b = k := of_decide_eq_true (List.mem_filter.mp mem').2
    omega
  have kept := (List.sublist_insertionSort equal List.filter_sublist).filter fun a => key a = k
  have same : (l.filter fun a => key a = k).filter (fun a => key a = k) = l.filter fun a => key a = k := by
    simp only [List.filter_filter, Bool.and_self]
  rw [same] at kept
  exact (kept.eq_of_length ((List.perm_insertionSort _ l).symm.filter _).length_eq).symm

/-- The first `n` groups are not empty, the others are, and together they hold `l`. -/
structure Buckets (groups : Nat → List α) (n : Nat) (l : List α) : Prop where
  full : ∀ i < n, groups i ≠ []
  rest : ∀ i, n ≤ i → groups i = []
  concat : (List.range n).flatMap groups = l

namespace Buckets

variable {groups : Nat → List α} {n : Nat} {l : List α}

/-- No groups are begun. -/
lemma nil : Buckets (fun _ => ([] : List α)) 0 [] :=
  ⟨fun _ lt => absurd lt (Nat.not_lt_zero _), fun _ _ => rfl, rfl⟩

/-- There are no more groups than elements. -/
lemma le_length (b : Buckets groups n l) : n ≤ l.length := by
  have each : ∀ m ≤ n, m ≤ ((List.range m).flatMap groups).length := by
    intro m le
    induction m with
    | zero => exact Nat.zero_le _
    | succ m ih =>
      have pos := List.length_pos_of_ne_nil (b.full m le)
      have before := ih (Nat.le_of_succ_le le)
      rw [List.range_succ, List.flatMap_append, List.length_append, List.flatMap_singleton]
      omega
  exact b.concat ▸ each n le_rfl

/-- Any number of further groups adds nothing. -/
lemma flatMap_range (b : Buckets groups n l) {m : Nat} (le : n ≤ m) :
    (List.range m).flatMap groups = l := by
  induction m, le using Nat.le_induction with
  | base => exact b.concat
  | succ m le ih =>
    rw [List.range_succ, List.flatMap_append, ih, List.flatMap_singleton, b.rest m le, List.append_nil]

/-- The groups before a place are those before it after a change there. -/
lemma flatMap_update (groups : Nat → List α) (n : Nat) (g : List α) :
    (List.range n).flatMap (Function.update groups n g) = (List.range n).flatMap groups := by
  refine List.flatMap_congr fun i mem => ?_
  rw [Function.update_of_ne (Nat.ne_of_lt (List.mem_range.mp mem))]

/-- An element joins the last group. -/
lemma same (b : Buckets groups (n + 1) l) (a : α) :
    Buckets (Function.update groups n (groups n ++ [a])) (n + 1) (l ++ [a]) := by
  refine ⟨fun i lt => ?_, fun i le => ?_, ?_⟩
  · rcases eq_or_ne i n with rfl | ne
    · rw [Function.update_self]
      exact List.append_ne_nil_of_right_ne_nil _ (List.cons_ne_nil _ _)
    · rw [Function.update_of_ne ne]
      exact b.full i lt
  · rw [Function.update_of_ne (by omega)]
    exact b.rest i le
  · rw [List.range_succ, List.flatMap_append, flatMap_update, List.flatMap_singleton, Function.update_self,
      ← List.append_assoc]
    congr 1
    rw [← b.concat, List.range_succ, List.flatMap_append, List.flatMap_singleton]

/-- An element opens the next group. -/
lemma next (b : Buckets groups n l) (a : α) :
    Buckets (Function.update groups n (groups n ++ [a])) (n + 1) (l ++ [a]) := by
  refine ⟨fun i lt => ?_, fun i le => ?_, ?_⟩
  · rcases eq_or_ne i n with rfl | ne
    · rw [Function.update_self]
      exact List.append_ne_nil_of_right_ne_nil _ (List.cons_ne_nil _ _)
    · rw [Function.update_of_ne ne]
      exact b.full i (by omega)
  · rw [Function.update_of_ne (by omega)]
    exact b.rest i (by omega)
  · rw [List.range_succ, List.flatMap_append, flatMap_update, b.concat, List.flatMap_singleton,
      Function.update_self, b.rest n le_rfl, List.nil_append]

end Buckets

/-- A part of a list, and no more than what follows it, make up the whole only if each is complete. -/
lemma map_append_eq_iff {β : Type*} {f : α → β} {part whole : List α} {l l' : List β} (isPart : part <+: whole)
    (short : l.length ≤ l'.length) : part.map f ++ l = whole.map f ++ l' ↔ part = whole ∧ l = l' := by
  constructor
  · intro eq
    have lengths := congrArg List.length eq
    rw [List.length_append, List.length_append, List.length_map, List.length_map] at lengths
    have less := isPart.length_le
    have complete := isPart.eq_of_length (by omega)
    subst complete
    exact ⟨rfl, List.append_cancel_left eq⟩
  · rintro ⟨rfl, rfl⟩
    rfl

/-- A group after empty ones comes first, whatever it holds. -/
lemma flatMap_first {groups : Nat → List α} {i n : Nat} (lt : i < n) (before : ∀ j < i, groups j = []) :
    ∃ tail, ∀ g, (List.range n).flatMap (Function.update groups i g) = g ++ tail := by
  induction n with
  | zero => exact absurd lt (Nat.not_lt_zero i)
  | succ n ih =>
    rcases Nat.lt_or_eq_of_le (Nat.le_of_lt_succ lt) with less | rfl
    · obtain ⟨tail, eq⟩ := ih less
      refine ⟨tail ++ groups n, fun g => ?_⟩
      rw [List.range_succ, List.flatMap_append, eq, List.flatMap_singleton,
        Function.update_of_ne (Nat.ne_of_gt less), List.append_assoc]
    · refine ⟨[], fun g => ?_⟩
      have none : (List.range i).flatMap groups = [] :=
        List.flatMap_eq_nil_iff.mpr fun j mem => before j (List.mem_range.mp mem)
      rw [List.range_succ, List.flatMap_append, Buckets.flatMap_update, none, List.flatMap_singleton,
        Function.update_self, List.nil_append, List.append_nil]

/-- Neighbours of a group are related, `last` is the last element of group `n`, and the groups after it are
empty. -/
structure Chains (R : α → α → Prop) (groups : Nat → List α) (n : Nat) (last : Option α) : Prop where
  chain : ∀ i, (groups i).IsChain R
  last : (groups n).getLast? = last
  rest : ∀ i, n < i → groups i = []

namespace Chains

variable {R : α → α → Prop} {groups : Nat → List α} {n : Nat} {last : Option α}

/-- No group has a neighbour to join. -/
lemma nil (R : α → α → Prop) (n : Nat) : Chains R (fun _ => ([] : List α)) n none :=
  ⟨fun _ => List.isChain_nil, rfl, fun _ _ => rfl⟩

/-- An element that is related to the last one joins its group. -/
lemma same (c : Chains R groups n last) {a : α} (link : ∀ x ∈ last, R x a) :
    Chains R (Function.update groups n (groups n ++ [a])) n (some a) := by
  refine ⟨fun i => ?_, ?_, fun i lt => ?_⟩
  · rcases eq_or_ne i n with rfl | ne
    · rw [Function.update_self]
      refine (c.chain i).append (List.isChain_singleton a) fun x mem y here => ?_
      rw [List.head?_singleton, Option.mem_some_iff] at here
      exact here ▸ link x (c.last ▸ mem)
    · rw [Function.update_of_ne ne]
      exact c.chain i
  · rw [Function.update_self]
    exact List.getLast?_concat
  · rw [Function.update_of_ne (Nat.ne_of_gt lt)]
    exact c.rest i lt

/-- Any element opens the next group. -/
lemma next (c : Chains R groups n last) (a : α) :
    Chains R (Function.update groups (n + 1) (groups (n + 1) ++ [a])) (n + 1) (some a) := by
  have empty := c.rest (n + 1) (Nat.lt_succ_self n)
  have moved : Chains R groups (n + 1) none :=
    ⟨c.chain, by rw [empty]; rfl, fun i lt => c.rest i (Nat.lt_of_succ_lt lt)⟩
  exact moved.same fun x mem => by cases mem

end Chains

/-- The neighbours of a list behind `last` are related, each pair with the next number of a sequence. -/
def Rolled {β : Type*} (P : β → α → α → Prop) : (Nat → β) → Option α → List α → Prop
  | _, _, [] => True
  | rolls, last, a :: l => (∀ x ∈ last, P (rolls 0) x a) ∧ Rolled P (fun n => rolls (n + 1)) (some a) l

section Rolled

variable {β : Type*} {P : β → α → α → Prop}

/-- The neighbours of a list that is not empty, by their places. -/
lemma rolled_cons_iff (rolls : Nat → β) (x : α) (l : List α) :
    Rolled P rolls (some x) l ↔
      ∀ k a b, (x :: l)[k]? = some a → (x :: l)[k + 1]? = some b → P (rolls k) a b := by
  induction l generalizing rolls x with
  | nil =>
    refine iff_of_true trivial fun k a b _ next => ?_
    rw [List.getElem?_cons_succ, List.getElem?_nil] at next
    cases next
  | cons y l ih =>
    rw [Rolled, ih]
    constructor
    · rintro ⟨first, rest⟩ k a b here next
      cases k with
      | zero =>
        cases here
        cases next
        exact first x rfl
      | succ k => exact rest k a b here next
    · intro all
      refine ⟨fun z eq => ?_, fun k a b here next => all (k + 1) a b here next⟩
      cases eq
      exact all 0 x y rfl rfl

/-- The neighbours of a list, by their places. -/
lemma rolled_iff (rolls : Nat → β) (l : List α) :
    Rolled P rolls none l ↔ ∀ k a b, l[k]? = some a → l[k + 1]? = some b → P (rolls (k + 1)) a b := by
  cases l with
  | nil => exact iff_of_true trivial nofun
  | cons x l =>
    rw [Rolled, rolled_cons_iff]
    exact and_iff_right nofun

end Rolled

/-- What neighbours share is shared by all elements. -/
lemma eq_of_isChain {β : Type*} {R : α → α → Prop} {f : α → β} (share : ∀ a b, R a b → f a = f b) {l : List α}
    (chain : l.IsChain R) {a b : α} (mem : a ∈ l) (mem' : b ∈ l) : f a = f b := by
  have first : ∀ {l : List α} {a : α}, (a :: l).IsChain R → ∀ b ∈ a :: l, f a = f b := by
    intro l
    induction l with
    | nil =>
      intro a _ b mem
      rw [List.mem_singleton.mp mem]
    | cons c l ih =>
      intro a chain b mem
      obtain ⟨here, rest⟩ := List.isChain_cons_cons.mp chain
      rcases List.mem_cons.mp mem with rfl | later
      · rfl
      · exact (share a c here).trans (ih rest b later)
  cases l with
  | nil => cases mem
  | cons c l => exact (first chain a mem).symm.trans (first chain b mem')

end Legacy.Lib
