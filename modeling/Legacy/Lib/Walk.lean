import Mathlib.Algebra.BigOperators.Group.List.Basic
import Mathlib.Data.List.Flatten

/-!
# Walks over children

A walk comes to a node and then walks from each of its children, one after the other. It ends where the nodes have
ranks that fall from a node to its children. `Once` says that it comes to every child of the node it starts at once;
that holds after children are taken away, and after a leaf is added exactly when there is no other way to it.
-/

namespace Legacy.Lib

universe u

variable {α : Type u}

/-- The nodes that the first `n` levels of a walk come to, in its order. -/
def walk (kids : α → List α) : Nat → α → List α
  | 0, _ => []
  | n + 1, x => x :: (kids x).flatMap (walk kids n)

/-- A walk from `x` can come to `y`. -/
inductive Below (kids : α → List α) : α → α → Prop
  | refl {x} : Below kids x x
  | kid {y m x} : m ∈ kids x → Below kids y m → Below kids y x

/-- Ranks fall from a node to its children. -/
def Ranked (kids : α → List α) (r : α → Nat) : Prop := ∀ x, ∀ m ∈ kids x, r m < r x

section Ranks

variable {kids kids' : α → List α} {r : α → Nat} {n : Nat} {x y : α}

/-- A walk comes by nodes below its start. -/
lemma below_of_mem_walk (mem : y ∈ walk kids n x) : Below kids y x := by
  induction n generalizing x with
  | zero => cases mem
  | succ n ih =>
    obtain rfl | mem := List.mem_cons.mp mem
    · exact .refl
    · obtain ⟨m, kid, mem⟩ := List.mem_flatMap.mp mem
      exact .kid kid (ih mem)

/-- Nodes below have no higher rank. -/
lemma Below.rank_le (below : Below kids y x) (ranked : Ranked kids r) : r y ≤ r x := by
  induction below with
  | refl => exact Nat.le_refl _
  | kid kid _ ih => exact Nat.le_of_lt (Nat.lt_of_le_of_lt ih (ranked _ _ kid))

/-- A walk that is deep enough comes by all of them. -/
lemma mem_walk_of_below (ranked : Ranked kids r) (below : Below kids y x) (deep : r x < n) : y ∈ walk kids n x := by
  induction below generalizing n with
  | refl =>
    obtain ⟨n, rfl⟩ := Nat.exists_eq_succ_of_ne_zero (Nat.ne_of_gt (Nat.zero_lt_of_lt deep))
    exact List.mem_cons_self
  | kid kid _ ih =>
    obtain ⟨n, rfl⟩ := Nat.exists_eq_succ_of_ne_zero (Nat.ne_of_gt (Nat.zero_lt_of_lt deep))
    have lower := ranked _ _ kid
    exact List.mem_cons_of_mem _ (List.mem_flatMap.mpr ⟨_, kid, ih (by omega)⟩)

/-- A walk over fewer children comes to fewer nodes. -/
lemma walk_sublist (fewer : ∀ x, (kids' x).Sublist (kids x)) (n : Nat) (x : α) :
    (walk kids' n x).Sublist (walk kids n x) := by
  induction n generalizing x with
  | zero => exact List.Sublist.refl _
  | succ n ih =>
    refine List.Sublist.cons_cons x ?_
    exact ((fewer x).flatMap _).trans (List.Sublist.flatMap_right _ fun m _ => ih m)

/-- Fewer children are ranked as well. -/
lemma Ranked.sublist (ranked : Ranked kids r) (fewer : ∀ x, (kids' x).Sublist (kids x)) : Ranked kids' r :=
  fun x m kid => ranked x m ((fewer x).subset kid)

variable [DecidableEq α]

/-- A walk does not come back to where it starts. -/
lemma count_walk_self (ranked : Ranked kids r) (n : Nat) (x : α) : (walk kids (n + 1) x).count x = 1 := by
  have none : ((kids x).flatMap (walk kids n)).count x = 0 := by
    refine List.count_eq_zero.mpr fun mem => ?_
    obtain ⟨m, kid, mem⟩ := List.mem_flatMap.mp mem
    have le := (below_of_mem_walk mem).rank_le ranked
    exact absurd (ranked x m kid) (Nat.not_lt.mpr le)
  rw [walk, List.count_cons_self, none]

/-- A deep walk from a node comes to each of its children once. -/
def Once (kids : α → List α) (r : α → Nat) : Prop :=
  ∀ x, ∀ m ∈ kids x, ∀ n, r x < n → (walk kids n x).count m = 1

/-- It still does when children are taken away. -/
lemma Once.sublist (once : Once kids r) (ranked : Ranked kids r) (fewer : ∀ x, (kids' x).Sublist (kids x)) :
    Once kids' r := by
  intro x m kid n deep
  have most := (walk_sublist fewer n x).count_le m
  rw [once x m ((fewer x).subset kid) n deep] at most
  have mem := mem_walk_of_below (ranked.sublist fewer) (.kid kid .refl) deep
  have least := List.count_pos_iff.mpr mem
  omega

end Ranks

section Insert

variable [DecidableEq α] {kids : α → List α} {r : α → Nat} {l m x y : α}

/-- The children after `m` becomes the last one of `l`. -/
def adopt (kids : α → List α) (l m : α) : α → List α := fun x => if x = l then kids l ++ [m] else kids x

/-- The ranks after that: the leaf goes below everything. -/
def adoptRank (r : α → Nat) (m : α) : α → Nat := fun x => if x = m then 0 else r x + 1

/-- The child is the last one of its parent. -/
lemma adopt_self : adopt kids l m l = kids l ++ [m] := if_pos rfl

/-- Other parents keep their children. -/
lemma adopt_of_ne (ne : x ≠ l) : adopt kids l m x = kids x := if_neg ne

/-- Whose children they are. -/
lemma mem_adopt : y ∈ adopt kids l m x ↔ y ∈ kids x ∨ x = l ∧ y = m := by
  by_cases here : x = l
  · rw [here, adopt_self, List.mem_append, List.mem_singleton]
    simp
  · rw [adopt_of_ne here]
    simp [here]

/-- A child without children gets a rank of its own. -/
lemma ranked_adopt (ranked : Ranked kids r) (leaf : kids m = []) (ne : m ≠ l) :
    Ranked (adopt kids l m) (adoptRank r m) := by
  intro x y kid
  have some : x ≠ m := by
    rintro rfl
    rw [adopt_of_ne ne, leaf] at kid
    cases kid
  rw [adoptRank, adoptRank, if_neg some]
  split_ifs with here
  · exact Nat.succ_pos _
  · obtain kid | ⟨-, rfl⟩ := mem_adopt.mp kid
    · exact Nat.succ_lt_succ (ranked x y kid)
    · exact absurd rfl here

/-- A deep walk comes to the new child after each time it comes to its parent, and is as before otherwise. -/
lemma count_walk_adopt (ranked : Ranked kids r) (leaf : kids m = []) (ne : m ≠ l) (y : α) {n : Nat}
    (deep : adoptRank r m x < n) : (walk (adopt kids l m) n x).count y =
      (walk kids n x).count y + if y = m then (walk kids n x).count l else 0 := by
  induction n generalizing x with
  | zero => cases deep
  | succ n ih =>
    have ranked' := ranked_adopt ranked leaf ne
    have rest : ∀ ms : List α, (∀ k ∈ ms, k ∈ kids x) → (ms.flatMap (walk (adopt kids l m) n)).count y =
        (ms.flatMap (walk kids n)).count y + if y = m then (ms.flatMap (walk kids n)).count l else 0 := by
      intro ms all
      induction ms with
      | nil => simp
      | cons k ms tail =>
        have lower := ranked' x k (mem_adopt.mpr (.inl (all k List.mem_cons_self)))
        have here := ih (x := k) (by omega)
        have there := tail fun k mem => all k (List.mem_cons_of_mem _ mem)
        simp only [List.flatMap_cons, List.count_append]
        split_ifs at here there ⊢
        · omega
        · omega
    rw [walk, walk]
    -- the new leaf is the last child of `l`, and the walk never comes back to `l` below it
    by_cases parent : x = l
    · subst x
      have shallow : adoptRank r m l = r l + 1 := if_neg ne.symm
      obtain ⟨n, rfl⟩ : ∃ k, n = k + 1 := ⟨n - 1, by omega⟩
      have last : walk (adopt kids l m) (n + 1) m = [m] := by
        rw [walk, adopt_of_ne ne, leaf]
        rfl
      have none : ((kids l).flatMap (walk kids (n + 1))).count l = 0 := by
        have self := count_walk_self ranked (n + 1) l
        rw [walk, List.count_cons_self] at self
        omega
      rw [adopt_self, List.flatMap_append, List.count_cons, List.count_cons, List.count_append,
        rest _ fun k kid => kid, none, List.count_cons_self, none]
      simp only [List.flatMap_cons, List.flatMap_nil, List.append_nil, last, List.count_singleton]
      by_cases here : y = m
      · simp [here, ne.symm]
      · simp [here, Ne.symm here]
    · have no : (x == l) = false := beq_eq_false_iff_ne.mpr parent
      rw [adopt_of_ne parent, List.count_cons, List.count_cons, rest _ fun k kid => kid, List.count_cons, no]
      by_cases here : y = m
      · simp only [here, if_true, Bool.false_eq_true, if_false]
        omega
      · simp only [here, if_false]
        omega

/-- A leaf that is added is come to once when nothing led to it before from where something leads to its parent. -/
lemma once_adopt (once : Once kids r) (ranked : Ranked kids r) (leaf : kids m = []) (ne : m ≠ l)
    (out : ¬Below kids m l) (apart : ∀ x, m ∈ kids x → ¬Below kids l x) :
    Once (adopt kids l m) (adoptRank r m) := by
  intro x y kid n deep
  have shallow : x ≠ m := by
    rintro rfl
    rw [adopt_of_ne ne, leaf] at kid
    cases kid
  have rank : r x < n := by
    rw [adoptRank, if_neg shallow] at deep
    omega
  rw [count_walk_adopt ranked leaf ne y deep]
  obtain old | ⟨rfl, rfl⟩ := mem_adopt.mp kid
  · rw [once x y old n rank]
    split_ifs with here
    · subst here
      rw [List.count_eq_zero.mpr fun mem => apart x old (below_of_mem_walk mem)]
    · rfl
  · obtain ⟨n, rfl⟩ : ∃ k, n = k + 1 := ⟨n - 1, by omega⟩
    rw [if_pos rfl, count_walk_self ranked, List.count_eq_zero.mpr fun mem => out (below_of_mem_walk mem)]

/-- Otherwise it is come to twice. -/
lemma two_le_count_walk_adopt (ranked : Ranked kids r) (leaf : kids m = []) (ne : m ≠ l)
    (other : Below kids m l ∨ ∃ x, m ∈ kids x ∧ Below kids l x) :
    ∃ x, m ∈ adopt kids l m x ∧ ∀ n, adoptRank r m x < n → 2 ≤ (walk (adopt kids l m) n x).count m := by
  have twice : ∀ x, m ≠ x → Below kids m x → Below kids l x → ∀ n, adoptRank r m x < n →
      2 ≤ (walk (adopt kids l m) n x).count m := by
    intro x shallow leaf_below parent_below n deep
    have rank : r x < n := by
      rw [adoptRank, if_neg shallow.symm] at deep
      omega
    rw [count_walk_adopt ranked leaf ne m deep, if_pos rfl]
    have one := List.count_pos_iff.mpr (mem_walk_of_below ranked leaf_below rank)
    have two := List.count_pos_iff.mpr (mem_walk_of_below ranked parent_below rank)
    omega
  obtain below | ⟨x, kid, below⟩ := other
  · exact ⟨l, mem_adopt.mpr (.inr ⟨rfl, rfl⟩), twice l ne below .refl⟩
  · refine ⟨x, mem_adopt.mpr (.inl kid), twice x ?_ (.kid kid .refl) below⟩
    rintro rfl
    rw [leaf] at kid
    cases kid

end Insert

/-- The first step of a fold that succeeds. -/
lemma foldlM_cons_eq_some {β : Type u} {σ : Type v} {f : σ → β → Option σ} {x : β} {xs : List β} {s s' : σ} :
    (x :: xs).foldlM f s = some s' ↔ ∃ s₁, f s x = some s₁ ∧ xs.foldlM f s₁ = some s' := by
  rw [List.foldlM_cons]
  exact Option.bind_eq_some_iff

section Sweep

variable {ν : Type u} {σ : Type v} (find : α → Option ν) (kids : ν → List α) (before after : α → ν → σ → σ)

/-- Does something at every node that a walk comes to, before its children and after them. The walk cannot go on
where a node is not found, and is not over where it comes deeper than `n` levels. -/
def sweep : Nat → α → σ → Option σ
  | 0, _, _ => none
  | n + 1, x, s =>
    (find x).bind fun node =>
      ((kids node).foldlM (fun s m => sweep n m s) (before x node s)).map (after x node)

/-- The children of a node that may not be there. -/
def kidsAt (x : α) : List α := (find x).elim [] kids

variable {find kids before after} {n : Nat} {x m : α} {s s' : σ} {node : ν}

/-- The children of a node that is there. -/
lemma kidsAt_of_find (found : find x = some node) : kidsAt find kids x = kids node := by
  rw [kidsAt, found, Option.elim_some]

/-- The induction over a sweep that is over, for what is said of lists of nodes that are swept one after the other. -/
lemma sweep_induction {T : Nat → List α → σ → σ → Prop} (nil : ∀ n s, T n [] s s)
    (cons : ∀ n m ms s s₁ s', T n [m] s s₁ → T n ms s₁ s' → T n (m :: ms) s s')
    (visit : ∀ n x node s s₁, find x = some node → T n (kids node) (before x node s) s₁ →
      T (n + 1) [x] s (after x node s₁))
    (run : sweep find kids before after n x s = some s') : T n [x] s s' := by
  induction n generalizing x s s' with
  | zero => cases run
  | succ n ih =>
    obtain ⟨node, found, here⟩ := Option.bind_eq_some_iff.mp run
    obtain ⟨s₁, swept, rfl⟩ := Option.map_eq_some_iff.mp here
    refine visit n x node s s₁ found ?_
    generalize kids node = ms at swept
    generalize before x node s = s at swept
    induction ms generalizing s with
    | nil =>
      cases swept
      exact nil n _
    | cons m ms tail =>
      obtain ⟨s₂, first, rest⟩ := foldlM_cons_eq_some.mp swept
      exact cons n m ms s s₂ s₁ (ih first) (tail s₂ rest)

/-- A sweep that is over is over after more levels too. -/
lemma sweep_succ (run : sweep find kids before after n x s = some s') :
    sweep find kids before after (n + 1) x s = some s' := by
  have all := sweep_induction (T := fun n ms s s' =>
    ms.foldlM (fun s m => sweep find kids before after (n + 1) m s) s = some s') ?nil ?cons ?visit run
  case nil => exact fun n s => rfl
  case cons =>
    intro n m ms s s₁ s' first rest
    obtain ⟨s₂, here, nothing⟩ := foldlM_cons_eq_some.mp first
    cases nothing
    exact foldlM_cons_eq_some.mpr ⟨_, here, rest⟩
  case visit =>
    intro n x node s s₁ found swept
    refine foldlM_cons_eq_some.mpr ⟨_, ?_, rfl⟩
    rw [sweep, found, Option.bind_some, swept, Option.map_some]
  obtain ⟨s₂, here, nothing⟩ := foldlM_cons_eq_some.mp all
  cases nothing
  exact here

/-- More fuel does not change a sweep. -/
lemma sweep_mono {k : Nat} (le : n ≤ k) (run : sweep find kids before after n x s = some s') :
    sweep find kids before after k x s = some s' := by
  induction le with
  | refl => exact run
  | step _ ih => exact sweep_succ ih

/-- What is kept at every node is kept by a sweep. -/
lemma sweep_invariant {P : σ → Prop} (run : sweep find kids before after n x s = some s') (init : P s)
    (enter : ∀ x node s, P s → P (before x node s)) (leave : ∀ x node s, P s → P (after x node s)) : P s' := by
  refine sweep_induction (T := fun _ _ s s' => P s → P s') (fun _ _ init => init) ?_ ?_ run init
  · exact fun n m ms s s₁ s' first rest init => rest (first init)
  · exact fun n x node s s₁ found swept init => leave x node s₁ (swept (enter x node s init))

/-- A sweep that logs every node on the way in logs a walk. -/
lemma sweep_log (log : σ → List α) (enter : ∀ x node s, log (before x node s) = log s ++ [x])
    (leave : ∀ x node s, log (after x node s) = log s) (run : sweep find kids before after n x s = some s') :
    log s' = log s ++ walk (kidsAt find kids) n x := by
  have all := sweep_induction (T := fun n ms s s' => log s' = log s ++ ms.flatMap (walk (kidsAt find kids) n))
    ?nil ?cons ?visit run
  case nil => exact fun n s => (List.append_nil _).symm
  case cons =>
    intro n m ms s s₁ s' first rest
    rw [rest, first, List.append_assoc, ← List.flatMap_append, List.singleton_append]
  case visit =>
    intro n x node s s₁ found swept
    rw [leave, swept, enter, List.flatMap_singleton, walk, kidsAt_of_find found, List.append_assoc,
      List.singleton_append]
  rw [all, List.flatMap_singleton]

/-- A sweep is over where the ranks fall and every child is found. -/
lemma exists_sweep (before after : α → ν → σ → σ) {r : α → Nat} (ranked : Ranked (kidsAt find kids) r)
    (alive : ∀ x, ∀ m ∈ kidsAt find kids x, (find m).isSome) (here : (find x).isSome) (deep : r x < n) (s : σ) :
    ∃ s', sweep find kids before after n x s = some s' := by
  induction n generalizing x s with
  | zero => cases deep
  | succ n ih =>
    obtain ⟨node, found⟩ := Option.isSome_iff_exists.mp here
    have rest : ∀ (ms : List α) (s : σ), (∀ m ∈ ms, m ∈ kidsAt find kids x) →
        ∃ s', ms.foldlM (fun s m => sweep find kids before after n m s) s = some s' := by
      intro ms
      induction ms with
      | nil => exact fun s _ => ⟨s, rfl⟩
      | cons m ms tail =>
        intro s all
        have kid := all m List.mem_cons_self
        have lower := ranked x m kid
        obtain ⟨s₁, first⟩ := ih (alive x m kid) (by omega) s
        obtain ⟨s₂, run⟩ := tail s₁ fun m mem => all m (List.mem_cons_of_mem _ mem)
        exact ⟨s₂, foldlM_cons_eq_some.mpr ⟨s₁, first, run⟩⟩
    obtain ⟨s₁, run⟩ := rest (kids node) (before x node s) fun m mem => by rwa [kidsAt_of_find found]
    exact ⟨after x node s₁, by rw [sweep, found, Option.bind_some, run, Option.map_some]⟩

/-- A sweep is not over if it is not over at a child. -/
lemma sweep_stuck (kid : m ∈ kidsAt find kids x) (stuck : ∀ s, sweep find kids before after n m s = none) (s : σ) :
    sweep find kids before after (n + 1) x s = none := by
  refine Option.eq_none_iff_forall_ne_some.mpr fun s' run => ?_
  obtain ⟨node, found, here⟩ := Option.bind_eq_some_iff.mp run
  obtain ⟨s₁, swept, -⟩ := Option.map_eq_some_iff.mp here
  rw [kidsAt_of_find found] at kid
  -- the children before `m` may be over, but the walk does not get past `m`
  have rest : ∀ (ms : List α) (s : σ), m ∈ ms →
      ms.foldlM (fun s m => sweep find kids before after n m s) s ≠ some s₁ := by
    intro ms
    induction ms with
    | nil => exact fun s mem => by cases mem
    | cons k ms tail =>
      intro s mem run
      obtain ⟨s₂, first, run⟩ := foldlM_cons_eq_some.mp run
      obtain rfl | mem := List.mem_cons.mp mem
      · cases (stuck s).symm.trans first
      · exact tail s₂ mem run
  exact rest _ _ kid swept

/-- It is never over at a node that is its own child. -/
lemma sweep_loop (kid : x ∈ kidsAt find kids x) (n : Nat) (s : σ) : sweep find kids before after n x s = none := by
  induction n generalizing s with
  | zero => rfl
  | succ n ih => exact sweep_stuck kid ih s

/-- It is never over at a node with a child that is not found. -/
lemma sweep_lost (kid : m ∈ kidsAt find kids x) (lost : find m = none) (n : Nat) (s : σ) :
    sweep find kids before after n x s = none := by
  cases n with
  | zero => rfl
  | succ n =>
    refine sweep_stuck kid (fun s => ?_) s
    cases n with
    | zero => rfl
    | succ n => rw [sweep, lost, Option.bind_none]

end Sweep

end Legacy.Lib
