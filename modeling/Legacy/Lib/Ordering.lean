import Mathlib.Data.List.Sort

/-!
# Sorting by a comparison

A sort that takes a comparison asks for a strict weak order on the elements that it is given; for any other
comparison its result is not defined. `StrictWeakOn lt l` is that condition, `sortBy lt l` the stable result.
-/

namespace Legacy.Lib

universe u

variable {α : Type u}

/-- `lt` is a strict weak order on the elements of `l`: no element is before itself, being before is
transitive, and so is being neither before nor after. -/
structure StrictWeakOn (lt : α → α → Bool) (l : List α) : Prop where
  irrefl : ∀ a ∈ l, lt a a = false
  trans : ∀ a ∈ l, ∀ b ∈ l, ∀ c ∈ l, lt a b = true → lt b c = true → lt a c = true
  level : ∀ a ∈ l, ∀ b ∈ l, ∀ c ∈ l, lt a b = false → lt b a = false → lt b c = false → lt c b = false →
    lt a c = false ∧ lt c a = false

instance (lt : α → α → Bool) (l : List α) : Decidable (StrictWeakOn lt l) :=
  decidable_of_iff
    ((∀ a ∈ l, lt a a = false) ∧
      (∀ a ∈ l, ∀ b ∈ l, ∀ c ∈ l, lt a b = true → lt b c = true → lt a c = true) ∧
      (∀ a ∈ l, ∀ b ∈ l, ∀ c ∈ l, lt a b = false → lt b a = false → lt b c = false → lt c b = false →
        lt a c = false ∧ lt c a = false))
    ⟨fun h => ⟨h.1, h.2.1, h.2.2⟩, fun h => ⟨h.irrefl, h.trans, h.level⟩⟩

/-- The stable sort by a comparison. -/
def sortBy (lt : α → α → Bool) (l : List α) : List α := l.mergeSort fun a b => !lt b a

namespace StrictWeakOn

variable {lt : α → α → Bool} {l : List α}

/-- Of two elements one is not before the other. -/
lemma asymm (weak : StrictWeakOn lt l) {a b : α} (ha : a ∈ l) (hb : b ∈ l) (before : lt a b = true) :
    lt b a = false := by
  cases after : lt b a with
  | false => rfl
  | true => exact absurd (weak.trans a ha b hb a ha before after) (by simp [weak.irrefl a ha])

/-- Not being after is transitive. -/
lemma not_after (weak : StrictWeakOn lt l) {a b c : α} (ha : a ∈ l) (hb : b ∈ l) (hc : c ∈ l)
    (ab : lt b a = false) (bc : lt c b = false) : lt c a = false := by
  cases ac : lt c a with
  | false => rfl
  | true =>
    cases ba : lt a b with
    | true => exact absurd (weak.trans c hc a ha b hb ac ba) (by simp [bc])
    | false =>
      cases cb : lt b c with
      | true => exact absurd (weak.trans b hb c hc a ha cb ac) (by simp [ab])
      | false => exact absurd (weak.level a ha b hb c hc ba ab cb bc).2 (by simp [ac])

end StrictWeakOn

variable {lt : α → α → Bool} {l : List α}

/-- Sorting changes the order only. -/
lemma sortBy_perm (lt : α → α → Bool) (l : List α) : (sortBy lt l).Perm l := List.mergeSort_perm l _

/-- After the sort no element is before an earlier one. -/
lemma pairwise_sortBy (weak : StrictWeakOn lt l) : (sortBy lt l).Pairwise fun a b => lt b a = false := by
  -- the sort only compares elements of the list, so it can run on the subtype of these
  have trans : ∀ a b c : { x // x ∈ l }, (!lt b.1 a.1) = true → (!lt c.1 b.1) = true → (!lt c.1 a.1) = true := by
    intro a b c ab bc
    simp only [Bool.not_eq_true'] at *
    exact weak.not_after a.2 b.2 c.2 ab bc
  have total : ∀ a b : { x // x ∈ l }, ((!lt b.1 a.1) || !lt a.1 b.1) = true := by
    intro a b
    cases ab : lt a.1 b.1 with
    | false => simp
    | true => simp [weak.asymm a.2 b.2 ab]
  have sorted := List.pairwise_mergeSort trans total l.attach
  have same : (l.attach.mergeSort fun a b => !lt b.1 a.1).map Subtype.val = sortBy lt l := by
    rw [List.map_mergeSort (s := fun a b => !lt b a) (fun _ _ _ _ => rfl), List.attach_map_subtype_val, sortBy]
  rw [← same, List.pairwise_map]
  exact sorted.imp fun h => by simpa using h

end Legacy.Lib
