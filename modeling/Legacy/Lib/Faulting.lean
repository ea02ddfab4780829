import Mathlib.Tactic.Common

/-!
# Programs that may fault

A computation in `Except ε` either returns or faults. `Sat m Q` is its weakest precondition for
fault-free execution: `m` returns, and what it returns satisfies `Q`. The rules follow the program's
constructors, so a goal `Sat m Q` is taken apart along `m`; the rules for `StateT` programs are those
of their runs. `Post m Q E` also says something about the faults: what is returned satisfies `Q` and
what is thrown satisfies `E`.
-/

namespace Legacy.Lib

universe u v

variable {ε : Type u} {α β : Type v}

/-- A value is passed on. -/
lemma ok_bind (a : α) (k : α → Except ε β) : ((.ok a : Except ε α) >>= k) = k a := rfl

/-- A sequence returns when both parts do. -/
lemma bind_eq_ok {m : Except ε α} {k : α → Except ε β} {b : β} :
    (m >>= k) = .ok b ↔ ∃ a, m = .ok a ∧ k a = .ok b := by
  cases m with
  | ok a =>
    constructor
    · exact fun run => ⟨a, rfl, run⟩
    · rintro ⟨_, ⟨⟩, run⟩
      exact run
  | error e =>
    constructor
    · intro run
      cases run
    · rintro ⟨_, ⟨⟩, -⟩

/-- A sequence faults when its first part does, or its second part from there. -/
lemma bind_eq_error {m : Except ε α} {k : α → Except ε β} {e : ε} :
    (m >>= k) = .error e ↔ m = .error e ∨ ∃ a, m = .ok a ∧ k a = .error e := by
  cases m with
  | ok a =>
    constructor
    · exact fun run => .inr ⟨a, rfl, run⟩
    · rintro (⟨⟨⟩⟩ | ⟨_, ⟨⟩, run⟩)
      exact run
  | error e' =>
    constructor
    · intro run
      cases run
      exact .inl rfl
    · rintro (⟨⟨⟩⟩ | ⟨_, ⟨⟩, -⟩)
      rfl

/-- A result is passed through a function. -/
lemma map_eq_ok {m : Except ε α} {f : α → β} {b : β} : m.map f = .ok b ↔ ∃ a, m = .ok a ∧ f a = b := by
  cases m with
  | ok a =>
    constructor
    · intro run
      exact ⟨a, rfl, Except.ok.inj run⟩
    · rintro ⟨_, ⟨⟩, rfl⟩
      rfl
  | error e =>
    constructor
    · intro run
      cases run
    · rintro ⟨_, ⟨⟩, -⟩

section Loops

variable {f : β → α → Except ε β} {a : α} {as : List α} {s s' : β}

/-- A loop returns when its first round does, and the others do from there. -/
lemma foldlM_cons_ok : (a :: as).foldlM f s = .ok s' ↔ ∃ s₁, f s a = .ok s₁ ∧ as.foldlM f s₁ = .ok s' := by
  rw [List.foldlM_cons, bind_eq_ok]

/-- A loop that faults does so in its first round or after it. -/
lemma foldlM_cons_error {e : ε} : (a :: as).foldlM f s = .error e ↔
    f s a = .error e ∨ ∃ s₁, f s a = .ok s₁ ∧ as.foldlM f s₁ = .error e := by
  rw [List.foldlM_cons, bind_eq_error]

/-- What holds before a loop and is kept by its rounds holds after it; a round knows what was done before. -/
lemma foldlM_induct {P : List α → β → Prop} (run : as.foldlM f s = .ok s') (init : P [] s)
    (step : ∀ done a s s', done ++ [a] <+: as → P done s → f s a = .ok s' → P (done ++ [a]) s') : P as s' := by
  have whole : ∀ (rest done : List α) (s₀ : β), done ++ rest = as → P done s₀ → rest.foldlM f s₀ = .ok s' →
      P as s' := by
    intro rest
    induction rest with
    | nil =>
      intro done s₀ split kept run
      cases run
      rw [List.append_nil] at split
      exact split ▸ kept
    | cons a rest ih =>
      intro done s₀ split kept run
      obtain ⟨s₁, first, run⟩ := foldlM_cons_ok.mp run
      rw [List.append_cons] at split
      exact ih (done ++ [a]) s₁ split (step done a s₀ s₁ ⟨rest, split⟩ kept first) run
  exact whole as [] s rfl init run

/-- A loop whose rounds all return does so. -/
lemma foldlM_total (total : ∀ a ∈ as, ∀ s, ∃ s', f s a = .ok s') (s : β) : ∃ s', as.foldlM f s = .ok s' := by
  induction as generalizing s with
  | nil => exact ⟨s, rfl⟩
  | cons a as ih =>
    obtain ⟨s₁, first⟩ := total a List.mem_cons_self s
    obtain ⟨s', rest⟩ := ih (fun b mem => total b (List.mem_cons_of_mem a mem)) s₁
    exact ⟨s', foldlM_cons_ok.mpr ⟨s₁, first, rest⟩⟩

/-- In a loop that returns every round does. -/
lemma foldlM_round (run : as.foldlM f s = .ok s') (mem : a ∈ as) : ∃ s₁ s₂, f s₁ a = .ok s₂ := by
  induction as generalizing s with
  | nil => cases mem
  | cons b as ih =>
    obtain ⟨s₁, first, rest⟩ := foldlM_cons_ok.mp run
    cases mem with
    | head => exact ⟨s, s₁, first⟩
    | tail _ mem => exact ih rest mem

end Loops

/-- The computation returns, with a value that satisfies `Q`. -/
def Sat (m : Except ε α) (Q : α → Prop) : Prop :=
  match m with
  | .ok a => Q a
  | .error _ => False

/-- A result that is there satisfies what holds of it. -/
@[simp]
lemma sat_ok (a : α) (Q : α → Prop) : Sat (.ok a : Except ε α) Q ↔ Q a := Iff.rfl

/-- The same for a value that is returned. -/
@[simp]
lemma sat_pure (a : α) (Q : α → Prop) : Sat (pure a : Except ε α) Q ↔ Q a := Iff.rfl

/-- A fault satisfies nothing. -/
@[simp]
lemma sat_error (e : ε) (Q : α → Prop) : Sat (.error e) Q ↔ False := Iff.rfl

/-- A sequence returns when its first part does and its second part does from there. -/
@[simp]
lemma sat_bind (m : Except ε α) (k : α → Except ε β) (Q : β → Prop) :
    Sat (m >>= k) Q ↔ Sat m fun a => Sat (k a) Q := by
  cases m <;> rfl

instance (m : Except ε α) (Q : α → Prop) [DecidablePred Q] : Decidable (Sat m Q) :=
  match m with
  | .ok a => inferInstanceAs (Decidable (Q a))
  | .error _ => inferInstanceAs (Decidable False)

/-- A returning computation, with its value. -/
lemma sat_iff {m : Except ε α} {Q : α → Prop} : Sat m Q ↔ ∃ a, m = .ok a ∧ Q a := by
  cases m with
  | ok a => simp only [sat_ok, Except.ok.injEq, exists_eq_left']
  | error e => simp only [sat_error, reduceCtorEq, false_and, exists_false]

/-- Weakening of what is required of the value. -/
lemma Sat.mono {m : Except ε α} {P Q : α → Prop} (h : Sat m P) (imp : ∀ a, P a → Q a) :
    Sat m Q := by
  cases m with
  | ok a => exact imp a h
  | error e => exact h

/-- What the computation returns satisfies `Q`, and a fault of it satisfies `E`. -/
def Post (m : Except ε α) (Q : α → Prop) (E : ε → Prop) : Prop :=
  match m with
  | .ok a => Q a
  | .error e => E e

/-- A result that is there has to have the first property. -/
@[simp]
lemma post_ok (a : α) (Q : α → Prop) (E : ε → Prop) : Post (.ok a) Q E ↔ Q a := Iff.rfl

/-- The same for a value that is returned. -/
@[simp]
lemma post_pure (a : α) (Q : α → Prop) (E : ε → Prop) : Post (pure a) Q E ↔ Q a := Iff.rfl

/-- A fault has to have the second one. -/
@[simp]
lemma post_error (e : ε) (Q : α → Prop) (E : ε → Prop) : Post (.error e) Q E ↔ E e := Iff.rfl

/-- The first step has to leave what the second one needs. -/
@[simp]
lemma post_bind (m : Except ε α) (k : α → Except ε β) (Q : β → Prop) (E : ε → Prop) :
    Post (m >>= k) Q E ↔ Post m (fun a => Post (k a) Q E) E := by
  cases m <;> rfl

/-- A sequence whose first part is specified on its own. -/
lemma Post.bind {m : Except ε α} {k : α → Except ε β} {P : α → Prop} {Q : β → Prop} {E : ε → Prop}
    (hm : Post m P E) (hk : ∀ a, m = .ok a → P a → Post (k a) Q E) : Post (m >>= k) Q E := by
  cases m with
  | ok a => exact hk a rfl hm
  | error e => exact hm

/-- Both properties can be weakened. -/
lemma Post.mono {m : Except ε α} {P Q : α → Prop} {E F : ε → Prop} (h : Post m P E)
    (imp : ∀ a, P a → Q a) (impE : ∀ e, E e → F e) : Post m Q F := by
  cases m with
  | ok a => exact imp a h
  | error e => exact impE e h

/-- What a result is known to have. -/
lemma Post.of_ok {m : Except ε α} {Q : α → Prop} {E : ε → Prop} {a : α} (h : Post m Q E)
    (e : m = .ok a) : Q a := by
  subst e
  exact h

/-- What a fault is known to have. -/
lemma Post.of_error {m : Except ε α} {Q : α → Prop} {E : ε → Prop} {f : ε} (h : Post m Q E)
    (e : m = .error f) : E f := by
  subst e
  exact h

end Legacy.Lib
