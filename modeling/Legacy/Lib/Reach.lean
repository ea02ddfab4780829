import Mathlib.Tactic.Common

/-!
# Runs of a transition system

A system is given by its step function on an event, which is undefined (`none`) where the event cannot
happen. `Reaches step ok s s'` says that `s'` is reached from `s` by events that satisfy `ok` where they
happen; `Reaches.invariant` is the induction over runs, and `exec` runs a list of events.
-/

namespace Legacy.Lib

universe u v

variable {σ : Type u} {ε : Type v}

/-- `s'` is reached from `s` by events that satisfy `ok`. -/
inductive Reaches (step : σ → ε → Option σ) (ok : σ → ε → Prop) (s : σ) : σ → Prop
  | refl : Reaches step ok s s
  | tail {s₁ s₂ e} : Reaches step ok s s₁ → ok s₁ e → step s₁ e = some s₂ → Reaches step ok s s₂

variable {step : σ → ε → Option σ} {ok : σ → ε → Prop} {s s' : σ}

/-- What holds at the start and is kept by every step that satisfies `ok` holds in every state reached. -/
lemma Reaches.invariant {P : σ → Prop} (run : Reaches step ok s s') (init : P s)
    (kept : ∀ {s₁ s₂ e}, P s₁ → ok s₁ e → step s₁ e = some s₂ → P s₂) : P s' := by
  induction run with
  | refl => exact init
  | tail _ allowed next ih => exact kept ih allowed next

/-- Runs a list of events. -/
def exec (step : σ → ε → Option σ) : σ → List ε → Option σ
  | s, [] => some s
  | s, e :: events => (step s e).bind fun s₁ => exec step s₁ events

/-- Every event of the list satisfies `ok` where it happens. -/
def Along (step : σ → ε → Option σ) (ok : σ → ε → Prop) : σ → List ε → Prop
  | _, [] => True
  | s, e :: events => ok s e ∧ ∀ s₁ ∈ step s e, Along step ok s₁ events

instance decidableAlong (step : σ → ε → Option σ) (ok : σ → ε → Prop) [∀ s e, Decidable (ok s e)] :
    ∀ (events : List ε) (s : σ), Decidable (Along step ok s events)
  | [], _ => inferInstanceAs (Decidable True)
  | e :: events, s =>
    have := decidableAlong step ok events
    inferInstanceAs (Decidable (ok s e ∧ ∀ s₁ ∈ step s e, Along step ok s₁ events))

/-- A step before a run. -/
lemma Reaches.head {s₁ : σ} {e : ε} (allowed : ok s e) (next : step s e = some s₁) (run : Reaches step ok s₁ s') :
    Reaches step ok s s' := by
  induction run with
  | refl => exact Reaches.tail Reaches.refl allowed next
  | tail _ allowed' next' ih => exact Reaches.tail ih allowed' next'

/-- A run behind a run. -/
lemma Reaches.trans {s₁ : σ} (run : Reaches step ok s s₁) (run' : Reaches step ok s₁ s') : Reaches step ok s s' := by
  induction run' with
  | refl => exact run
  | tail _ allowed next ih => exact Reaches.tail ih allowed next

/-- A list of allowed events is a run. -/
lemma reaches_of_exec (events : List ε) (along : Along step ok s events) (reached : exec step s events = some s') :
    Reaches step ok s s' := by
  induction events generalizing s with
  | nil =>
    cases reached
    exact Reaches.refl
  | cons e events ih =>
    obtain ⟨s₁, next, rest⟩ := Option.bind_eq_some_iff.mp reached
    exact Reaches.head along.1 next (ih (along.2 s₁ next) rest)

/-- Events are executed one part after the other. -/
lemma exec_append (events events' : List ε) :
    exec step s (events ++ events') = (exec step s events).bind fun s₁ => exec step s₁ events' := by
  induction events generalizing s with
  | nil => rfl
  | cons e events ih =>
    show (step s e).bind (fun s₁ => exec step s₁ (events ++ events')) = ((step s e).bind _).bind _
    rw [Option.bind_assoc]
    exact congrArg _ (funext fun s₁ => ih)

/-- A list of allowed events goes on with another. -/
lemma along_append {events events' : List ε} (along : Along step ok s events)
    (rest : ∀ s₁, exec step s events = some s₁ → Along step ok s₁ events') :
    Along step ok s (events ++ events') := by
  induction events generalizing s with
  | nil => exact rest s rfl
  | cons e events ih =>
    refine ⟨along.1, fun s₁ next => ih (along.2 s₁ next) fun s₂ reached => rest s₂ ?_⟩
    have next : step s e = some s₁ := next
    show (step s e).bind _ = _
    rw [next]
    exact reached

/-- Two conditions that agree where an invariant holds, which the steps that satisfy them keep. -/
lemma along_congr {ok' : σ → ε → Prop} {P : σ → Prop} (init : P s) (same : ∀ {s e}, P s → (ok s e ↔ ok' s e))
    (kept : ∀ {s₁ s₂ e}, P s₁ → ok' s₁ e → step s₁ e = some s₂ → P s₂) (events : List ε) :
    Along step ok s events ↔ Along step ok' s events := by
  induction events generalizing s with
  | nil => exact Iff.rfl
  | cons e events ih =>
    constructor
    · rintro ⟨allowed, rest⟩
      have allowed' := (same init).mp allowed
      exact ⟨allowed', fun s₁ next => (ih (kept init allowed' next)).mp (rest s₁ next)⟩
    · rintro ⟨allowed, rest⟩
      exact ⟨(same init).mpr allowed, fun s₁ next => (ih (kept init allowed next)).mpr (rest s₁ next)⟩

/-- A list of events without a condition. -/
lemma along_true (events : List ε) (s : σ) : Along step (fun _ _ => True) s events := by
  induction events generalizing s with
  | nil => trivial
  | cons e events ih => exact ⟨trivial, fun s₁ _ => ih s₁⟩

end Legacy.Lib
