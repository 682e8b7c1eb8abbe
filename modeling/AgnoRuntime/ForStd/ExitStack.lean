import AgnoRuntime.ForStd.Triples

/-!
# Exit stacks

A scope in which a program acquires resources as it goes along. At the end of the
scope, however that is reached, they are released, the last first. A release may fail:
its error takes the place of the outcome so far, and the others are released all the
same.
-/

namespace Prog

variable {ε σ ρ α : Type}

/-- The state inside a scope: the state around it, and what has been acquired, the last first. -/
structure Scope (σ ρ : Type) where
  around : σ
  acquired : List ρ

/-- Run a program of the state around the scope. -/
def inside (x : Prog ε σ α) : Prog ε (Scope σ ρ) α := fun s =>
  match x s.around with
  | (outcome, s') => (outcome, { s with around := s' })

/-- Acquire a resource. What could not be acquired is not released, either. -/
def enter (r : ρ) (acquire : Prog ε σ Unit) : Prog ε (Scope σ ρ) Unit := do
  inside acquire
  modify fun s => { s with acquired := r :: s.acquired }

/-- Release all that has been acquired, and end as the body has ended, or as the last
    release that failed. -/
def unwind (release : ρ → Prog ε σ Unit) : List ρ → Except ε α → Prog ε σ α
  | [], outcome => lift outcome
  | r :: acquired, outcome => do
    match ← (release r).attempt with
    | .ok () => unwind release acquired outcome
    | .error e => unwind release acquired (.error e)

/-- Run a body in a scope of its own. -/
def withScope (release : ρ → Prog ε σ Unit) (body : Prog ε (Scope σ ρ) α) : Prog ε σ α := fun s =>
  match body ⟨s, []⟩ with
  | (outcome, s') => unwind release s'.acquired outcome s'.around

@[simp] theorem inside_apply (x : Prog ε σ α) (s : Scope σ ρ) :
    inside x s = ((x s.around).1, { s with around := (x s.around).2 }) := rfl

@[simp] theorem unwind_nil (release : ρ → Prog ε σ Unit) (outcome : Except ε α) :
    unwind release [] outcome = lift outcome := rfl

/-- The first release, and what it makes of the outcome. -/
theorem unwind_cons (release : ρ → Prog ε σ Unit) (r : ρ) (acquired : List ρ)
    (outcome : Except ε α) (s : σ) :
    unwind release (r :: acquired) outcome s =
      unwind release acquired (match (release r s).1 with
        | .ok () => outcome
        | .error e => .error e) (release r s).2 := by
  rw [unwind, bind_apply_ok (attempt_apply _ _)]
  rcases (release r s).1 with e | ⟨⟩
  · rfl
  · rfl

theorem withScope_apply (release : ρ → Prog ε σ Unit) (body : Prog ε (Scope σ ρ) α) (s : σ) :
    withScope release body s =
      unwind release (body ⟨s, []⟩).2.acquired (body ⟨s, []⟩).1 (body ⟨s, []⟩).2.around := rfl

/-- A part of the state around that the program keeps. -/
theorem keeps_inside {β : Type} {f : σ → β} {x : Prog ε σ α} (h : Keeps (Same f) x) :
    Keeps (Same fun s : Scope σ ρ => f s.around) (inside x) := fun s => h s.around

theorem keeps_enter {β : Type} {f : σ → β} {acquire : Prog ε σ Unit} (r : ρ)
    (h : Keeps (Same f) acquire) : Keeps (Same fun s : Scope σ ρ => f s.around) (enter r acquire) :=
  keeps_bind (keeps_inside h) fun _ => keeps_modify fun _ => rfl

/-! ## Triples -/

section Triple

/-- A program of the state around keeps what has been acquired. -/
theorem triple_inside {x : Prog ε σ α} {P : List ρ → σ → Prop} {Q : α → List ρ → σ → Prop}
    {E : ε → List ρ → σ → Prop}
    (h : ∀ acquired, Triple (P acquired) x (fun a => Q a acquired) fun e => E e acquired) :
    Triple (fun s : Scope σ ρ => P s.acquired s.around) (inside x)
      (fun a s => Q a s.acquired s.around) fun e s => E e s.acquired s.around := by
  intro s hs
  have hx := h s.acquired s.around hs
  rw [inside_apply]
  rcases hxs : x s.around with ⟨e | a, s'⟩
  · rw [hxs] at hx
    exact hx
  · rw [hxs] at hx
    exact hx

/-- What is acquired is added to what has been. -/
theorem triple_enter (r : ρ) (acquire : Prog ε σ Unit) {P Q : List ρ → σ → Prop}
    {E : ε → List ρ → σ → Prop}
    (h : ∀ acquired,
      Triple (P acquired) acquire (fun _ => Q (r :: acquired)) fun e => E e acquired) :
    Triple (fun s : Scope σ ρ => P s.acquired s.around) (enter r acquire)
      (fun _ s => Q s.acquired s.around) fun e s => E e s.acquired s.around :=
  triple_bind (triple_inside (Q := fun _ acquired => Q (r :: acquired)) h) fun _ =>
    triple_modify fun _ hs => hs

/-- Each release takes the invariant from what has been acquired to the rest, whether or not
    it fails. In the end everything has been released. -/
theorem triple_unwind {release : ρ → Prog ε σ Unit} {I : List ρ → σ → Prop}
    (h : ∀ r acquired,
      Triple (I (r :: acquired)) (release r) (fun _ => I acquired) fun _ => I acquired)
    (acquired : List ρ) (outcome : Except ε α) :
    Triple (I acquired) (unwind release acquired outcome) (fun _ => I []) fun _ => I [] := by
  induction acquired generalizing outcome with
  | nil => exact triple_lift (fun _ _ _ hs => hs) fun _ _ _ hs => hs
  | cons r acquired ih =>
    intro s hs
    rw [unwind_cons]
    exact ih _ _ ((h r acquired).state hs)

/-- A scope: the body ends somewhere among what it has acquired, and the scope with nothing. -/
theorem triple_withScope {release : ρ → Prog ε σ Unit} {body : Prog ε (Scope σ ρ) α}
    {P : σ → Prop} {I : List ρ → σ → Prop}
    (hbody : Triple (fun s : Scope σ ρ => s.acquired = [] ∧ P s.around) body
      (fun _ s => I s.acquired s.around) fun _ s => I s.acquired s.around)
    (hrelease : ∀ r acquired,
      Triple (I (r :: acquired)) (release r) (fun _ => I acquired) fun _ => I acquired) :
    Triple P (withScope release body) (fun _ => I []) fun _ => I [] := by
  intro s hs
  rw [withScope_apply]
  exact triple_unwind hrelease _ _ _ (hbody.state ⟨rfl, hs⟩)

end Triple

end Prog
