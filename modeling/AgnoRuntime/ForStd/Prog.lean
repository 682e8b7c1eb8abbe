import Mathlib.Order.Defs.Unbundled

/-!
# Stateful programs that may fail

`Prog ε σ α` runs on a state `σ` and ends with a result or with an error; the
state reached is kept in both cases, so a handler sees what the failed program
had done.

Two ways to reason about such programs, each with one rule per construct:

* `wp x Q s`: the outcome of `x` from `s` satisfies `Q` (weakest precondition);
* `Keeps R x`: `x` takes every state to an `R`-related one, for a preorder `R`
  ("nothing else changes", "only grows").
-/

/-- A program over the state `σ` that returns an `α` or fails with an `ε`. -/
def Prog (ε σ α : Type) : Type := σ → Except ε α × σ

namespace Prog

variable {ε σ α β : Type}

/-- Return a value, leaving the state alone. -/
protected def pure (a : α) : Prog ε σ α := fun s => (.ok a, s)

/-- Run `x`, and `f` on its result unless it fails. -/
protected def bind (x : Prog ε σ α) (f : α → Prog ε σ β) : Prog ε σ β := fun s =>
  match x s with
  | (.ok a, s') => f a s'
  | (.error e, s') => (.error e, s')

instance : Monad (Prog ε σ) where
  pure := Prog.pure
  bind := Prog.bind

/-- Fail. -/
def raise (e : ε) : Prog ε σ α := fun s => (.error e, s)

/-- Run the handler `h` on the error of `x`, from the state `x` failed in. -/
def handleError (x : Prog ε σ α) (h : ε → Prog ε σ α) : Prog ε σ α := fun s =>
  match x s with
  | (.ok a, s') => (.ok a, s')
  | (.error e, s') => h e s'

/-- The current state. -/
def read : Prog ε σ σ := fun s => (.ok s, s)

/-- Change the state. -/
def modify (f : σ → σ) : Prog ε σ Unit := fun s => (.ok (), f s)

/-- A fallible computation that does not touch the state. -/
def lift (x : Except ε α) : Prog ε σ α := fun s => (x, s)

/-- The outcome of `x` as a value: an error no longer ends the program. -/
def attempt (x : Prog ε σ α) : Prog ε σ (Except ε α) := fun s =>
  match x s with
  | (r, s') => (.ok r, s')

/-- Run `f` on each element, in order. -/
def forEach (f : α → Prog ε σ Unit) : List α → Prog ε σ Unit
  | [] => pure ()
  | a :: as => do
    f a
    forEach f as

/-! ## Computing outcomes -/

@[simp] theorem pure_apply (a : α) (s : σ) : (pure a : Prog ε σ α) s = (.ok a, s) := rfl

@[simp] theorem raise_apply (e : ε) (s : σ) : (raise e : Prog ε σ α) s = (.error e, s) := rfl

@[simp] theorem read_apply (s : σ) : (read : Prog ε σ σ) s = (.ok s, s) := rfl

@[simp] theorem modify_apply (f : σ → σ) (s : σ) : (modify f : Prog ε σ Unit) s = (.ok (), f s) :=
  rfl

@[simp] theorem lift_apply (x : Except ε α) (s : σ) : (lift x : Prog ε σ α) s = (x, s) := rfl

@[simp] theorem attempt_apply (x : Prog ε σ α) (s : σ) :
    x.attempt s = (.ok (x s).1, (x s).2) := rfl

/-- A sequence whose first program succeeds goes on from the state it reached. -/
theorem bind_apply_ok {x : Prog ε σ α} {f : α → Prog ε σ β} {s s' : σ} {a : α}
    (h : x s = (.ok a, s')) : (x >>= f) s = f a s' := by
  show Prog.bind x f s = f a s'
  rw [Prog.bind, h]

/-- A sequence whose first program fails is that failure. -/
theorem bind_apply_error {x : Prog ε σ α} {f : α → Prog ε σ β} {s s' : σ} {e : ε}
    (h : x s = (.error e, s')) : (x >>= f) s = (.error e, s') := by
  show Prog.bind x f s = (.error e, s')
  rw [Prog.bind, h]

/-- A sequence goes on from where its first program ends, however it got there. -/
theorem bind_apply_congr {x y : Prog ε σ α} {s s' : σ} (h : x s = y s') (f : α → Prog ε σ β) :
    (x >>= f) s = (y >>= f) s' := by
  show Prog.bind x f s = Prog.bind y f s'
  rw [Prog.bind, Prog.bind, h]

/-- So does a handler. -/
theorem handleError_apply_congr {x y : Prog ε σ α} {s s' : σ} (h : x s = y s')
    (handler : ε → Prog ε σ α) : x.handleError handler s = y.handleError handler s' := by
  rw [handleError, handleError, h]

/-- Handling the error of a program that succeeds changes nothing. -/
theorem handleError_apply_ok {x : Prog ε σ α} {h : ε → Prog ε σ α} {s s' : σ} {a : α}
    (hx : x s = (.ok a, s')) : x.handleError h s = (.ok a, s') := by
  rw [handleError, hx]

/-- The handler takes over from the state the program failed in. -/
theorem handleError_apply_error {x : Prog ε σ α} {h : ε → Prog ε σ α} {s s' : σ} {e : ε}
    (hx : x s = (.error e, s')) : x.handleError h s = h e s' := by
  rw [handleError, hx]

/-- Mapping the result leaves the state alone. -/
theorem map_apply (f : α → β) (x : Prog ε σ α) (s : σ) :
    (f <$> x) s = ((x s).1.map f, (x s).2) := by
  show Prog.bind x _ s = _
  rw [Prog.bind]
  rcases x s with ⟨_ | _, _⟩
  · rfl
  · rfl

/-- A sequence succeeds exactly when both parts succeed, one after the other. -/
theorem bind_eq_ok {x : Prog ε σ α} {f : α → Prog ε σ β} {s s'' : σ} {b : β} :
    (x >>= f) s = (.ok b, s'') ↔ ∃ a s', x s = (.ok a, s') ∧ f a s' = (.ok b, s'') := by
  rcases hx : x s with ⟨e | a, s'⟩
  · rw [bind_apply_error hx]
    simp
  · rw [bind_apply_ok hx]
    constructor
    · intro h
      exact ⟨a, s', rfl, h⟩
    · intro h
      obtain ⟨a', s₁, heq, h⟩ := h
      cases heq
      exact h

/-- A sequence fails when the first part does, or the second after the first. -/
theorem bind_eq_error {x : Prog ε σ α} {f : α → Prog ε σ β} {s s'' : σ} {e : ε} :
    (x >>= f) s = (.error e, s'') ↔
      x s = (.error e, s'') ∨ ∃ a s', x s = (.ok a, s') ∧ f a s' = (.error e, s'') := by
  rcases hx : x s with ⟨e' | a, s'⟩
  · rw [bind_apply_error hx]
    simp
  · rw [bind_apply_ok hx]
    constructor
    · intro h
      exact .inr ⟨a, s', rfl, h⟩
    · intro h
      rcases h with h | h
      · cases h
      · obtain ⟨a', s₁, heq, h⟩ := h
        cases heq
        exact h

/-- A sequence that begins by reading the state. -/
theorem read_bind_apply (f : σ → Prog ε σ β) (s : σ) : (read >>= f) s = f s s := rfl

/-- A sequence that begins by changing the state. -/
theorem modify_bind_apply (g : σ → σ) (f : Unit → Prog ε σ β) (s : σ) :
    (modify g >>= f) s = f () (g s) := rfl

/-- A sequence that begins with a computation succeeds when that does, and the rest after it. -/
theorem lift_bind_eq_ok {x : Except ε α} {f : α → Prog ε σ β} {s s'' : σ} {b : β} :
    (lift x >>= f) s = (.ok b, s'') ↔ ∃ a, x = .ok a ∧ f a s = (.ok b, s'') := by
  cases x with
  | error e =>
    rw [bind_apply_error (lift_apply _ s)]
    simp
  | ok a =>
    rw [bind_apply_ok (lift_apply _ s)]
    simp

private theorem id_map_prog {α : Type} (x : Prog ε σ α) : id <$> x = x := by
  funext s
  show Prog.bind x _ s = x s
  rw [Prog.bind]
  rcases x s with ⟨_ | _, _⟩ <;> rfl

private theorem bind_assoc_prog {α β γ : Type} (x : Prog ε σ α) (f : α → Prog ε σ β)
    (g : β → Prog ε σ γ) : x >>= f >>= g = x >>= fun a => f a >>= g := by
  funext s
  show Prog.bind (Prog.bind x f) g s = Prog.bind x (fun a => Prog.bind (f a) g) s
  simp only [Prog.bind]
  rcases x s with ⟨_ | _, _⟩ <;> rfl

instance : LawfulMonad (Prog ε σ) :=
  LawfulMonad.mk' (Prog ε σ) id_map_prog (fun _ _ => rfl) bind_assoc_prog

/-! ## Weakest preconditions -/

/-- From `s`, the program ends in a result or error and a state that satisfy `Q`. -/
def wp (x : Prog ε σ α) (Q : Except ε α → σ → Prop) (s : σ) : Prop := Q (x s).1 (x s).2

@[simp] theorem wp_pure (a : α) (Q : Except ε α → σ → Prop) (s : σ) :
    wp (pure a) Q s = Q (.ok a) s := rfl

@[simp] theorem wp_raise (e : ε) (Q : Except ε α → σ → Prop) (s : σ) :
    wp (raise e) Q s = Q (.error e) s := rfl

@[simp] theorem wp_read (Q : Except ε σ → σ → Prop) (s : σ) : wp read Q s = Q (.ok s) s := rfl

@[simp] theorem wp_modify (f : σ → σ) (Q : Except ε Unit → σ → Prop) (s : σ) :
    wp (modify f) Q s = Q (.ok ()) (f s) := rfl

@[simp] theorem wp_lift (x : Except ε α) (Q : Except ε α → σ → Prop) (s : σ) :
    wp (lift x) Q s = Q x s := rfl

/-- The postcondition of the first program is the precondition of the rest. -/
theorem wp_bind (x : Prog ε σ α) (f : α → Prog ε σ β) (Q : Except ε β → σ → Prop) (s : σ) :
    wp (x >>= f) Q s ↔ wp x (fun r s' =>
      match r with
      | .ok a => wp (f a) Q s'
      | .error e => Q (.error e) s') s := by
  rw [wp, wp]
  rcases hx : x s with ⟨a | a, s'⟩
  · rw [bind_apply_error hx]
  · rw [bind_apply_ok hx]
    rfl

/-- A stronger postcondition has a stronger precondition. -/
theorem wp_mono {x : Prog ε σ α} {Q Q' : Except ε α → σ → Prop} {s : σ} (h : wp x Q s)
    (hQ : ∀ r s', Q r s' → Q' r s') : wp x Q' s :=
  hQ _ _ h

/-! ## Kept relations -/

/-- Every state the program reaches is related to the one it started from. -/
def Keeps (R : σ → σ → Prop) (x : Prog ε σ α) : Prop := ∀ s, R s (x s).2

section Keeps

variable {R : σ → σ → Prop}

/-- A program that keeps a relation keeps every weaker one. -/
theorem Keeps.mono {R' : σ → σ → Prop} {x : Prog ε σ α} (h : Keeps R x)
    (hR : ∀ s s', R s s' → R' s s') : Keeps R' x :=
  fun s => hR _ _ (h s)

/-- Changing the state by `f` keeps what `f` keeps. -/
theorem keeps_modify {f : σ → σ} (h : ∀ s, R s (f s)) : Keeps R (modify f : Prog ε σ Unit) := h

section Refl

variable [Std.Refl R]

theorem keeps_pure (a : α) : Keeps R (pure a : Prog ε σ α) := fun s => Std.Refl.refl s

theorem keeps_raise (e : ε) : Keeps R (raise e : Prog ε σ α) := fun s => Std.Refl.refl s

theorem keeps_read : Keeps R (read : Prog ε σ σ) := fun s => Std.Refl.refl s

theorem keeps_lift (x : Except ε α) : Keeps R (lift x : Prog ε σ α) := fun s => Std.Refl.refl s

/-- The second part goes on from where the first one ended. -/
theorem rel_bind_from {x : Prog ε σ α} {f : α → Prog ε σ β}
    (hf : ∀ a, Keeps R (f a)) (s : σ) : R (x s).2 ((x >>= f) s).2 := by
  rcases h : x s with ⟨e | a, s'⟩
  · rw [bind_apply_error h]
    exact Std.Refl.refl s'
  · rw [bind_apply_ok h]
    exact hf a s'

/-- A handler goes on from where the program ended. -/
theorem rel_handleError_from {x : Prog ε σ α} {h : ε → Prog ε σ α}
    (hh : ∀ e, Keeps R (h e)) (s : σ) : R (x s).2 (x.handleError h s).2 := by
  rcases hxs : x s with ⟨e | a, s'⟩
  · rw [handleError_apply_error hxs]
    exact hh e s'
  · rw [handleError_apply_ok hxs]
    exact Std.Refl.refl s'

end Refl

section Trans

variable [IsTrans σ R]

/-- From one state: the second part is only asked for what the first returned. -/
theorem rel_bind {x : Prog ε σ α} {f : α → Prog ε σ β} {s : σ} (hx : R s (x s).2)
    (hf : ∀ a s', x s = (.ok a, s') → R s' (f a s').2) : R s ((x >>= f) s).2 := by
  rcases h : x s with ⟨a | a, s'⟩
  · rw [bind_apply_error h]
    rw [h] at hx
    exact hx
  · rw [bind_apply_ok h]
    rw [h] at hx
    exact IsTrans.trans _ _ _ hx (hf a s' h)

/-- From one state: the handler is only asked for what was raised. -/
theorem rel_handleError {x : Prog ε σ α} {h : ε → Prog ε σ α} {s : σ} (hx : R s (x s).2)
    (hh : ∀ e s', x s = (.error e, s') → R s' (h e s').2) : R s (x.handleError h s).2 := by
  rcases hxs : x s with ⟨e | a, s'⟩
  · rw [handleError_apply_error hxs]
    rw [hxs] at hx
    exact IsTrans.trans _ _ _ hx (hh e s' hxs)
  · rw [handleError_apply_ok hxs]
    rw [hxs] at hx
    exact hx

/-- A sequence keeps what both parts keep. -/
theorem keeps_bind {x : Prog ε σ α} {f : α → Prog ε σ β} (hx : Keeps R x)
    (hf : ∀ a, Keeps R (f a)) : Keeps R (x >>= f) :=
  fun s => rel_bind (hx s) fun a s' _ => hf a s'

/-- Mapping the result keeps what the program keeps. -/
theorem keeps_map [Std.Refl R] {x : Prog ε σ α} (f : α → β) (hx : Keeps R x) :
    Keeps R (f <$> x) := by
  rw [map_eq_pure_bind]
  exact keeps_bind hx fun a => keeps_pure (f a)

/-- A handled program keeps what the program and the handler keep. -/
theorem keeps_handleError {x : Prog ε σ α} {h : ε → Prog ε σ α} (hx : Keeps R x)
    (hh : ∀ e, Keeps R (h e)) : Keeps R (x.handleError h) :=
  fun s => rel_handleError (hx s) fun e s' _ => hh e s'

end Trans

/-- Taking the outcome as a value keeps what the program keeps. -/
theorem keeps_attempt {x : Prog ε σ α} (hx : Keeps R x) : Keeps R x.attempt := hx

/-- A traversal keeps what every step on an element keeps. -/
theorem keeps_mapM [Std.Refl R] [IsTrans σ R] {f : α → Prog ε σ β} {as : List α}
    (hf : ∀ a ∈ as, Keeps R (f a)) : Keeps R (as.mapM f) := by
  induction as with
  | nil =>
    rw [List.mapM_nil]
    exact keeps_pure _
  | cons a as ih =>
    rw [List.mapM_cons]
    refine keeps_bind (hf a List.mem_cons_self) fun b => ?_
    refine keeps_bind (ih fun a' ha' => hf a' (List.mem_cons_of_mem _ ha')) fun bs => ?_
    exact keeps_pure _

/-- A loop keeps what every round keeps. -/
theorem keeps_forEach [Std.Refl R] [IsTrans σ R] {f : α → Prog ε σ Unit} {as : List α}
    (hf : ∀ a ∈ as, Keeps R (f a)) : Keeps R (forEach f as) := by
  induction as with
  | nil => exact keeps_pure ()
  | cons a as ih =>
    rw [forEach]
    refine keeps_bind (hf a List.mem_cons_self) fun _ => ?_
    exact ih fun a' ha' => hf a' (List.mem_cons_of_mem _ ha')

end Keeps

/-! ## What stays the same -/

/-- The part `f` of the state is the same. -/
def Same {β : Type} (f : σ → β) (s s' : σ) : Prop := f s' = f s

instance {β : Type} (f : σ → β) : Std.Refl (Same f) := ⟨fun _ => rfl⟩

instance {β : Type} (f : σ → β) : IsTrans σ (Same f) := ⟨fun _ _ _ h h' => Eq.trans h' h⟩

/-! ## Relations kept by success -/

/-- Where the program succeeds, the state it reaches is related to the one it started from. -/
def OkKeeps (R : σ → σ → Prop) (x : Prog ε σ α) : Prop :=
  ∀ s a s', x s = (.ok a, s') → R s s'

section OkKeeps

variable {R : σ → σ → Prop}

/-- What is kept in any case is kept by success. -/
theorem Keeps.ok {x : Prog ε σ α} (h : Keeps R x) : OkKeeps R x := by
  intro s a s' hx
  have hs := h s
  rw [hx] at hs
  exact hs

/-- A program that never succeeds. -/
theorem okKeeps_raise (e : ε) : OkKeeps R (raise e : Prog ε σ α) := by
  intro s a s' hx
  rw [raise_apply, Prod.mk.injEq] at hx
  cases hx.1

/-- A sequence succeeds through both parts. -/
theorem okKeeps_bind [IsTrans σ R] {x : Prog ε σ α} {f : α → Prog ε σ β} (hx : OkKeeps R x)
    (hf : ∀ a, OkKeeps R (f a)) : OkKeeps R (x >>= f) := by
  intro s b s'' h
  obtain ⟨a, s', hfirst, hsecond⟩ := bind_eq_ok.mp h
  exact IsTrans.trans _ _ _ (hx s a s' hfirst) (hf a s' b s'' hsecond)

/-- A handler that re-raises adds no way to succeed. -/
theorem okKeeps_handleError_raise {x : Prog ε σ α} {h : ε → Prog ε σ α} (hx : OkKeeps R x)
    (hh : ∀ e s a s', h e s ≠ (.ok a, s')) : OkKeeps R (x.handleError h) := by
  intro s a s'' hok
  rcases hxs : x s with ⟨e | b, s'⟩
  · rw [handleError_apply_error hxs] at hok
    exact absurd hok (hh e s' a s'')
  · rw [handleError_apply_ok hxs] at hok
    exact hx s a s'' (hxs.trans hok)

end OkKeeps

/-- A loop whose rounds all succeed succeeds. -/
theorem forEach_ok {f : α → Prog ε σ Unit} (hf : ∀ a s, ∃ s', f a s = (.ok (), s'))
    (as : List α) (s : σ) : ∃ s', forEach f as s = (.ok (), s') := by
  induction as generalizing s with
  | nil => exact ⟨s, rfl⟩
  | cons a as ih =>
    obtain ⟨s', hs'⟩ := hf a s
    rw [forEach, bind_apply_ok hs']
    exact ih s'

/-- A program that ends in a `raise` never succeeds. -/
theorem bind_raise_ne_ok {x : Prog ε σ β} {e : ε} {s s' : σ} {a : α} :
    (x >>= fun _ => (raise e : Prog ε σ α)) s ≠ (.ok a, s') := by
  intro h
  obtain ⟨_, _, _, hraise⟩ := bind_eq_ok.mp h
  rw [raise_apply, Prod.mk.injEq] at hraise
  cases hraise.1

/-! ## Programs that return

The outcome again, where failing is no way out: exact conditions for a program to return. -/

/-- From `s`, the program returns a result and reaches a state that satisfy `Q`. -/
def Returns (x : Prog ε σ α) (Q : α → σ → Prop) (s : σ) : Prop :=
  ∃ a s', x s = (.ok a, s') ∧ Q a s'

section Returns

variable {x : Prog ε σ α} {f : α → Prog ε σ β} {s s' : σ} {a : α} {e : ε}

theorem returns_of_ok {Q : α → σ → Prop} (h : x s = (.ok a, s')) : Returns x Q s ↔ Q a s' := by
  constructor
  · intro hreturns
    obtain ⟨a', s₁, heq, hQ⟩ := hreturns
    rw [h] at heq
    cases heq
    exact hQ
  · intro hQ
    exact ⟨a, s', h, hQ⟩

theorem not_returns_of_error {Q : α → σ → Prop} (h : x s = (.error e, s')) : ¬Returns x Q s := by
  intro hreturns
  obtain ⟨a, s₁, heq, -⟩ := hreturns
  rw [h] at heq
  cases congrArg Prod.fst heq

theorem returns_pure {Q : α → σ → Prop} : Returns (pure a : Prog ε σ α) Q s ↔ Q a s :=
  returns_of_ok (pure_apply a s)

/-- A sequence returns through both of its parts. -/
theorem returns_bind {Q : β → σ → Prop} :
    Returns (x >>= f) Q s ↔ Returns x (fun a s' => Returns (f a) Q s') s := by
  constructor
  · intro h
    obtain ⟨b, s₂, heq, hQ⟩ := h
    obtain ⟨a, s₁, hx, hf⟩ := bind_eq_ok.mp heq
    exact ⟨a, s₁, hx, b, s₂, hf, hQ⟩
  · intro h
    obtain ⟨a, s₁, hx, b, s₂, hf, hQ⟩ := h
    exact ⟨b, s₂, bind_eq_ok.mpr ⟨a, s₁, hx, hf⟩, hQ⟩

/-- What a program that returns is asked for may be replaced by what amounts to the same. -/
theorem returns_congr {Q Q' : α → σ → Prop}
    (h : ∀ a s', x s = (.ok a, s') → (Q a s' ↔ Q' a s')) : Returns x Q s ↔ Returns x Q' s := by
  constructor
  · intro hreturns
    obtain ⟨a, s₁, hx, hQ⟩ := hreturns
    exact ⟨a, s₁, hx, (h a s₁ hx).mp hQ⟩
  · intro hreturns
    obtain ⟨a, s₁, hx, hQ⟩ := hreturns
    exact ⟨a, s₁, hx, (h a s₁ hx).mpr hQ⟩

/-- The handler takes over. -/
theorem returns_handleError_of_error {h : ε → Prog ε σ α} {Q : α → σ → Prop}
    (hx : x s = (.error e, s')) : Returns (x.handleError h) Q s ↔ Returns (h e) Q s' := by
  rw [Returns, Returns, handleError_apply_error hx]

/-- Where the handler does not return on what the first part raises, only the rest is handled. -/
theorem returns_handleError_bind {h : ε → Prog ε σ β} {Q : β → σ → Prop}
    (hx : ∀ e s', x s = (.error e, s') → ¬Returns (h e) Q s') :
    Returns ((x >>= f).handleError h) Q s ↔
      Returns x (fun a s' => Returns ((f a).handleError h) Q s') s := by
  rcases hxs : x s with ⟨e | a, s₁⟩
  · have hhandled : (x >>= f).handleError h s = h e s₁ :=
      handleError_apply_error (bind_apply_error hxs)
    refine iff_of_false ?_ (not_returns_of_error hxs)
    rw [Returns, hhandled]
    exact hx e s₁ hxs
  · have hhandled : (x >>= f).handleError h s = (f a).handleError h s₁ :=
      handleError_apply_congr (bind_apply_ok hxs) h
    rw [returns_of_ok hxs, Returns, hhandled]
    rfl

end Returns

/-! ## What a program may raise -/

/-- Whatever the program raises satisfies `P`. -/
def RaisesOnly (P : ε → Prop) (x : Prog ε σ α) : Prop :=
  ∀ s e s', x s = (.error e, s') → P e

section RaisesOnly

variable {P : ε → Prop}

theorem raisesOnly_pure (a : α) : RaisesOnly P (pure a : Prog ε σ α) :=
  fun _ _ _ h => by cases congrArg Prod.fst h

/-- A sequence raises what its parts raise. -/
theorem raisesOnly_bind {x : Prog ε σ α} {f : α → Prog ε σ β} (hx : RaisesOnly P x)
    (hf : ∀ a, RaisesOnly P (f a)) : RaisesOnly P (x >>= f) := by
  intro s e s'' h
  rcases bind_eq_error.mp h with hfirst | ⟨a, s', -, hsecond⟩
  · exact hx s e s'' hfirst
  · exact hf a s' e s'' hsecond

/-- A handler that re-raises whatever it gets makes no difference. -/
theorem returns_handleError_of_raisesOnly {x : Prog ε σ α} {h : ε → Prog ε σ α}
    {Q : α → σ → Prop} {s : σ} (hx : RaisesOnly P x) (hh : ∀ e, P e → h e = raise e) :
    Returns (x.handleError h) Q s ↔ Returns x Q s := by
  rcases hxs : x s with ⟨e | a, s'⟩
  · have hraise : x.handleError h s = (.error e, s') := by
      rw [handleError_apply_error hxs, hh e (hx s e s' hxs), raise_apply]
    exact iff_of_false (not_returns_of_error hraise) (not_returns_of_error hxs)
  · rw [returns_of_ok hxs, returns_of_ok (handleError_apply_ok hxs)]

/-- In front of such a handler, what a program raises ends the sequence. -/
theorem returns_handleError_bind_of_raisesOnly {x : Prog ε σ α} {f : α → Prog ε σ β}
    {h : ε → Prog ε σ β} {Q : β → σ → Prop} {s : σ} (hx : RaisesOnly P x)
    (hh : ∀ e, P e → h e = raise e) :
    Returns ((x >>= f).handleError h) Q s ↔
      Returns x (fun a s' => Returns ((f a).handleError h) Q s') s := by
  refine returns_handleError_bind fun e s' hxs => ?_
  rw [hh e (hx s e s' hxs)]
  exact not_returns_of_error (raise_apply e s')

end RaisesOnly

end Prog
