import AgnoRuntime.ForStd.Prog

/-!
# Triples

`Triple P x Q E`: from a state that satisfies `P`, the program `x` returns a result
and reaches a state that satisfy `Q`, or it fails with an error and in a state that
satisfy `E`. One rule for each construct of a program; what a program keeps in any
case (`Keeps`) is a triple as well, and a handler starts where `E` holds.
-/

namespace Prog

variable {ε σ α β : Type}

/-- A postcondition for results and one for errors. -/
def Triple (P : σ → Prop) (x : Prog ε σ α) (Q : α → σ → Prop) (E : ε → σ → Prop) : Prop :=
  ∀ s, P s → match x s with
    | (.ok a, s') => Q a s'
    | (.error e, s') => E e s'

section Triple

variable {P P' : σ → Prop} {Q Q' : α → σ → Prop} {E E' : ε → σ → Prop} {x : Prog ε σ α}

/-- What a program returns. -/
theorem Triple.ok (h : Triple P x Q E) {s s' : σ} {a : α} (hs : P s) (hx : x s = (.ok a, s')) :
    Q a s' := by
  have hpost := h s hs
  rw [hx] at hpost
  exact hpost

/-- What a program fails with. -/
theorem Triple.error (h : Triple P x Q E) {s s' : σ} {e : ε} (hs : P s)
    (hx : x s = (.error e, s')) : E e s' := by
  have hpost := h s hs
  rw [hx] at hpost
  exact hpost

/-- A triple by the two ways a program can end. -/
theorem triple_of (hok : ∀ s a s', P s → x s = (.ok a, s') → Q a s')
    (herror : ∀ s e s', P s → x s = (.error e, s') → E e s') : Triple P x Q E := by
  intro s hs
  rcases hx : x s with ⟨e | a, s'⟩
  · exact herror s e s' hs hx
  · exact hok s a s' hs hx

/-- Consequence. -/
theorem Triple.mono (h : Triple P x Q E) (hP : ∀ s, P' s → P s) (hQ : ∀ a s, Q a s → Q' a s)
    (hE : ∀ e s, E e s → E' e s) : Triple P' x Q' E' :=
  triple_of (fun s a s' hs hx => hQ a s' (h.ok (hP s hs) hx))
    fun s e s' hs hx => hE e s' (h.error (hP s hs) hx)

/-- Less may be claimed of the errors. -/
theorem Triple.onError (h : Triple P x Q E) (hE : ∀ e s, E e s → E' e s) : Triple P x Q E' :=
  h.mono (fun _ hs => hs) (fun _ _ hs => hs) hE

/-- What does not depend on the state is a hypothesis. -/
theorem triple_given {p : Prop} (h : p → Triple P x Q E) : Triple (fun s => p ∧ P s) x Q E :=
  fun s hs => h hs.1 s hs.2

/-- The same of something that exists. -/
theorem triple_exists {ι : Sort*} {P : ι → σ → Prop} (h : ∀ i, Triple (P i) x Q E) :
    Triple (fun s => ∃ i, P i s) x Q E :=
  fun s hs => hs.elim fun i hi => h i s hi

theorem triple_pure {a : α} (h : ∀ s, P s → Q a s) : Triple P (pure a : Prog ε σ α) Q E := h

theorem triple_raise {e : ε} (h : ∀ s, P s → E e s) : Triple P (raise e : Prog ε σ α) Q E := h

theorem triple_modify {f : σ → σ} {Q : Unit → σ → Prop} (h : ∀ s, P s → Q () (f s)) :
    Triple P (modify f : Prog ε σ Unit) Q E := h

/-- The rest goes on from the state that is read, whatever it is. -/
theorem triple_read_bind {f : σ → Prog ε σ β} {R : β → σ → Prop}
    (h : ∀ s, Triple P (f s) R E) : Triple P (read >>= f) R E := fun s hs => h s s hs

theorem triple_lift {y : Except ε α} (hok : ∀ a s, y = .ok a → P s → Q a s)
    (herror : ∀ e s, y = .error e → P s → E e s) : Triple P (lift y) Q E := by
  intro s hs
  rw [lift_apply]
  cases hy : y with
  | error e => exact herror e s hy hs
  | ok a => exact hok a s hy hs

/-- A sequence: the rest starts where the first part has returned. -/
theorem triple_bind {f : α → Prog ε σ β} {R : β → σ → Prop} (hx : Triple P x Q E)
    (hf : ∀ a, Triple (Q a) (f a) R E) : Triple P (x >>= f) R E := by
  refine triple_of (fun s b s'' hs h => ?_) fun s e s'' hs h => ?_
  · obtain ⟨a, s', hfirst, hsecond⟩ := bind_eq_ok.mp h
    exact (hf a).ok (hx.ok hs hfirst) hsecond
  · rcases bind_eq_error.mp h with hfirst | ⟨a, s', hfirst, hsecond⟩
    · exact hx.error hs hfirst
    · exact (hf a).error (hx.ok hs hfirst) hsecond

/-- A handler starts where the program has failed. -/
theorem triple_handleError {H : ε → σ → Prop} {h : ε → Prog ε σ α} (hx : Triple P x Q H)
    (hh : ∀ e, Triple (H e) (h e) Q E) : Triple P (x.handleError h) Q E := by
  intro s hs
  rcases hxs : x s with ⟨e | a, s'⟩
  · rw [handleError_apply_error hxs]
    exact hh e s' (hx.error hs hxs)
  · rw [handleError_apply_ok hxs]
    exact hx.ok hs hxs

/-- An outcome that is taken as a value. -/
theorem triple_attempt {R : Except ε α → σ → Prop} (hx : Triple P x Q E)
    (hok : ∀ a s, Q a s → R (.ok a) s) (herror : ∀ e s, E e s → R (.error e) s) :
    Triple P x.attempt R E' := by
  intro s hs
  rw [attempt_apply]
  rcases hxs : x s with ⟨e | a, s'⟩
  · exact herror e s' (hx.error hs hxs)
  · exact hok a s' (hx.ok hs hxs)

/-- A loop keeps what each of its rounds keeps. -/
theorem triple_forEach {P : σ → Prop} {f : α → Prog ε σ Unit}
    (hf : ∀ a, Triple P (f a) (fun _ => P) E) (as : List α) :
    Triple P (forEach f as) (fun _ => P) E := by
  induction as with
  | nil => exact triple_pure fun _ hs => hs
  | cons a as ih => exact triple_bind (hf a) fun _ => ih

/-- A traversal: what holds after a part of the list is where the next element starts. -/
theorem triple_mapM (as : List α) {P : List α → σ → Prop} {f : α → Prog ε σ β}
    (hf : ∀ done a, done ++ [a] <+: as → Triple (P done) (f a) (fun _ => P (done ++ [a])) E) :
    Triple (P []) (as.mapM f) (fun _ => P as) E := by
  suffices hrest : ∀ rest done, done ++ rest = as →
      Triple (P done) (rest.mapM f) (fun _ => P as) E from hrest as [] rfl
  intro rest
  induction rest with
  | nil =>
    intro done hdone
    rw [List.append_nil] at hdone
    rw [List.mapM_nil, hdone]
    exact triple_pure fun _ hs => hs
  | cons a rest ih =>
    intro done hdone
    have happend : (done ++ [a]) ++ rest = as := by
      rw [List.append_assoc]
      exact hdone
    rw [List.mapM_cons]
    refine triple_bind (hf done a ⟨rest, happend⟩) fun _ => ?_
    exact triple_bind (ih (done ++ [a]) happend) fun _ => triple_pure fun _ hs => hs

/-- A relation that is kept gives a triple wherever it leads from one condition to another. -/
theorem Keeps.triple {R : σ → σ → Prop} (hx : Keeps R x) (hok : ∀ a s s', P s → R s s' → Q a s')
    (herror : ∀ e s s', P s → R s s' → E e s') : Triple P x Q E := by
  refine triple_of (fun s a s' hs h => ?_) fun s e s' hs h => ?_
  · have hrel := hx s
    rw [h] at hrel
    exact hok a s s' hs hrel
  · have hrel := hx s
    rw [h] at hrel
    exact herror e s s' hs hrel

/-- The state a program ends in, where both postconditions ask for the same. -/
theorem Triple.state {I : σ → Prop} (h : Triple P x (fun _ => I) fun _ => I) {s : σ} (hs : P s) :
    I (x s).2 := by
  rcases hx : x s with ⟨e | a, s'⟩
  · exact h.error hs hx
  · exact h.ok hs hx

end Triple

/-! ## Invariants -/

/-- From a state with the invariant `I` the program ends in one, and `Q` holds of what it
    returns. -/
def Maintains (I : σ → Prop) (x : Prog ε σ α) (Q : α → Prop) : Prop :=
  Triple I x (fun a s => Q a ∧ I s) fun _ => I

section Maintains

variable {I : σ → Prop} {x : Prog ε σ α} {Q : α → Prop}

/-- The rest of a sequence may use what is known of the first result. -/
theorem Maintains.bind {f : α → Prog ε σ β} {R : β → Prop} (hx : Maintains I x Q)
    (hf : ∀ a, Q a → Maintains I (f a) R) : Maintains I (x >>= f) R :=
  triple_bind hx fun a => fun s hs => hf a hs.1 s hs.2

/-- What keeps the invariant maintains it; nothing is known of the result. -/
theorem Keeps.maintains (h : Keeps (fun s s' => I s → I s') x) :
    Maintains I x fun _ => True :=
  h.triple (fun _ _ _ hs hrel => ⟨trivial, hrel hs⟩) fun _ _ _ hs hrel => hrel hs

/-- What maintains the invariant keeps it. -/
theorem Maintains.keeps (h : Maintains I x Q) : Keeps (fun s s' => I s → I s') x := by
  intro s hs
  rcases hx : x s with ⟨e | a, s'⟩
  · exact Triple.error h hs hx
  · exact (Triple.ok h hs hx).2

theorem maintains_pure {a : α} (h : Q a) : Maintains I (pure a : Prog ε σ α) Q :=
  triple_pure fun _ hs => ⟨h, hs⟩

end Maintains

end Prog
