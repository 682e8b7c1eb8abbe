import Mathlib.Data.List.Induction
import Mathlib.Order.Defs.Unbundled

/-!
# Runs of a partial step function

A system is given by `step : σ → ε → Option σ`: the state after an event, or
`none` when the event cannot happen. `Runs.run` takes a list of events.

What a step preserves, a run preserves (`Runs.invariant`); where the step needs
to know the events before it, `Runs.induction` offers them. Where a step preserves
a property exactly when the event is of some kind, a run does exactly when all of
its events are (`Runs.throughout_iff`); likewise for a relation between the states
(`Runs.related_iff`).
-/

namespace Runs

variable {σ ε : Type} (step : σ → ε → Option σ)

/-- The state after a list of events, if all of them can happen one after another. -/
def run (s : σ) : List ε → Option σ
  | [] => some s
  | ev :: evs => (step s ev).bind fun s' => run s' evs

@[simp] theorem run_nil (s : σ) : run step s [] = some s := rfl

variable {step}

/-- A first event, then the others. -/
theorem run_cons {s s'' : σ} {ev : ε} {evs : List ε} :
    run step s (ev :: evs) = some s'' ↔ ∃ s', step s ev = some s' ∧ run step s' evs = some s'' := by
  rw [run, Option.bind_eq_some_iff]

/-- Two lists of events, one after the other. -/
theorem run_append {s s'' : σ} {evs evs' : List ε} :
    run step s (evs ++ evs') = some s'' ↔
      ∃ s', run step s evs = some s' ∧ run step s' evs' = some s'' := by
  induction evs generalizing s with
  | nil => simp
  | cons ev evs ih =>
    rw [List.cons_append, run_cons]
    constructor
    · intro h
      obtain ⟨s₁, hstep, hrest⟩ := h
      obtain ⟨s₂, hevs, hevs'⟩ := ih.mp hrest
      exact ⟨s₂, run_cons.mpr ⟨s₁, hstep, hevs⟩, hevs'⟩
    · intro h
      obtain ⟨s₂, hfirst, hevs'⟩ := h
      obtain ⟨s₁, hstep, hevs⟩ := run_cons.mp hfirst
      exact ⟨s₁, hstep, ih.mpr ⟨s₂, hevs, hevs'⟩⟩

/-- One more event. -/
theorem run_concat {s s'' : σ} {evs : List ε} {ev : ε} :
    run step s (evs ++ [ev]) = some s'' ↔
      ∃ s', run step s evs = some s' ∧ step s' ev = some s'' := by
  rw [run_append]
  refine exists_congr fun s' => and_congr_right fun _ => ?_
  rw [run_cons]
  simp

/-- What holds at the start and is kept by each further event, given the events before it. -/
theorem induction {s₀ : σ} {motive : List ε → σ → Prop} (start : motive [] s₀)
    (next : ∀ evs ev s s', run step s₀ evs = some s → motive evs s → step s ev = some s' →
      motive (evs ++ [ev]) s') {evs : List ε} {s : σ} (h : run step s₀ evs = some s) :
    motive evs s := by
  induction evs using List.reverseRecOn generalizing s with
  | nil =>
    rw [run_nil, Option.some.injEq] at h
    exact h ▸ start
  | append_singleton evs ev ih =>
    obtain ⟨s', hrun, hstep⟩ := run_concat.mp h
    exact next evs ev s' s hrun (ih hrun) hstep

/-- What every step keeps, every run keeps. -/
theorem invariant {P : σ → Prop} (hstep : ∀ s ev s', P s → step s ev = some s' → P s')
    {s₀ s : σ} {evs : List ε} (h₀ : P s₀) (h : run step s₀ evs = some s) : P s :=
  induction (motive := fun _ s => P s) h₀ (fun _ ev s s' _ hs h' => hstep s ev s' hs h') h

/-- The first events of a run can happen one after another. -/
theorem exists_run_of_prefix {s s' : σ} {evs evs' : List ε} (h : run step s evs = some s')
    (hinit : evs' <+: evs) : ∃ s'', run step s evs' = some s'' := by
  obtain ⟨rest, rfl⟩ := hinit
  obtain ⟨s'', hfirst, -⟩ := run_append.mp h
  exact ⟨s'', hfirst⟩

/-- A run of a step that is always possible goes through all events. -/
theorem run_total {f : σ → ε → σ} {s : σ} {evs : List ε} :
    run (fun s ev => some (f s ev)) s evs = some (evs.foldl f s) := by
  induction evs generalizing s with
  | nil => rfl
  | cons ev evs ih => exact run_cons.mpr ⟨f s ev, rfl, ih⟩

/-- What each step keeps whose event satisfies `Q` holds throughout a run of such events. -/
theorem throughout {s₀ : σ} {evs : List ε} {P : σ → Prop} {Q : σ → ε → Prop} (h₀ : P s₀)
    (hstep : ∀ s ev s', P s → step s ev = some s' → Q s ev → P s')
    (hQ : ∀ before ev s, before ++ [ev] <+: evs → run step s₀ before = some s → Q s ev)
    (before : List ε) (s : σ) (hinit : before <+: evs) (h : run step s₀ before = some s) :
    P s := by
  induction before using List.reverseRecOn generalizing s with
  | nil =>
    rw [run_nil, Option.some.injEq] at h
    exact h ▸ h₀
  | append_singleton before ev ih =>
    obtain ⟨s', hearlier, hev⟩ := run_concat.mp h
    have hP := ih s' ((List.prefix_append before [ev]).trans hinit) hearlier
    exact hstep s' ev s hP hev (hQ before ev s' hinit hearlier)

/-- A property that each step keeps exactly when its event satisfies `Q` holds throughout a run
    exactly when every event of the run satisfies `Q`. -/
theorem throughout_iff {s₀ s : σ} {evs : List ε} {P : σ → Prop} {Q : σ → ε → Prop} (h₀ : P s₀)
    (hstep : ∀ s ev s', P s → step s ev = some s' → (P s' ↔ Q s ev))
    (h : run step s₀ evs = some s) :
    (∀ before s, before <+: evs → run step s₀ before = some s → P s) ↔
      ∀ before ev s, before ++ [ev] <+: evs → run step s₀ before = some s → Q s ev := by
  constructor
  · intro hP before ev s₁ hinit hbefore
    obtain ⟨s₂, hafter⟩ := exists_run_of_prefix h hinit
    obtain ⟨s₁', hbefore', hev⟩ := run_concat.mp hafter
    obtain rfl : s₁ = s₁' := Option.some.inj (hbefore.symm.trans hbefore')
    have hP₁ := hP before s₁ ((List.prefix_append before [ev]).trans hinit) hbefore
    exact (hstep s₁ ev s₂ hP₁ hev).mp (hP (before ++ [ev]) s₂ hinit hafter)
  · intro hQ
    exact throughout h₀ (fun s ev s' hs hev => (hstep s ev s' hs hev).mpr) hQ

/-- The same of a step that is always possible. -/
theorem throughout_foldl_iff {f : σ → ε → σ} {s₀ : σ} {evs : List ε} {P : σ → Prop}
    {Q : σ → ε → Prop} (h₀ : P s₀) (hstep : ∀ s ev, P s → (P (f s ev) ↔ Q s ev)) :
    (∀ before, before <+: evs → P (before.foldl f s₀)) ↔
      ∀ before ev, before ++ [ev] <+: evs → Q (before.foldl f s₀) ev := by
  have hstep' (s : σ) (ev : ε) (s' : σ) (hs : P s) (h : some (f s ev) = some s') :
      P s' ↔ Q s ev :=
    Option.some.inj h ▸ hstep s ev hs
  have hthroughout := throughout_iff h₀ hstep' (@run_total σ ε f s₀ evs)
  simp only [run_total, Option.some.injEq] at hthroughout
  constructor
  · intro hP before ev hinit
    exact hthroughout.mp (fun before s hbefore hs => hs ▸ hP before hbefore) before ev _ hinit rfl
  · intro hQ before hinit
    exact hthroughout.mpr (fun before ev s hbefore hs => hs ▸ hQ before ev hbefore) before _ hinit
      rfl

/-- Under an invariant, a preorder that each step keeps exactly when its event satisfies `Q` relates
    each state of a run to all later ones exactly when every event of the run satisfies `Q`. -/
theorem related_iff {s₀ s : σ} {evs : List ε} {I : σ → Prop} {R : σ → σ → Prop}
    {Q : σ → ε → Prop} [Std.Refl R] [IsTrans σ R] (h₀ : I s₀)
    (hI : ∀ s ev s', I s → step s ev = some s' → I s')
    (hstep : ∀ s ev s', I s → step s ev = some s' → (R s s' ↔ Q s ev))
    (h : run step s₀ evs = some s) :
    (∀ before after s s', before ++ after <+: evs → run step s₀ before = some s →
        run step s after = some s' → R s s') ↔
      ∀ before ev s, before ++ [ev] <+: evs → run step s₀ before = some s → Q s ev := by
  constructor
  · intro hR before ev s₁ hinit hbefore
    -- take the one step `ev` as the stretch between the two states
    obtain ⟨s₂, hafter⟩ := exists_run_of_prefix h hinit
    obtain ⟨s₁', hbefore', hev⟩ := run_append.mp hafter
    obtain rfl : s₁ = s₁' := Option.some.inj (hbefore.symm.trans hbefore')
    have hrelated := hR before [ev] s₁ s₂ hinit hbefore hev
    rw [run_cons] at hev
    obtain ⟨s₃, hev, hnil⟩ := hev
    obtain rfl : s₃ = s₂ := Option.some.inj hnil
    exact (hstep s₁ ev s₃ (invariant hI h₀ hbefore) hev).mp hrelated
  · intro hQ before after s₁ s₂ hinit hbefore hafter
    -- the stretch is split at its end, so that its last step comes after a state reached
    induction after using List.reverseRecOn generalizing s₂ with
    | nil =>
      rw [run_nil, Option.some.injEq] at hafter
      exact hafter ▸ Std.Refl.refl s₁
    | append_singleton after ev ih =>
      obtain ⟨s₃, hearlier, hev⟩ := run_concat.mp hafter
      rw [← List.append_assoc] at hinit
      have hreached : run step s₀ (before ++ after) = some s₃ :=
        run_append.mpr ⟨s₁, hbefore, hearlier⟩
      have hrelated := ih s₃ ((List.prefix_append _ [ev]).trans hinit) hearlier
      exact IsTrans.trans _ _ _ hrelated
        ((hstep s₃ ev s₂ (invariant hI h₀ hreached) hev).mpr (hQ _ ev s₃ hinit hreached))

end Runs
