import AgnoRuntime.ForStd.ExitStack
import Mathlib.Data.List.Basic

/-!
# Interruptions

A program that may be cut short anywhere, by an error that it does not handle, next to
what it does when nobody interrupts it:

* `Mirrors`: it does what another program does, seen through a view of the state;
* `Emits`: it adds these to what it has emitted, and has this outcome.

Where it is cut short, it has emitted some of the first of them. The releases at the end
of a scope make no difference.
-/

namespace Prog

variable {ε σ τ ρ α β ω : Type}

/-! ## Following a program that is not interrupted -/

/-- Seen through `view`, `x` does what `y` does, unless it is cut short: then it has failed,
    and with an error that satisfies `C`. -/
def Mirrors (view : σ → τ) (cut : σ → Prop) (C : ε → Prop) (x : Prog ε σ α) (y : Prog ε τ α) :
    Prop :=
  ∀ s, ¬cut s →
    (¬cut (x s).2 ∧ y (view s) = ((x s).1, view (x s).2)) ∨
      cut (x s).2 ∧ ∃ e, (x s).1 = .error e ∧ C e

/-- Once it has been cut short, nothing comes of the program. -/
def Stuck (cut : σ → Prop) (C : ε → Prop) (x : Prog ε σ α) : Prop :=
  ∀ s, cut s → cut (x s).2 ∧ ∃ e, (x s).1 = .error e ∧ C e

/-- A part after which the program is still cut short, whether or not it fails. -/
def StaysCut (cut : σ → Prop) (C : ε → Prop) (x : Prog ε σ α) : Prop :=
  ∀ s, cut s → cut (x s).2 ∧ ∀ e, (x s).1 = .error e → C e

section Stuck

variable {cut : σ → Prop} {C : ε → Prop} {x : Prog ε σ α}

theorem stuck_raise {e : ε} (h : C e) : Stuck cut C (raise e : Prog ε σ α) :=
  fun _ hs => ⟨hs, e, rfl, h⟩

theorem Stuck.staysCut (h : Stuck cut C x) : StaysCut cut C x := by
  intro s hs
  obtain ⟨hcut, e, he, hC⟩ := h s hs
  refine ⟨hcut, fun e' he' => ?_⟩
  rw [he] at he'
  cases he'
  exact hC

/-- A sequence is stuck at its first part, or at the rest. -/
theorem StaysCut.bind {f : α → Prog ε σ β} (hx : StaysCut cut C x)
    (hf : ∀ a, Stuck cut C (f a)) : Stuck cut C (x >>= f) := by
  intro s hs
  obtain ⟨hcut, hC⟩ := hx s hs
  rcases hxs : x s with ⟨e | a, s'⟩
  · rw [bind_apply_error hxs]
    rw [hxs] at hcut hC
    exact ⟨hcut, e, rfl, hC e rfl⟩
  · rw [bind_apply_ok hxs]
    rw [hxs] at hcut
    exact hf a s' hcut

theorem Stuck.bind (h : Stuck cut C x) (f : α → Prog ε σ β) : Stuck cut C (x >>= f) := by
  intro s hs
  obtain ⟨hcut, e, he, hC⟩ := h s hs
  rcases hxs : x s with ⟨e' | a, s'⟩
  · rw [hxs] at hcut he
    cases he
    rw [bind_apply_error hxs]
    exact ⟨hcut, e, rfl, hC⟩
  · rw [hxs] at he
    cases he

/-- A handler of what is stuck is stuck if it gets nowhere either. -/
theorem Stuck.handleError {h : ε → Prog ε σ α} (hx : Stuck cut C x)
    (hh : ∀ e, C e → Stuck cut C (h e)) : Stuck cut C (x.handleError h) := by
  intro s hs
  obtain ⟨hcut, e, he, hC⟩ := hx s hs
  rcases hxs : x s with ⟨e' | a, s'⟩
  · rw [hxs] at hcut he
    cases he
    rw [handleError_apply_error hxs]
    exact hh e hC s' hcut
  · rw [hxs] at he
    cases he

end Stuck

section Mirrors

variable {view : σ → τ} {cut : σ → Prop} {C : ε → Prop} {x : Prog ε σ α} {y : Prog ε τ α}

theorem mirrors_pure (a : α) : Mirrors view cut C (pure a) (pure a) :=
  fun _ hs => .inl ⟨hs, rfl⟩

theorem mirrors_raise (e : ε) :
    Mirrors view cut C (raise e : Prog ε σ α) (raise e) :=
  fun _ hs => .inl ⟨hs, rfl⟩

theorem mirrors_lift (outcome : Except ε α) : Mirrors view cut C (lift outcome) (lift outcome) :=
  fun _ hs => .inl ⟨hs, rfl⟩

/-- Both go on from where they are, or the first has been cut short. -/
theorem Mirrors.bind {f : α → Prog ε σ β} {g : α → Prog ε τ β} (hx : Mirrors view cut C x y)
    (hf : ∀ a, Mirrors view cut C (f a) (g a)) : Mirrors view cut C (x >>= f) (y >>= g) := by
  intro s hs
  rcases hxs : x s with ⟨e | a, s'⟩
  · rw [bind_apply_error hxs]
    have hmirrors := hx s hs
    rw [hxs] at hmirrors
    rcases hmirrors with ⟨hcut, hy⟩ | ⟨hcut, e', he', hC⟩
    · rw [bind_apply_error hy]
      exact .inl ⟨hcut, rfl⟩
    · cases he'
      exact .inr ⟨hcut, e, rfl, hC⟩
  · rw [bind_apply_ok hxs]
    have hmirrors := hx s hs
    rw [hxs] at hmirrors
    rcases hmirrors with ⟨hcut, hy⟩ | ⟨-, e, he, -⟩
    · rw [bind_apply_ok hy]
      exact hf a s' hcut
    · cases he

theorem Mirrors.map (f : α → β) (hx : Mirrors view cut C x y) :
    Mirrors view cut C (f <$> x) (f <$> y) := by
  rw [map_eq_pure_bind, map_eq_pure_bind]
  exact hx.bind fun a => mirrors_pure (f a)

theorem mirrors_mapM {f : α → Prog ε σ β} {g : α → Prog ε τ β}
    (h : ∀ a, Mirrors view cut C (f a) (g a)) (as : List α) :
    Mirrors view cut C (as.mapM f) (as.mapM g) := by
  induction as with
  | nil =>
    rw [List.mapM_nil, List.mapM_nil]
    exact mirrors_pure []
  | cons a as ih =>
    rw [List.mapM_cons, List.mapM_cons]
    exact (h a).bind fun b => ih.bind fun bs => mirrors_pure (b :: bs)

/-- A handler that gets nowhere with what has cut the program short. -/
theorem Mirrors.handleError {h : ε → Prog ε σ α} {k : ε → Prog ε τ α}
    (hx : Mirrors view cut C x y) (hh : ∀ e, Mirrors view cut C (h e) (k e))
    (hC : ∀ e, C e → Stuck cut C (h e)) :
    Mirrors view cut C (x.handleError h) (y.handleError k) := by
  intro s hs
  rcases hxs : x s with ⟨e | a, s'⟩
  · rw [handleError_apply_error hxs]
    have hmirrors := hx s hs
    rw [hxs] at hmirrors
    rcases hmirrors with ⟨hcut, hy⟩ | ⟨hcut, e', he', he⟩
    · rw [handleError_apply_error hy]
      exact hh e s' hcut
    · cases he'
      exact .inr (hC e he s' hcut)
  · rw [handleError_apply_ok hxs]
    have hmirrors := hx s hs
    rw [hxs] at hmirrors
    rcases hmirrors with ⟨hcut, hy⟩ | ⟨-, e, he, -⟩
    · rw [handleError_apply_ok hy]
      exact .inl ⟨hcut, rfl⟩
    · cases he

/-- In a scope the state around is looked at. -/
theorem Mirrors.inside (hx : Mirrors view cut C x y) :
    Mirrors (fun s : Scope σ ρ => view s.around) (fun s => cut s.around) C (inside x) y :=
  fun s hs => hx s.around hs

/-- Acquiring, where the other program only does what acquiring does. -/
theorem Mirrors.enter {acquire : Prog ε σ Unit} {y : Prog ε τ Unit} (r : ρ)
    (h : Mirrors view cut C acquire y) :
    Mirrors (fun s : Scope σ ρ => view s.around) (fun s => cut s.around) C (enter r acquire) y := by
  intro s hs
  rcases hxs : acquire s.around with ⟨e | ⟨⟩, s'⟩
  · have hfail : Prog.inside acquire s = (.error e, { s with around := s' }) := by
      rw [inside_apply, hxs]
    rw [Prog.enter, bind_apply_error hfail]
    have hmirrors := h s.around hs
    rw [hxs] at hmirrors
    exact hmirrors
  · have hok : Prog.inside acquire s = (.ok (), { s with around := s' }) := by
      rw [inside_apply, hxs]
    rw [Prog.enter, bind_apply_ok hok, modify_apply]
    have hmirrors := h s.around hs
    rw [hxs] at hmirrors
    exact hmirrors

/-- A release that nobody sees, but that may be cut short, too. -/
structure Unseen (view : σ → τ) (cut : σ → Prop) (C : ε → Prop) (x : Prog ε σ Unit) : Prop where
  view : ∀ s, view (x s).2 = view s
  stays : ∀ s, cut s → cut (x s).2
  error : ∀ s e s', x s = (.error e, s') → cut s' ∧ C e
  ok : ∀ s s', x s = (.ok (), s') → ¬cut s → ¬cut s'

/-- Nobody sees them, however they end. -/
theorem view_unwind {release : ρ → Prog ε σ Unit} (h : ∀ r, Unseen view cut C (release r))
    (acquired : List ρ) (outcome : Except ε α) (s : σ) :
    view (unwind release acquired outcome s).2 = view s := by
  induction acquired generalizing outcome s with
  | nil => rfl
  | cons r acquired ih =>
    rw [unwind_cons, ih]
    exact (h r).view s

/-- After unseen releases the body is what counts, or an interruption. -/
theorem mirrors_unwind {release : ρ → Prog ε σ Unit} (h : ∀ r, Unseen view cut C (release r))
    (acquired : List ρ) (outcome : Except ε α) (s : σ) :
    (¬cut s →
      (¬cut (unwind release acquired outcome s).2 ∧
        unwind release acquired outcome s =
          (outcome, (unwind release acquired outcome s).2) ∧
        view (unwind release acquired outcome s).2 = view s) ∨
      cut (unwind release acquired outcome s).2 ∧
        ∃ e, (unwind release acquired outcome s).1 = .error e ∧ C e) ∧
    (cut s → (∃ e, outcome = .error e ∧ C e) →
      cut (unwind release acquired outcome s).2 ∧
        ∃ e, (unwind release acquired outcome s).1 = .error e ∧ C e) := by
  induction acquired generalizing outcome s with
  | nil => exact ⟨fun hs => .inl ⟨hs, rfl, rfl⟩, fun hs houtcome => ⟨hs, houtcome⟩⟩
  | cons r acquired ih =>
    rw [unwind_cons]
    have hview := (h r).view s
    have hstays := (h r).stays s
    rcases hr : release r s with ⟨e | ⟨⟩, s'⟩
    · -- from here on it is cut short, whatever it was before
      obtain ⟨hcut, hC⟩ := (h r).error s e s' hr
      have hlater := (ih (.error e) s').2 hcut ⟨e, rfl, hC⟩
      exact ⟨fun _ => .inr hlater, fun _ _ => hlater⟩
    · rw [hr] at hview hstays
      obtain ⟨hsame, hlater⟩ := ih outcome s'
      refine ⟨fun hs => ?_, fun hs => hlater (hstays hs)⟩
      rw [← hview]
      exact hsame ((h r).ok s s' hr hs)

/-- A scope does what its body does. -/
theorem mirrors_withScope {release : ρ → Prog ε σ Unit} {body : Prog ε (Scope σ ρ) α}
    (hbody : Mirrors (fun s : Scope σ ρ => view s.around) (fun s => cut s.around) C body y)
    (hrelease : ∀ r, Unseen view cut C (release r)) :
    Mirrors view cut C (withScope release body) y := by
  intro s hs
  rw [withScope_apply]
  obtain ⟨hsame, hlater⟩ := mirrors_unwind hrelease (body ⟨s, []⟩).2.acquired (body ⟨s, []⟩).1
    (body ⟨s, []⟩).2.around
  rcases hbody ⟨s, []⟩ hs with ⟨hcut, hy⟩ | ⟨hcut, houtcome⟩
  · refine (hsame hcut).imp_left fun hend => ?_
    obtain ⟨hcut', heq, hview⟩ := hend
    rw [hview, heq]
    exact ⟨hcut', hy⟩
  · exact .inr (hlater hcut houtcome)

end Mirrors

/-! ## Emitting -/

/-- From `s`, the program emits `events` and has the outcome `outcome`, unless it is cut short:
    then it has emitted the first of them, and failed with an error that satisfies `C`. -/
def Emits (out : σ → List ω) (cut : σ → Prop) (C : ε → Prop) (x : Prog ε σ α) (s : σ)
    (events : List ω) (outcome : Except ε α) : Prop :=
  (¬cut (x s).2 ∧ (x s).1 = outcome ∧ out (x s).2 = out s ++ events) ∨
    cut (x s).2 ∧ (∃ e, (x s).1 = .error e ∧ C e) ∧
      ∃ part, part <+: events ∧ out (x s).2 = out s ++ part

section Emits

variable {out : σ → List ω} {cut : σ → Prop} {C : ε → Prop} {x : Prog ε σ α} {s : σ}
  {events events' : List ω} {a : α} {e : ε}

theorem emits_lift (outcome : Except ε α) (hs : ¬cut s) :
    Emits out cut C (lift outcome) s [] outcome :=
  .inl ⟨hs, rfl, (List.append_nil _).symm⟩

/-- What follows another program and emits nothing. -/
theorem Mirrors.emits {view : σ → τ} {y : Prog ε τ α} (h : Mirrors view cut C x y)
    (hout : Keeps (Same out) x) (hs : ¬cut s) : Emits out cut C x s [] (y (view s)).1 := by
  have hsame : out (x s).2 = out s ++ [] := by
    rw [List.append_nil]
    exact hout s
  rcases h s hs with ⟨hcut, hy⟩ | ⟨hcut, herror⟩
  · rw [hy]
    exact .inl ⟨hcut, rfl, hsame⟩
  · exact .inr ⟨hcut, herror, [], List.prefix_refl _, hsame⟩

/-- A sequence emits what its parts emit. -/
theorem Emits.bind {f : α → Prog ε σ β} {outcome : Except ε β}
    (hx : Emits out cut C x s events (.ok a))
    (hf : ∀ s', ¬cut s' → Emits out cut C (f a) s' events' outcome) :
    Emits out cut C (x >>= f) s (events ++ events') outcome := by
  rcases hxs : x s with ⟨e | b, s'⟩
  -- `x` has been cut off, and the rest does not run.
  · rw [Emits, hxs] at hx
    rw [Emits, bind_apply_error hxs]
    rcases hx with ⟨-, houtcome, -⟩ | ⟨hcut, ⟨e', he', hC⟩, part, hpart, hout⟩
    · cases houtcome
    · cases he'
      exact .inr ⟨hcut, ⟨e, rfl, hC⟩, part, hpart.trans (List.prefix_append _ _), hout⟩
  -- `x` has ended, and the rest goes on, or is cut off in turn.
  · rw [Emits, hxs] at hx
    rw [Emits, bind_apply_ok hxs]
    rcases hx with ⟨hcut, houtcome, hout⟩ | ⟨-, ⟨e, he, -⟩, -⟩
    · cases houtcome
      refine (hf s' hcut).imp (fun hend => ?_) fun hend => ?_
      · obtain ⟨hcut', houtcome', hout'⟩ := hend
        rw [hout', hout, List.append_assoc]
        exact ⟨hcut', houtcome', rfl⟩
      · obtain ⟨hcut', herror, part, hpart, hout'⟩ := hend
        refine ⟨hcut', herror, events ++ part, (List.prefix_append_right_inj events).mpr hpart, ?_⟩
        rw [hout', hout, List.append_assoc]
    · cases he

/-- A sequence whose first part fails. -/
theorem Emits.bind_error {f : α → Prog ε σ β} (hx : Emits out cut C x s events (.error e)) :
    Emits out cut C (x >>= f) s events (.error e) := by
  rcases hxs : x s with ⟨e' | b, s'⟩
  · rw [Emits, hxs] at hx
    rw [Emits, bind_apply_error hxs]
    refine hx.imp (fun hend => ?_) fun hend => ?_
    · obtain ⟨hcut, houtcome, hout⟩ := hend
      cases houtcome
      exact ⟨hcut, rfl, hout⟩
    · obtain ⟨hcut, ⟨e₁, he₁, hC⟩, hpart⟩ := hend
      cases he₁
      exact ⟨hcut, ⟨e', rfl, hC⟩, hpart⟩
  · rw [Emits, hxs] at hx
    rcases hx with ⟨-, houtcome, -⟩ | ⟨-, ⟨e₁, he₁, -⟩, -⟩
    · cases houtcome
    · cases he₁

/-- A handler has nothing to do. -/
theorem Emits.handleError_ok {h : ε → Prog ε σ α} (hx : Emits out cut C x s events (.ok a))
    (hC : ∀ e, C e → h e = raise e) :
    Emits out cut C (x.handleError h) s events (.ok a) := by
  rcases hxs : x s with ⟨e | b, s'⟩
  · rw [Emits, hxs] at hx
    rw [Emits, handleError_apply_error hxs]
    rcases hx with ⟨-, houtcome, -⟩ | ⟨hcut, ⟨e', he', he⟩, hpart⟩
    · cases houtcome
    · cases he'
      rw [hC e he]
      exact .inr ⟨hcut, ⟨e, rfl, he⟩, hpart⟩
  · rw [Emits, hxs] at hx
    rw [Emits, handleError_apply_ok hxs]
    exact hx

/-- A handler goes on emitting, but not where the program was cut short. -/
theorem Emits.handleError {h : ε → Prog ε σ α} {outcome : Except ε α}
    (hx : Emits out cut C x s events (.error e)) (hC : ∀ e, C e → h e = raise e)
    (hh : ∀ s', ¬cut s' → Emits out cut C (h e) s' events' outcome) :
    Emits out cut C (x.handleError h) s (events ++ events') outcome := by
  rcases hxs : x s with ⟨e' | b, s'⟩
  · rw [Emits, hxs] at hx
    rw [Emits, handleError_apply_error hxs]
    -- `x` has failed by itself, and the handler runs.
    rcases hx with ⟨hcut, houtcome, hout⟩ | ⟨hcut, ⟨e₁, he₁, he⟩, part, hpart, hout⟩
    · cases houtcome
      refine (hh s' hcut).imp (fun hend => ?_) fun hend => ?_
      · obtain ⟨hcut', houtcome', hout'⟩ := hend
        rw [hout', hout, List.append_assoc]
        exact ⟨hcut', houtcome', rfl⟩
      · obtain ⟨hcut', herror, part, hpart, hout'⟩ := hend
        refine ⟨hcut', herror, events ++ part, (List.prefix_append_right_inj events).mpr hpart, ?_⟩
        rw [hout', hout, List.append_assoc]
    -- `x` has been cut off, and the handler raises again.
    · cases he₁
      rw [hC e' he]
      exact .inr ⟨hcut, ⟨e', rfl, he⟩, part, hpart.trans (List.prefix_append _ _), hout⟩
  · rw [Emits, hxs] at hx
    rcases hx with ⟨-, houtcome, -⟩ | ⟨-, ⟨e₁, he₁, -⟩, -⟩
    · cases houtcome
    · cases he₁

/-- A loop emits one after another. -/
theorem emits_forEach {f : α → Prog ε σ Unit} (emitted : α → ω)
    (hf : ∀ a s, ¬cut s → Emits out cut C (f a) s [emitted a] (.ok ())) (as : List α) (hs : ¬cut s) :
    Emits out cut C (forEach f as) s (as.map emitted) (.ok ()) := by
  induction as generalizing s with
  | nil => exact emits_lift (.ok ()) hs
  | cons a as ih => exact (hf a s hs).bind fun s' hs' => ih hs'

/-- In a scope, what is emitted around it counts. -/
theorem Emits.inside {s : Scope σ ρ} {outcome : Except ε α}
    (hx : Emits out cut C x s.around events outcome) :
    Emits (fun s : Scope σ ρ => out s.around) (fun s => cut s.around) C (inside x) s events
      outcome := hx

/-- A scope emits what its body emits. -/
theorem emits_withScope {release : ρ → Prog ε σ Unit} {body : Prog ε (Scope σ ρ) α}
    {outcome : Except ε α} (hbody : Emits (fun s : Scope σ ρ => out s.around)
      (fun s => cut s.around) C body ⟨s, []⟩ events outcome)
    (hrelease : ∀ r, Unseen out cut C (release r)) :
    Emits out cut C (withScope release body) s events outcome := by
  have hview := view_unwind hrelease (body ⟨s, []⟩).2.acquired (body ⟨s, []⟩).1 (body ⟨s, []⟩).2.around
  obtain ⟨hsame, hlater⟩ := mirrors_unwind hrelease (body ⟨s, []⟩).2.acquired (body ⟨s, []⟩).1
    (body ⟨s, []⟩).2.around
  rw [Emits, withScope_apply]
  rcases hbody with ⟨hcut, houtcome, hout⟩ | ⟨hcut, herror, part, hpart, hout⟩
  · rcases hsame hcut with ⟨hcut', heq, -⟩ | ⟨hcut', herror⟩
    · refine .inl ⟨hcut', ?_, hview.trans hout⟩
      rw [heq]
      exact houtcome
    · exact .inr ⟨hcut', herror, events, List.prefix_refl _, hview.trans hout⟩
  · obtain ⟨hcut', herror'⟩ := hlater hcut herror
    exact .inr ⟨hcut', herror', part, hpart, hview.trans hout⟩

end Emits

end Prog
