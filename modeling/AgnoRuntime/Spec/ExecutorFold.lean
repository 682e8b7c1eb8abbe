import AgnoRuntime.Spec.WorkflowAccount

/-!
# The executor as a fold

`execute` sorts its steps, reads the input of each back from a dict and surrounds the
call of the runner with callbacks. For steps with the orders 0, 1, 2, .. it is a left
fold of the runner over the steps in that order.

The runner and the callbacks are arbitrary programs over an arbitrary state. What
`execute` makes of them is observed from outside: every call it makes is noted, the
calls of the runner together with their outcomes.

## Key results

- `executeSteps_observed`: the loop, and the calls it makes
- `execute_folds`: the fold, its result and its calls
-/

namespace AgnoRuntime

open Prog

namespace WorkflowExecutor

/-! ## Observing -/

/-- A call `execute` makes. -/
inductive ExecutorCall where
  | started (step : WorkflowStep) (stepInput : String)
  | ran (step : WorkflowStep) (stepInput : String) (outcome : Except PyError String)
  | completed (step : WorkflowStep) (output : String)
  | failed (step : WorkflowStep) (errorMessage : String)

/-- Note a call once it is over. -/
def noting {σ α : Type} (x : Prog PyError σ α) (note : Except PyError α → ExecutorCall) :
    Prog PyError (σ × List ExecutorCall) α := fun s =>
  ((x s.1).1, ((x s.1).2, s.2 ++ [note (x s.1).1]))

/-- The runner, with its calls noted. -/
def observedRunner {σ : Type}
    (runStep : WorkflowStep → String → WorkflowContext → Prog PyError σ String) :
    WorkflowStep → String → WorkflowContext → Prog PyError (σ × List ExecutorCall) String :=
  fun step stepInput context => noting (runStep step stepInput context) (.ran step stepInput)

/-- The callbacks, with their calls noted. -/
def Callbacks.observed {σ ρ : Type} (callbacks : Callbacks σ ρ) :
    Callbacks (σ × List ExecutorCall) ρ where
  onStepStarted step stepInput :=
    noting (callbacks.onStepStarted step stepInput) fun _ => .started step stepInput
  onStepCompleted record step output :=
    noting (callbacks.onStepCompleted record step output) fun _ => .completed step output
  onStepFailed record step errorMessage :=
    noting (callbacks.onStepFailed record step errorMessage) fun _ => .failed step errorMessage

/-- Callbacks that do not raise. -/
structure Callbacks.Quiet {σ ρ : Type} (callbacks : Callbacks σ ρ) : Prop where
  started : ∀ step stepInput s, ∃ record s',
    callbacks.onStepStarted step stepInput s = (.ok record, s')
  completed : ∀ record step output s, ∃ s',
    callbacks.onStepCompleted record step output s = (.ok (), s')
  failed : ∀ record step errorMessage s, ∃ s',
    callbacks.onStepFailed record step errorMessage s = (.ok (), s')

/-- The calls made for a step that was executed: what is no `Exception` calls nothing more. -/
def callsOf (e : StepExecution) : List ExecutorCall :=
  .started e.step e.input :: .ran e.step e.input e.outcome ::
    match e.outcome with
    | .ok output => [.completed e.step output]
    | .error exc => if exc.isException then [.failed e.step exc.str] else []

section Observed

variable {σ ρ : Type} (runStep : WorkflowStep → String → WorkflowContext → Prog PyError σ String)
  {callbacks : Callbacks σ ρ} (input : String)

/-- The exception of a step ends the round: the callback for it is called first. -/
private theorem failStep_observed (hquiet : callbacks.Quiet) (record : ρ) (step : WorkflowStep)
    (exc : PyError) (s : σ) (log : List ExecutorCall) :
    ∃ s', (failStep callbacks.observed record step exc : Prog PyError _ String) (s, log) =
      (.error (if exc.isException then stepFailed step exc else exc),
        (s', log ++ if exc.isException then [.failed step exc.str] else [])) := by
  rw [failStep]
  cases exc.isException with
  | true =>
    obtain ⟨s', hfailed⟩ := hquiet.failed record step exc.str s
    have hnoted : callbacks.observed.onStepFailed record step exc.str (s, log) =
        (.ok (), (s', log ++ [.failed step exc.str])) := by
      simp only [Callbacks.observed, noting, hfailed]
    exact ⟨s', bind_apply_ok hnoted⟩
  | false => exact ⟨s, by simp⟩

/-- One round of the loop: the calls of one step. -/
theorem executeStep_observed (hquiet : callbacks.Quiet) (context : WorkflowContext)
    (step : WorkflowStep) (s : σ) (log : List ExecutorCall) :
    ∃ outcome s', executeStep (observedRunner runStep) callbacks.observed input context step
        (s, log) =
      ((StepExecution.mk step (context.previousOutput step.stepOrder input) outcome).result,
        (s', log ++ callsOf ⟨step, context.previousOutput step.stepOrder input, outcome⟩)) := by
  rw [executeStep]
  generalize context.previousOutput step.stepOrder input = stepInput
  obtain ⟨record, s₁, hstarted⟩ := hquiet.started step stepInput s
  have hstart : callbacks.observed.onStepStarted step stepInput (s, log) =
      (.ok record, (s₁, log ++ [.started step stepInput])) := by
    simp only [Callbacks.observed, noting, hstarted]
  rcases hran : runStep step stepInput context s₁ with ⟨outcome, s₂⟩
  have hrun (log : List ExecutorCall) : observedRunner runStep step stepInput context (s₁, log) =
      (outcome, (s₂, log ++ [.ran step stepInput outcome])) := by
    rw [observedRunner, noting, hran]
  refine ⟨outcome, ?_⟩
  -- The record of the start is the one that is finalized, whichever way the step ends.
  simp only [bind_apply_ok hstart]
  cases outcome with
  | ok output =>
    obtain ⟨s₃, hcompleted⟩ := hquiet.completed record step output s₂
    have hcomplete (log : List ExecutorCall) :
        callbacks.observed.onStepCompleted record step output (s₂, log) =
          (.ok (), (s₃, log ++ [.completed step output])) := by
      simp only [Callbacks.observed, noting, hcompleted]
    refine ⟨s₃, ?_⟩
    rw [bind_apply_ok (handleError_apply_ok (hrun _)), bind_apply_ok (hcomplete _)]
    simp [StepExecution.result, Except.mapError, callsOf]
  | error exc =>
    obtain ⟨s₃, hfailed⟩ := failStep_observed hquiet record step exc s₂
      (log ++ [.started step stepInput] ++ [.ran step stepInput (.error exc)])
    refine ⟨s₃, ?_⟩
    rw [bind_apply_error ((handleError_apply_error (hrun _)).trans hfailed)]
    simp [StepExecution.result, Except.mapError, callsOf]

/-- The loop: what was executed, and the calls that were made for it. -/
theorem executeSteps_observed (hquiet : callbacks.Quiet) {k : Nat} {steps : List WorkflowStep}
    {context : WorkflowContext} {current : String} (hsteps : Consecutive k steps)
    (hcontext : context.previousOutput k input = current) (s : σ) (log : List ExecutorCall) :
    ∃ es s', executeSteps (observedRunner runStep) callbacks.observed input steps context current
        (s, log) = (resultOf current es, (s', log ++ es.flatMap callsOf)) ∧
      Chained current es ∧ es.map (·.step) <+: steps ∧
      ∀ output, resultOf current es = .ok output → es.map (·.step) = steps := by
  induction steps generalizing k context current s log with
  | nil =>
    refine ⟨[], s, ?_, trivial, List.prefix_rfl, fun _ _ => rfl⟩
    rw [List.flatMap_nil, List.append_nil]
    rfl
  | cons step steps ih =>
    obtain ⟨horder, hsteps⟩ := hsteps
    obtain ⟨outcome, s₁, hround⟩ :=
      executeStep_observed runStep input hquiet context step s log
    rw [horder, hcontext] at hround
    rw [executeSteps]
    -- an output is recorded and the loop goes on; an error ends it with this step
    cases outcome with
    | ok output =>
      obtain ⟨es, s', hloop, hchained, hfirst, hall⟩ :=
        ih hsteps (WorkflowContext.previousOutput_recordResult context k output input) s₁
          (log ++ callsOf ⟨step, current, .ok output⟩)
      refine ⟨⟨step, current, .ok output⟩ :: es, s', ?_, ⟨rfl, hchained⟩, ?_, ?_⟩
      · rw [bind_apply_ok hround, horder, hloop, List.flatMap_cons, List.append_assoc]
        rfl
      · exact List.cons_prefix_cons.mpr ⟨rfl, hfirst⟩
      · intro output' hok
        rw [List.map_cons, hall output' hok]
    | error exc =>
      refine ⟨[⟨step, current, .error exc⟩], s₁, ?_, ⟨rfl, rfl⟩, ?_, ?_⟩
      · rw [bind_apply_error hround, List.flatMap_singleton]
        rfl
      · exact List.cons_prefix_cons.mpr ⟨rfl, List.nil_prefix⟩
      · intro output' hok
        cases hok

end Observed

/-! ## Observing changes nothing -/

section Erased

variable {σ ρ α β : Type}

/-- `y` is `x` with notes: it ends alike, in the same state. -/
def Observes (x : Prog PyError σ α) (y : Prog PyError (σ × List ExecutorCall) α) : Prop :=
  ∀ s log, ((y (s, log)).1, (y (s, log)).2.1) = x s

theorem observes_noting (x : Prog PyError σ α) (note : Except PyError α → ExecutorCall) :
    Observes x (noting x note) :=
  fun _ _ => rfl

theorem observes_pure (a : α) : Observes (pure a : Prog PyError σ α) (pure a) :=
  fun _ _ => rfl

theorem observes_raise (exc : PyError) :
    Observes (raise exc : Prog PyError σ α) (raise exc) :=
  fun _ _ => rfl

/-- A sequence of observed programs is the observed sequence. -/
theorem observes_bind {x : Prog PyError σ α} {y : Prog PyError (σ × List ExecutorCall) α}
    {f : α → Prog PyError σ β} {g : α → Prog PyError (σ × List ExecutorCall) β}
    (hx : Observes x y) (hf : ∀ a, Observes (f a) (g a)) : Observes (x >>= f) (y >>= g) := by
  intro s log
  have hfirst := hx s log
  rcases hy : y (s, log) with ⟨exc | a, s', log'⟩
  · rw [hy] at hfirst
    rw [bind_apply_error hy, bind_apply_error hfirst.symm]
  · rw [hy] at hfirst
    rw [bind_apply_ok hy, bind_apply_ok hfirst.symm]
    exact hf a s' log'

/-- So is an observed program with an observed handler. -/
theorem observes_handleError {x : Prog PyError σ α}
    {y : Prog PyError (σ × List ExecutorCall) α} {f : PyError → Prog PyError σ α}
    {g : PyError → Prog PyError (σ × List ExecutorCall) α} (hx : Observes x y)
    (hf : ∀ exc, Observes (f exc) (g exc)) : Observes (x.handleError f) (y.handleError g) := by
  intro s log
  have hfirst := hx s log
  rcases hy : y (s, log) with ⟨exc | a, s', log'⟩
  · rw [hy] at hfirst
    rw [handleError_apply_error hy, handleError_apply_error hfirst.symm]
    exact hf exc s' log'
  · rw [hy] at hfirst
    rw [handleError_apply_ok hy, handleError_apply_ok hfirst.symm]

variable (runStep : WorkflowStep → String → WorkflowContext → Prog PyError σ String)
  (callbacks : Callbacks σ ρ) (input : String)

theorem observes_executeSteps (steps : List WorkflowStep) (context : WorkflowContext)
    (current : String) :
    Observes (executeSteps runStep callbacks input steps context current)
      (executeSteps (observedRunner runStep) callbacks.observed input steps context current) := by
  induction steps generalizing context current with
  | nil => exact observes_pure current
  | cons step steps ih =>
    refine observes_bind ?_ fun output => ih _ output
    refine observes_bind (observes_noting _ _) fun record => ?_
    refine observes_bind (observes_handleError (observes_noting _ _) fun exc => ?_) fun output => ?_
    · rw [failStep, failStep]
      split
      · exact observes_bind (observes_noting _ _) fun _ => observes_raise _
      · exact observes_raise exc
    · exact observes_bind (observes_noting _ _) fun _ => observes_pure output

end Erased

/-! ## The fold -/

/-- What was executed of the steps `todo` folds the runner over them: it ended with `result`, and
    the calls made were `calls`. -/
structure Folds (todo : List WorkflowStep) (input : String) (result : Except PyError String)
    (calls : List ExecutorCall) (es : List StepExecution) : Prop where
  /-- The steps executed are the first ones. -/
  steps : es.map (·.step) <+: todo
  /-- The first one is given the input of the workflow, every other one the output of the one
      before, which therefore did not fail. -/
  first : ∀ e ∈ es.head?, e.input = input
  threaded : ∀ i e next, es[i]? = some e → es[i + 1]? = some next → e.outcome = .ok next.input
  /-- These are the calls, in this order. -/
  calls : calls = es.flatMap callsOf
  /-- All steps were executed and the last output is the result, or the last step that was executed
      is the first that failed. -/
  ended : ∃ last ∈ es.getLast?,
    (∃ output, last.outcome = .ok output ∧ result = .ok output ∧ es.map (·.step) = todo) ∨
    (∃ exc, last.outcome = .error exc ∧
      result = .error (if exc.isException then stepFailed last.step exc else exc))

/-- An execution that is followed by another has its input for an output. -/
theorem threaded_of_chain {es : List StepExecution} {current : String} (h : Chained current es)
    (i : Nat) (e next : StepExecution) (he : es[i]? = some e) (hnext : es[i + 1]? = some next) :
    e.outcome = .ok next.input := by
  induction es generalizing current i with
  | nil => cases List.getElem?_nil.symm.trans he
  | cons e' es ih =>
    obtain ⟨-, hrest⟩ := h
    rw [List.getElem?_cons_succ] at hnext
    rcases houtcome : e'.outcome with exc | output
    · simp only [houtcome] at hrest
      rw [hrest] at hnext
      cases List.getElem?_nil.symm.trans hnext
    · simp only [houtcome] at hrest
      cases i with
      | zero =>
        -- The next execution is the first one of the rest, so its input is this output.
        rw [List.getElem?_cons_zero, Option.some.injEq] at he
        cases es with
        | nil => cases List.getElem?_nil.symm.trans hnext
        | cons e'' es =>
          rw [List.getElem?_cons_zero, Option.some.injEq] at hnext
          rw [← he, houtcome, ← hnext, hrest.1]
      | succ i =>
        rw [List.getElem?_cons_succ] at he
        exact ih hrest i he hnext

/-- A chain of executions folds the runner over the steps it got to. -/
theorem folds_of_chained {todo : List WorkflowStep} {input : String} {es : List StepExecution}
    (hne : todo ≠ []) (hchained : Chained input es) (hfirst : es.map (·.step) <+: todo)
    (hall : ∀ output, resultOf input es = .ok output → es.map (·.step) = todo) :
    Folds todo input (resultOf input es) (es.flatMap callsOf) es where
  steps := hfirst
  first := by
    intro e he
    cases es with
    | nil => cases he
    | cons e' es =>
      rw [List.head?_cons, Option.mem_some_iff] at he
      rw [← he]
      exact hchained.1
  threaded := threaded_of_chain hchained
  calls := rfl
  ended := by
    -- the first step was tried at least, whatever came of it
    have hes : es ≠ [] := by
      intro hnil
      rw [hnil] at hall
      exact hne (hall input rfl).symm
    obtain ⟨before, last, hsplit, -, hresult⟩ := hchained.exists_last hes
    refine ⟨last, by rw [hsplit]; simp, ?_⟩
    rw [hresult]
    cases houtcome : last.outcome with
    | ok output =>
      have hok : last.result = .ok output := by
        rw [StepExecution.result, houtcome]
        rfl
      exact .inl ⟨output, rfl, hok, hall output (hresult.trans hok)⟩
    | error exc =>
      refine .inr ⟨exc, rfl, ?_⟩
      rw [StepExecution.result, houtcome]
      rfl

/-- Steps with the orders from 0 on, in whatever order they are listed, are executed as a left fold
    of the runner in ascending order. A step that raises an `Exception` ends it with a
    `RuntimeExecutionError`; what is no `Exception` leaves it as it is, without a callback. -/
theorem execute_folds {σ ρ : Type}
    (runStep : WorkflowStep → String → WorkflowContext → Prog PyError σ String)
    (callbacks : Callbacks σ ρ) (hquiet : callbacks.Quiet) (steps : List WorkflowStep)
    (hne : steps ≠ [])
    (horders : (steps.map (·.stepOrder)).Perm ((List.range steps.length).map Int.ofNat))
    (input : String) (context : WorkflowContext) (s : σ) :
    let run := execute (observedRunner runStep) callbacks.observed input steps context (s, [])
    execute runStep callbacks input steps context s = (run.1, run.2.1) ∧
      (ordered steps).Perm steps ∧
      (ordered steps).map (·.stepOrder) = (List.range steps.length).map Int.ofNat ∧
      ∃ es, Folds (ordered steps) input run.1 run.2.2 es := by
  have hperm : (ordered steps).Perm steps := List.perm_insertionSort _ steps
  have hsorted := map_stepOrder_ordered horders
  have hconsecutive : Consecutive 0 (ordered steps) := by
    apply consecutive_of_map
    rw [hsorted, hperm.length_eq, List.range_eq_range']
  have hempty : ¬ steps.isEmpty = true := by
    rw [List.isEmpty_iff]
    exact hne
  have hcurrent : context.previousOutput (0 : Nat) input = input := rfl
  obtain ⟨es, s', hrun, hchained, hfirst, hall⟩ :=
    executeSteps_observed runStep input hquiet hconsecutive hcurrent s []
  simp only [execute, if_neg hempty]
  refine ⟨(observes_executeSteps runStep callbacks input _ context input s []).symm, hperm, hsorted,
    es, ?_⟩
  rw [hrun]
  exact folds_of_chained (fun hnil => hne (hperm.symm.trans (hnil ▸ .refl _)).eq_nil) hchained hfirst
    hall

/-! ## Two steps, listed in the wrong order -/

namespace FoldExample

/-- The first step, and the second one. -/
def greeting : WorkflowStep := ⟨1, 1, 0, .agent, some 1, none⟩
def farewell : WorkflowStep := ⟨2, 1, 1, .agent, some 1, none⟩

/-- The first step answers with nothing, the second one with what it is given. -/
def echo (step : WorkflowStep) (stepInput : String) (_ : WorkflowContext) :
    Prog PyError Unit String :=
  pure (if step.stepOrder = 0 then "" else "bye" ++ stepInput)

/-- A runner that is cancelled. -/
def cancelled (_ : WorkflowStep) (_ : String) (_ : WorkflowContext) : Prog PyError Unit String :=
  raise .cancelledError

/-- Callbacks that do nothing. -/
def silent : Callbacks Unit Unit where
  onStepStarted _ _ := pure ()
  onStepCompleted _ _ _ := pure ()
  onStepFailed _ _ _ := pure ()

theorem silent_quiet : silent.Quiet where
  started _ _ _ := ⟨(), (), rfl⟩
  completed _ _ _ _ := ⟨(), rfl⟩
  failed _ _ _ _ := ⟨(), rfl⟩

/-- A fresh context. -/
def fresh : WorkflowContext := ⟨1, 1, 1, none, []⟩

end FoldExample

open FoldExample

/-- The fold of these steps. -/
theorem execute_folds_example :
    let run := execute (observedRunner echo) silent.observed "Hello" [farewell, greeting] fresh
      ((), [])
    execute echo silent "Hello" [farewell, greeting] fresh () = (run.1, run.2.1) ∧
      (ordered [farewell, greeting]).Perm [farewell, greeting] ∧
      (ordered [farewell, greeting]).map (·.stepOrder) = (List.range 2).map Int.ofNat ∧
      ∃ es, Folds (ordered [farewell, greeting]) "Hello" run.1 run.2.2 es :=
  execute_folds echo silent silent_quiet [farewell, greeting] (by simp) (by decide) "Hello" fresh ()

/-- A run that is cancelled in its first step ends with the cancellation, and no callback is called
    for the step again. -/
theorem cancelled_step_calls_nothing :
    execute (observedRunner cancelled) silent.observed "Hello" [greeting] fresh ((), []) =
        (.error .cancelledError,
          ((), [.started greeting "Hello", .ran greeting "Hello" (.error .cancelledError)])) ∧
      PyError.cancelledError.isRuntimeExecution = false :=
  ⟨rfl, rfl⟩

end WorkflowExecutor

end AgnoRuntime
