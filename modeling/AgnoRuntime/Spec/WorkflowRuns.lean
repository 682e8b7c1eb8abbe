import AgnoRuntime.Spec.RunViews

/-!
# Runs of workflows

`run_workflow` and `run_workflow_stream` execute the steps of a workflow in two
loops of their own. Both are described by what was executed: the steps the run got
to, each with its input and its outcome. What was executed is computed from what
the runner answers alone; the records of the steps and the row of the run are those
of what was executed, whichever of the two loops it was.
-/

namespace AgnoRuntime

open Svc Prog WorkflowExecutionService

/-! ## What is executed -/

/-- What the runner answers for a step and its input, when the engine is called for the `n`-th
    time then. -/
abbrev StepAnswers : Type := Nat → WorkflowStep → String → Except PyError String

section Answers

variable (env : Env) (m : Metadata) (context : WorkflowContext)

/-- What `run_step` returns or raises. -/
def ranAnswer : StepAnswers := fun n step stepInput =>
  match WorkflowRunner.resolveStep env.hierarchyScan m step with
  | .ok dispatch => runOutcome dispatch (WorkflowRunner.args stepInput context) (env.call n) m
  | .error exc => .error exc

/-- The content that is collected from `run_step_stream`, or what it raises. -/
def streamedAnswer : StepAnswers := fun n step stepInput =>
  match WorkflowRunner.resolveStep env.hierarchyScan m step with
  | .ok dispatch =>
    let stream := streamOutcome dispatch (WorkflowRunner.args stepInput context) (env.call n) m
    match stream.error with
    | none => .ok (answerOf stream.events)
    | some exc => .error exc
  | .error exc => .error exc

end Answers

/-- A step that was executed. -/
structure StepExecution where
  step : WorkflowStep
  input : String
  outcome : Except PyError String

namespace StepExecution

/-- The status its record is left in: an exception fails the step, what is no `Exception` leaves it
    running. -/
def status (e : StepExecution) : WorkflowStepStatus :=
  match e.outcome with
  | .ok _ => .completed
  | .error exc => if exc.isException then .failed else .running

/-- The record it leaves. -/
def record (e : StepExecution) (runId id : Uuid) : WorkflowRunStep where
  id := id
  workflowRunId := runId
  workflowStepId := e.step.id
  stepOrder := e.step.stepOrder
  status := e.status
  input := e.input
  output := e.outcome.toOption
  errorMessage :=
    match e.outcome with
    | .ok _ => none
    | .error exc => if exc.isException then some exc.str else none

/-- How it ends the round of the loop it is executed in. -/
def result (e : StepExecution) : Except PyError String :=
  e.outcome.mapError fun exc =>
    if exc.isException then WorkflowExecutor.stepFailed e.step exc else exc

end StepExecution

/-- The execution of a step. -/
def executionOf (answer : StepAnswers) (step : WorkflowStep) (stepInput : String) (n : Nat) :
    StepExecution :=
  ⟨step, stepInput, answer n step stepInput⟩

/-- What is executed of some steps in a context: a step that fails is the last one. -/
def executionsFrom (answer : StepAnswers) (input : String) :
    List WorkflowStep → WorkflowContext → Nat → List StepExecution
  | [], _, _ => []
  | step :: steps, context, n =>
    let e := executionOf answer step (context.previousOutput step.stepOrder input) n
    match e.outcome with
    | .ok output =>
      e :: executionsFrom answer input steps (context.recordResult step.stepOrder output) (n + 1)
    | .error _ => [e]

/-- The context after what was executed. -/
def contextAfter : WorkflowContext → List StepExecution → WorkflowContext
  | context, [] => context
  | context, e :: es =>
    match e.outcome with
    | .ok output => contextAfter (context.recordResult e.step.stepOrder output) es
    | .error _ => context

/-- The outcome of the loop over the steps. -/
def resultOf (current : String) : List StepExecution → Except PyError String
  | [] => .ok current
  | e :: es =>
    match e.result with
    | .ok output => resultOf output es
    | .error exc => .error exc

/-- Each step is given the output of the one before it; no step follows one that failed. -/
def Chained (current : String) : List StepExecution → Prop
  | [] => True
  | e :: es =>
    e.input = current ∧
    match e.outcome with
    | .ok output => Chained output es
    | .error _ => es = []

section Executions

variable (answer : StepAnswers) {input : String}

/-- The steps that were got to are the first ones. -/
theorem steps_executionsFrom (steps : List WorkflowStep) (context : WorkflowContext) (n : Nat) :
    (executionsFrom answer input steps context n).map (·.step) <+: steps := by
  induction steps generalizing context n with
  | nil => exact List.prefix_rfl
  | cons step steps ih =>
    rw [executionsFrom]
    split
    · rw [List.map_cons]
      exact List.cons_prefix_cons.mpr ⟨rfl, ih _ _⟩
    · rw [List.map_singleton]
      exact List.cons_prefix_cons.mpr ⟨rfl, List.nil_prefix⟩

/-- Each step has the outcome of its call: the `i`-th one that of the `i`-th call. -/
theorem outcome_executionsFrom (steps : List WorkflowStep) (context : WorkflowContext) (n i : Nat)
    (e : StepExecution) (he : (executionsFrom answer input steps context n)[i]? = some e) :
    e.outcome = answer (n + i) e.step e.input := by
  induction steps generalizing context n i with
  | nil => cases List.getElem?_nil.symm.trans he
  | cons step steps ih =>
    rw [executionsFrom] at he
    -- The step has succeeded, and the calls of the next ones follow its own.
    split at he
    · cases i with
      | zero =>
        rw [List.getElem?_cons_zero, Option.some.injEq] at he
        rw [← he]
        rfl
      | succ i =>
        rw [List.getElem?_cons_succ] at he
        have hlater := ih _ _ i he
        rw [hlater, Nat.add_assoc, Nat.add_comm 1 i]
    -- The step has failed, and there is no next one.
    · cases i with
      | zero =>
        rw [List.getElem?_cons_zero, Option.some.injEq] at he
        rw [← he]
        rfl
      | succ i =>
        rw [List.getElem?_cons_succ] at he
        cases List.getElem?_nil.symm.trans he

/-- A run without a failure gets to every step. -/
theorem steps_executionsFrom_of_ok {steps : List WorkflowStep} {context : WorkflowContext}
    {current output : String} {n : Nat}
    (h : resultOf current (executionsFrom answer input steps context n) = .ok output) :
    (executionsFrom answer input steps context n).map (·.step) = steps := by
  induction steps generalizing context current n with
  | nil => rfl
  | cons step steps ih =>
    rw [executionsFrom] at h ⊢
    split at h
    · next houtcome =>
      rw [resultOf, StepExecution.result, houtcome] at h
      simp only [List.map_cons, ih h]
      rfl
    · next exc houtcome =>
      rw [resultOf, StepExecution.result, houtcome] at h
      cases h

/-- A run of some steps gets to the first one. -/
theorem executionsFrom_ne_nil {steps : List WorkflowStep} (h : steps ≠ [])
    (context : WorkflowContext) (n : Nat) : executionsFrom answer input steps context n ≠ [] := by
  obtain ⟨step, steps, rfl⟩ := List.exists_cons_of_ne_nil h
  rw [executionsFrom]
  split
  · exact List.cons_ne_nil _ _
  · exact List.cons_ne_nil _ _

end Executions

/-! ## The loops -/

section Loops

variable {env : Env}

/-- The loop that both have in common: the context, and the last output. -/
def stepLoop (body : WorkflowContext → WorkflowStep → Svc String) :
    List WorkflowStep → WorkflowContext → String → Svc (WorkflowContext × String)
  | [], context, current => pure (context, current)
  | step :: steps, context, _ => do
    let output ← body context step
    stepLoop body steps (context.recordResult step.stepOrder output) output

/-- The loop of `execute` returns the last output. -/
theorem executeSteps_eq_stepLoop
    (runStep : WorkflowStep → String → WorkflowContext → Svc String)
    (callbacks : WorkflowExecutor.Callbacks World Uuid) (input : String)
    (steps : List WorkflowStep) (context : WorkflowContext) (current : String) :
    WorkflowExecutor.executeSteps runStep callbacks input steps context current =
      Prod.snd <$> stepLoop (WorkflowExecutor.executeStep runStep callbacks input) steps context
        current := by
  induction steps generalizing context current with
  | nil => rfl
  | cons step steps ih =>
    rw [WorkflowExecutor.executeSteps, stepLoop, map_bind]
    exact bind_congr fun output => ih _ output

/-- The loop of `execute_stream` returns the context. -/
theorem streamSteps_eq_stepLoop (opened : OpenRun) (input : String) (steps : List WorkflowStep)
    (context : WorkflowContext) (current : String) :
    streamSteps env opened input steps context =
      Prod.fst <$> stepLoop (streamStep env opened input) steps context current := by
  induction steps generalizing context current with
  | nil => rfl
  | cons step steps ih =>
    rw [streamSteps, stepLoop, map_bind]
    exact bind_congr fun output => ih _ output

end Loops

/-! ## The context -/

/-- The output that was recorded last is given to the step after that. -/
theorem WorkflowContext.previousOutput_recordResult (context : WorkflowContext) (k : Nat)
    (output input : String) :
    (context.recordResult k output).previousOutput (k + 1 : Nat) input = output := by
  have hlast : ((k + 1 : Nat) : Int) - 1 = k := by omega
  have hsome : ((k + 1 : Nat) : Int) ≠ 0 := by omega
  rw [WorkflowContext.previousOutput, if_neg hsome, hlast]
  simp only [WorkflowContext.recordResult, List.lookup_cons, beq_self_eq_true, Option.getD_some]

/-- The orders of the steps from the `k`-th on. -/
def Consecutive (k : Nat) : List WorkflowStep → Prop
  | [] => True
  | step :: steps => step.stepOrder = k ∧ Consecutive (k + 1) steps

/-- Steps in consecutive order are each given the output of the one before. -/
theorem chained_executionsFrom (answer : StepAnswers) {input current : String}
    {steps : List WorkflowStep} {k : Nat} {context : WorkflowContext} (n : Nat)
    (hsteps : Consecutive k steps) (hcontext : context.previousOutput k input = current) :
    Chained current (executionsFrom answer input steps context n) := by
  induction steps generalizing context k current n with
  | nil => trivial
  | cons step steps ih =>
    obtain ⟨horder, hsteps⟩ := hsteps
    rw [executionsFrom]
    split
    · next output houtcome =>
      refine ⟨horder ▸ hcontext, ?_⟩
      simp only [houtcome]
      exact ih _ hsteps (horder ▸ WorkflowContext.previousOutput_recordResult context k output input)
    · next exc houtcome =>
      refine ⟨horder ▸ hcontext, ?_⟩
      simp only [houtcome]

/-- The final result is the one recorded last, where no earlier one is of a later step. -/
theorem WorkflowContext.finalResult_recordResult {context : WorkflowContext} {k : Int}
    (h : ∀ result ∈ context.stepResults, result.1 ≤ k) (output : String) :
    (context.recordResult k output).finalResult = output := by
  have hmax : ((context.recordResult k output).stepResults.map (·.1)).max? = some k := by
    rw [List.max?_eq_some_iff]
    refine ⟨List.mem_cons_self, fun k' hk' => ?_⟩
    obtain ⟨result, hresult, rfl⟩ := List.mem_map.mp hk'
    rcases List.mem_cons.mp hresult with rfl | hresult
    · exact Int.le_refl _
    · exact h result hresult
  rw [WorkflowContext.finalResult, hmax]
  simp only [WorkflowContext.recordResult, List.lookup_cons, beq_self_eq_true, Option.getD_some]

/-- Where every step of a run succeeds, its final result is its last output. -/
theorem finalResult_contextAfter (answer : StepAnswers) {input current output : String}
    {steps : List WorkflowStep} {context : WorkflowContext} {n : Nat}
    (hsorted : steps.Pairwise fun s s' => s.stepOrder ≤ s'.stepOrder)
    (hbelow : ∀ step ∈ steps, ∀ result ∈ context.stepResults, result.1 ≤ step.stepOrder)
    (hcurrent : steps = [] → context.finalResult = current)
    (h : resultOf current (executionsFrom answer input steps context n) = .ok output) :
    (contextAfter context (executionsFrom answer input steps context n)).finalResult = output := by
  induction steps generalizing context current n with
  | nil =>
    rw [executionsFrom, resultOf, Except.ok.injEq] at h
    rw [executionsFrom, contextAfter, hcurrent rfl, h]
  -- The result of the last step is the one with the highest order.
  | cons step steps ih =>
    obtain ⟨hfirst, hsorted⟩ := List.pairwise_cons.mp hsorted
    rw [executionsFrom] at h ⊢
    split at h
    · next output' houtcome =>
      rw [resultOf, StepExecution.result, houtcome] at h
      simp only [houtcome, contextAfter]
      refine ih hsorted ?_ (fun _ => ?_) h
      -- The results so far are those of steps that come before.
      · intro step' hstep' result hresult
        rcases List.mem_cons.mp hresult with rfl | hresult
        · exact hfirst step' hstep'
        · exact hbelow step' (List.mem_cons_of_mem _ hstep') result hresult
      · exact WorkflowContext.finalResult_recordResult (hbelow step List.mem_cons_self) output'
    -- A step has failed, and there is no result.
    · next exc houtcome =>
      rw [resultOf, StepExecution.result, houtcome] at h
      cases h

/-! ## The runner -/

section Runner

variable {env : Env} {v : RunView} {w : World} {opened : OpenRun} {context : WorkflowContext}

/-- The context of a later step calls the engine with the same arguments. -/
def SameArgs (context context' : WorkflowContext) : Prop :=
  ∀ stepInput, WorkflowRunner.args stepInput context = WorkflowRunner.args stepInput context'

theorem ranAnswer_congr (m : Metadata) {context' : WorkflowContext}
    (h : SameArgs context context') : ranAnswer env m context = ranAnswer env m context' := by
  funext n step stepInput
  rw [ranAnswer, ranAnswer, h]

theorem streamedAnswer_congr (m : Metadata) {context' : WorkflowContext}
    (h : SameArgs context context') :
    streamedAnswer env m context = streamedAnswer env m context' := by
  funext n step stepInput
  rw [streamedAnswer, streamedAnswer, h]

/-- `run_step` answers, and writes nothing of the run; where the step is not resolved, the engine
    is not called. -/
theorem runStep_inRun (hw : InRun v w) (step : WorkflowStep) (stepInput : String) :
    ∃ w' calls, WorkflowRunner.runStep env step stepInput context w =
        (ranAnswer env v.metadata context v.calls step stepInput, w') ∧
      InRun { v with calls := calls } w' ∧
      ∀ output, ranAnswer env v.metadata context v.calls step stepInput = .ok output →
        calls = v.calls + 1 := by
  rw [ranAnswer, WorkflowRunner.runStep]
  rcases hresolve : WorkflowRunner.resolveStep env.hierarchyScan v.metadata step with exc | dispatch
  -- The agent or team is not found, and no call is made.
  · rw [← hw.metadata] at hresolve
    rw [bind_apply_error (resolve_apply_error hw.inOrder hresolve)]
    exact ⟨_, v.calls, rfl, hw.raised exc, fun _ h => by cases h⟩
  -- The call is noted, the tools do their work, and the engine answers.
  · have hcalled := (hw.called ⟨dispatch, WorkflowRunner.args stepInput context⟩).tooled
      (env.tools v.calls (WorkflowRunner.args stepInput context) 0)
    have hnote : noteCall dispatch (WorkflowRunner.args stepInput context) w =
        (.ok w.engineCalls.length,
          w.called ⟨dispatch, WorkflowRunner.args stepInput context⟩) := rfl
    rw [← hw.metadata] at hresolve
    rw [bind_apply_ok (resolve_apply_ok hw.inOrder hresolve), Svc.run, bind_apply_ok (read_apply w),
      bind_apply_ok hnote, bind_apply_ok (useTools_apply _ _), hw.metadata, hw.calls]
    dsimp only
    rcases runOutcome dispatch (WorkflowRunner.args stepInput context) (env.call v.calls)
      v.metadata with exc | output
    · exact ⟨_, v.calls + 1, rfl, hcalled.raised exc, fun _ h => by cases h⟩
    · exact ⟨_, v.calls + 1, rfl, hcalled, fun _ _ => rfl⟩

/-- So does `run_step_stream`, whose content is collected while its events are sent to a client
    that stays. -/
theorem forwardStep_inRun (hattended : ∀ n, env.closes n = false) (hw : InRun v w)
    (step : WorkflowStep) (stepInput : String) :
    ∃ w' calls, forwardStep env opened context step stepInput w =
        (streamedAnswer env v.metadata context v.calls step stepInput, w') ∧
      InRun { v with calls := calls } w' ∧
      ∀ output, streamedAnswer env v.metadata context v.calls step stepInput = .ok output →
        calls = v.calls + 1 := by
  rw [streamedAnswer]
  -- a target that does not resolve raises before the engine is called
  rcases hresolve : WorkflowRunner.resolveStep env.hierarchyScan v.metadata step with exc | dispatch
  · rw [← hw.metadata] at hresolve
    rw [forwardStep_unresolved hw.inOrder hresolve]
    exact ⟨_, v.calls, rfl, hw.raised exc, fun _ h => by cases h⟩
  · rw [← hw.metadata] at hresolve
    have hopen : WorkflowRunner.runStepStream env step stepInput context w = _ :=
      runStepStream_apply_ok hw.inOrder hresolve
    have hcalled := (hw.called ⟨dispatch, WorkflowRunner.args stepInput context⟩).streamed opened
      step (streamOf env w.moment dispatch (WorkflowRunner.args stepInput context))
    have hstream : streamOutcome dispatch (WorkflowRunner.args stepInput context)
        (env.call v.calls) v.metadata =
          (streamOf env w.moment dispatch (WorkflowRunner.args stepInput context)).stream := by
      rw [← hw.metadata, ← hw.calls]
      rfl
    dsimp only
    rw [hstream]
    split
    · next hend =>
      rw [forwardStep_completed hopen (fun _ _ => hattended _) hend]
      exact ⟨_, v.calls + 1, rfl, hcalled, fun _ _ => rfl⟩
    · next exc hend =>
      rw [forwardStep_failed hopen (fun _ _ => hattended _) hend]
      exact ⟨_, v.calls + 1, rfl, hcalled.raised exc, fun _ h => by cases h⟩

end Runner

/-! ## A round -/

/-- Records as they were finalised. -/
def finalisations (rows : List WorkflowRunStep) : List (Uuid × WorkflowStepStatus) :=
  (rows.filter (·.status ≠ .running)).map fun row => (row.id, row.status)

/-- What there is of the run after steps have left these records. -/
def RunView.recorded (v : RunView) (rows : List WorkflowRunStep) (calls : Nat) : RunView :=
  { v with
    steps := v.steps ++ rows
    finalised := v.finalised ++ finalisations rows
    calls := calls }

theorem RunView.recorded_recorded (v : RunView) (rows rows' : List WorkflowRunStep)
    (calls calls' : Nat) :
    (v.recorded rows calls).recorded rows' calls' = v.recorded (rows ++ rows') calls' := by
  simp only [RunView.recorded, finalisations, List.filter_append, List.map_append,
    List.append_assoc]

section Recorded

variable {e : StepExecution} (v : RunView) (runId id : Uuid) (calls : Nat)

/-- The record of a step that succeeded. -/
theorem recorded_of_ok {output : String} (h : e.outcome = .ok output) :
    v.recorded [e.record runId id] calls =
      { v with
        steps := v.steps ++ [{ startedStep runId e.step e.input id with
          output := some output, status := .completed }]
        finalised := v.finalised ++ [(id, .completed)]
        calls := calls } := by
  have hrecord : e.record runId id = { startedStep runId e.step e.input id with
      output := some output, status := .completed } := by
    simp only [StepExecution.record, StepExecution.status, h, startedStep]
    rfl
  rw [hrecord]
  rfl

/-- The record of a step that failed. -/
theorem recorded_of_error {exc : PyError} (h : e.outcome = .error exc)
    (hexc : exc.isException = true) :
    v.recorded [e.record runId id] calls =
      { v with
        steps := v.steps ++ [{ startedStep runId e.step e.input id with
          errorMessage := some exc.str, status := .failed }]
        finalised := v.finalised ++ [(id, .failed)]
        calls := calls } := by
  have hrecord : e.record runId id = { startedStep runId e.step e.input id with
      errorMessage := some exc.str, status := .failed } := by
    simp only [StepExecution.record, StepExecution.status, h, hexc, startedStep, if_true]
    rfl
  rw [hrecord]
  rfl

/-- The record of a step that was interrupted. -/
theorem recorded_of_interrupted {exc : PyError} (h : e.outcome = .error exc)
    (hexc : exc.isException = false) :
    v.recorded [e.record runId id] calls =
      { v with
        steps := v.steps ++ [startedStep runId e.step e.input id]
        calls := calls } := by
  have hrecord : e.record runId id = startedStep runId e.step e.input id := by
    simp only [StepExecution.record, StepExecution.status, h, hexc, startedStep,
      Bool.false_eq_true, if_false]
    rfl
  rw [hrecord, RunView.recorded]
  show RunView.mk _ _ _ (v.finalised ++ []) _ = _
  rw [List.append_nil]

end Recorded

/-- The rounds of a loop execute the steps of a run: each ends as its step does, and leaves the
    record of that. -/
def Performs (opened : OpenRun) (m : Metadata) (input : String) (answer : StepAnswers)
    (body : WorkflowContext → WorkflowStep → Svc String) : Prop :=
  ∀ (v : RunView) (w : World) (context : WorkflowContext) (step : WorkflowStep) (e : StepExecution),
    InRun v w → v.metadata = m → v.run.id = opened.context.workflowRunId →
    SameArgs context opened.context →
    e = executionOf answer step (context.previousOutput step.stepOrder input) v.calls →
    ∃ w' id calls, body context step w = (e.result, w') ∧
      InRun (v.recorded [e.record v.run.id id] calls) w' ∧
      ∀ output, e.outcome = .ok output → calls = v.calls + 1

section Rounds

variable {env : Env} (opened : OpenRun) (m : Metadata) (input : String)

/-- The rounds of `run_workflow`. -/
theorem executeStep_performs (haccepts : ∀ n s db, env.refuses n s db = none) :
    Performs opened m input (ranAnswer env m opened.context)
      (WorkflowExecutor.executeStep (WorkflowRunner.runStep env)
        (callbacks env opened.context.workflowRunId) input) := by
  intro v w context step e hw hm hid hargs he
  subst hm
  -- the record of the step, then the engine: nothing is sent on this path
  obtain ⟨w₁, id, hstart, hstarted⟩ := startStep_inRun haccepts hw step
    (context.previousOutput step.stepOrder input)
  obtain ⟨w₂, calls, hrun, hran, hcalls⟩ : ∃ w₂ calls, WorkflowRunner.runStep env step
      (context.previousOutput step.stepOrder input) context w₁ = _ ∧ _ ∧ _ :=
    runStep_inRun hstarted step _
  rw [ranAnswer_congr _ hargs] at hrun hcalls
  have houtcome : ranAnswer env v.metadata opened.context v.calls step
      (context.previousOutput step.stepOrder input) = e.outcome := by
    rw [he]
    rfl
  have hstep : e.step = step ∧ e.input = context.previousOutput step.stepOrder input := by
    rw [he]
    exact ⟨rfl, rfl⟩
  rw [houtcome] at hrun hcalls
  rw [hid] at hstart
  have hstart : (callbacks env opened.context.workflowRunId).onStepStarted step
      (context.previousOutput step.stepOrder input) w = (.ok id, w₁) := hstart
  rw [WorkflowExecutor.executeStep, bind_apply_ok hstart]
  -- the outcome of the engine decides how the record ends
  rcases hend : e.outcome with exc | output
  · rw [hend] at hrun
    rw [StepExecution.result, hend, bind_apply_congr (handleError_apply_error hrun),
      WorkflowExecutor.failStep]
    -- an `Exception` is recorded as a failure; anything else leaves the record running
    cases hexc : exc.isException with
    | true =>
      obtain ⟨w₃, hfail, hfailed⟩ := failStep_inRun haccepts hran rfl exc.str
      refine ⟨w₃, id, calls, ?_, ?_, fun _ h => by cases h⟩
      · simp only [if_true, Except.mapError, hexc, hstep.1]
        exact bind_apply_error ((bind_apply_ok hfail).trans rfl)
      · rw [recorded_of_error v _ _ _ hend hexc, hstep.1, hstep.2]
        exact hfailed
    | false =>
      refine ⟨w₂, id, calls, ?_, ?_, fun _ h => by cases h⟩
      · simp only [Bool.false_eq_true, if_false, Except.mapError, hexc]
        exact bind_apply_error rfl
      · rw [recorded_of_interrupted v _ _ _ hend hexc, hstep.1, hstep.2]
        exact hran
  · rw [hend] at hrun
    obtain ⟨w₃, hcomplete, hcompleted⟩ := completeStep_inRun haccepts hran rfl
      opened.context.workflowRunId step.stepOrder output
    rw [StepExecution.result, hend, bind_apply_ok (handleError_apply_ok hrun)]
    refine ⟨w₃, id, calls, (bind_apply_ok hcomplete).trans rfl, ?_, fun _ _ => hcalls output hend⟩
    rw [recorded_of_ok v _ _ _ hend, hstep.1, hstep.2]
    exact hcompleted

/-- A commit, and an item for a client that stays. -/
theorem commit_yieldItem_inRun (henv : env.Healthy) {v : RunView} {w : World} (hw : InRun v w)
    (item : StreamItem) :
    ∃ w', (commit env >>= fun _ => yieldItem env item) w = (.ok (), w') ∧ InRun v w' ∧
      w'.committed = w'.working ∧ w'.yielded = w.yielded ++ [item] := by
  rw [bind_apply_ok (commit_apply hw.inOrder (henv.accepts _ _ _)),
    yieldItem_apply item (henv.attended _)]
  exact ⟨_, rfl, hw.saved.shown item, rfl, rfl⟩

/-- The rounds of `run_workflow_stream`. -/
theorem streamStep_performs (henv : env.Healthy) :
    Performs opened m input (streamedAnswer env m opened.context)
      (streamStep env opened input) := by
  intro v w context step e hw hm hid hargs he
  subst hm
  -- the record of the step, then its start told to the client, then the engine
  obtain ⟨w₁, id, hstart, hstarted⟩ := startStep_inRun henv.accepts hw step
    (context.previousOutput step.stepOrder input)
  obtain ⟨w₂, htell, htold, -⟩ := commit_yieldItem_inRun henv hstarted
    (opened.item "WorkflowStepStarted" (.stepStarted step.stepOrder step.stepType.value))
  obtain ⟨w₃, calls, hforward, hforwarded, hcalls⟩ : ∃ w₃ calls, forwardStep env opened context step
      (context.previousOutput step.stepOrder input) w₂ = _ ∧ _ ∧ _ :=
    forwardStep_inRun henv.attended htold step _
  rw [streamedAnswer_congr _ hargs] at hforward hcalls
  have houtcome : streamedAnswer env v.metadata opened.context v.calls step
      (context.previousOutput step.stepOrder input) = e.outcome := by
    rw [he]
    rfl
  have hstep : e.step = step ∧ e.input = context.previousOutput step.stepOrder input := by
    rw [he]
    exact ⟨rfl, rfl⟩
  rw [houtcome] at hforward hcalls
  rw [hid] at hstart
  rw [streamStep, bind_apply_ok hstart, ← bind_assoc, bind_apply_ok htell]
  -- the outcome of the engine decides how the record ends
  rcases hend : e.outcome with exc | output
  · rw [hend] at hforward
    rw [StepExecution.result, hend, bind_apply_congr (handleError_apply_error hforward),
      failStreamedStep]
    -- an `Exception` is recorded as a failure; anything else leaves the record running
    cases hexc : exc.isException with
    | true =>
      obtain ⟨w₄, hfail, hfailed⟩ := failStep_inRun henv.accepts hforwarded rfl exc.str
      obtain ⟨w₅, htell', htold', -⟩ := commit_yieldItem_inRun henv hfailed
        (opened.item "WorkflowStepFailed" (.stepFailed step.stepOrder exc.str))
      refine ⟨w₅, id, calls, ?_, ?_, fun _ h => by cases h⟩
      · simp only [if_true, Except.mapError, hexc, hstep.1]
        apply bind_apply_error
        refine (bind_apply_ok hfail).trans ?_
        rw [← bind_assoc, bind_apply_ok htell']
        rfl
      · rw [recorded_of_error v _ _ _ hend hexc, hstep.1, hstep.2]
        exact htold'
    | false =>
      refine ⟨w₃, id, calls, ?_, ?_, fun _ h => by cases h⟩
      · simp only [Bool.false_eq_true, if_false, Except.mapError, hexc]
        exact bind_apply_error rfl
      · rw [recorded_of_interrupted v _ _ _ hend hexc, hstep.1, hstep.2]
        exact hforwarded
  · rw [hend] at hforward
    obtain ⟨w₄, hcomplete, hcompleted⟩ := completeStep_inRun henv.accepts hforwarded rfl
      opened.context.workflowRunId step.stepOrder output
    obtain ⟨w₅, htell', htold', -⟩ := commit_yieldItem_inRun henv hcompleted
      (opened.item "WorkflowStepCompleted" (.stepCompleted step.stepOrder output))
    rw [StepExecution.result, hend, bind_apply_ok (handleError_apply_ok hforward)]
    refine ⟨w₅, id, calls, ?_, ?_, fun _ _ => hcalls output hend⟩
    · refine (bind_apply_ok hcomplete).trans ?_
      rw [← bind_assoc, bind_apply_ok htell']
      rfl
    · rw [recorded_of_ok v _ _ _ hend, hstep.1, hstep.2]
      exact htold'

end Rounds

/-! ## The loop -/

/-- The loop executes the steps, one after the other. -/
theorem Performs.stepLoop_inRun {opened : OpenRun} {m : Metadata} {input : String}
    {answer : StepAnswers} {body : WorkflowContext → WorkflowStep → Svc String}
    (h : Performs opened m input answer body) {v : RunView} {w : World} {context : WorkflowContext}
    (steps : List WorkflowStep) (current : String) (hw : InRun v w) (hm : v.metadata = m)
    (hid : v.run.id = opened.context.workflowRunId) (hargs : SameArgs context opened.context)
    {es : List StepExecution} (hes : es = executionsFrom answer input steps context v.calls) :
    ∃ w' records calls,
      stepLoop body steps context current w =
        ((resultOf current es).map fun output => (contextAfter context es, output), w') ∧
      InRun (v.recorded records calls) w' ∧
      List.Forall₂ (fun e record => ∃ id, record = e.record v.run.id id) es records := by
  subst hes
  induction steps generalizing v w context current with
  | nil =>
    refine ⟨w, [], v.calls, rfl, ?_, .nil⟩
    have hnone : v.recorded [] v.calls = v := by
      rw [RunView.recorded, List.append_nil]
      show RunView.mk _ _ _ (v.finalised ++ []) _ = _
      rw [List.append_nil]
    rw [hnone]
    exact hw
  | cons step steps ih =>
    obtain ⟨w₁, id, calls, hbody, hround, hcalls⟩ := h v w context step _ hw hm hid hargs rfl
    rw [stepLoop, executionsFrom]
    generalize he : executionOf answer step (context.previousOutput step.stepOrder input)
      v.calls = e at hbody hround hcalls
    rcases houtcome : e.outcome with exc | output
    · -- the loop ends with the step that failed
      rw [StepExecution.result, houtcome] at hbody
      rw [bind_apply_error hbody]
      refine ⟨w₁, [e.record v.run.id id], calls, ?_, hround, .cons ⟨id, rfl⟩ .nil⟩
      simp only [resultOf, StepExecution.result, houtcome]
      rfl
    · rw [StepExecution.result, houtcome] at hbody
      have hargs' : SameArgs (context.recordResult step.stepOrder output) opened.context :=
        fun stepInput => hargs stepInput
      obtain ⟨w', records, calls', hloop, hlater, hrecords⟩ := ih output hround hm hid hargs'
      have hnext : (v.recorded [e.record v.run.id id] calls).calls = v.calls + 1 :=
        hcalls output houtcome
      rw [hnext] at hloop hrecords
      rw [RunView.recorded_recorded] at hlater
      have hstep : e.step = step := by
        rw [← he]
        rfl
      rw [bind_apply_ok hbody]
      simp only [resultOf, contextAfter, StepExecution.result, houtcome, hstep]
      exact ⟨w', e.record v.run.id id :: records, calls', hloop, hlater, .cons ⟨id, rfl⟩ hrecords⟩

end AgnoRuntime
