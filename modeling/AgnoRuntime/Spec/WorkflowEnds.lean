import AgnoRuntime.Spec.WorkflowRuns

/-!
# The end of a workflow run

Once its steps are executed a run marks its row: it is completed with the last
output, or it is failed. Together with the loop over the steps this gives what
`run_workflow` and `run_workflow_stream` do, from the request on.
-/

namespace AgnoRuntime

open Svc Prog WorkflowExecutionService

/-! ## The row of the run -/

/-- The row of a run once it has ended so. -/
def endedRow (started : WorkflowRun) : Except PyError String → WorkflowRun
  | .ok output => { started with status := .completed, result := some output }
  | .error exc =>
    if exc.isRuntimeExecution then
      { started with status := .failed, errorMessage := some exc.str }
    else started

section Ending

variable {env : Env} {opened : OpenRun} {v : RunView} {w : World}

/-- The message of the assistant and the completed run. -/
theorem completeRun_inRun (haccepts : ∀ n s db, env.refuses n s db = none) (hw : InRun v w)
    (hid : v.run.id = opened.context.workflowRunId) (result : String) :
    ∃ w', completeRun env opened result w = (.ok (), w') ∧
      InRun { v with run := endedRow v.run (.ok result) } w' := by
  obtain ⟨w₁, hmessage, hsaid⟩ := createMessage_inRun haccepts hw opened.context.sessionId .assistant
    result
  obtain ⟨w₂, hmark, hmarked⟩ := markCompleted_inRun haccepts hsaid result
  rw [hid] at hmark
  refine ⟨w₂, ?_, hmarked⟩
  rw [completeRun, bind_apply_ok hmessage]
  exact hmark

/-- `run_workflow` ends as its steps do, and marks its row. -/
theorem endRun_inRun (haccepts : ∀ n s db, env.refuses n s db = none) (hw : InRun v w)
    (hid : v.run.id = opened.context.workflowRunId) {input : String}
    {outcome : Except PyError String} {w₀ : World}
    (h : WorkflowExecutor.execute (WorkflowRunner.runStep env)
      (callbacks env opened.context.workflowRunId) input opened.steps opened.context w₀ =
        (outcome, w)) :
    ∃ w', (do
        let result ← executeRun env opened input
        completeRun env opened result
        return (⟨opened.context.workflowRunId, WorkflowRunStatus.completed.value, result⟩ :
          WorkflowRunResponse)) w₀ =
        (outcome.map fun result =>
          ⟨opened.context.workflowRunId, WorkflowRunStatus.completed.value, result⟩, w') ∧
      InRun { v with run := endedRow v.run outcome } w' := by
  rcases outcome with exc | result
  · rw [executeRun, bind_apply_congr (handleError_apply_error h), failAndRaise, endedRow]
    cases hexc : exc.isRuntimeExecution with
    | true =>
      obtain ⟨w₁, hmark, hmarked⟩ := markFailed_inRun haccepts hw exc.str
      rw [hid] at hmark
      refine ⟨w₁, ?_, hmarked⟩
      exact bind_apply_error ((bind_apply_ok hmark).trans rfl)
    | false => exact ⟨w, bind_apply_error rfl, hw⟩
  · obtain ⟨w₁, hcomplete, hcompleted⟩ := completeRun_inRun haccepts hw hid result
    refine ⟨w₁, ?_, hcompleted⟩
    rw [executeRun, bind_apply_ok (handleError_apply_ok h), bind_apply_ok hcomplete]
    rfl

/-- What the client of a streamed run is left with: the run was completed or failed, it was told
    so, and all of it is committed; or the stream was interrupted. -/
def StreamEnded (opened : OpenRun) (outcome : Except PyError String)
    (run : Except PyError Unit × World) : Prop :=
  match outcome with
  | .ok result =>
    run.1 = .ok () ∧ run.2.committed = run.2.working ∧
      run.2.yielded.getLast? = some (opened.item "WorkflowCompleted" (.result result))
  | .error exc =>
    if exc.isRuntimeExecution then
      run.1 = .ok () ∧ run.2.committed = run.2.working ∧
        run.2.yielded.getLast? = some (opened.item "WorkflowFailed" (.error exc.str))
    else run.1 = .error exc

/-- `run_workflow_stream` marks its row as its steps end. -/
theorem endStream_inRun (henv : env.Healthy) (hw : InRun v w)
    (hid : v.run.id = opened.context.workflowRunId) {input : String}
    {outcome : Except PyError String} {context : WorkflowContext} {w₀ : World}
    (h : executeStream env opened input w₀ = (outcome.map fun _ => context, w))
    (hfinal : ∀ result, outcome = .ok result → context.finalResult = result) :
    ∃ run, (do
        match ← Prog.handleError (some <$> executeStream env opened input)
          (failStream env opened) with
        | none => pure ()
        | some context => endStreamedRun env opened context.finalResult) w₀ = run ∧
      StreamEnded opened outcome run ∧
      InRun { v with run := endedRow v.run outcome } run.2 := by
  rcases outcome with exc | result
  · have hmapped : (some <$> executeStream env opened input) w₀ = (.error exc, w) := by
      rw [map_apply, h]
      rfl
    rw [bind_apply_congr (handleError_apply_error hmapped), failStream, endedRow]
    simp only [StreamEnded]
    -- `RuntimeExecutionError` becomes a failed run and an item; other errors go through
    cases hexc : exc.isRuntimeExecution with
    | true =>
      obtain ⟨w₁, hmark, hmarked⟩ := markFailed_inRun henv.accepts hw exc.str
      obtain ⟨w₂, htell, htold, hcommitted, hyielded⟩ := commit_yieldItem_inRun henv hmarked
        (opened.item "WorkflowFailed" (.error exc.str))
      rw [hid] at hmark
      refine ⟨(.ok (), w₂), ?_, ⟨rfl, hcommitted, by rw [hyielded, List.getLast?_concat]⟩, htold⟩
      simp only [if_true, bind_assoc, pure_bind]
      rw [bind_apply_ok hmark, ← bind_assoc, bind_apply_ok htell]
      rfl
    | false => exact ⟨(.error exc, w), bind_apply_error rfl, rfl, hw⟩
  · have hmapped : (some <$> executeStream env opened input) w₀ = (.ok (some context), w) := by
      rw [map_apply, h]
      rfl
    obtain ⟨w₁, hcomplete, hcompleted⟩ := completeRun_inRun henv.accepts hw hid result
    obtain ⟨w₂, htell, htold, hcommitted, hyielded⟩ := commit_yieldItem_inRun henv hcompleted
      (opened.item "WorkflowCompleted" (.result result))
    rw [bind_apply_ok (handleError_apply_ok hmapped)]
    refine ⟨(.ok (), w₂), ?_, ⟨rfl, hcommitted, by rw [hyielded, List.getLast?_concat]⟩, htold⟩
    dsimp only
    rw [hfinal result rfl, endStreamedRun, bind_apply_ok hcomplete, htell]

end Ending

/-! ## Whole runs -/

/-- What there is of a run that has started. -/
def startedView (opened : OpenRun) (workflowId : Uuid) (request : WorkflowRunRequest) (w : World) :
    RunView :=
  ⟨w.working.metadata, { openedRun opened workflowId request with status := .running }, [],
    w.finalised, w.engineCalls.length⟩

/-- What there is of a run that has ended so, with these records. -/
def RunView.ended (v : RunView) (outcome : Except PyError String)
    (records : List WorkflowRunStep) (calls : Nat) : RunView :=
  { v.recorded records calls with run := endedRow v.run outcome }

section Runs

variable {env : Env} {workflowId : Uuid} {request : WorkflowRunRequest} {opened : OpenRun}
  {w₀ w : World} (hforeign : w₀.working.StepsHaveRuns)
  (hopen : openRun env workflowId request w₀ = (.ok opened, w)) {es : List StepExecution}

include hopen in
/-- A run that is opened has steps. -/
theorem steps_isEmpty_of_openRun : opened.steps.isEmpty = false := by
  obtain ⟨workflow, steps, session, runId, w₁, w₂, rfl, hfound, -⟩ := openRun_eq_ok hopen
  exact (findWorkflow_eq_ok hfound).2

include hforeign hopen

/-- `run_workflow` executes the steps of its run, and ends as they do. -/
theorem runWorkflow_executes (haccepts : ∀ n s db, env.refuses n s db = none)
    (hes : es = executionsFrom (ranAnswer env w₀.working.metadata opened.context) request.input
      (WorkflowExecutor.ordered opened.steps) opened.context w₀.engineCalls.length) :
    ∃ w' records calls, runWorkflow env workflowId request w₀ =
        ((resultOf request.input es).map fun result =>
          ⟨opened.context.workflowRunId, WorkflowRunStatus.completed.value, result⟩, w') ∧
      List.Forall₂
        (fun e record => ∃ id, record = e.record opened.context.workflowRunId id) es records ∧
      InRun ((startedView opened workflowId request w₀).ended (resultOf request.input es) records
        calls) w' := by
  obtain ⟨hopened, -⟩ := openRun_inRun hforeign hopen
  obtain ⟨w₁, hmark, hmarked⟩ := markRunning_inRun haccepts hopened
  obtain ⟨w₂, records, calls, hloop, hlooped, hrecords⟩ :=
    (executeStep_performs opened w₀.working.metadata request.input haccepts).stepLoop_inRun _
      request.input hmarked rfl rfl (fun _ => rfl) hes
  have hexecute : WorkflowExecutor.execute (WorkflowRunner.runStep env)
      (callbacks env opened.context.workflowRunId) request.input opened.steps opened.context w₁ =
        (resultOf request.input es, w₂) := by
    rw [WorkflowExecutor.execute, steps_isEmpty_of_openRun hopen, if_neg Bool.false_ne_true,
      executeSteps_eq_stepLoop, map_apply, hloop]
    cases resultOf request.input es with
    | ok output => rfl
    | error exc => rfl
  obtain ⟨w', hrun, hended⟩ := endRun_inRun haccepts hlooped rfl hexecute
  exact ⟨w', records, calls, (bind_apply_ok hopen).trans ((bind_apply_ok hmark).trans hrun),
    hrecords, hended⟩

/-- So does `run_workflow_stream`. -/
theorem runWorkflowStream_executes (henv : env.Healthy)
    (hes : es = executionsFrom (streamedAnswer env w₀.working.metadata opened.context) request.input
      (WorkflowExecutor.ordered opened.steps) opened.context w₀.engineCalls.length) :
    ∃ run records calls, runWorkflowStream env workflowId request w₀ = run ∧
      StreamEnded opened (resultOf request.input es) run ∧
      List.Forall₂
        (fun e record => ∃ id, record = e.record opened.context.workflowRunId id) es records ∧
      InRun ((startedView opened workflowId request w₀).ended (resultOf request.input es) records
        calls) run.2 := by
  obtain ⟨hopened, hresults, -⟩ := openRun_inRun hforeign hopen
  obtain ⟨w₁, hmark, hmarked⟩ := markRunning_inRun henv.accepts hopened.saved
  -- the run is saved as pending, marked running and saved again before the first item
  have hbegin : beginStream env workflowId request w₀ = (.ok opened, w₁.saved) := by
    rw [beginStream, bind_apply_ok hopen,
      bind_apply_ok (commit_apply hopened.inOrder (henv.accepts _ _ _))]
    refine (bind_apply_ok hmark).trans ?_
    rw [bind_apply_ok (commit_apply hmarked.inOrder (henv.accepts _ _ _))]
    rfl
  obtain ⟨w₂, records, calls, hloop, hlooped, hrecords⟩ :=
    (streamStep_performs opened w₀.working.metadata request.input henv).stepLoop_inRun _
      request.input
      (hmarked.saved.shown (opened.item "WorkflowStarted" (.input request.input))) rfl rfl
      (fun _ => rfl) hes
  have hexecute : executeStream env opened request.input
      (w₁.saved.shown (opened.item "WorkflowStarted" (.input request.input))) =
        ((resultOf request.input es).map fun _ => contextAfter opened.context es, w₂) := by
    rw [executeStream, steps_isEmpty_of_openRun hopen, if_neg Bool.false_ne_true,
      streamSteps_eq_stepLoop, map_apply, hloop]
    cases resultOf request.input es with
    | ok output => rfl
    | error exc => rfl
  -- `final_result` reads the last order recorded, which is that of the last step executed
  have hfinal (result : String) (hresult : resultOf request.input es = .ok result) :
      (contextAfter opened.context es).finalResult = result := by
    have hne : WorkflowExecutor.ordered opened.steps ≠ [] := by
      intro hnil
      have hperm : (WorkflowExecutor.ordered opened.steps).Perm opened.steps :=
        List.perm_insertionSort _ _
      rw [hnil] at hperm
      have hempty := steps_isEmpty_of_openRun hopen
      rw [List.nil_perm.mp hperm] at hempty
      cases hempty
    subst hes
    refine finalResult_contextAfter _ (List.pairwise_insertionSort _ _) ?_
      (fun hnil => absurd hnil hne) hresult
    rw [hresults]
    exact fun _ _ _ h => by cases h
  obtain ⟨run, hrun, hstream, hended⟩ := endStream_inRun henv hlooped rfl hexecute hfinal
  refine ⟨run, records, calls, ?_, hstream, hrecords, hended⟩
  refine (bind_apply_ok hbegin).trans ?_
  rw [WorkflowExecutionService.continueStream, bind_apply_ok (yieldItem_apply _ (henv.attended _))]
  exact hrun

end Runs

end AgnoRuntime
