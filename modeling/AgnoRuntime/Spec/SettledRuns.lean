import AgnoRuntime.Spec.RequestFrames
import AgnoRuntime.Spec.SettledStreams

/-!
# Streamed workflow runs that are left running

The same for `run_workflow_stream`: while its steps are executed the run stays
running, and it is over with the commit that follows `mark_completed` or `mark_failed`.
-/

namespace AgnoRuntime

open Svc Prog WorkflowExecutionService

/-! ## Settling a run -/

namespace WorkflowExecutionService

variable (env : Env)

/-- `failStream` without what follows the commit: the message the run failed with. -/
def failRun (opened : OpenRun) (exc : PyError) : Svc (Except String WorkflowContext) :=
  if exc.isRuntimeExecution then do
    WorkflowRunService.markFailed env opened.context.workflowRunId exc.str
    commit env
    return .error exc.str
  else Prog.raise exc

/-- The `try` of `continueStream` without what follows the commit of a failed run: the context of
    the steps, or the message the run failed with. -/
def concludeRun (opened : OpenRun) (input : String) : Svc (Except String WorkflowContext) :=
  Prog.handleError (Except.ok <$> executeStream env opened input) (failRun env opened)

/-- `continueStream` up to the commit of the end of its run; the item it ends with. -/
def settleRun (opened : OpenRun) (input : String) : Svc StreamItem := do
  yieldItem env (opened.item "WorkflowStarted" (.input input))
  match ← concludeRun env opened input with
  | .error message => return opened.item "WorkflowFailed" (.error message)
  | .ok context => do
    completeRun env opened context.finalResult
    commit env
    return opened.item "WorkflowCompleted" (.result context.finalResult)

end WorkflowExecutionService

variable {env : Env} {opened : OpenRun} {input : String}

/-- A run is settled, and then the client is told. -/
theorem continueStream_eq_settleRun (opened : OpenRun) (input : String) :
    WorkflowExecutionService.continueStream env opened input =
      settleRun env opened input >>= yieldItem env := by
  rw [WorkflowExecutionService.continueStream, settleRun, bind_assoc]
  refine bind_congr fun _ => ?_
  -- What happens depends on how the steps ended.
  rw [bind_assoc, concludeRun]
  funext w
  rcases hexecute : executeStream env opened input w with ⟨exc | context, w₁⟩
  · have hmapped {α : Type} (f : WorkflowContext → α) :
        (f <$> executeStream env opened input) w = (.error exc, w₁) := by
      rw [map_eq_pure_bind, bind_apply_error hexecute]
    rw [bind_apply_congr (handleError_apply_error (hmapped some)),
      bind_apply_congr (handleError_apply_error (hmapped Except.ok))]
    -- The run is marked as failed, and the client told, or the exception goes on.
    cases hexc : exc.isRuntimeExecution with
    | true =>
      simp only [WorkflowExecutionService.failStream, failRun, hexc, if_true, bind_assoc, pure_bind,
        bind_pure_unit]
    | false =>
      simp only [WorkflowExecutionService.failStream, failRun, hexc, Bool.false_eq_true, if_false]
      rfl
  · have hmapped {α : Type} (f : WorkflowContext → α) :
        (f <$> executeStream env opened input) w = (.ok (f context), w₁) := by
      rw [map_eq_pure_bind, bind_apply_ok hexecute]
      rfl
    -- All steps were executed, and the run ends.
    rw [bind_apply_ok (handleError_apply_ok (hmapped some)),
      bind_apply_ok (handleError_apply_ok (hmapped Except.ok))]
    simp only [endStreamedRun, bind_assoc, pure_bind]

/-! ## The row of the run -/

/-- The run with this id is there, in a status that satisfies `p`. -/
def WorkflowRunIs (p : WorkflowRunStatus → Prop) (runId : Uuid) (db : Db) : Prop :=
  ∃ run ∈ db.workflowRuns.rows, run.id = runId ∧ p run.status

section Rows

variable {p : WorkflowRunStatus → Prop} {runId : Uuid}

/-- Tools add runs of their own. -/
theorem workflowRunIs_tools {args : RunArgs} (writes : ToolWrites args) (db : Db)
    (h : WorkflowRunIs p runId db) :
    WorkflowRunIs p runId (writes.apply db) := by
  obtain ⟨run, hrun, hid, hstatus⟩ := h
  exact ⟨run, (writes.kept db).workflowRuns run hrun, hid, hstatus⟩

/-- A run that is given a status has it. -/
theorem workflowRunIs_withWorkflowRun {status : WorkflowRunStatus} (hstatus : p status)
    (f : WorkflowRun → WorkflowRun) (hf : ∀ r, (f r).id = r.id) (db : Db)
    (h : WorkflowRunIs (fun _ => True) runId db) :
    WorkflowRunIs p runId (db.withWorkflowRun runId status f hf) := by
  obtain ⟨run, hrun, hid, -⟩ := h
  refine ⟨{ f run with status := status }, ?_, (hf run).trans hid, hstatus⟩
  rw [Db.withWorkflowRun, KeyedTable.mem_rows_update]
  exact ⟨run, hrun, by rw [if_pos hid]⟩

/-- A run that is running is not over. -/
theorem workflowRun_not_over_of_running (db : Db)
    (h : WorkflowRunIs (· = .running) runId db) :
    ¬WorkflowRunIs (·.isTerminal = true) runId db := by
  intro hover
  obtain ⟨run, hrun, hid, hstatus⟩ := h
  obtain ⟨run', hrun', hid', hstatus'⟩ := hover
  rw [db.workflowRuns.eq_of_key_eq hrun' hrun (hid'.trans hid.symm), hstatus] at hstatus'
  cases hstatus'

/-- A run in some status is there. -/
theorem workflowRun_exists (db : Db) (h : WorkflowRunIs p runId db) :
    WorkflowRunIs (fun _ => True) runId db := by
  obtain ⟨run, hrun, hid, -⟩ := h
  exact ⟨run, hrun, hid, trivial⟩

end Rows

/-! ## While the steps are executed -/

section Steps

variable {p : WorkflowRunStatus → Prop} {runId : Uuid}

/-- The records of steps are no runs. -/
private theorem stepFrame_workflowRunIs : StepFrame (WorkflowRunIs p runId) where
  tools := workflowRunIs_tools
  emitted _ _ h := h
  started _ _ _ h := h
  finalized _ _ _ _ _ h := h

/-- While its steps are executed, a run keeps its status. -/
theorem keeping_executeStream :
    Keeps (Keeping (WorkflowRunIs p runId)) (executeStream env opened input) :=
  stepFrame_workflowRunIs.executeStream

end Steps

/-! ## The end of a run -/

/-- Where a program of a run succeeds, `Q` holds; where not, its run is left running. -/
abbrev RunReaches {α : Type} (opened : OpenRun) (Q : α → World → Prop) (x : Svc α) (w : World) :
    Prop :=
  Reaches (WorkflowRunIs (· = .running) opened.context.workflowRunId)
    (WorkflowRunIs (fun _ => True) opened.context.workflowRunId) Q x w

/-- The run is over for good. -/
abbrev RunOver {α : Type} (opened : OpenRun) : α → World → Prop :=
  Over (WorkflowRunIs (·.isTerminal = true) opened.context.workflowRunId)

/-- One of the two marks, and the commit that settles it. -/
theorem settle_workflowRun {status : WorkflowRunStatus} (hstatus : status.isTerminal = true)
    (f : WorkflowRun → WorkflowRun) (hf : ∀ r, (f r).id = r.id) (eventType : WorkflowEventType)
    (payload : WorkflowPayload) {w : World}
    (hw : Unsettled (WorkflowRunIs (· = .running) opened.context.workflowRunId)
      (WorkflowRunIs (fun _ => True) opened.context.workflowRunId) w) :
    RunReaches opened (RunOver opened)
      ((WorkflowRunService.updateRun env opened.context.workflowRunId status f hf >>= fun _ =>
        WorkflowRunService.emitEvent env opened.context.workflowRunId eventType payload) >>=
          fun _ => commit env) w :=
  Reaches.settle _ _ (workflowRunIs_withWorkflowRun hstatus f hf) (fun _ h => h)
    workflowRun_exists hw

/-- Where a run is settled it is over, and where not it is left running. -/
theorem reaches_settleRun {w : World}
    (hw : Throughout (WorkflowRunIs (· = .running) opened.context.workflowRunId) w) :
    RunReaches opened (RunOver opened) (settleRun env opened input) w := by
  refine (Reaches.of_keeping (keeping_yieldItem _) workflowRun_exists hw).bind fun _ w₁ hw₁ => ?_
  -- The steps end, and the run is running still, or has failed.
  have hconclude : RunReaches opened
      (fun conclusion w' =>
        match conclusion with
        | .ok _ => Throughout (WorkflowRunIs (· = .running) opened.context.workflowRunId) w'
        | .error _ =>
          Throughout (WorkflowRunIs (·.isTerminal = true) opened.context.workflowRunId) w')
      (concludeRun env opened input) w₁ := by
    refine Reaches.handleError ?_ fun exc w₂ hw₂ => ?_
    · rw [map_eq_pure_bind]
      exact (Reaches.of_keeping keeping_executeStream workflowRun_exists hw₁).bind
        fun context w₂ hw₂ => Reaches.pure hw₂
    · rw [failRun]
      split
      · exact (settle_workflowRun rfl _ _ _ _ hw₂).bind_bind fun _ _ hover => Reaches.pure hover
      · exact hw₂
  refine hconclude.bind fun conclusion w₂ hw₂ => ?_
  cases conclusion with
  | ok context =>
    -- The message of the assistant does not touch the run, which then ends.
    have hmessage : RunReaches opened
        (fun _ => Throughout (WorkflowRunIs (· = .running) opened.context.workflowRunId))
        (createMessage env opened.context.sessionId none .assistant context.finalResult) w₂ :=
      Reaches.of_keeping (keeping_write _ fun _ h => h) workflowRun_exists hw₂
    have hcomplete : RunReaches opened (RunOver opened)
        (completeRun env opened context.finalResult >>= fun _ => commit env) w₂ := by
      rw [completeRun, bind_assoc]
      exact hmessage.bind fun _ w₃ hw₃ =>
        settle_workflowRun rfl _ _ _ _ ⟨hw₃.committed, workflowRun_exists _ hw₃.working⟩
    exact hcomplete.bind_bind fun _ _ hover => Reaches.pure hover
  | error message => exact Reaches.pure hw₂

/-! ## The beginning of a run -/

/-- A run that is created is there, pending. -/
private theorem createRun_isPending {workflowId sessionId : Uuid} {inputText : String}
    {createdBy : Option String} {runId : Uuid} {w w' : World}
    (h : WorkflowRunService.createRun env workflowId sessionId inputText createdBy w =
      (.ok runId, w')) :
    w'.failed = false ∧ WorkflowRunIs (fun _ => True) runId w'.working := by
  obtain ⟨rfl, hworks, rfl⟩ := workflow_createRun_eq_ok h
  refine ⟨hworks, ⟨w.working.workflowRuns.freshKey, workflowId, sessionId, .pending, inputText,
    none, none, createdBy⟩, ?_, rfl, trivial⟩
  show _ ∈ (w.working.workflowRuns.insertFresh _ _).rows
  rw [KeyedTable.rows_insertFresh]
  exact List.mem_append_right _ (List.mem_singleton_self _)

/-- A streamed run that is opened is committed as running. -/
theorem running_of_beginStream {workflowId : Uuid} {request : WorkflowRunRequest} {w w' : World}
    (h : WorkflowExecutionService.beginStream env workflowId request w = (.ok opened, w')) :
    w'.failed = false ∧
      Throughout (WorkflowRunIs (· = .running) opened.context.workflowRunId) w' := by
  obtain ⟨opened', w₁, hopen, h⟩ := bind_eq_ok.mp h
  obtain ⟨_, w₂, hcommit, h⟩ := bind_eq_ok.mp h
  obtain ⟨_, w₃, hmark, h⟩ := bind_eq_ok.mp h
  obtain ⟨_, w₄, hcommit', h⟩ := bind_eq_ok.mp h
  rw [pure_apply, Prod.mk.injEq, Except.ok.injEq] at h
  obtain ⟨rfl, rfl⟩ := h
  obtain ⟨workflow, steps, session, runId, w₁, w₂, rfl, -, -, hcreate, rfl⟩ := openRun_eq_ok hopen
  obtain ⟨hworks, hexists⟩ := createRun_isPending hcreate
  obtain ⟨-, rfl⟩ := commit_eq_ok hcommit
  obtain ⟨-, rfl⟩ := write_eq_ok hmark
  obtain ⟨-, rfl⟩ := commit_eq_ok hcommit'
  have hrunning := workflowRunIs_withWorkflowRun (p := (· = .running)) rfl (fun r => r)
    (fun _ => rfl) _ hexists
  exact ⟨hworks, hrunning, hrunning⟩

/-- The run is over after its request exactly where it is settled. -/
theorem over_iff_settleRun {workflowId : Uuid} {request : WorkflowRunRequest} {store : Store}
    {w : World}
    (h : WorkflowExecutionService.beginStream env workflowId request (World.start store) =
      (.ok opened, w)) :
    WorkflowRunIs (·.isTerminal = true) opened.context.workflowRunId
        ((Request.runWorkflowStream workflowId request).served env store).committed ↔
      ∃ item w', settleRun env opened request.input w = (.ok item, w') := by
  have hserved : ((Request.runWorkflowStream workflowId request).served env store).committed =
      ((settleRun env opened request.input >>= yieldItem env) w).2.committed := by
    rw [Request.served, Request.handle, committed_streamed, runWorkflowStream, bind_apply_ok h,
      continueStream_eq_settleRun]
  rw [hserved]
  exact over_iff_of_reaches (reaches_settleRun (running_of_beginStream h).2) keeping_yieldItem
    workflowRun_not_over_of_running

end AgnoRuntime
