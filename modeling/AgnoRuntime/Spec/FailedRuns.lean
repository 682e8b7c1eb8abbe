import AgnoRuntime.Spec.Frames

/-!
# Failed runs under `get_db`

`handle_chat` and `run_workflow` mark a run failed, and then let the engine's
exception escape to `get_db`, which rolls the marking back together with the run.
-/

namespace AgnoRuntime

open Svc Prog

/-- `after` has a run that `before` has not, failed with the message, and its failure event. -/
def RecordsFailedRun (before after : Db) (message : String) : Prop :=
  ∃ run ∈ after.agentRuns.rows, (∀ r ∈ before.agentRuns.rows, r.id ≠ run.id) ∧
    run.status = .failed ∧ run.errorMessage = some message ∧
    ⟨run.id, .error, .error message⟩ ∈ after.agentEvents

/-- `after` has a workflow run that `before` has not, failed because of one of its steps, with its
    failure event, the failed record of that step and the completed records of the steps before
    it. -/
def RecordsFailedWorkflowRun (before after : Db) (message : String) : Prop :=
  ∃ run ∈ after.workflowRuns.rows, (∀ r ∈ before.workflowRuns.rows, r.id ≠ run.id) ∧
    ∃ step ∈ before.workflowSteps.rows, step.workflowId = run.workflowId ∧
      run.status = .failed ∧
      run.errorMessage = some (WorkflowExecutor.stepFailed step (.runtimeExecution message)).str ∧
      ⟨run.id, .workflowFailed,
        .error (WorkflowExecutor.stepFailed step (.runtimeExecution message)).str⟩ ∈
          after.workflowEvents ∧
      (∃ record ∈ after.workflowRunSteps.rows, record.workflowRunId = run.id ∧
        record.workflowStepId = step.id ∧ record.status = .failed) ∧
      ∀ earlier ∈ before.workflowSteps.rows, earlier.workflowId = run.workflowId →
        earlier.stepOrder < step.stepOrder →
        ∃ record ∈ after.workflowRunSteps.rows, record.workflowRunId = run.id ∧
          record.workflowStepId = earlier.id ∧ record.status = .completed

/-! ## What a success says about the engine

A program that succeeds has met no exception of the engine, where every handler on
the way re-raises. -/

variable {env : Env} {α : Type}

/-- Nothing raised by the engine. -/
abbrev NothingRaised : World → World → Prop := Same World.engineErrors

private theorem nothingRaised_writes {x : Svc α} (hx : Keeps OnlyWrites x) :
    OkKeeps NothingRaised x :=
  (hx.mono fun _ _ h => h.engineErrors).ok

private theorem nothingRaised_pure (a : α) : OkKeeps NothingRaised (pure a : Svc α) :=
  (keeps_pure a).ok

private theorem nothingRaised_engineOutcome (outcome : Except PyError α) :
    OkKeeps NothingRaised (engineOutcome outcome) := by
  cases outcome with
  | ok a => exact nothingRaised_pure a
  | error exc =>
    intro w a w' h
    exact absurd h bind_raise_ne_ok

private theorem nothingRaised_noteCall (dispatch : Dispatch) (args : RunArgs) :
    OkKeeps NothingRaised (noteCall dispatch args) :=
  Keeps.ok (keeps_bind keeps_read fun _ => keeps_bind (keeps_modify fun _ => rfl) fun _ =>
    keeps_pure _)

private theorem nothingRaised_useTools {args : RunArgs} (writes : ToolWrites args) :
    OkKeeps NothingRaised (useTools writes) :=
  Keeps.ok (keeps_modify fun _ => rfl)

private theorem nothingRaised_run (dispatch : Dispatch) (args : RunArgs) :
    OkKeeps NothingRaised (Svc.run env dispatch args) :=
  okKeeps_bind keeps_read.ok fun _ => okKeeps_bind (nothingRaised_noteCall _ _) fun _ =>
    okKeeps_bind (nothingRaised_useTools _) fun _ =>
      nothingRaised_engineOutcome _

private theorem nothingRaised_endStream {args : RunArgs} (live : LiveStream args) :
    OkKeeps NothingRaised (endStream live) := by
  refine okKeeps_bind (nothingRaised_useTools _) fun _ => ?_
  split
  · exact nothingRaised_pure ()
  · exact nothingRaised_engineOutcome _

private theorem nothingRaised_openStream (dispatch : Dispatch) (args : RunArgs) :
    OkKeeps NothingRaised (openStream env dispatch args) :=
  okKeeps_bind keeps_read.ok fun _ => okKeeps_bind (nothingRaised_noteCall _ _) fun _ =>
    nothingRaised_pure _

section Chat

open ChatService

private theorem nothingRaised_openTurn (request : ChatRequest) (groups : List String)
    (dispatch : Dispatch) : OkKeeps NothingRaised (openTurn env request groups dispatch) :=
  Keeps.ok (OpenFrame.keeps_openTurn
    ⟨fun _ _ h => h.engineErrors, fun _ _ _ => rfl, fun _ _ _ _ _ => rfl⟩ request groups dispatch)

private theorem nothingRaised_collectEvents (turn : ChatTurn) {args : RunArgs}
    (live : LiveStream args) (events : List StreamEvent) (i : Nat) (progress : Progress) :
    OkKeeps NothingRaised (collectEvents env turn live events i progress) := by
  induction events generalizing i progress with
  | nil => exact nothingRaised_pure _
  | cons event events ih =>
    exact okKeeps_bind (nothingRaised_useTools _) fun _ =>
      okKeeps_bind (nothingRaised_writes (onlyWrites_emitEvent _ _ _)) fun _ => ih _ _

/-- The handler of `handle_chat` re-raises. -/
private theorem failAndRaise_ne_ok (turn : ChatTurn) (exc : PyError) (w w' : World) (a : α) :
    failAndRaise env turn exc w ≠ (.ok a, w') := by
  rw [ChatService.failAndRaise]
  split
  · exact bind_raise_ne_ok
  · intro h
    cases congrArg Prod.fst h

private theorem nothingRaised_consumeStream (turn : ChatTurn)
    (uiContext : Option UIContextFields) :
    OkKeeps NothingRaised (consumeStream env turn uiContext) := by
  refine okKeeps_handleError_raise ?_ fun exc w a w' => failAndRaise_ne_ok turn exc w w' a
  exact okKeeps_bind (nothingRaised_openStream _ _) fun live =>
    okKeeps_bind (nothingRaised_collectEvents _ _ _ _ _) fun _ =>
      okKeeps_bind (nothingRaised_endStream live) fun _ => nothingRaised_pure _

private theorem nothingRaised_execute (turn : ChatTurn) :
    OkKeeps NothingRaised (execute env turn) := by
  rw [ChatService.execute]
  split
  · exact nothingRaised_consumeStream _ _
  · exact okKeeps_bind (nothingRaised_run _ _) fun _ => nothingRaised_pure _
  · exact nothingRaised_consumeStream _ _

/-- `handle_chat` up to the end of the engine's execution. -/
def beginChat (env : Env) (request : ChatRequest) : Svc (ChatTurn × TurnResult) := do
  let dispatch ← resolveDispatch env (resolveIdentity env request).1
  beginTurn env (resolveIdentity env request).1 (resolveIdentity env request).2 dispatch

/-- `handle_chat` executes the engine, and then ends the turn. -/
theorem handleChat_eq (request : ChatRequest) :
    handleChat env request =
      beginChat env request >>= fun opened => endTurn env opened.1 opened.2 := by
  rw [beginChat, bind_assoc]
  rfl

/-- No commit before the engine has been executed. -/
theorem committed_beginChat (request : ChatRequest) :
    Keeps (Same World.committed) (beginChat env request) := by
  have hopen : OpenFrame (fun _ => True) (Same World.committed) :=
    ⟨fun _ _ h => h.committed, fun _ _ _ => rfl, fun _ _ _ _ _ => rfl⟩
  have hframe : Frame (fun _ => True) (Same World.committed) :=
    ⟨fun _ _ h => h.committed, fun _ _ _ => rfl, fun _ _ _ _ _ => rfl, fun _ _ => rfl⟩
  refine keeps_bind (hopen.writes (onlyWrites_fetch _)) fun dispatch => ?_
  exact keeps_bind (hopen.keeps_openTurn _ _ _) fun turn =>
    keeps_bind (hopen.writes (onlyWrites_markRunning _)) fun _ =>
      keeps_bind (hframe.execute turn fun _ => trivial) fun _ => keeps_pure _

private theorem nothingRaised_beginChat (request : ChatRequest) :
    OkKeeps NothingRaised (beginChat env request) :=
  okKeeps_bind (nothingRaised_writes (onlyWrites_fetch _)) fun _ =>
    okKeeps_bind (nothingRaised_openTurn _ _ _) fun _ =>
      okKeeps_bind (nothingRaised_writes (onlyWrites_markRunning _)) fun _ =>
        okKeeps_bind (nothingRaised_execute _) fun _ => nothingRaised_pure _

private theorem raisesNothing : SessionFrame NothingRaised :=
  ⟨fun _ _ h => h.engineErrors, fun _ => rfl, fun _ => rfl, fun _ _ _ => rfl, fun _ _ => rfl⟩

end Chat

section Workflows

open WorkflowExecutionService

private theorem nothingRaised_runStep (step : WorkflowStep) (stepInput : String)
    (context : WorkflowContext) :
    OkKeeps NothingRaised (WorkflowRunner.runStep env step stepInput context) :=
  okKeeps_bind (okKeeps_bind (nothingRaised_writes (onlyWrites_query _)) fun _ =>
    nothingRaised_engineOutcome _) fun _ => nothingRaised_run _ _

/-- The handler around a step raises in any case. -/
private theorem failStep_ne_ok (runId record : Uuid) (step : WorkflowStep) (exc : PyError)
    (w w' : World) (a : α) :
    WorkflowExecutor.failStep (callbacks env runId) record step exc w ≠ (.ok a, w') := by
  rw [WorkflowExecutor.failStep]
  split
  · exact bind_raise_ne_ok
  · intro h
    cases congrArg Prod.fst h

private theorem nothingRaised_executeSteps (runId : Uuid) (input : String)
    (steps : List WorkflowStep) (context : WorkflowContext) (current : String) :
    OkKeeps NothingRaised (WorkflowExecutor.executeSteps (WorkflowRunner.runStep env)
      (callbacks env runId) input steps context current) := by
  induction steps generalizing context current with
  | nil => exact nothingRaised_pure _
  | cons step steps ih =>
    refine okKeeps_bind ?_ fun output => ih _ _
    exact okKeeps_bind (nothingRaised_writes (onlyWrites_startStep _ _ _)) fun record =>
      okKeeps_bind (okKeeps_handleError_raise (nothingRaised_runStep _ _ _)
        fun exc w a w' => failStep_ne_ok runId record step exc w w' a) fun _ =>
          okKeeps_bind (nothingRaised_writes (onlyWrites_completeStep _ _ _ _)) fun _ =>
            nothingRaised_pure _

/-- The handler of `run_workflow` re-raises. -/
private theorem run_failAndRaise_ne_ok (runId : Uuid) (exc : PyError) (w w' : World) (a : α) :
    WorkflowExecutionService.failAndRaise env runId exc w ≠ (.ok a, w') := by
  rw [WorkflowExecutionService.failAndRaise]
  split
  · exact bind_raise_ne_ok
  · intro h
    cases congrArg Prod.fst h

private theorem nothingRaised_runWorkflow (workflowId : Uuid) (request : WorkflowRunRequest) :
    OkKeeps NothingRaised (runWorkflow env workflowId request) := by
  refine okKeeps_bind ?_ fun opened =>
    okKeeps_bind (nothingRaised_writes (onlyWrites_workflow_markRunning _)) fun _ =>
      okKeeps_bind ?_ fun _ =>
        okKeeps_bind (nothingRaised_writes (onlyWrites_completeRun _ _)) fun _ =>
          nothingRaised_pure _
  · exact Keeps.ok (OpenFrame.keeps_openRun
      ⟨fun _ _ h => h.engineErrors, fun _ _ _ => rfl, fun _ _ _ _ _ => rfl⟩ _ _)
  · refine okKeeps_handleError_raise ?_ fun exc w a w' => run_failAndRaise_ne_ok _ exc w w' a
    rw [WorkflowExecutor.execute]
    split
    · exact okKeeps_raise _
    · exact nothingRaised_executeSteps _ _ _ _ _

/-- `run_workflow` does not commit. -/
theorem committed_runWorkflow (workflowId : Uuid) (request : WorkflowRunRequest) :
    Keeps (Same World.committed) (runWorkflow env workflowId request) := by
  have hopen : OpenFrame (fun _ => True) (Same World.committed) :=
    ⟨fun _ _ h => h.committed, fun _ _ _ => rfl, fun _ _ _ _ _ => rfl⟩
  have hframe : Frame (fun _ => True) (Same World.committed) :=
    ⟨fun _ _ h => h.committed, fun _ _ _ => rfl, fun _ _ _ _ _ => rfl, fun _ _ => rfl⟩
  exact keeps_bind (hopen.keeps_openRun _ _)
    fun opened => keeps_bind (hframe.writes (onlyWrites_workflow_markRunning _)) fun _ =>
      keeps_bind (hframe.executeRun opened _ fun _ _ => trivial) fun _ =>
        keeps_bind (hframe.writes (onlyWrites_completeRun _ _)) fun _ => keeps_pure _

end Workflows

/-! ## What `get_db` leaves -/

/-- A request that raises leaves what it had committed itself. -/
theorem getDb_apply_error {x : Svc α} {w w' : World} {exc : PyError}
    (h : x w = (.error exc, w')) :
    getDb env x w =
      (.error exc, { w' with working := w'.committed, failed := false, expired := true }) := by
  rw [getDb, handleError_apply_error (bind_apply_error h)]
  rfl

/-- A request that succeeds is committed. -/
theorem getDb_apply_ok {x : Svc α} {w w' w'' : World} {a : α} (h : x w = (.ok a, w'))
    (hcommit : commit env w' = (.ok (), w'')) : getDb env x w = (.ok a, w'') := by
  rw [getDb, handleError_apply_ok]
  rw [bind_apply_ok h, bind_apply_ok hcommit, pure_apply]

/-- `get_db` raises nothing of the engine's. -/
theorem engineErrors_getDb (x : Svc α) (w : World) :
    (getDb env x w).2.engineErrors = (x w).2.engineErrors :=
  raisesNothing.getDb_from x w

/-- The engine raised in a part that neither commits nor survives its exceptions: `get_db` leaves
    the committed tables as they were. -/
private theorem committed_getDb {β : Type} {x : Svc α} {f : α → Svc β} {w : World}
    (hw : w.engineErrors = []) (hcommitted : Keeps (Same World.committed) x)
    (hraised : OkKeeps NothingRaised x) (hrest : ∀ a, Keeps NothingRaised (f a))
    (h : (getDb env (x >>= f) w).2.engineErrors ≠ []) :
    (getDb env (x >>= f) w).2.committed = w.committed := by
  rcases hx : x w with ⟨exc | a, w'⟩
  · rw [getDb_apply_error (bind_apply_error hx)]
    have hsame := hcommitted w
    rw [hx] at hsame
    exact hsame
  · -- the engine raised nothing, neither before nor after
    have hrun : ((x >>= f) w).2.engineErrors = w'.engineErrors := by
      rw [bind_apply_ok hx]
      exact hrest a w'
    have hfirst : w'.engineErrors = w.engineErrors := hraised w a w' hx
    rw [engineErrors_getDb, hrun, hfirst] at h
    exact absurd hw h

/-- A chat request in which the engine raised leaves the committed tables as they were. -/
theorem committed_chat_of_engineError (env : Env) (store : Store) (payload : ChatRequest)
    (h : ((Request.chat payload).served env store).engineErrors ≠ []) :
    ((Request.chat payload).served env store).committed = store.db := by
  rw [Request.served, Request.handle, handleChat_eq, map_bind] at h ⊢
  exact committed_getDb rfl (committed_beginChat payload) (nothingRaised_beginChat payload)
    (fun opened => keeps_map _ (raisesNothing.endTurn _ _)) h

/-- A workflow run in which the engine raised leaves the committed tables as they were. -/
theorem committed_runWorkflow_of_engineError (env : Env) (store : Store) (workflowId : Uuid)
    (payload : WorkflowRunRequest)
    (h : ((Request.runWorkflow workflowId payload).served env store).engineErrors ≠ []) :
    ((Request.runWorkflow workflowId payload).served env store).committed = store.db := by
  rw [Request.served, Request.handle, map_eq_pure_bind] at h ⊢
  exact committed_getDb rfl (committed_runWorkflow workflowId payload)
    (nothingRaised_runWorkflow workflowId payload) (fun _ => keeps_pure _) h

/-- No request to `POST /chat` or `POST /workflows/{id}/run` in which the engine raises
    `RuntimeExecutionError` leaves the failed run behind. -/
theorem failedRun_rolledBack (env : Env) (store : Store) (message : String) :
    (∀ payload : ChatRequest,
      .runtimeExecution message ∈ ((Request.chat payload).served env store).engineErrors →
      ¬RecordsFailedRun store.db ((Request.chat payload).served env store).committed message) ∧
    ∀ (workflowId : Uuid) (payload : WorkflowRunRequest),
      .runtimeExecution message ∈
        ((Request.runWorkflow workflowId payload).served env store).engineErrors →
      ¬RecordsFailedWorkflowRun store.db
        ((Request.runWorkflow workflowId payload).served env store).committed message := by
  constructor
  · intro payload hraised hrecorded
    rw [committed_chat_of_engineError env store payload (List.ne_nil_of_mem hraised)] at hrecorded
    obtain ⟨run, hrun, hnew, -⟩ := hrecorded
    exact hnew run hrun rfl
  · intro workflowId payload hraised hrecorded
    rw [committed_runWorkflow_of_engineError env store workflowId payload
      (List.ne_nil_of_mem hraised)] at hrecorded
    obtain ⟨run, hrun, hnew, -⟩ := hrecorded
    exact hnew run hrun rfl

section Examples

open Deployment

/-- The theorem at a failing chat turn and at a failing workflow run of the deployment. -/
theorem failedRun_rolledBack_example :
    ¬RecordsFailedRun db ((Request.chat (hello none none)).served
        (Deployment.env .trustClientUserId none failing) store).committed
      "Agno root team streaming execution failed: model unavailable" ∧
    ¬RecordsFailedWorkflowRun db ((Request.runWorkflow 1 ⟨"Hello", none, none⟩).served
        (Deployment.env .trustClientUserId none failing) store).committed
      "Agno agent execution failed: model unavailable" :=
  ⟨(failedRun_rolledBack (Deployment.env .trustClientUserId none failing) store _).1 (hello none none)
      (by decide +kernel),
    (failedRun_rolledBack (Deployment.env .trustClientUserId none failing) store _).2 1
      ⟨"Hello", none, none⟩
      (by decide +kernel)⟩

/-- The model is unavailable in a chat turn of the `sales` team, and no run is left. -/
theorem failed_chat_leaves_no_run :
    .runtimeExecution "Agno team execution failed: model unavailable" ∈
      ((Request.chat (hello (some "sales") none)).served
        (Deployment.env .trustClientUserId none failing) store).engineErrors ∧
    ¬RecordsFailedRun db ((Request.chat (hello (some "sales") none)).served
        (Deployment.env .trustClientUserId none failing) store).committed
      "Agno team execution failed: model unavailable" := by
  constructor
  · decide +kernel
  · intro h
    obtain ⟨run, hrun, -⟩ := h
    have hnone : ((Request.chat (hello (some "sales") none)).served
        (Deployment.env .trustClientUserId none failing) store).committed.agentRuns.rows = [] := by
      decide +kernel
    rw [hnone] at hrun
    cases hrun

end Examples

end AgnoRuntime
