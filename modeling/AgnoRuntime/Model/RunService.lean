import AgnoRuntime.Model.Service

/-!
# Sessions, runs and their events

`ChatSessionRepository` and `ChatMessageRepository` as the services use them,
`_get_or_create_session`, `RunTrackingService` (`app/services/run_service.py`) and
`WorkflowRunService` (`app/services/workflow_run_service.py`).
-/

namespace AgnoRuntime

open Svc

variable (env : Env)

/-! ## Sessions and messages -/

/-- `session_repo.create`; without an id a fresh one is generated. -/
def createSession (id : Option Uuid) (agentOsId : Uuid) (teamId agentId : Option Uuid)
    (userId : Option String) (title : String) : Svc ChatSession := do
  let w ← Prog.read
  let row : ChatSession := {
    id := id.getD w.working.chatSessions.freshKey
    agentOsId := agentOsId
    teamId := teamId
    agentId := agentId
    userId := userId
    title := title
    deletedAt := none }
  match w.working.chatSessions.insert? row with
  | none => violate "chat_sessions_pkey"
  | some table =>
    write env (.insert .chatSessions) (fun db => { db with chatSessions := table })
    note (.created row.id userId)
    return row

/-- The body of `_get_or_create_session` that the chat and the workflow service share. -/
def getOrCreateSession (sessionId : Option Uuid) (agentOsId : Uuid) (teamId agentId : Option Uuid)
    (userId : Option String) (title : String) : Svc ChatSession :=
  match sessionId with
  | none => createSession env none agentOsId teamId agentId userId title
  | some id => do
    match ← query (fun db => BaseRepository.get db.chatSessions id) with
    -- a deleted session is not found, but still has the key
    | none => createSession env (some id) agentOsId teamId agentId userId title
    | some existing =>
      -- `None` is a user of its own here
      if existing.userId ≠ userId then do
        note (.refused id)
        Prog.raise (.notFound
          ("ChatSession " ++ UuidText.text id ++ " not found for this user_id"))
      else do
        note (.continued id)
        return existing

/-- `message_repo.create`. -/
def createMessage (sessionId : Uuid) (runId : Option Uuid) (role : MessageRole)
    (content : String) : Svc Unit :=
  write env (.insert .chatMessages) fun db =>
    { db with chatMessages := db.chatMessages ++ [⟨sessionId, runId, role, content⟩] }

/-! ## Agent runs -/

namespace RunTrackingService

/-- `emit_event`. -/
def emitEvent (runId : Uuid) (eventType : EventType) (payload : EventPayload) : Svc Unit :=
  write env (.insert .agentEvents) fun db =>
    { db with agentEvents := db.agentEvents ++ [⟨runId, eventType, payload⟩] }

/-- The row of a run, changed. -/
def updateRun (runId : Uuid) (status : RunStatus) (f : AgentRun → AgentRun)
    (hf : ∀ r, (f r).id = r.id) : Svc Unit :=
  write env (.setRunStatus runId status) fun db =>
    { db with agentRuns := db.agentRuns.update runId (fun r => { f r with status := status }) hf }

/-- `create_run`; the id of the run. -/
def createRun (sessionId agentId : Uuid) (inputText : String) : Svc Uuid := do
  let w ← Prog.read
  let runId := w.working.agentRuns.freshKey
  write env (.insert .agentRuns) fun db => { db with
    agentRuns := db.agentRuns.insertFresh
      (fun id => ⟨id, sessionId, agentId, .pending, inputText, none, none⟩) (fun _ => rfl) }
  emitEvent env runId .agentStarted (.input inputText)
  return runId

/-- `mark_running`. -/
def markRunning (runId : Uuid) : Svc Unit :=
  updateRun env runId .running (fun r => r) (fun _ => rfl)

/-- `mark_completed`. -/
def markCompleted (runId : Uuid) (output : String) : Svc Unit := do
  updateRun env runId .completed (fun r => { r with output := some output }) (fun _ => rfl)
  emitEvent env runId .agentCompleted (.outputLength output.length)

/-- `mark_failed`. -/
def markFailed (runId : Uuid) (errorMessage : String) : Svc Unit := do
  updateRun env runId .failed (fun r => { r with errorMessage := some errorMessage })
    (fun _ => rfl)
  emitEvent env runId .error (.error errorMessage)

/-- The default `reason` of `mark_cancelled`. -/
def cancelledReason : String := "Cancelled by user"

/-- `mark_cancelled`; `output or None`. -/
def markCancelled (runId : Uuid) (output : String) : Svc Unit := do
  updateRun env runId .cancelled
    (fun r => { r with
      output := if output = "" then none else some output
      errorMessage := some cancelledReason })
    (fun _ => rfl)
  emitEvent env runId .runCancelled (.cancelled cancelledReason output.length)

end RunTrackingService

/-! ## Workflow runs -/

namespace WorkflowRunService

/-- `emit_event`. -/
def emitEvent (workflowRunId : Uuid) (eventType : WorkflowEventType) (payload : WorkflowPayload) :
    Svc Unit :=
  write env (.insert .workflowEvents) fun db =>
    { db with workflowEvents := db.workflowEvents ++ [⟨workflowRunId, eventType, payload⟩] }

/-- The row of a run, changed. -/
def updateRun (runId : Uuid) (status : WorkflowRunStatus) (f : WorkflowRun → WorkflowRun)
    (hf : ∀ r, (f r).id = r.id) : Svc Unit :=
  write env (.setWorkflowRunStatus runId status) fun db => { db with
    workflowRuns := db.workflowRuns.update runId (fun r => { f r with status := status }) hf }

/-- The row of a step, changed. -/
def updateStep (stepId : Uuid) (status : WorkflowStepStatus)
    (f : WorkflowRunStep → WorkflowRunStep) (hf : ∀ s, (f s).id = s.id) : Svc Unit :=
  write env (.setStepStatus stepId status) fun db => { db with
    workflowRunSteps :=
      db.workflowRunSteps.update stepId (fun s => { f s with status := status }) hf }

/-- `create_run`; the id of the run. -/
def createRun (workflowId sessionId : Uuid) (inputText : String) (createdBy : Option String) :
    Svc Uuid := do
  let w ← Prog.read
  let runId := w.working.workflowRuns.freshKey
  write env (.insert .workflowRuns) fun db => { db with
    workflowRuns := db.workflowRuns.insertFresh
      (fun id => ⟨id, workflowId, sessionId, .pending, inputText, none, none, createdBy⟩)
      (fun _ => rfl) }
  emitEvent env runId .workflowStarted (.input inputText)
  return runId

/-- `mark_running`. -/
def markRunning (runId : Uuid) : Svc Unit :=
  updateRun env runId .running (fun r => r) (fun _ => rfl)

/-- `mark_completed`. -/
def markCompleted (runId : Uuid) (result : String) : Svc Unit := do
  updateRun env runId .completed (fun r => { r with result := some result }) (fun _ => rfl)
  emitEvent env runId .workflowCompleted (.resultLength result.length)

/-- `mark_failed`. -/
def markFailed (runId : Uuid) (errorMessage : String) : Svc Unit := do
  updateRun env runId .failed (fun r => { r with errorMessage := some errorMessage })
    (fun _ => rfl)
  emitEvent env runId .workflowFailed (.error errorMessage)

/-- `start_step`; the id of the step's record. -/
def startStep (workflowRunId : Uuid) (step : WorkflowStep) (stepInput : String) : Svc Uuid := do
  let w ← Prog.read
  let stepId := w.working.workflowRunSteps.freshKey
  write env (.insert .workflowRunSteps) fun db => { db with
    workflowRunSteps := db.workflowRunSteps.insertFresh
      (fun id => ⟨id, workflowRunId, step.id, step.stepOrder, .running, stepInput, none, none⟩)
      (fun _ => rfl) }
  emitEvent env workflowRunId .workflowStepStarted
    (.stepStarted step.stepOrder step.stepType.value)
  return stepId

/-- `complete_step`, on the record of a step of the run. -/
def completeStep (workflowRunId stepId : Uuid) (stepOrder : Int) (output : String) : Svc Unit := do
  updateStep env stepId .completed (fun s => { s with output := some output }) (fun _ => rfl)
  emitEvent env workflowRunId .workflowStepCompleted (.stepCompleted stepOrder)

/-- `fail_step`. -/
def failStep (stepId : Uuid) (errorMessage : String) : Svc Unit :=
  updateStep env stepId .failed (fun s => { s with errorMessage := some errorMessage })
    (fun _ => rfl)

end WorkflowRunService

end AgnoRuntime
