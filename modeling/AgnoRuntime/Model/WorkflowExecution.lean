import AgnoRuntime.Model.RunService
import Mathlib.Data.List.Sort

/-!
# Executing workflows

`WorkflowContext`, `WorkflowRunner` and `WorkflowExecutor`
(`app/agno_runtime/workflow_{context,runner,executor}.py`) and
`WorkflowExecutionService` (`app/services/workflow_execution_service.py`).

`execute_stream` and its consumer take turns; they are one program here, in the
order in which they run. The consumer's exceptions do not pass through the `try`
of the generator: within it the consumer only sends an event on, and a client that
is gone is no `Exception`.
-/

namespace AgnoRuntime

open Svc

/-- `WorkflowRunRequest`. -/
structure WorkflowRunRequest where
  input : String
  sessionId : Option Uuid
  userId : Option String
deriving DecidableEq

/-- `WorkflowRunResponse`. -/
structure WorkflowRunResponse where
  workflowRunId : Uuid
  status : String
  result : String
deriving DecidableEq

/-! ## The context -/

/-- `WorkflowContext`; `stepResults` has the latest entry first. -/
structure WorkflowContext where
  workflowRunId : Uuid
  workflowId : Uuid
  sessionId : Uuid
  userId : Option String
  stepResults : List (Int × String)
deriving DecidableEq

namespace WorkflowContext

/-- `previous_output`. -/
def previousOutput (context : WorkflowContext) (stepOrder : Int) (originalInput : String) :
    String :=
  if stepOrder = 0 then originalInput
  -- where no step has the order before, the input of the run
  else (context.stepResults.lookup (stepOrder - 1)).getD originalInput

/-- `record_result`. -/
def recordResult (context : WorkflowContext) (stepOrder : Int) (output : String) :
    WorkflowContext :=
  { context with stepResults := (stepOrder, output) :: context.stepResults }

/-- `stepResults.get(max(stepResults.keys()), "")`, and `""` when there are none. -/
def finalResult (context : WorkflowContext) : String :=
  match (context.stepResults.map (·.1)).max? with
  | some stepOrder => (context.stepResults.lookup stepOrder).getD ""
  | none => ""

end WorkflowContext

/-! ## One step -/

namespace WorkflowRunner

/-- The lookups of `run_step` and `run_step_stream`. -/
def resolveStep (scan : HierarchyScan) (m : Metadata) (step : WorkflowStep) :
    Except PyError Dispatch :=
  match step.stepType with
  | .agent =>
    match step.agentId with
    | none => .error (.runtimeExecution
        ("WorkflowStep " ++ UuidText.text step.id ++ " is type=AGENT but has no agent_id"))
    | some agentId => Dispatch.runtime <$> AgnoRuntimeEngine.resolveContextById m agentId
  | .team =>
    match step.teamId with
    | none => .error (.runtimeExecution
        ("WorkflowStep " ++ UuidText.text step.id ++ " is type=TEAM but has no team_id"))
    | some teamId => Dispatch.team <$> AgnoRuntimeEngine.resolveTeamContextById scan m teamId

/-- The arguments of the engine for a step. -/
def args (stepInput : String) (context : WorkflowContext) : RunArgs :=
  ⟨stepInput, context.sessionId, context.userId, none⟩

variable (env : Env)

/-- The context a step is executed in. -/
def resolve (step : WorkflowStep) : Svc Dispatch := do
  let outcome ← query fun db => resolveStep env.hierarchyScan db.metadata step
  engineOutcome outcome

/-- `run_step`. -/
def runStep (step : WorkflowStep) (stepInput : String) (context : WorkflowContext) :
    Svc String := do
  let dispatch ← resolve env step
  Svc.run env dispatch (args stepInput context)

/-- `run_step_stream`. -/
def runStepStream (step : WorkflowStep) (stepInput : String) (context : WorkflowContext) :
    Svc (LiveStream (args stepInput context)) := do
  let dispatch ← resolve env step
  openStream env dispatch (args stepInput context)

end WorkflowRunner

/-! ## The executor -/

namespace WorkflowExecutor

/-- `sorted(steps, key=lambda s: s.step_order)`. -/
def ordered (steps : List WorkflowStep) : List WorkflowStep :=
  steps.insertionSort fun s s' => s.stepOrder ≤ s'.stepOrder

/-- The exception a failed step ends the run with. -/
def stepFailed (step : WorkflowStep) (exc : PyError) : PyError :=
  .runtimeExecution ("Workflow step " ++ toString step.stepOrder ++ " (" ++ step.stepType.value ++
    ") failed: " ++ exc.str)

section Execute

variable {σ ρ : Type}

/-- The callbacks of `execute`. The record `on_step_started` makes is the one the other two
    finalize. -/
structure Callbacks (σ ρ : Type) where
  onStepStarted : WorkflowStep → String → Prog PyError σ ρ
  onStepCompleted : ρ → WorkflowStep → String → Prog PyError σ Unit
  onStepFailed : ρ → WorkflowStep → String → Prog PyError σ Unit

variable (runStep : WorkflowStep → String → WorkflowContext → Prog PyError σ String)
  (callbacks : Callbacks σ ρ) (initialInput : String)

/-- `except Exception` around a step: finalize its record, and raise. -/
def failStep {α : Type} (record : ρ) (step : WorkflowStep) (exc : PyError) :
    Prog PyError σ α :=
  if exc.isException then do
    callbacks.onStepFailed record step exc.str
    Prog.raise (stepFailed step exc)
  else Prog.raise exc

/-- One round of the loop of `execute`, up to `record_result`: the output of the step. -/
def executeStep (context : WorkflowContext) (step : WorkflowStep) : Prog PyError σ String := do
  let stepInput := context.previousOutput step.stepOrder initialInput
  let record ← callbacks.onStepStarted step stepInput
  let output ← Prog.handleError (runStep step stepInput context) (failStep callbacks record step)
  callbacks.onStepCompleted record step output
  return output

/-- The loop of `execute`. -/
def executeSteps : List WorkflowStep → WorkflowContext → String → Prog PyError σ String
  | [], _, currentOutput => pure currentOutput
  | step :: steps, context, _ => do
    let output ← executeStep runStep callbacks initialInput context step
    executeSteps steps (context.recordResult step.stepOrder output) output

/-- `execute`. -/
def execute (steps : List WorkflowStep) (context : WorkflowContext) : Prog PyError σ String :=
  if steps.isEmpty then Prog.raise (.runtimeExecution "Workflow has no steps to execute")
  else executeSteps runStep callbacks initialInput (ordered steps) context initialInput

end Execute

end WorkflowExecutor

/-! ## The service -/

/-- `WorkflowStepRepository.list_by_workflow`. -/
def WorkflowStepRepository.listByWorkflow (steps : KeyedTable WorkflowStep.id)
    (workflowId : Uuid) : List WorkflowStep :=
  WorkflowExecutor.ordered (steps.rows.filter fun s => s.workflowId = workflowId)

namespace WorkflowExecutionService

variable (env : Env)

/-- The lookups and checks before a run: the workflow and its steps. -/
def findWorkflow (db : Db) (workflowId : Uuid) : Except PyError (Workflow × List WorkflowStep) := do
  let workflow ← BaseRepository.getOr404 db.workflows "Workflow" workflowId
  if !workflow.enabled then
    .error (.runtimeExecution ("Workflow " ++ UuidText.text workflowId ++ " is disabled"))
  else
    let steps := WorkflowStepRepository.listByWorkflow db.workflowSteps workflowId
    if steps.isEmpty then
      .error (.runtimeExecution
        ("Workflow " ++ UuidText.text workflowId ++ " has no steps configured"))
    else .ok (workflow, steps)

/-- A run whose row exists. -/
structure OpenRun where
  workflow : Workflow
  steps : List WorkflowStep
  context : WorkflowContext

/-- From the lookups to the user's message. -/
def openRun (workflowId : Uuid) (request : WorkflowRunRequest) : Svc OpenRun := do
  let (workflow, steps) ← fetch fun db => findWorkflow db workflowId
  let session ← getOrCreateSession env request.sessionId workflow.agentOsId workflow.teamId none
    request.userId ("Workflow: " ++ workflow.name)
  let runId ← WorkflowRunService.createRun env workflowId session.id request.input request.userId
  createMessage env session.id none .user request.input
  return ⟨workflow, steps, ⟨runId, workflow.id, session.id, request.userId, []⟩⟩

/-- The callbacks `run_workflow` gives to `execute`. -/
def callbacks (runId : Uuid) : WorkflowExecutor.Callbacks World Uuid where
  onStepStarted step stepInput := WorkflowRunService.startStep env runId step stepInput
  onStepCompleted record step output :=
    WorkflowRunService.completeStep env runId record step.stepOrder output
  onStepFailed record _ errorMessage := WorkflowRunService.failStep env record errorMessage

/-- `except RuntimeExecutionError`: mark the run failed, and re-raise. -/
def failAndRaise {α : Type} (runId : Uuid) (exc : PyError) : Svc α :=
  if exc.isRuntimeExecution then do
    WorkflowRunService.markFailed env runId exc.str
    Prog.raise exc
  else Prog.raise exc

/-- The execution of all steps, with the run marked failed when one of them fails. -/
def executeRun (opened : OpenRun) (input : String) : Svc String :=
  Prog.handleError
    (WorkflowExecutor.execute (WorkflowRunner.runStep env)
      (callbacks env opened.context.workflowRunId) input opened.steps opened.context)
    (failAndRaise env opened.context.workflowRunId)

/-- The assistant's message and the completed run. -/
def completeRun (opened : OpenRun) (result : String) : Svc Unit := do
  createMessage env opened.context.sessionId none .assistant result
  WorkflowRunService.markCompleted env opened.context.workflowRunId result

/-- `run_workflow`. -/
def runWorkflow (workflowId : Uuid) (request : WorkflowRunRequest) : Svc WorkflowRunResponse := do
  let opened ← openRun env workflowId request
  WorkflowRunService.markRunning env opened.context.workflowRunId
  let result ← executeRun env opened request.input
  completeRun env opened result
  return ⟨opened.context.workflowRunId, WorkflowRunStatus.completed.value, result⟩

/-! ## Streaming -/

/-- An event of the stream of a run. -/
def OpenRun.item (opened : OpenRun) (eventType : String) (data : WorkflowEventData) :
    StreamItem :=
  .workflow eventType opened.context.workflowRunId data

/-- Send the events of a step on, collecting the assistant content. -/
def forwardEvents (opened : OpenRun) (step : WorkflowStep) {args : RunArgs}
    (live : LiveStream args) :
    List StreamEvent → Nat → List String → Svc (List String)
  | [], _, collected => pure collected
  | event :: events, i, collected => do
    useTools (live.tools i)
    yieldItem env (opened.item ("WorkflowStep:" ++ event.eventType)
      (.stepEvent step.stepOrder event.payload))
    let collected :=
      if event.payload.isAssistantContent.getD false then
        collected ++ [event.payload.content.getD ""]
      else collected
    forwardEvents opened step live events (i + 1) collected

/-- Execute a step as a stream; the text collected. -/
def forwardStep (opened : OpenRun) (context : WorkflowContext) (step : WorkflowStep)
    (stepInput : String) : Svc String := do
  let live ← WorkflowRunner.runStepStream env step stepInput context
  let collected ← forwardEvents env opened step live live.stream.events 0 []
  endStream live
  return String.join collected

/-- `except Exception` around a streamed step, with the consumer's part in it. -/
def failStreamedStep {α : Type} (opened : OpenRun) (record : Uuid) (step : WorkflowStep)
    (exc : PyError) : Svc α :=
  if exc.isException then do
    WorkflowRunService.failStep env record exc.str
    commit env
    yieldItem env (opened.item "WorkflowStepFailed" (.stepFailed step.stepOrder exc.str))
    Prog.raise (WorkflowExecutor.stepFailed step exc)
  else Prog.raise exc

/-- One round of the loop of `execute_stream`, with the consumer's part in it: the output of the
    step. -/
def streamStep (opened : OpenRun) (input : String) (context : WorkflowContext)
    (step : WorkflowStep) : Svc String := do
  let stepInput := context.previousOutput step.stepOrder input
  let record ← WorkflowRunService.startStep env opened.context.workflowRunId step stepInput
  commit env
  -- others see the record before the client hears of it
  yieldItem env (opened.item "WorkflowStepStarted"
    (.stepStarted step.stepOrder step.stepType.value))
  let output ← Prog.handleError (forwardStep env opened context step stepInput)
    (failStreamedStep env opened record step)
  WorkflowRunService.completeStep env opened.context.workflowRunId record step.stepOrder output
  commit env
  yieldItem env (opened.item "WorkflowStepCompleted" (.stepCompleted step.stepOrder output))
  return output

/-- The loop of `execute_stream`. -/
def streamSteps (opened : OpenRun) (input : String) :
    List WorkflowStep → WorkflowContext → Svc WorkflowContext
  | [], context => pure context
  | step :: steps, context => do
    let output ← streamStep env opened input context step
    streamSteps opened input steps (context.recordResult step.stepOrder output)

/-- `execute_stream`. -/
def executeStream (opened : OpenRun) (input : String) : Svc WorkflowContext :=
  if opened.steps.isEmpty then
    Prog.raise (.runtimeExecution "Workflow has no steps to execute")
  else streamSteps env opened input (WorkflowExecutor.ordered opened.steps) opened.context

/-- `except RuntimeExecutionError`: mark the run failed and tell the client. -/
def failStream (opened : OpenRun) (exc : PyError) : Svc (Option WorkflowContext) :=
  if exc.isRuntimeExecution then do
    WorkflowRunService.markFailed env opened.context.workflowRunId exc.str
    commit env
    yieldItem env (opened.item "WorkflowFailed" (.error exc.str))
    return none
  else Prog.raise exc

/-- A streamed run up to the commit of its row as running. -/
def beginStream (workflowId : Uuid) (request : WorkflowRunRequest) : Svc OpenRun := do
  let opened ← openRun env workflowId request
  commit env
  WorkflowRunService.markRunning env opened.context.workflowRunId
  commit env
  return opened

/-- The end of a streamed run whose steps all succeeded. -/
def endStreamedRun (opened : OpenRun) (result : String) : Svc Unit := do
  completeRun env opened result
  commit env
  yieldItem env (opened.item "WorkflowCompleted" (.result result))

/-- The rest of a streamed run, from its first event on. -/
def continueStream (opened : OpenRun) (input : String) : Svc Unit := do
  yieldItem env (opened.item "WorkflowStarted" (.input input))
  match ← Prog.handleError (some <$> executeStream env opened input) (failStream env opened) with
  | none => pure ()
  | some context => endStreamedRun env opened context.finalResult

/-- `run_workflow_stream`. -/
def runWorkflowStream (workflowId : Uuid) (request : WorkflowRunRequest) : Svc Unit := do
  let opened ← beginStream env workflowId request
  continueStream env opened request.input

end WorkflowExecutionService

end AgnoRuntime
