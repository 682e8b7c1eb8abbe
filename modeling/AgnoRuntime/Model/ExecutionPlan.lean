import AgnoRuntime.Model.RunService
import Mathlib.Data.List.Sort

/-!
# Execution plans

`PlanningEngineService.build_plan` (`app/planning/service.py`),
`ExecutionEngineService` (`app/execution/service.py`) and the endpoint
`POST /execution-plans/run` (`app/api/v1/execution_plans.py`).
-/

namespace AgnoRuntime

open Svc

/-- `PlanStepRequest`. -/
structure PlanStepRequest where
  teamCode : Option String
  agentCode : Option String
  inputTemplate : Option String
  maxRetries : Nat
deriving DecidableEq

/-- `ExecutionPlanRunRequest`. -/
structure ExecutionPlanRunRequest where
  agentOs : String
  message : String
  steps : List PlanStepRequest
  sessionId : Option Uuid
  userId : Option String
deriving DecidableEq

/-- `PlanStepTargetType`. -/
inductive PlanStepTargetType where
  | agent | team
deriving DecidableEq

/-- `PlanStepTargetType.value`. -/
def PlanStepTargetType.value : PlanStepTargetType → String
  | .agent => "AGENT"
  | .team => "TEAM"

/-- `PlanStep`. -/
structure PlanStep where
  targetType : PlanStepTargetType
  agentOsCode : String
  teamCode : Option String
  agentCode : Option String
  stepInputTemplate : Option String
  maxRetries : Int
  order : Int
deriving DecidableEq

/-- `ExecutionPlan`. -/
structure ExecutionPlan where
  originalMessage : String
  steps : List PlanStep
  rationale : String
deriving DecidableEq

/-! ## Planning -/

namespace PlanningEngineService

/-- The target type of a step with a team code, if any. -/
def targetTypeOf (teamCode : Option String) : PlanStepTargetType :=
  if truthy teamCode then .team else .agent

/-- The step for an explicit one. -/
def explicitStep (agentOsCode : String) (order : Nat) (raw : PlanStepRequest) : PlanStep where
  targetType := targetTypeOf raw.teamCode
  agentOsCode := agentOsCode
  teamCode := raw.teamCode
  agentCode := raw.agentCode
  stepInputTemplate := raw.inputTemplate
  maxRetries := raw.maxRetries
  order := order

/-- `build_plan`. -/
def buildPlan (settings : Settings) (message agentOsCode : String)
    (teamCode agentCode : Option String) (explicitSteps : List PlanStepRequest) : ExecutionPlan :=
  -- without the feature the explicit steps are ignored
  if !settings.featurePlanningEngine || explicitSteps.isEmpty then {
    originalMessage := message
    steps := [{
      targetType := targetTypeOf teamCode
      agentOsCode := agentOsCode
      teamCode := teamCode
      agentCode := agentCode
      stepInputTemplate := none
      maxRetries := 0
      order := 0 }]
    rationale := "single-step (default dispatch)" }
  else {
    originalMessage := message
    steps := explicitSteps.mapIdx (explicitStep agentOsCode)
    rationale := "explicit multi-step plan" }

end PlanningEngineService

/-! ## Execution -/

/-- What `run_plan` returns. -/
structure PlanResult where
  planRunId : Uuid
  status : String
  result : String
deriving DecidableEq

namespace ExecutionEngineService

/-- The lookups of an attempt. -/
def resolveStep (scan : HierarchyScan) (m : Metadata) (step : PlanStep) :
    Except PyError Dispatch :=
  match step.targetType with
  | .team =>
    match step.teamCode with
    | some teamCode =>
      Dispatch.team <$>
        AgnoRuntimeEngine.resolveTeamContextByCode scan m step.agentOsCode teamCode
    | none => do
      -- the AgentOS is looked up first, and no Team has the code `None`
      let _ ← AgnoRuntimeEngine.agentOsByCode m step.agentOsCode
      .error (.runtimeExecution ("Team 'None' not found or disabled under AgentOS '" ++
        step.agentOsCode ++ "'"))
  | .agent =>
    Dispatch.runtime <$>
      AgnoRuntimeEngine.resolveContext scan m step.agentOsCode (step.teamCode.getD "")
        step.agentCode

/-- `step.step_input_template or current_output`. -/
def stepInputOf (step : PlanStep) (currentOutput : String) : String :=
  if truthy step.stepInputTemplate then step.stepInputTemplate.getD "" else currentOutput

/-- `target_code or ""`. -/
def targetCodeOf (step : PlanStep) : String :=
  match step.targetType with
  | .team => step.teamCode.getD ""
  | .agent => step.agentCode.getD ""

/-- The attempts after the first. -/
def retriesOf (step : PlanStep) : Nat := (max 1 (step.maxRetries + 1)).toNat - 1

/-- `sorted(plan.steps, key=lambda s: s.order)`. -/
def ordered (steps : List PlanStep) : List PlanStep :=
  steps.insertionSort fun s s' => s.order ≤ s'.order

variable (env : Env)

/-- The session and the user of a plan run. -/
structure PlanContext where
  planRunId : Uuid
  sessionId : Uuid
  userId : Option String

/-- Change the record of a step, without a flush. -/
def touchStepRun (stepRunId : Uuid) (f : ExecutionPlanStepRun → ExecutionPlanStepRun)
    (hf : ∀ s, (f s).id = s.id) : Svc Unit :=
  touch fun db => { db with
    executionPlanStepRuns := db.executionPlanStepRuns.update stepRunId f hf }

/-- Change the record of a step and flush. -/
def updateStepRun (stepRunId : Uuid) (status : ExecutionStepStatus)
    (f : ExecutionPlanStepRun → ExecutionPlanStepRun) (hf : ∀ s, (f s).id = s.id) : Svc Unit :=
  write env (.setPlanStepStatus stepRunId status) fun db => { db with
    executionPlanStepRuns :=
      db.executionPlanStepRuns.update stepRunId (fun s => { f s with status := status }) hf }

/-- Change the record of the plan and flush. -/
def updatePlanRun (planRunId : Uuid) (status : ExecutionPlanRunStatus)
    (f : ExecutionPlanRun → ExecutionPlanRun) (hf : ∀ r, (f r).id = r.id) : Svc Unit :=
  write env (.setPlanStatus planRunId status) fun db => { db with
    executionPlanRuns :=
      db.executionPlanRuns.update planRunId (fun r => { f r with status := status }) hf }

/-- `plan_run_repo.create`; the id of the record. -/
def createPlanRun (plan : ExecutionPlan) (sessionId : Uuid) : Svc Uuid := do
  let w ← Prog.read
  write env (.insert .executionPlanRuns) fun db => { db with
    executionPlanRuns := db.executionPlanRuns.insertFresh
      (fun id => ⟨id, sessionId, plan.originalMessage, plan.rationale, .running, none, none⟩)
      (fun _ => rfl) }
  return w.working.executionPlanRuns.freshKey

/-- `step_run_repo.create`; the id of the record. -/
def createStepRun (planRunId : Uuid) (step : PlanStep) (stepInput : String) : Svc Uuid := do
  let w ← Prog.read
  write env (.insert .executionPlanStepRuns) fun db => { db with
    executionPlanStepRuns := db.executionPlanStepRuns.insertFresh
      (fun id => ⟨id, planRunId, step.order, step.targetType.value, targetCodeOf step, .running, 0,
        stepInput, none, none⟩)
      (fun _ => rfl) }
  return w.working.executionPlanStepRuns.freshKey

/-- `attempt_count` of a record. -/
def attemptCount (db : Db) (stepRunId : Uuid) : Nat :=
  ((db.executionPlanStepRuns.find? stepRunId).map (·.attemptCount)).getD 0

/-- `if step_run.attempt_count > 1`: the step is being retried. -/
def markRetrying (stepRunId : Uuid) : Svc Unit := do
  let w ← Prog.read
  if 1 < attemptCount w.working stepRunId then
    updateStepRun env stepRunId .retrying (fun s => s) (fun _ => rfl)
  else pure ()

/-- The body of the retry loop. -/
def attempt (context : PlanContext) (step : PlanStep) (stepInput : String) (stepRunId : Uuid) :
    Svc String := do
  -- flushed with the next statement about the record
  touchStepRun stepRunId (fun s => { s with attemptCount := s.attemptCount + 1 }) (fun _ => rfl)
  markRetrying env stepRunId
  let dispatch ← fetch fun db => resolveStep env.hierarchyScan db.metadata step
  Svc.run env dispatch ⟨stepInput, context.sessionId, context.userId, none⟩

/-- `AsyncRetrying`: an `Exception` is retried while attempts are left. -/
def retry {α : Type} (body : Svc α) : Nat → Svc α
  | 0 => body
  | left + 1 => Prog.handleError body fun exc =>
    if exc.isException then retry body left else Prog.raise exc

/-- `_execute_step_with_retry`. -/
def executeStepWithRetry (context : PlanContext) (step : PlanStep) (stepInput : String)
    (stepRunId : Uuid) : Svc String :=
  retry (attempt env context step stepInput stepRunId) (retriesOf step)

/-- `except Exception` around a step: the step and the plan fail. -/
def failStep {α : Type} (context : PlanContext) (step : PlanStep) (stepRunId : Uuid)
    (exc : PyError) : Svc α :=
  if exc.isException then do
    updateStepRun env stepRunId .failed (fun s => { s with errorMessage := some exc.str })
      (fun _ => rfl)
    updatePlanRun env context.planRunId .failed (fun r => { r with errorMessage := some exc.str })
      (fun _ => rfl)
    Prog.raise (.runtimeExecution
      ("Execution plan step " ++ toString step.order ++ " failed: " ++ exc.str))
  else Prog.raise exc

/-- One round of the loop of `run_plan`: the output of the step. -/
def executeStep (context : PlanContext) (currentOutput : String) (step : PlanStep) :
    Svc String := do
  let stepInput := stepInputOf step currentOutput
  let stepRunId ← createStepRun env context.planRunId step stepInput
  let output ← Prog.handleError (executeStepWithRetry env context step stepInput stepRunId)
    (failStep env context step stepRunId)
  updateStepRun env stepRunId .completed (fun s => { s with output := some output })
    (fun _ => rfl)
  return output

/-- The loop of `run_plan`. -/
def executeSteps (context : PlanContext) : List PlanStep → String → Svc String
  | [], currentOutput => pure currentOutput
  | step :: steps, currentOutput => do
    let output ← executeStep env context currentOutput step
    executeSteps context steps output

/-- `run_plan`. -/
def runPlan (plan : ExecutionPlan) (sessionId : Uuid) (userId : Option String) :
    Svc PlanResult :=
  if !env.settings.featureExecutionEngine then
    Prog.raise (.runtimeExecution "Execution Engine is not enabled on this deployment")
  else if plan.steps.isEmpty then
    Prog.raise (.runtimeExecution "ExecutionPlan has no steps to execute")
  else do
    let planRunId ← createPlanRun env plan sessionId
    let result ← executeSteps env ⟨planRunId, sessionId, userId⟩ (ordered plan.steps)
      plan.originalMessage
    updatePlanRun env planRunId .completed (fun r => { r with result := some result })
      (fun _ => rfl)
    return ⟨planRunId, ExecutionPlanRunStatus.completed.value, result⟩

end ExecutionEngineService

/-! ## The endpoint -/

namespace ExecutionPlans

variable (env : Env)

/-- `_require_enabled`. -/
def requireEnabled (settings : Settings) : Except PyError Unit :=
  if settings.featurePlanningEngine && settings.featureExecutionEngine then .ok ()
  else .error (.notFound "Planning/Execution Engine is not enabled on this deployment")

/-- The plan of a request. -/
def planOf (settings : Settings) (payload : ExecutionPlanRunRequest) : ExecutionPlan :=
  PlanningEngineService.buildPlan settings payload.message payload.agentOs none none payload.steps

/-- `run_execution_plan`; without a session id, `uuid4()`. -/
def runExecutionPlan (payload : ExecutionPlanRunRequest) : Svc PlanResult := do
  Prog.lift (requireEnabled env.settings)
  let w ← Prog.read
  ExecutionEngineService.runPlan env (planOf env.settings payload)
    (payload.sessionId.getD w.working.chatSessions.freshKey) payload.userId

end ExecutionPlans

end AgnoRuntime
