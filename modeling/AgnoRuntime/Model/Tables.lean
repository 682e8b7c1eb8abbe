import AgnoRuntime.Model.EngineRun
import AgnoRuntime.Model.Quota

/-!
# The tables of a request

The rows of `app/models/{session,run,workflow,workflow_run,execution_plan_run}.py`
and the database they make up with the metadata and the quota tables.

Rows without a key that anything reads (messages and events) are kept in the
order they were inserted in, which is the order of their `created_at`.
-/

namespace AgnoRuntime

open Civil

/-! ## Sessions and messages -/

/-- `MessageRole`. -/
inductive MessageRole where
  | user | assistant | system | tool
deriving DecidableEq

/-- `ChatSession`. -/
structure ChatSession where
  id : Uuid
  agentOsId : Uuid
  teamId : Option Uuid
  agentId : Option Uuid
  userId : Option String
  title : String
  deletedAt : Option DateTime
deriving DecidableEq

instance : SoftDelete ChatSession := ⟨ChatSession.deletedAt⟩

/-- `ChatMessage`. -/
structure ChatMessage where
  sessionId : Uuid
  runId : Option Uuid
  role : MessageRole
  content : String
deriving DecidableEq

/-! ## Agent runs -/

/-- `RunStatus`. -/
inductive RunStatus where
  | pending | running | toolCalling | waiting | completed | failed | cancelled
deriving DecidableEq

/-- A run in one of these statuses is over. -/
def RunStatus.isTerminal : RunStatus → Bool
  | completed | failed | cancelled => true
  | pending | running | toolCalling | waiting => false

/-- `EventType`. -/
inductive EventType where
  | agentStarted | reasoningStarted | toolSelected | toolCallStarted | toolCallCompleted
  | agentResponse | agentCompleted | memoryUpdateStarted | memoryUpdateCompleted | error
  | runCancelled
deriving DecidableEq

/-- `EventType(value)`, which raises `ValueError` on other strings. -/
def EventType.ofValue : String → Option EventType
  | "agent_started" => some agentStarted
  | "reasoning_started" => some reasoningStarted
  | "tool_selected" => some toolSelected
  | "tool_call_started" => some toolCallStarted
  | "tool_call_completed" => some toolCallCompleted
  | "agent_response" => some agentResponse
  | "agent_completed" => some agentCompleted
  | "memory_update_started" => some memoryUpdateStarted
  | "memory_update_completed" => some memoryUpdateCompleted
  | "error" => some error
  | "run_cancelled" => some runCancelled
  | _ => none

/-- `AgentRun`. -/
structure AgentRun where
  id : Uuid
  sessionId : Uuid
  agentId : Uuid
  status : RunStatus
  input : String
  output : Option String
  errorMessage : Option String
deriving DecidableEq

/-- The payloads of agent events. -/
inductive EventPayload where
  | input (input : String)
  | engine (payload : Payload)
  | outputLength (outputLength : Nat)
  | error (error : String)
  | cancelled (reason : String) (outputLength : Nat)
deriving DecidableEq

/-- `AgentEvent`. -/
structure AgentEvent where
  runId : Uuid
  eventType : EventType
  payload : EventPayload
deriving DecidableEq

/-! ## Workflows and their runs -/

/-- `WorkflowStepType`. -/
inductive WorkflowStepType where
  | agent | team
deriving DecidableEq

/-- `WorkflowStepType.value`. -/
def WorkflowStepType.value : WorkflowStepType → String
  | .agent => "AGENT"
  | .team => "TEAM"

/-- `Workflow`. -/
structure Workflow where
  id : Uuid
  agentOsId : Uuid
  code : String
  name : String
  teamId : Option Uuid
  enabled : Bool
  deletedAt : Option DateTime
deriving DecidableEq

instance : SoftDelete Workflow := ⟨Workflow.deletedAt⟩

/-- `WorkflowStep`. -/
structure WorkflowStep where
  id : Uuid
  workflowId : Uuid
  stepOrder : Int
  stepType : WorkflowStepType
  agentId : Option Uuid
  teamId : Option Uuid
deriving DecidableEq

/-- `WorkflowRunStatus`. -/
inductive WorkflowRunStatus where
  | pending | running | completed | failed
deriving DecidableEq

/-- `WorkflowRunStatus.value`. -/
def WorkflowRunStatus.value : WorkflowRunStatus → String
  | .pending => "PENDING"
  | .running => "RUNNING"
  | .completed => "COMPLETED"
  | .failed => "FAILED"

/-- A workflow run in one of these statuses is over. -/
def WorkflowRunStatus.isTerminal : WorkflowRunStatus → Bool
  | completed | failed => true
  | pending | running => false

/-- `WorkflowStepStatus`. -/
inductive WorkflowStepStatus where
  | pending | running | completed | failed
deriving DecidableEq

/-- `WorkflowRun`. -/
structure WorkflowRun where
  id : Uuid
  workflowId : Uuid
  sessionId : Uuid
  status : WorkflowRunStatus
  input : String
  result : Option String
  errorMessage : Option String
  createdBy : Option String
deriving DecidableEq

/-- `WorkflowRunStep`; `input` and `output` are the texts of the JSON columns. -/
structure WorkflowRunStep where
  id : Uuid
  workflowRunId : Uuid
  workflowStepId : Uuid
  stepOrder : Int
  status : WorkflowStepStatus
  input : String
  output : Option String
  errorMessage : Option String
deriving DecidableEq

/-- `WorkflowEventType`. -/
inductive WorkflowEventType where
  | workflowStarted | workflowStepStarted | workflowStepCompleted | workflowCompleted
  | workflowFailed
deriving DecidableEq

/-- The payloads of workflow events. -/
inductive WorkflowPayload where
  | input (input : String)
  | stepStarted (stepOrder : Int) (stepType : String)
  | stepCompleted (stepOrder : Int)
  | resultLength (resultLength : Nat)
  | error (error : String)
deriving DecidableEq

/-- `WorkflowEvent`. -/
structure WorkflowEvent where
  workflowRunId : Uuid
  eventType : WorkflowEventType
  payload : WorkflowPayload
deriving DecidableEq

/-! ## Execution plan runs -/

/-- `ExecutionPlanRunStatus`. -/
inductive ExecutionPlanRunStatus where
  | pending | running | completed | failed
deriving DecidableEq

/-- `ExecutionPlanRunStatus.value`. -/
def ExecutionPlanRunStatus.value : ExecutionPlanRunStatus → String
  | .pending => "PENDING"
  | .running => "RUNNING"
  | .completed => "COMPLETED"
  | .failed => "FAILED"

/-- `ExecutionStepStatus`. -/
inductive ExecutionStepStatus where
  | pending | running | retrying | completed | failed
deriving DecidableEq

/-- `ExecutionPlanRun`. -/
structure ExecutionPlanRun where
  id : Uuid
  sessionId : Uuid
  input : String
  rationale : String
  status : ExecutionPlanRunStatus
  result : Option String
  errorMessage : Option String
deriving DecidableEq

/-- `ExecutionPlanStepRun`. -/
structure ExecutionPlanStepRun where
  id : Uuid
  planRunId : Uuid
  stepOrder : Int
  targetType : String
  targetCode : String
  status : ExecutionStepStatus
  attemptCount : Nat
  input : String
  output : Option String
  errorMessage : Option String
deriving DecidableEq

/-! ## The database -/

/-- The tables. -/
structure Db where
  metadata : Metadata
  chatSessions : KeyedTable ChatSession.id
  chatMessages : List ChatMessage
  agentRuns : KeyedTable AgentRun.id
  agentEvents : List AgentEvent
  workflows : KeyedTable Workflow.id
  workflowSteps : KeyedTable WorkflowStep.id
  workflowRuns : KeyedTable WorkflowRun.id
  workflowRunSteps : KeyedTable WorkflowRunStep.id
  workflowEvents : List WorkflowEvent
  executionPlanRuns : KeyedTable ExecutionPlanRun.id
  executionPlanStepRuns : KeyedTable ExecutionPlanStepRun.id
  quotaPolicies : KeyedTable QuotaPolicy.id
  quotaUsageEvents : KeyedTable QuotaUsageEvent.id

/-- The tables a request inserts into. -/
inductive Table where
  | chatSessions | chatMessages | agentRuns | agentEvents | workflowRuns | workflowRunSteps
  | workflowEvents | executionPlanRuns | executionPlanStepRuns | quotaUsageEvents
deriving DecidableEq

end AgnoRuntime
