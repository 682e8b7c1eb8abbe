import AgnoRuntime.Model.ChatService
import AgnoRuntime.Model.WorkflowExecution
import AgnoRuntime.Model.ExecutionPlan

/-!
# The entry points that take a session id

`POST /chat`, `POST /chat/stream`, `POST /workflows/{id}/run`,
`POST /workflows/{id}/run/stream` and `POST /execution-plans/run`
(`app/api/v1/{chat,workflows,execution_plans}.py`), each in the session its
dependency `get_db` gives it.
-/

namespace AgnoRuntime

open Svc

/-- A request to one of the entry points. -/
inductive Request where
  | chat (payload : ChatRequest)
  | chatStream (payload : ChatRequest)
  | runWorkflow (workflowId : Uuid) (payload : WorkflowRunRequest)
  | runWorkflowStream (workflowId : Uuid) (payload : WorkflowRunRequest)
  | runExecutionPlan (payload : ExecutionPlanRunRequest)

/-- What the server answers when it does not stream. -/
inductive Response where
  | chat (response : ChatResponse)
  | workflow (response : WorkflowRunResponse)
  | plan (result : PlanResult)
  | streamed
deriving DecidableEq

namespace Request

/-- The `user_id` the client supplied. -/
def userId : Request → Option String
  | chat payload | chatStream payload => payload.userId
  | runWorkflow _ payload | runWorkflowStream _ payload => payload.userId
  | runExecutionPlan payload => payload.userId

/-- The same request with another `user_id`. -/
def withUserId (userId : Option String) : Request → Request
  | chat payload => chat { payload with userId := userId }
  | chatStream payload => chatStream { payload with userId := userId }
  | runWorkflow workflowId payload => runWorkflow workflowId { payload with userId := userId }
  | runWorkflowStream workflowId payload =>
    runWorkflowStream workflowId { payload with userId := userId }
  | runExecutionPlan payload => runExecutionPlan { payload with userId := userId }

variable (env : Env)

/-- The effective user of a request. -/
def effectiveUserId (request : Request) : Option String :=
  (resolveEffectiveUserId env.identity request.userId env.settings.authMode).1

/-- Handle a request. -/
def handle : Request → Svc Response
  | chat payload => getDb env (Response.chat <$> ChatService.handleChat env payload)
  | chatStream payload => do
    -- the body of the response is produced after the route has returned
    streamed (ChatService.handleChatStream env payload)
    return .streamed
  | runWorkflow workflowId payload =>
    getDb env (Response.workflow <$> WorkflowExecutionService.runWorkflow env workflowId payload)
  | runWorkflowStream workflowId payload => do
    streamed (WorkflowExecutionService.runWorkflowStream env workflowId payload)
    return .streamed
  | runExecutionPlan payload =>
    getDb env (Response.plan <$> ExecutionPlans.runExecutionPlan env payload)

/-- The world after a request has been served. -/
def served (store : Store) (request : Request) : World :=
  (request.handle env (World.start store)).2

end Request

/-! ## A deployment

One AgentOS with one Team, one Agent and one workflow that has the agent as its only
step; what Agno answers is a parameter. The examples of the theorems run on it. -/

namespace Deployment

open Civil

/-- The instant of the examples. -/
def morning : DateTime := .startOfMarch2026

/-- The agent. -/
def crm : Agent where
  id := 1
  teamId := 1
  code := "crm"
  name := "CRM agent"
  promptId := none
  modelId := none
  enabled := true
  createdAt := morning
  deletedAt := none

/-- The metadata. -/
def metadata : Metadata :=
  { Metadata.initial .empty (.singleton ⟨1, "openai", "gpt", true, none, none, none⟩) with
    agentOs := .singleton ⟨1, "enterprise", "Enterprise", some 1, none, true, morning, none⟩
    teams := .singleton ⟨1, 1, "sales", "Sales", none, true, morning, none⟩
    agents := .singleton crm }

/-- The step of the workflow. -/
def greet : WorkflowStep := ⟨1, 1, 0, .agent, some 1, none⟩

/-- The tables before anyone has chatted. -/
def db : Db where
  metadata := metadata
  chatSessions := .empty
  chatMessages := []
  agentRuns := .empty
  agentEvents := []
  workflows := .singleton ⟨1, 1, "onboarding", "Onboarding", none, true, none⟩
  workflowSteps := .singleton greet
  workflowRuns := .empty
  workflowRunSteps := .empty
  workflowEvents := []
  executionPlanRuns := .empty
  executionPlanStepRuns := .empty
  quotaPolicies := .empty
  quotaUsageEvents := .empty

/-- The tables with one chat session, of a given user. -/
def dbWithSession (id : Uuid) (userId : Option String) : Db :=
  { db with chatSessions :=
      .singleton ⟨id, 1, some 1, some 1, userId, "Hello", none⟩ }

/-- The store before anyone has chatted. -/
def store : Store := ⟨db, .empty⟩

/-- An Agno whose runs have this outcome, and whose streams these events and this end. -/
def agno (response : Except PyError RunResponse) (events : List AgnoEvent)
    (failure : Option PyError) : AgnoCall where
  gatewayUrl := "http://gateway"
  connect _ _ := none
  resolveInstructions ctx _ _ := .ok ctx.finalPrompt
  buildTools _ := .ok ()
  buildModel _ := .ok ()
  arun _ _ := response
  arunStream _ _ := (events, failure)
  finalMetrics := none
  collected _ := []

/-- An Agno that answers with a text, in one piece. -/
def answering (text : String) : AgnoCall :=
  agno (.ok ⟨some text, text⟩) [⟨"RunResponseContent", some text, [], none⟩] none

/-- An Agno whose runs fail. -/
def failing : AgnoCall :=
  agno (.error (.other "model unavailable")) [] (some (.other "model unavailable"))

/-- Outside of the deployment: every call succeeds. -/
def env (authMode : AuthMode) (identity : Option VerifiedIdentity) (call : AgnoCall) : Env where
  settings := ⟨authMode, false, true, true⟩
  identity := identity
  hierarchyScan := ⟨.stored, .stored⟩
  policyScan := .stored
  now _ := morning
  refuses _ _ _ := none
  redisFails _ := none
  cancelRequested _ _ := false
  call _ := call
  tools _ _ _ := .none
  closes _ := false

/-- A chat request of a user. -/
def hello (team : Option String) (userId : Option String) : ChatRequest where
  agentOs := "enterprise"
  team := team
  agent := none
  message := "Hello"
  sessionId := none
  userId := userId
  uiContext := none

example : ((Request.chat (hello (some "sales") none)).handle
    (env .trustClientUserId none (answering "Hi")) (World.start store)).1 =
      .ok (.chat ⟨1, 1, "enterprise", "sales", "crm", "Hi", "completed"⟩) := by
  decide +kernel

example : ((Request.runWorkflow 1 ⟨"Hello", none, none⟩).handle
    (env .trustClientUserId none (answering "Hi")) (World.start store)).1 =
      .ok (.workflow ⟨1, "COMPLETED", "Hi"⟩) := by
  decide +kernel

end Deployment

end AgnoRuntime
