import AgnoRuntime.Model.Engine
import AgnoRuntime.Model.UiActions

/-!
# The Agno runtime engine: executing a resolved context

The execution methods of `app/agno_runtime/engine.py`, `ToolCatalogBuilder`
(`tool_adapter.py`) and `MCPSession` (`mcp_client.py`).

What lies outside the platform is one record, `AgnoCall`: the gateway, the
language models and the Agno library as one call of the engine meets them. The
state of an execution is the list of MCP sessions it has entered, each with the
agent it was entered for.
-/

namespace AgnoRuntime

/-- `UIContextFields`; the engine reads the attachments only. -/
structure UIContextFields where
  attachments : Option (List String)
deriving DecidableEq

/-- The arguments every execution method takes besides its context. A session id is passed
    as its text, which determines it. -/
structure RunArgs where
  message : String
  sessionId : Uuid
  userId : Option String
  uiContext : Option UIContextFields
deriving DecidableEq

/-! ## MCP sessions -/

/-- `MCPSession`: `includeTools` is `None` for no filter at all. -/
structure MCPSession where
  url : String
  includeTools : Option (List String)
deriving DecidableEq

/-- `ToolCatalogBuilder.build`. -/
def ToolCatalogBuilder.build (url : String) (capabilityCodes : List String) : MCPSession where
  url := url
  includeTools := some capabilityCodes

/-! ## What Agno is given -/

/-- The `AgnoAgent` that `_build_agno_agent` returns. `memoryUser` is the user its memory and
    its `remember_fact` tool are bound to. -/
structure AgnoAgent where
  name : String
  agentId : Uuid
  model : ModelRegistry
  instructions : String
  mcpTools : MCPSession
  memoryUser : Option String

/-- The `AgnoTeam` over agents that `_build_agno_team` returns. -/
structure AgnoTeam where
  members : List AgnoAgent
  model : ModelRegistry
  name : String
  teamId : String
  instructions : String

/-- The `AgnoTeam` over teams that `_build_agno_root_team` returns. -/
structure AgnoRootTeam where
  members : List AgnoTeam
  model : ModelRegistry
  name : String
  teamId : String
  instructions : String

/-- What is run. -/
inductive AgnoRunnable where
  | agent (a : AgnoAgent)
  | team (t : AgnoTeam)
  | rootTeam (r : AgnoRootTeam)

/-! ## What Agno returns -/

/-- `RunResponse`: its content, and what `str` makes of the response. -/
structure RunResponse where
  content : Option String
  text : String

/-- An event of a streamed run: its name, content, tools and the team it belongs to. -/
structure AgnoEvent where
  event : String
  content : Option String
  tools : List String
  teamId : Option String
deriving DecidableEq

/-- One value of a metrics dict: a scalar, a list with one entry a message, or neither. -/
inductive MetricValue where
  | scalar (n : Int)
  | list (vs : List (Option Int))
  | null
  | unreadable
deriving DecidableEq

/-- A metrics dict. -/
abbrev Metrics := List (String × MetricValue)

/-- The environment of one call of the engine. -/
structure AgnoCall where
  gatewayUrl : String
  /-- Why entering the session fails, given how many were entered before. -/
  connect : Nat → MCPSession → Option String
  /-- `_resolve_instructions`: attachments and knowledge folded into the prompt. -/
  resolveInstructions : ResolvedRuntimeContext → String → Option UIContextFields →
    Except PyError String
  /-- The remaining tools of an agent, which may fail to build. -/
  buildTools : Agent → Except PyError Unit
  /-- `build_agno_model`. -/
  buildModel : ModelRegistry → Except PyError Unit
  arun : AgnoRunnable → RunArgs → Except PyError RunResponse
  /-- The events of a streamed run and the exception that ends it, if any. -/
  arunStream : AgnoRunnable → RunArgs → List AgnoEvent × Option PyError
  /-- `run_response.metrics` of the finished stream, as a dict. -/
  finalMetrics : Option Metrics
  /-- The actions an agent's collector holds after the run. -/
  collected : Agent → List UIAction

/-! ## Stream payloads -/

/-- A payload dict; an absent key is `none`. -/
structure Payload where
  agnoEvent : Option String
  content : Option String
  isAssistantContent : Option Bool
  tools : Option (List String)
  metrics : Option Metrics
  uiActionPlan : Option (List UIAction)
  error : Option String
deriving DecidableEq

namespace Payload

/-- `{}`. -/
def empty : Payload := ⟨none, none, none, none, none, none, none⟩

/-- `dict.update`. -/
def update (p q : Payload) : Payload where
  agnoEvent := q.agnoEvent.or p.agnoEvent
  content := q.content.or p.content
  isAssistantContent := q.isAssistantContent.or p.isAssistantContent
  tools := q.tools.or p.tools
  metrics := q.metrics.or p.metrics
  uiActionPlan := q.uiActionPlan.or p.uiActionPlan
  error := q.error.or p.error

end Payload

/-- An event dict of the engine's streams. -/
structure StreamEvent where
  eventType : String
  payload : Payload
deriving DecidableEq

/-- A stream as its consumer meets it: events, then the end or an exception. -/
structure EventStream where
  events : List StreamEvent
  error : Option PyError

/-- `_AGNO_EVENT_MAP`. -/
def agnoEventMap : List (String × String) :=
  [("RunStarted", "agent_started"),
   ("ReasoningStarted", "reasoning_started"),
   ("ToolCallStarted", "tool_selected"),
   ("ToolCallCompleted", "tool_call_completed"),
   ("RunResponseContent", "agent_response"),
   ("RunCompleted", "agent_completed"),
   ("MemoryUpdateStarted", "memory_update_started"),
   ("MemoryUpdateCompleted", "memory_update_completed"),
   ("RunError", "error")]

/-- `_AGNO_TEAM_EVENT_MAP`. -/
def agnoTeamEventMap : List (String × String) :=
  [("TeamRunStarted", "agent_started"),
   ("TeamReasoningStarted", "reasoning_started"),
   ("TeamToolCallStarted", "tool_selected"),
   ("TeamToolCallCompleted", "tool_call_completed"),
   ("TeamRunResponseContent", "agent_response"),
   ("TeamRunCompleted", "agent_completed"),
   ("TeamMemoryUpdateStarted", "memory_update_started"),
   ("TeamMemoryUpdateCompleted", "memory_update_completed"),
   ("TeamRunError", "error")]

/-- `_dedupe_self_concatenated`. -/
def dedupeSelfConcatenated (text : String) : String :=
  let chars := text.toList
  let half := chars.length / 2
  if chars.length % 2 = 0 ∧ chars ≠ [] ∧ chars.take half = chars.drop half then
    String.ofList (chars.take half)
  else text

/-- `_ASSISTANT_CONTENT_EVENT_NAMES` and `_ASSISTANT_CONTENT_TEAM_EVENT_NAMES`. -/
def isAssistantContentEvent (eventName : String) : Bool :=
  eventName = "RunResponseContent" || eventName = "TeamRunResponseContent"

/-- `_build_stream_payload`. -/
def buildStreamPayload (eventName : String) (payload : Payload) : Payload :=
  let isAssistantContent := isAssistantContentEvent eventName
  { payload with
    isAssistantContent := some isAssistantContent
    -- `payload.pop("content")`
    content := if isAssistantContent then payload.content else none }

/-- The content of an event, if it is not empty. -/
def AgnoEvent.text (event : AgnoEvent) : Option String :=
  if truthy event.content then event.content.map dedupeSelfConcatenated else none

/-- The tools of an event, if there are any. -/
def AgnoEvent.usedTools (event : AgnoEvent) : Option (List String) :=
  if event.tools.isEmpty then none else some event.tools

/-- The payload `run_stream` yields for an event. -/
def agentEventPayload (event : AgnoEvent) : Payload :=
  let payload := { Payload.empty with agnoEvent := some event.event, content := event.text }
  -- an update does not take back the key that the helper has popped
  { payload.update (buildStreamPayload event.event payload) with tools := event.usedTools }

/-- The payload `run_team_stream` and `run_root_stream` yield for an event. -/
def teamEventPayload (ownTeamId : String) (event : AgnoEvent) : Payload :=
  { Payload.empty with
    agnoEvent := some event.event
    content := event.text
    isAssistantContent := event.text.map fun _ =>
      event.event = "TeamRunResponseContent" && event.teamId = some ownTeamId
    tools := event.usedTools }

/-- The event dict for an Agno event. -/
def mapEvent (eventMap : List (String × String)) (payload : AgnoEvent → Payload)
    (event : AgnoEvent) : StreamEvent where
  -- an event that is not in the map counts as a response
  eventType := (eventMap.lookup event.event).getD "agent_response"
  payload := payload event

/-! ## Executing -/

/-- Programs of the engine; the state is the sessions entered so far. -/
abbrev EngineM := Prog PyError (List (Agent × MCPSession))

namespace AgnoRuntimeEngine

variable (call : AgnoCall) (m : Metadata)

/-- `MCPSession.__aenter__`. -/
def enterSession (agent : Agent) (session : MCPSession) : EngineM Unit := do
  let entered ← Prog.read
  -- counted as entered, whether or not it connects
  Prog.modify (· ++ [(agent, session)])
  match call.connect entered.length session with
  | none => pure ()
  | some message => Prog.raise (.mcpGateway
      ("Failed to connect to MCP Gateway SSE endpoint " ++ session.url ++ ": " ++ message))

/-- `ModelResolutionService.resolve_registry_entry`. -/
def resolveRegistryEntry (agentModelId agentOsDefaultModelId : Option Uuid) :
    Except PyError ModelRegistry :=
  match agentModelId.or agentOsDefaultModelId with
  | none => .error (.validationFailed
      "No model_id resolvable: neither Agent.model_id nor AgentOS.default_model_id is set")
  | some modelId =>
    match (BaseRepository.get m.models modelId).filter (·.enabled) with
    | some entry => .ok entry
    | none => .error (.validationFailed
        ("ModelRegistry entry " ++ UuidText.text modelId ++ " not found or disabled"))

/-- `_build_agno_agent`. -/
def buildAgnoAgent (ctx : ResolvedRuntimeContext) (mcpTools : MCPSession) (args : RunArgs) :
    Except PyError AgnoAgent := do
  let modelEntry ← resolveRegistryEntry m ctx.agent.modelId ctx.agentOs.defaultModelId
  call.buildModel modelEntry
  let instructions ← call.resolveInstructions ctx args.message args.uiContext
  call.buildTools ctx.agent
  return {
    name := ctx.agent.name
    agentId := ctx.agent.id
    model := modelEntry
    instructions := instructions
    mcpTools := mcpTools
    memoryUser := if truthy args.userId then args.userId else none }

/-- Enter the session of one agent and build it. -/
def openAgent (ctx : ResolvedRuntimeContext) (args : RunArgs) : EngineM AgnoAgent := do
  let session := ToolCatalogBuilder.build call.gatewayUrl ctx.effectiveCapabilities
  enterSession call ctx.agent session
  Prog.lift (buildAgnoAgent call m ctx session args)

/-- `_build_agno_team`. -/
def buildAgnoTeam (ctx : ResolvedTeamContext) (args : RunArgs) : EngineM AgnoTeam := do
  let memberAgents ← ctx.memberContexts.mapM (openAgent call m · args)
  let modelEntry ← Prog.lift (resolveRegistryEntry m none ctx.agentOs.defaultModelId)
  Prog.lift (call.buildModel modelEntry)
  return {
    members := memberAgents
    model := modelEntry
    name := ctx.team.name
    teamId := UuidText.text ctx.team.id
    instructions := ctx.teamPrompt }

/-- The id of the root team of an AgentOS. -/
def rootTeamId (agentOs : AgentOS) : String := "root-" ++ UuidText.text agentOs.id

/-- `_build_agno_root_team`. -/
def buildAgnoRootTeam (ctx : ResolvedRootContext) (args : RunArgs) : EngineM AgnoRootTeam := do
  let memberTeams ← ctx.teamContexts.mapM (buildAgnoTeam call m · args)
  let modelEntry ← Prog.lift (resolveRegistryEntry m none ctx.agentOs.defaultModelId)
  Prog.lift (call.buildModel modelEntry)
  return {
    members := memberTeams
    model := modelEntry
    name := ctx.agentOs.name ++ " Router"
    teamId := rootTeamId ctx.agentOs
    instructions := ctx.rootPrompt }

/-- Build what a context is executed with. -/
def buildRunnable (args : RunArgs) : Dispatch → EngineM AgnoRunnable
  | .runtime ctx => AgnoRunnable.agent <$> openAgent call m ctx args
  | .team ctx => AgnoRunnable.team <$> buildAgnoTeam call m ctx args
  | .root ctx => AgnoRunnable.rootTeam <$> buildAgnoRootTeam call m ctx args

/-- `except Exception as exc: raise RuntimeExecutionError(..)`. -/
def wrapException (message : String) (exc : PyError) : PyError :=
  if exc.isException then .runtimeExecution (message ++ exc.str) else exc

/-- The body shared by `run`, `run_team` and `run_root`. -/
def execute (message : String) (dispatch : Dispatch) (args : RunArgs) : EngineM String := do
  let response ← Prog.handleError
    (do
      let runnable ← buildRunnable call m args dispatch
      Prog.lift (call.arun runnable args))
    (fun exc => Prog.raise (wrapException message exc))
  return dedupeSelfConcatenated (response.content.getD response.text)

/-- `run`. -/
def run (ctx : ResolvedRuntimeContext) (args : RunArgs) : EngineM String :=
  execute call m "Agno agent execution failed: " (.runtime ctx) args

/-- `run_team`. -/
def runTeam (ctx : ResolvedTeamContext) (args : RunArgs) : EngineM String :=
  execute call m "Agno team execution failed: " (.team ctx) args

/-- `run_root`. -/
def runRoot (ctx : ResolvedRootContext) (args : RunArgs) : EngineM String :=
  execute call m "Agno root team execution failed: " (.root ctx) args

/-- `_aggregate_ui_action_plan`: the collectors' actions sorted by `executionOrder`. -/
def aggregateUiActionPlan (dispatch : Dispatch) : List UIAction :=
  (dispatch.agentContexts.flatMap (fun ctx => call.collected ctx.agent)).mergeSort
    (fun a b => a.executionOrder ≤ b.executionOrder)

/-- The events after a fully consumed stream: the metrics, then the UI action plan. -/
def trailingEvents (dispatch : Dispatch) : List StreamEvent :=
  let metricsEvents := match call.finalMetrics with
    -- an empty dict is false
    | some [] | none => []
    | some metrics => [{
        eventType := "agent_completed"
        payload := { Payload.empty with
          isAssistantContent := some false, metrics := some metrics } }]
  let plan := aggregateUiActionPlan call dispatch
  let planEvents := if plan.isEmpty then [] else [{
    eventType := "ui_action_plan"
    payload := { Payload.empty with
      isAssistantContent := some false, uiActionPlan := some plan } }]
  metricsEvents ++ planEvents

/-- The end of a stream by an exception: an `error` event, then the wrapped exception. -/
def failedStream (message : String) (events : List StreamEvent) (exc : PyError) : EventStream :=
  if exc.isException then {
    events := events ++
      [{ eventType := "error", payload := { Payload.empty with error := some exc.str } }]
    error := some (.runtimeExecution (message ++ exc.str)) }
  else { events := events, error := some exc }

/-- The body shared by `run_stream`, `run_team_stream` and `run_root_stream`. -/
def executeStream (message : String) (mapped : AgnoEvent → StreamEvent) (dispatch : Dispatch)
    (args : RunArgs) : EngineM EventStream := do
  match ← (buildRunnable call m args dispatch).attempt with
  -- what fails while the agents are built is an event of the stream, too
  | .error exc => return failedStream message [] exc
  | .ok runnable =>
    let (agnoEvents, failure) := call.arunStream runnable args
    let events := agnoEvents.map mapped
    match failure with
    | some exc => return failedStream message events exc
    | none => return { events := events ++ trailingEvents call dispatch, error := none }

/-- `run_stream`. -/
def runStream (ctx : ResolvedRuntimeContext) (args : RunArgs) : EngineM EventStream :=
  executeStream call m "Agno agent streaming execution failed: "
    (mapEvent agnoEventMap agentEventPayload) (.runtime ctx) args

/-- `run_team_stream`. -/
def runTeamStream (ctx : ResolvedTeamContext) (args : RunArgs) : EngineM EventStream :=
  executeStream call m "Agno team streaming execution failed: "
    (mapEvent agnoTeamEventMap (teamEventPayload (UuidText.text ctx.team.id))) (.team ctx) args

/-- `run_root_stream`. -/
def runRootStream (ctx : ResolvedRootContext) (args : RunArgs) : EngineM EventStream :=
  executeStream call m "Agno root team streaming execution failed: "
    (mapEvent agnoTeamEventMap (teamEventPayload (rootTeamId ctx.agentOs))) (.root ctx) args

end AgnoRuntimeEngine

end AgnoRuntime
