import AgnoRuntime.Model.RunService

/-!
# Chat turns

`app/services/chat_service.py`, with `_merge_text_chunks`
(`app/agno_runtime/agui_interface.py`) and the session half of
`app/services/quota_service.py`.

`handle_chat` and `handle_chat_stream` treat the three kinds of dispatch in three
copies of one turn: check the quota for a representative agent, open the session
and the run, execute, and record what came out.
-/

namespace AgnoRuntime

open Svc Civil

/-- `ChatRequest`. -/
structure ChatRequest where
  agentOs : String
  team : Option String
  agent : Option String
  message : String
  sessionId : Option Uuid
  userId : Option String
  uiContext : Option UIContextFields

/-- `ChatResponse`. -/
structure ChatResponse where
  sessionId : Uuid
  runId : Uuid
  agentOs : String
  team : String
  agent : String
  message : String
  status : String
deriving DecidableEq

/-! ## Events and contents -/

/-- `part in text`. -/
def containsText (text part : String) : Bool := decide (part.toList <:+: text.toList)

/-- `_safe_event_type`. -/
def safeEventType (eventName : String) : EventType :=
  match EventType.ofValue eventName with
  | some eventType => eventType
  | none =>
    -- a type the platform does not know is guessed from its name
    if containsText eventName "tool" then .toolCallStarted
    else if containsText eventName.toLower "error" then .error
    else .agentResponse

/-- The white space `_merge_text_chunks` looks for. -/
def isBlank (c : Char) : Bool := c = ' ' || c = '\n' || c = '\t'

/-- `_merge_text_chunks`. The last two branches of the source return the same. -/
def mergeTextChunks (existingText text : String) : String :=
  if text = "" then existingText
  else if existingText = "" then text
  -- what repeats the text, or its end, counts as sent twice
  else if existingText = text then existingText
  else if text.toList.isSuffixOf existingText.toList then existingText
  -- a blank on either side: the text goes on
  else if existingText.toList.getLast?.any isBlank || text.toList.head?.any isBlank then
    existingText ++ text
  else existingText ++ " " ++ text

/-- `_merge_content_parts`. -/
def mergeContentParts (contentParts : List String) : String :=
  contentParts.foldl mergeTextChunks ""

/-- `_sum_metric_field`: the first of the keys with a value that can be read. -/
def sumMetricField (container : Metrics) : List String → Int
  | [] => 0
  | key :: keys =>
    match container.lookup key with
    | some (.scalar n) => n
    | some (.list values) => (values.filterMap id).sum
    -- a key without a number gives way to the next
    | some .null | some .unreadable | none => sumMetricField container keys

/-- `_extract_token_usage`. -/
def extractTokenUsage (payload : Payload) : Int × Int :=
  match payload.metrics with
  | none => (0, 0)
  | some metrics =>
    (sumMetricField metrics ["input_tokens", "prompt_tokens"],
      sumMetricField metrics ["output_tokens", "completion_tokens"])

/-- `full_content_parts`, `total_input_tokens` and `total_output_tokens`. -/
structure Progress where
  contentParts : List String
  inputTokens : Int
  outputTokens : Int
deriving DecidableEq

namespace Progress

/-- Before the first event. -/
def empty : Progress := ⟨[], 0, 0⟩

/-- The assistant content of a payload, if there is any. -/
def contentPiece (payload : Payload) : Option String :=
  if truthy payload.content && payload.isAssistantContent.getD false then payload.content else none

/-- One event further. -/
def add (progress : Progress) (payload : Payload) : Progress where
  contentParts := progress.contentParts ++ (contentPiece payload).toList
  inputTokens := progress.inputTokens + (extractTokenUsage payload).1
  outputTokens := progress.outputTokens + (extractTokenUsage payload).2

/-- The text so far. -/
def text (progress : Progress) : String := mergeContentParts progress.contentParts

end Progress

/-! ## Quota -/

namespace QuotaService

variable (env : Env)

/-- The policies of a caller, as the session sees them. -/
def callerPolicies (caller : Caller) : Svc (List QuotaPolicy) :=
  query fun db =>
    effectivePolicies env.settings.featureQuotaManagement env.policyScan db.quotaPolicies caller

/-- `assert_within_quota` of a request. -/
def requireWithinQuota (caller : Caller) : Svc Unit := do
  let policies ← callerPolicies env caller
  if policies.isEmpty then pure ()
  else do
    let now ← Svc.now env
    redisCommand env id
    let w ← Prog.read
    Prog.lift (checkPolicies w.redis now policies)

/-- The caller is tracked. -/
def tracks (caller : Caller) : Bool :=
  env.settings.featureQuotaManagement && truthy caller.userId

/-- `usage_repo.create`. -/
def createUsageEvent (runId : Uuid) (caller : Caller) (usage : Usage) : Svc Unit :=
  write env (.insert .quotaUsageEvents) fun db => { db with
    quotaUsageEvents := db.quotaUsageEvents.insertFresh
      (fun id => ⟨id, some runId, caller.userId.getD "", caller.groups, caller.modelId,
        usage.inputTokens, usage.outputTokens, usage.costUsd⟩)
      (fun _ => rfl) }

/-- One round of the loop of `record_usage`. -/
def recordCounter (now : DateTime) (usage : Usage) (p : QuotaPolicy) : Svc Unit :=
  if metricValue usage p.metric = 0 then pure ()
  else do
    redisCommand env fun redis =>
      redis.incrByFloat now (p.counterKey now) (metricValue usage p.metric)
    redisCommand env fun redis => redis.expire now (p.counterKey now) (p.ttl now)

/-- `record_usage`. -/
def recordUsage (runId : Uuid) (caller : Caller) (usage : Usage) : Svc Unit :=
  if tracks env caller then do
    Prog.handleError
      (do
        -- the row of the audit has a commit of its own, and is given up if that fails
        createUsageEvent env runId caller usage
        commit env)
      (fun exc => if exc.isException then rollback else Prog.raise exc)
    Prog.handleError
      (do
        let policies ← callerPolicies env caller
        let now ← Svc.now env
        -- the counters that were incremented before a failure stay so
        Prog.forEach (recordCounter env now usage) policies)
      (fun exc => if exc.isException then pure () else Prog.raise exc)
  else pure ()

end QuotaService

/-! ## Turns -/

namespace ChatService

variable (env : Env)

/-- `_resolve_identity`: the request with the effective user, and the verified groups. -/
def resolveIdentity (request : ChatRequest) : ChatRequest × List String :=
  let (effectiveUserId, verifiedGroups) :=
    resolveEffectiveUserId env.identity request.userId env.settings.authMode
  ({ request with userId := effectiveUserId }, verifiedGroups)

/-- `ModelRegistry` prices of a turn, in dollars; `None` when there are none. -/
def costOf (entry : ModelRegistry) (inputTokens outputTokens : Int) : Option ℚ :=
  if entry.costPer1kInputTokens.isNone && entry.costPer1kOutputTokens.isNone then none
  else some ((inputTokens : ℚ) / 1000 * entry.costPer1kInputTokens.getD 0 +
    (outputTokens : ℚ) / 1000 * entry.costPer1kOutputTokens.getD 0)

/-- `_compute_cost_usd`. -/
def computeCostUsd (modelId : Option Uuid) (inputTokens outputTokens : Int) : Svc (Option ℚ) :=
  match modelId with
  | none => pure none
  | some id => do
    match ← Prog.attempt (query fun db => BaseRepository.get db.metadata.models id) with
    -- the lookup is best effort: a turn may have no cost
    | .error _ => return none
    | .ok entry => return entry.bind (costOf · inputTokens outputTokens)

/-- The team and agent whose ids the session and the run are stored with. -/
def representative : Dispatch → Except PyError (AgentOS × Team × Agent)
  | .runtime ctx => .ok (ctx.agentOs, ctx.team, ctx.agent)
  | .team ctx =>
    match ctx.memberContexts with
    | member :: _ => .ok (ctx.agentOs, ctx.team, member.agent)
    | [] => .error (.other "list index out of range")
  | .root ctx =>
    match ctx.teamContexts with
    | first :: _ =>
      match first.memberContexts with
      | member :: _ => .ok (ctx.agentOs, first.team, member.agent)
      | [] => .error (.other "list index out of range")
    | [] => .error (.other "list index out of range")

/-- A turn whose run row exists. -/
structure ChatTurn where
  request : ChatRequest
  groups : List String
  dispatch : Dispatch
  agentOs : AgentOS
  team : Team
  agent : Agent
  sessionId : Uuid
  runId : Uuid

namespace ChatTurn

/-- `model_id_for_quota`. -/
def modelId (turn : ChatTurn) : Option Uuid := turn.agent.modelId.or turn.agentOs.defaultModelId

/-- Whose quota the turn counts for. -/
def caller (turn : ChatTurn) : QuotaService.Caller :=
  ⟨turn.request.userId, turn.groups, turn.modelId⟩

/-- The arguments of the engine. -/
def args (turn : ChatTurn) (uiContext : Option UIContextFields) : RunArgs :=
  ⟨turn.request.message, turn.sessionId, turn.request.userId, uiContext⟩

end ChatTurn

/-- `message[:80]`. -/
def titleOf (message : String) : String := String.ofList (message.toList.take 80)

/-- From the quota check to the user's message. -/
def openTurn (request : ChatRequest) (groups : List String) (dispatch : Dispatch) :
    Svc ChatTurn := do
  let (agentOs, team, agent) ← Prog.lift (representative dispatch)
  QuotaService.requireWithinQuota env
    ⟨request.userId, groups, agent.modelId.or agentOs.defaultModelId⟩
  let session ← getOrCreateSession env request.sessionId agentOs.id (some team.id) (some agent.id)
    request.userId (titleOf request.message)
  let runId ← RunTrackingService.createRun env session.id agent.id request.message
  createMessage env session.id (some runId) .user request.message
  return ⟨request, groups, dispatch, agentOs, team, agent, session.id, runId⟩

/-- What a turn produced. -/
structure TurnResult where
  output : String
  inputTokens : Int
  outputTokens : Int
deriving DecidableEq

/-- What the events of a turn add up to. -/
def resultOf (progress : Progress) : TurnResult :=
  ⟨progress.text, progress.inputTokens, progress.outputTokens⟩

/-- `_compute_cost_usd` and `record_usage`, at the end of a turn. -/
def recordTurn (turn : ChatTurn) (result : TurnResult) : Svc Unit := do
  let costUsd ← computeCostUsd turn.modelId result.inputTokens result.outputTokens
  QuotaService.recordUsage env turn.runId turn.caller
    ⟨result.inputTokens, result.outputTokens, costUsd⟩

/-- The assistant's message and the completed run. -/
def completeTurn (turn : ChatTurn) (result : TurnResult) : Svc Unit := do
  createMessage env turn.sessionId (some turn.runId) .assistant result.output
  RunTrackingService.markCompleted env turn.runId result.output

/-! ## Without streaming -/

/-- The loop of `handle_chat` over the engine's events. -/
def collectEvents (turn : ChatTurn) {args : RunArgs} (live : LiveStream args) :
    List StreamEvent → Nat → Progress → Svc Progress
  | [], _, progress => pure progress
  | event :: events, i, progress => do
    -- the tools Agno ran up to the event worked in this session
    useTools (live.tools i)
    RunTrackingService.emitEvent env turn.runId (safeEventType event.eventType)
      (.engine event.payload)
    collectEvents turn live events (i + 1) (progress.add event.payload)

/-- `except RuntimeExecutionError`: mark the run failed, and re-raise. -/
def failAndRaise {α : Type} (turn : ChatTurn) (exc : PyError) : Svc α :=
  if exc.isRuntimeExecution then do
    RunTrackingService.markFailed env turn.runId exc.str
    Prog.raise exc
  else Prog.raise exc

/-- Consume the engine's stream, recording its events. -/
def consumeStream (turn : ChatTurn) (uiContext : Option UIContextFields) : Svc TurnResult :=
  Prog.handleError
    (do
      let live ← openStream env turn.dispatch (turn.args uiContext)
      let progress ← collectEvents env turn live live.stream.events 0 Progress.empty
      endStream live
      return resultOf progress)
    (failAndRaise env turn)

/-- The execution of a turn by `handle_chat`. The root branch passes no `ui_context`; the team
    branch calls `run_team` and has no `try`. -/
def execute (turn : ChatTurn) : Svc TurnResult :=
  match turn.dispatch with
  | .runtime _ => consumeStream env turn turn.request.uiContext
  | .team _ => do
    let output ← Svc.run env turn.dispatch (turn.args turn.request.uiContext)
    return ⟨output, 0, 0⟩
  | .root _ => consumeStream env turn none

/-- The dict `handle_chat` returns. -/
def responseOf (turn : ChatTurn) (result : TurnResult) : ChatResponse where
  sessionId := turn.sessionId
  runId := turn.runId
  agentOs := turn.agentOs.code
  team := turn.team.code
  agent := turn.agent.code
  message := result.output
  status := "completed"

/-- A turn of `handle_chat` up to the end of the engine's execution. -/
def beginTurn (request : ChatRequest) (groups : List String) (dispatch : Dispatch) :
    Svc (ChatTurn × TurnResult) := do
  let turn ← openTurn env request groups dispatch
  RunTrackingService.markRunning env turn.runId
  let result ← execute env turn
  return (turn, result)

/-- The rest of the turn. -/
def endTurn (turn : ChatTurn) (result : TurnResult) : Svc ChatResponse := do
  completeTurn env turn result
  recordTurn env turn result
  -- the codes of the AgentOS, the team and the agent
  attributes
  return responseOf turn result

/-- One branch of `handle_chat`. -/
def chatTurn (request : ChatRequest) (groups : List String) (dispatch : Dispatch) :
    Svc ChatResponse := do
  let (turn, result) ← beginTurn env request groups dispatch
  endTurn env turn result

/-- `resolve_dispatch_context`. -/
def resolveDispatch (request : ChatRequest) : Svc Dispatch :=
  fetch fun db => AgnoRuntimeEngine.resolveDispatchContext env.hierarchyScan db.metadata
    request.agentOs request.team

/-- `handle_chat`. -/
def handleChat (request : ChatRequest) : Svc ChatResponse := do
  let (request, groups) := resolveIdentity env request
  let dispatch ← resolveDispatch env request
  chatTurn env request groups dispatch

/-! ## Streaming -/

/-- An event of the stream of a turn. -/
def ChatTurn.item (turn : ChatTurn) (eventType : String) (data : ChatEventData) : StreamItem :=
  .chat eventType turn.runId turn.sessionId data

/-- The message `_handle_cancellation` persists, if there is any content. -/
def savePartialOutput (turn : ChatTurn) (partialOutput : String) : Svc Unit :=
  if partialOutput = "" then pure ()
  else createMessage env turn.sessionId (some turn.runId) .assistant partialOutput

/-- `_handle_cancellation`, and the event it returns. -/
def handleCancellation (turn : ChatTurn) (progress : Progress) : Svc Unit := do
  let partialOutput := progress.text
  savePartialOutput env turn partialOutput
  RunTrackingService.markCancelled env turn.runId partialOutput
  commit env
  redisCommand env id
  yieldItem env
    (turn.item "run_cancelled" (.cancelled "Run cancelled by user" partialOutput))

/-- The loop of `handle_chat_stream` over the engine's events; `none` when the run was cancelled. -/
def streamEvents (turn : ChatTurn) {args : RunArgs} (live : LiveStream args) :
    List StreamEvent → Nat → Progress → Svc (Option Progress)
  | [], _, progress => pure (some progress)
  | event :: events, i, progress => do
    useTools (live.tools i)
    -- the event at hand is dropped
    if ← isCancelled env turn.runId then do
      handleCancellation env turn progress
      return none
    else do
      RunTrackingService.emitEvent env turn.runId (safeEventType event.eventType)
        (.engine event.payload)
      commit env
      yieldItem env (turn.item event.eventType (.engine event.payload))
      streamEvents turn live events (i + 1) (progress.add event.payload)

/-- `except RuntimeExecutionError`: mark the run failed and tell the client. -/
def failStream (turn : ChatTurn) (exc : PyError) : Svc (Option Progress) :=
  if exc.isRuntimeExecution then do
    RunTrackingService.markFailed env turn.runId exc.str
    commit env
    yieldItem env (turn.item "error" (.error exc.str))
    return none
  else Prog.raise exc

/-- Consume the engine's stream, sending its events on; `none` when the turn is over. -/
def forwardStream (turn : ChatTurn) : Svc (Option Progress) :=
  Prog.handleError
    (do
      let live ← openStream env turn.dispatch (turn.args turn.request.uiContext)
      match ← streamEvents env turn live live.stream.events 0 Progress.empty with
      | none => return none
      | some progress => do
        endStream live
        return some progress)
    (failStream env turn)

/-- A turn of `handle_chat_stream` up to the commit of its run as running. -/
def beginStream (request : ChatRequest) (groups : List String) (dispatch : Dispatch) :
    Svc ChatTurn := do
  let turn ← openTurn env request groups dispatch
  commit env
  RunTrackingService.markRunning env turn.runId
  commit env
  return turn

/-- The end of a turn whose stream was consumed to its end. -/
def endStreamTurn (turn : ChatTurn) (result : TurnResult) : Svc Unit := do
  completeTurn env turn result
  commit env
  recordTurn env turn result
  -- the ids of the run and the session
  attributes
  yieldItem env (turn.item "agent_completed" (.completed result.output))

/-- The rest of the turn, from its first event on. -/
def continueStream (turn : ChatTurn) : Svc Unit := do
  yieldItem env (turn.item "agent_started" (.started turn.agent.code turn.team.code))
  match ← forwardStream env turn with
  | none => pure ()
  | some progress => endStreamTurn env turn (resultOf progress)

/-- One branch of `handle_chat_stream`. -/
def chatStreamTurn (request : ChatRequest) (groups : List String) (dispatch : Dispatch) :
    Svc Unit := do
  let turn ← beginStream env request groups dispatch
  continueStream env turn

/-- `handle_chat_stream`. -/
def handleChatStream (request : ChatRequest) : Svc Unit := do
  let (request, groups) := resolveIdentity env request
  let dispatch ← resolveDispatch env request
  chatStreamTurn env request groups dispatch

end ChatService

end AgnoRuntime
