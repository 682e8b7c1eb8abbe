import AgnoRuntime.ForStd.ExitStack
import AgnoRuntime.Model.EngineRun

/-!
# The MCP sessions of an execution

The six execution methods of `app/agno_runtime/engine.py` again, with what
`EngineRun` leaves out: that a session is closed (`MCPSession.__aexit__`), the
`async with` and `AsyncExitStack` that see to it, and that a task can be cancelled
wherever it waits and a stream be closed by its consumer wherever it yields. What
they do about their sessions is written to a log.
-/

namespace AgnoRuntime

namespace SessionScopes

open AgnoRuntimeEngine (resolveRegistryEntry wrapException rootTeamId trailingEvents)

/-- What an execution does about its sessions, and when it does what they are for. The methods
    that stream have three `yield` statements: for an event of Agno, for the error that
    ends the stream and for what follows the last event of Agno. -/
inductive SessionEvent where
  | opened (entry : Agent × MCPSession)
  /-- `MCPTools.__aenter__` has failed. That it leaves no connection half-open behind it is up to
      `MCPTools`; `MCPSession` does not close it. -/
  | refused (entry : Agent × MCPSession)
  | ran (runnable : AgnoRunnable)
  | forwarded (event : StreamEvent)
  | reported (event : StreamEvent)
  | appended (event : StreamEvent)
  /-- `MCPSession.__aexit__` has begun. It may still fail, or be cancelled. -/
  | closed (entry : Agent × MCPSession)

namespace SessionEvent

/-- The session that was to be entered. -/
def attempted? : SessionEvent → Option (Agent × MCPSession)
  | opened entry | refused entry => some entry
  | _ => none

/-- The event that the consumer of the stream receives. -/
def yielded? : SessionEvent → Option StreamEvent
  | forwarded event | reported event | appended event => some event
  | _ => none

end SessionEvent

/-- What has happened, and how often the task has given way. -/
structure Trace where
  log : List SessionEvent
  suspensions : Nat

namespace Trace

/-- Before anything has happened. -/
def start : Trace := ⟨[], 0⟩

/-- The sessions that were entered, whether or not they connected. -/
def attempts (t : Trace) : List (Agent × MCPSession) := t.log.filterMap SessionEvent.attempted?

/-- The events the consumer has received. -/
def yielded (t : Trace) : List StreamEvent := t.log.filterMap SessionEvent.yielded?

end Trace

/-- What lies outside the platform, and what befalls a task from there. -/
structure Surroundings where
  call : AgnoCall
  /-- Why `MCPTools.__aexit__` fails for a session. -/
  disconnect : MCPSession → Option String
  /-- Whether the task does not get over its `n`-th suspension: it is cancelled at an `await`,
      or its stream is closed at a `yield`. -/
  disturbed : Nat → Bool

/-- Programs around and inside of an exit stack. -/
abbrev SessionM := Prog PyError Trace
abbrev ScopeM := Prog PyError (Prog.Scope Trace (Agent × MCPSession))

/-- Write to the log. -/
def note (event : SessionEvent) : SessionM Unit :=
  Prog.modify fun t => { t with log := t.log ++ [event] }

variable (sur : Surroundings) (m : Metadata)

/-- Give way, and go on unless something has happened meanwhile. -/
def suspend (exc : PyError) : SessionM Unit := do
  let t ← Prog.read
  Prog.modify fun t => { t with suspensions := t.suspensions + 1 }
  if sur.disturbed t.suspensions then Prog.raise exc else pure ()

/-- What comes before the result of an `await`. -/
def await : SessionM Unit := suspend sur .cancelledError

/-- `yield`; the consumer has the event when it closes the stream. -/
def yieldEvent (event : SessionEvent) : SessionM Unit := do
  note event
  suspend sur .generatorExit

/-- `MCPSession.__aenter__`. -/
def aenter (entry : Agent × MCPSession) : SessionM Unit := do
  await sur
  let t ← Prog.read
  match sur.call.connect t.attempts.length entry.2 with
  | none => note (.opened entry)
  | some message =>
    note (.refused entry)
    Prog.raise (.mcpGateway
      ("Failed to connect to MCP Gateway SSE endpoint " ++ entry.2.url ++ ": " ++ message))

/-- `MCPSession.__aexit__`. It returns `None`, so the exception on the way goes on. -/
def aexit (entry : Agent × MCPSession) : SessionM Unit := do
  note (.closed entry)
  Prog.handleError
    (do
      await sur
      match sur.disconnect entry.2 with
      | none => pure ()
      | some message => Prog.raise (.other message))
    -- a warning is logged
    (fun exc => if exc.isException then pure () else Prog.raise exc)

/-- Enter the session of one agent and build it. Whichever of its lookups it waits for,
    `_build_agno_agent` has no effect on the sessions. -/
def openAgent (ctx : ResolvedRuntimeContext) (args : RunArgs) : ScopeM AgnoAgent := do
  let session := ToolCatalogBuilder.build sur.call.gatewayUrl ctx.effectiveCapabilities
  Prog.enter (ctx.agent, session) (aenter sur (ctx.agent, session))
  Prog.inside (await sur)
  Prog.lift (AgnoRuntimeEngine.buildAgnoAgent sur.call m ctx session args)

/-- `_build_agno_team`. -/
def buildAgnoTeam (ctx : ResolvedTeamContext) (args : RunArgs) : ScopeM AgnoTeam := do
  let memberAgents ← ctx.memberContexts.mapM (openAgent sur m · args)
  Prog.inside (await sur)
  let modelEntry ← Prog.lift (resolveRegistryEntry m none ctx.agentOs.defaultModelId)
  Prog.lift (sur.call.buildModel modelEntry)
  return {
    members := memberAgents
    model := modelEntry
    name := ctx.team.name
    teamId := UuidText.text ctx.team.id
    instructions := ctx.teamPrompt }

/-- `_build_agno_root_team`. -/
def buildAgnoRootTeam (ctx : ResolvedRootContext) (args : RunArgs) : ScopeM AgnoRootTeam := do
  let memberTeams ← ctx.teamContexts.mapM (buildAgnoTeam sur m · args)
  Prog.inside (await sur)
  let modelEntry ← Prog.lift (resolveRegistryEntry m none ctx.agentOs.defaultModelId)
  Prog.lift (sur.call.buildModel modelEntry)
  return {
    members := memberTeams
    model := modelEntry
    name := ctx.agentOs.name ++ " Router"
    teamId := rootTeamId ctx.agentOs
    instructions := ctx.rootPrompt }

/-- Build what a context is executed with. -/
def buildRunnable (args : RunArgs) : Dispatch → ScopeM AgnoRunnable
  | .runtime ctx => AgnoRunnable.agent <$> openAgent sur m ctx args
  | .team ctx => AgnoRunnable.team <$> buildAgnoTeam sur m ctx args
  | .root ctx => AgnoRunnable.rootTeam <$> buildAgnoRootTeam sur m ctx args

/-! ## Runs -/

/-- `await agent.arun(.., stream=False)`. -/
def arun (runnable : AgnoRunnable) (args : RunArgs) : SessionM RunResponse := do
  note (.ran runnable)
  await sur
  Prog.lift (sur.call.arun runnable args)

/-- Build what is executed and run it. -/
def respond (args : RunArgs) (dispatch : Dispatch) : ScopeM RunResponse := do
  let runnable ← buildRunnable sur m args dispatch
  Prog.inside (arun sur runnable args)

/-- `response.content`, or what `str` makes of the response. -/
def contentOf (response : RunResponse) : String :=
  dedupeSelfConcatenated (response.content.getD response.text)

/-- `run`: the session is inside of the `try`. -/
def run (ctx : ResolvedRuntimeContext) (args : RunArgs) : SessionM String :=
  contentOf <$> Prog.handleError
    (Prog.withScope (aexit sur) (respond sur m args (.runtime ctx)))
    (fun exc => Prog.raise (wrapException "Agno agent execution failed: " exc))

/-- The body shared by `run_team` and `run_root`: the `try` is inside of the exit stack. -/
def runMembers (message : String) (dispatch : Dispatch) (args : RunArgs) : SessionM String :=
  contentOf <$> Prog.withScope (aexit sur)
    (Prog.handleError (respond sur m args dispatch)
      (fun exc => Prog.raise (wrapException message exc)))

/-- `run_team`. -/
def runTeam (ctx : ResolvedTeamContext) (args : RunArgs) : SessionM String :=
  runMembers sur m "Agno team execution failed: " (.team ctx) args

/-- `run_root`. -/
def runRoot (ctx : ResolvedRootContext) (args : RunArgs) : SessionM String :=
  runMembers sur m "Agno root team execution failed: " (.root ctx) args

/-! ## Streams -/

/-- `async for event in stream`. -/
def forwardEvents (mapped : AgnoEvent → StreamEvent) (events : List AgnoEvent)
    (failure : Option PyError) : SessionM Unit := do
  Prog.forEach (fun event => do
    await sur
    yieldEvent sur (.forwarded (mapped event))) events
  await sur
  match failure with
  | none => pure ()
  | some exc => Prog.raise exc

/-- Build what is executed, run it and forward the events. -/
def forward (mapped : AgnoEvent → StreamEvent) (args : RunArgs) (dispatch : Dispatch) :
    ScopeM Unit := do
  let runnable ← buildRunnable sur m args dispatch
  Prog.inside (do
    note (.ran runnable)
    await sur
    let (events, failure) := sur.call.arunStream runnable args
    forwardEvents sur mapped events failure)

/-- `except Exception as exc` of a stream. -/
def report (message : String) (exc : PyError) : SessionM Unit :=
  if exc.isException then do
    yieldEvent sur (.reported
      { eventType := "error", payload := { Payload.empty with error := some exc.str } })
    Prog.raise (.runtimeExecution (message ++ exc.str))
  else Prog.raise exc

/-- The metrics, then the UI action plan. -/
def appendEvents (dispatch : Dispatch) : SessionM Unit :=
  Prog.forEach (fun event => yieldEvent sur (.appended event)) (trailingEvents sur.call dispatch)

/-- `run_stream`: the error is reported outside of the session. -/
def runStream (ctx : ResolvedRuntimeContext) (args : RunArgs) : SessionM Unit := do
  Prog.handleError
    (Prog.withScope (aexit sur)
      (forward sur m (mapEvent agnoEventMap agentEventPayload) args (.runtime ctx)))
    (report sur "Agno agent streaming execution failed: ")
  appendEvents sur (.runtime ctx)

/-- The body shared by `run_team_stream` and `run_root_stream`: the error is reported while the
    sessions are open. -/
def runMembersStream (message : String) (mapped : AgnoEvent → StreamEvent) (dispatch : Dispatch)
    (args : RunArgs) : SessionM Unit := do
  Prog.withScope (aexit sur)
    (Prog.handleError (forward sur m mapped args dispatch)
      (fun exc => Prog.inside (report sur message exc)))
  appendEvents sur dispatch

/-- `run_team_stream`. -/
def runTeamStream (ctx : ResolvedTeamContext) (args : RunArgs) : SessionM Unit :=
  runMembersStream sur m "Agno team streaming execution failed: "
    (mapEvent agnoTeamEventMap (teamEventPayload (UuidText.text ctx.team.id))) (.team ctx) args

/-- `run_root_stream`. -/
def runRootStream (ctx : ResolvedRootContext) (args : RunArgs) : SessionM Unit :=
  runMembersStream sur m "Agno root team streaming execution failed: "
    (mapEvent agnoTeamEventMap (teamEventPayload (rootTeamId ctx.agentOs))) (.root ctx) args

/-! ## Whole executions -/

/-- The execution method for a dispatch. -/
def execution (args : RunArgs) : Dispatch → SessionM String
  | .runtime ctx => run sur m ctx args
  | .team ctx => runTeam sur m ctx args
  | .root ctx => runRoot sur m ctx args

/-- The one that streams. -/
def streaming (args : RunArgs) : Dispatch → SessionM Unit
  | .runtime ctx => runStream sur m ctx args
  | .team ctx => runTeamStream sur m ctx args
  | .root ctx => runRootStream sur m ctx args

/-- What an execution leaves in the log. -/
def traceOf (streamed : Bool) (args : RunArgs) (dispatch : Dispatch) : Trace :=
  if streamed then (streaming sur m args dispatch .start).2
  else (execution sur m args dispatch .start).2

end SessionScopes

end AgnoRuntime
