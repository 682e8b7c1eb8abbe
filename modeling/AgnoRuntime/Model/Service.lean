import AgnoRuntime.ForStd.Prog
import AgnoRuntime.Model.Identity
import AgnoRuntime.Model.Tables

/-!
# What the services run on

A service of the platform is a program over a `World`: the SQLAlchemy session of
its request (`app/db/session.py`: `autoflush=False`, `expire_on_commit=False`),
Redis, and what has been sent to the client so far. The session sees its own
transaction, `working`, over the `committed` tables; once the database has refused
a statement it refuses every further one until it is rolled back.

What lies outside is one record, `Env`. Its answers depend on how many exchanges
there were before (`ticks`), so that it may change its mind at any time.

The other fields of the world record what happened and are read by nothing but the
numbering of the engine calls and of the items sent: `statements`, `decisions`,
`engineCalls` and `engineErrors`, and what the workflows did that agents triggered
while the engine ran, `toolDecisions` and `toolCalls`.
-/

namespace AgnoRuntime

open Civil

/-! ## Outside -/

/-- A statement a session sends to the database. -/
inductive Statement where
  | insert (table : Table)
  | setRunStatus (id : Uuid) (status : RunStatus)
  | setWorkflowRunStatus (id : Uuid) (status : WorkflowRunStatus)
  | setStepStatus (id : Uuid) (status : WorkflowStepStatus)
  | setPlanStatus (id : Uuid) (status : ExecutionPlanRunStatus)
  | setPlanStepStatus (id : Uuid) (status : ExecutionStepStatus)
  | commit
deriving DecidableEq

/-- What `_get_or_create_session` decides. -/
inductive SessionDecision where
  | continued (id : Uuid)
  | refused (id : Uuid)
  | created (id : Uuid) (userId : Option String)
deriving DecidableEq

/-- A decision about one session, for one user. -/
def SessionDecision.On (id : Uuid) (userId : Option String) (decision : SessionDecision) : Prop :=
  decision = .continued id ∨ decision = .refused id ∨ decision = .created id userId

/-- A call of one of the engine's execution methods. -/
structure EngineCall where
  dispatch : Dispatch
  args : RunArgs

/-! ### Tools

The tools of an agent work in the session of the request. `remember_fact` writes `agent_memories`,
and Agno its own tables; neither are among the tables here. `trigger_workflow` runs a workflow, for
the session and the user of the call of the engine in which the agent uses it. -/

/-- What the workflows leave alone that tools run: they can add a chat session, append messages
    without a run, and add workflow runs with steps and events of their own. -/
structure KeptByRuns (db db' : Db) : Prop where
  metadata : db'.metadata = db.metadata
  agentRuns : db'.agentRuns = db.agentRuns
  agentEvents : db'.agentEvents = db.agentEvents
  workflows : db'.workflows = db.workflows
  workflowSteps : db'.workflowSteps = db.workflowSteps
  executionPlanRuns : db'.executionPlanRuns = db.executionPlanRuns
  executionPlanStepRuns : db'.executionPlanStepRuns = db.executionPlanStepRuns
  quotaPolicies : db'.quotaPolicies = db.quotaPolicies
  quotaUsageEvents : db'.quotaUsageEvents = db.quotaUsageEvents
  chatSessions : ∀ s ∈ db.chatSessions.rows, s ∈ db'.chatSessions.rows
  chatMessages : ∃ new, db'.chatMessages = db.chatMessages ++ new ∧ ∀ m ∈ new, m.runId = none
  workflowRuns : ∀ r ∈ db.workflowRuns.rows, r ∈ db'.workflowRuns.rows
  workflowRunSteps : ∃ new, db'.workflowRunSteps.rows = db.workflowRunSteps.rows ++ new ∧
    ∀ s ∈ new, ∀ r ∈ db.workflowRuns.rows, s.workflowRunId ≠ r.id
  workflowEvents : ∃ new, db'.workflowEvents = db.workflowEvents ++ new ∧
    ∀ e ∈ new, ∀ r ∈ db.workflowRuns.rows, e.workflowRunId ≠ r.id

/-- Writing nothing. -/
theorem KeptByRuns.refl (db : Db) : KeptByRuns db db where
  metadata := rfl
  agentRuns := rfl
  agentEvents := rfl
  workflows := rfl
  workflowSteps := rfl
  executionPlanRuns := rfl
  executionPlanStepRuns := rfl
  quotaPolicies := rfl
  quotaUsageEvents := rfl
  chatSessions := fun _ h => h
  chatMessages := ⟨[], (List.append_nil _).symm, fun _ h => by cases h⟩
  workflowRuns := fun _ h => h
  workflowRunSteps := ⟨[], (List.append_nil _).symm, fun _ h => by cases h⟩
  workflowEvents := ⟨[], (List.append_nil _).symm, fun _ h => by cases h⟩

/-- What the tools leave alone in a call of the engine: a session they add is the call's own, of
    the call's user. -/
structure KeptByTools (args : RunArgs) (db db' : Db) : Prop extends KeptByRuns db db' where
  newSessions : ∀ s ∈ db'.chatSessions.rows,
    s ∈ db.chatSessions.rows ∨ s.id = args.sessionId ∧ s.userId = args.userId

/-- A call of the engine by a workflow that was triggered in a call with these arguments. -/
structure NestedCall (args : RunArgs) (m : Metadata) (call : EngineCall) : Prop where
  sessionId : call.args.sessionId = args.sessionId
  userId : call.args.userId = args.userId
  resolved : ∃ scan, AgnoRuntimeEngine.Resolves scan m call.dispatch

/-- What tools do in a call of the engine with these arguments: what they write, and what the
    workflows decide and call that they trigger. A workflow whose statement the database refuses
    leaves the session of the request out of order, so that the next statement of the request itself
    fails as well: that is for `Env.refuses` to say. -/
structure ToolWrites (args : RunArgs) where
  apply : Db → Db
  decisions : Db → List SessionDecision
  calls : Db → List EngineCall
  kept : ∀ db, KeptByTools args db (apply db)
  decided : ∀ db, ∀ d ∈ decisions db, d.On args.sessionId args.userId
  nested : ∀ db, ∀ call ∈ calls db, NestedCall args db.metadata call

/-- Tools that are not used. -/
def ToolWrites.none {args : RunArgs} : ToolWrites args where
  apply db := db
  decisions _ := []
  calls _ := []
  kept db := { KeptByRuns.refl db with newSessions := fun _ h => .inl h }
  decided _ _ h := by cases h
  nested _ _ h := by cases h

/-- What a request meets outside the services. -/
structure Env where
  settings : Settings
  identity : Option VerifiedIdentity
  hierarchyScan : HierarchyScan
  policyScan : ScanOrder QuotaPolicy
  now : Nat → DateTime
  /-- Why the database refuses a statement that would leave the tables so, if it does. -/
  refuses : Nat → Statement → Db → Option String
  /-- Why a Redis command fails, if it does. -/
  redisFails : Nat → Option String
  /-- `POST /runs/{id}/cancel` has set the Redis key of the run. -/
  cancelRequested : Nat → Uuid → Bool
  /-- The n-th call of the engine. -/
  call : Nat → AgnoCall
  /-- What tools do before the i-th event of the n-th call, or in the whole call. -/
  tools : Nat → (args : RunArgs) → Nat → ToolWrites args
  /-- The client is gone when the n-th item is sent: the only moment at which a stream is closed.
      A cancellation inside of an `await` is not modelled. -/
  closes : Nat → Bool

namespace Env

variable (env : Env)

/-- Every call succeeds and the client reads to the end. -/
structure Healthy : Prop where
  accepts : ∀ n s db, env.refuses n s db = none
  redisAnswers : ∀ n, env.redisFails n = none
  attended : ∀ n, env.closes n = false

end Env

/-! ## The world of a request -/

/-- The `data` of an event of the chat stream; `agui` and `ui_status` are functions of the
    payload. -/
inductive ChatEventData where
  | started (agent team : String)
  | engine (payload : Payload)
  | cancelled (message partialMessage : String)
  | error (error : String)
  | completed (message : String)
deriving DecidableEq

/-- The `data` of an event of the workflow stream. -/
inductive WorkflowEventData where
  | input (input : String)
  | stepStarted (stepOrder : Int) (stepType : String)
  | stepEvent (stepOrder : Int) (payload : Payload)
  | stepCompleted (stepOrder : Int) (output : String)
  | stepFailed (stepOrder : Int) (error : String)
  | error (error : String)
  | result (result : String)
deriving DecidableEq

/-- An item of a stream. -/
inductive StreamItem where
  | chat (eventType : String) (runId sessionId : Uuid) (data : ChatEventData)
  | workflow (eventType : String) (workflowRunId : Uuid) (data : WorkflowEventData)
deriving DecidableEq

/-- The state a service runs on. -/
structure World where
  committed : Db
  working : Db
  failed : Bool
  /-- A rollback has expired the objects that the session has loaded. -/
  expired : Bool
  redis : Redis
  ticks : Nat
  yielded : List StreamItem
  statements : List Statement
  decisions : List SessionDecision
  engineCalls : List EngineCall
  engineErrors : List PyError
  toolDecisions : List SessionDecision
  toolCalls : List EngineCall

/-- What outlives a request. -/
structure Store where
  db : Db
  redis : Redis

/-- The world a request starts in. -/
def World.start (store : Store) : World where
  committed := store.db
  working := store.db
  failed := false
  expired := false
  redis := store.redis
  ticks := 0
  yielded := []
  statements := []
  decisions := []
  engineCalls := []
  engineErrors := []
  toolDecisions := []
  toolCalls := []

/-- Every call of the engine, those of triggered workflows included. -/
def World.allCalls (w : World) : List EngineCall := w.engineCalls ++ w.toolCalls

/-- Every decision about a session, those of triggered workflows included. -/
def World.allDecisions (w : World) : List SessionDecision := w.decisions ++ w.toolDecisions

/-- The world after tools have been used. -/
def World.tooled {args : RunArgs} (w : World) (writes : ToolWrites args) : World :=
  { w with
    working := writes.apply w.working
    toolDecisions := w.toolDecisions ++ writes.decisions w.working
    toolCalls := w.toolCalls ++ writes.calls w.working }

/-- What a request leaves behind. -/
def World.store (w : World) : Store := ⟨w.committed, w.redis⟩

/-- Service programs. -/
abbrev Svc (α : Type) : Type := Prog PyError World α

namespace Svc

variable (env : Env) {α : Type}

/-! ## The session -/

/-- Change objects of the session, without a flush. -/
def touch (f : Db → Db) : Svc Unit := Prog.modify fun w => { w with working := f w.working }

/-- Send a statement. -/
def send (s : Statement) : Svc Unit := fun w =>
  -- after a failed flush the session refuses everything until it is rolled back
  if w.failed then (.error .pendingRollback, w)
  else
    match env.refuses w.ticks s w.working with
    | some message => (.error (.other message), { w with failed := true, ticks := w.ticks + 1 })
    | none => (.ok (), { w with ticks := w.ticks + 1, statements := w.statements ++ [s] })

/-- Change objects of the session and flush. -/
def write (s : Statement) (f : Db → Db) : Svc Unit := do
  touch f
  send env s

/-- A flush that violates a constraint. -/
def violate (constraint : String) : Svc α := fun w =>
  if w.failed then (.error .pendingRollback, w)
  else (.error (.integrityError constraint), { w with failed := true })

/-- `session.commit()`. -/
def commit : Svc Unit := do
  send env .commit
  Prog.modify fun w => { w with committed := w.working }

/-- `session.rollback()`, which expires every object that the session has loaded, `expire_on_commit`
    or not. -/
def rollback : Svc Unit :=
  Prog.modify fun w => { w with working := w.committed, failed := false, expired := true }

/-- `MissingGreenlet`. -/
def missingGreenlet : PyError :=
  .other ("greenlet_spawn has not been called; can't call await_only() here. " ++
    "Was IO attempted in an unexpected place?")

/-- Read attributes of objects that were loaded before: one that has expired would be loaded again,
    which no attribute access can wait for. -/
def attributes : Svc Unit := fun w =>
  if w.expired then (.error missingGreenlet, w) else (.ok (), w)

/-- A query. -/
def query (f : Db → α) : Svc α := fun w =>
  if w.failed then (.error .pendingRollback, w) else (.ok (f w.working), w)

/-- A query that can raise. -/
def fetch (f : Db → Except PyError α) : Svc α := do
  let outcome ← query f
  Prog.lift outcome

/-- `get_db` and `session_scope` around a request: commit its work, or roll it back and
    re-raise. An exception that is no `Exception` closes the session, which rolls back too. -/
def getDb (x : Svc α) : Svc α :=
  Prog.handleError
    (do
      let a ← x
      commit env
      pure a)
    (fun exc => do
      rollback
      Prog.raise exc)

/-- The session of a streamed response, which `get_db` has closed before the first item: what the
    service has not committed itself is lost. -/
def streamed (x : Svc Unit) : Svc Unit := do
  let outcome ← Prog.attempt x
  rollback
  Prog.lift outcome

/-! ## Redis, the clock and the client -/

/-- A Redis command. -/
def redisCommand (f : Redis → Redis) : Svc Unit := fun w =>
  match env.redisFails w.ticks with
  | some message => (.error (.other message), { w with ticks := w.ticks + 1 })
  | none => (.ok (), { w with redis := f w.redis, ticks := w.ticks + 1 })

/-- `datetime.now(timezone.utc)`. -/
def now : Svc DateTime := do
  let w ← Prog.read
  return env.now w.ticks

/-- `is_cancelled`. -/
def isCancelled (runId : Uuid) : Svc Bool := do
  let w ← Prog.read
  redisCommand env id
  return env.cancelRequested w.ticks runId

/-- `yield`: a client that is gone closes the generator there. -/
def yieldItem (item : StreamItem) : Svc Unit := do
  let w ← Prog.read
  -- the item is handed over before the generator is closed
  Prog.modify fun w => { w with yielded := w.yielded ++ [item] }
  if env.closes w.yielded.length then Prog.raise .generatorExit else pure ()

/-! ## The engine -/

/-- Note a decision. -/
def note (decision : SessionDecision) : Svc Unit :=
  Prog.modify fun w => { w with decisions := w.decisions ++ [decision] }

/-- An outcome of the engine: what it raises is noted. -/
def engineOutcome (outcome : Except PyError α) : Svc α :=
  match outcome with
  | .ok a => pure a
  | .error exc => do
    Prog.modify fun w => { w with engineErrors := w.engineErrors ++ [exc] }
    Prog.raise exc

/-- Tools are used. -/
def useTools {args : RunArgs} (writes : ToolWrites args) : Svc Unit :=
  Prog.modify fun w => w.tooled writes

/-- Note a call of the engine; its number. -/
def noteCall (dispatch : Dispatch) (args : RunArgs) : Svc Nat := do
  let w ← Prog.read
  Prog.modify fun w => { w with engineCalls := w.engineCalls ++ [⟨dispatch, args⟩] }
  return w.engineCalls.length

/-- The method that executes a context. -/
def runMethod (dispatch : Dispatch) (args : RunArgs) (call : AgnoCall) (m : Metadata) :
    EngineM String :=
  match dispatch with
  | .runtime ctx => AgnoRuntimeEngine.run call m ctx args
  | .team ctx => AgnoRuntimeEngine.runTeam call m ctx args
  | .root ctx => AgnoRuntimeEngine.runRoot call m ctx args

/-- The method that executes a context as a stream. -/
def streamMethod (dispatch : Dispatch) (args : RunArgs) (call : AgnoCall) (m : Metadata) :
    EngineM EventStream :=
  match dispatch with
  | .runtime ctx => AgnoRuntimeEngine.runStream call m ctx args
  | .team ctx => AgnoRuntimeEngine.runTeamStream call m ctx args
  | .root ctx => AgnoRuntimeEngine.runRootStream call m ctx args

/-- What a call of the engine returns, given the metadata. -/
def runOutcome (dispatch : Dispatch) (args : RunArgs) (call : AgnoCall) (m : Metadata) :
    Except PyError String :=
  (runMethod dispatch args call m []).1

/-- The stream a call of the engine returns, given the metadata. -/
def streamOutcome (dispatch : Dispatch) (args : RunArgs) (call : AgnoCall) (m : Metadata) :
    EventStream :=
  match (streamMethod dispatch args call m []).1 with
  | .ok stream => stream
  -- the first `__anext__` raises
  | .error exc => ⟨[], some exc⟩

/-- `engine.run`, `engine.run_team`, `engine.run_root`. -/
def run (dispatch : Dispatch) (args : RunArgs) : Svc String := do
  let w ← Prog.read
  let n ← noteCall dispatch args
  useTools (env.tools n args 0)
  engineOutcome (runOutcome dispatch args (env.call n) w.working.metadata)

/-- A stream being consumed: its events, and what tools do before the i-th of them. -/
structure LiveStream (args : RunArgs) where
  stream : EventStream
  tools : Nat → ToolWrites args

/-- `engine.run_stream`, `engine.run_team_stream`, `engine.run_root_stream`. -/
def openStream (dispatch : Dispatch) (args : RunArgs) : Svc (LiveStream args) := do
  let w ← Prog.read
  let n ← noteCall dispatch args
  return ⟨streamOutcome dispatch args (env.call n) w.working.metadata, env.tools n args⟩

/-- The end of the stream, or the exception that ends it. -/
def endStream {args : RunArgs} (live : LiveStream args) : Svc Unit := do
  useTools (live.tools live.stream.events.length)
  match live.stream.error with
  | none => pure ()
  | some exc => engineOutcome (.error exc)

end Svc

end AgnoRuntime
