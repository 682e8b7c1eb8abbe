import AgnoRuntime.ForStd.Json
import AgnoRuntime.ForStd.Polling
import AgnoRuntime.ForStd.Runs
import AgnoRuntime.Model.Tables

/-!
# The streams that tail a table

`GET /runs/{id}/stream` (`app/api/v1/runs.py`) and `GET /runtime-events/stream`
(`app/api/v1/runtime_events.py`): each polls the database in a loop, yields the
events it has not seen and goes to sleep.

A SELECT sees what is committed when it runs. The tail of a run reads the run
and its events by two statements, and others commit before, between and after
them. Both statements run in one session, whose identity map keeps the instance
of the run as it was first loaded: a later SELECT of the row does not overwrite
its attributes while the instance is referenced, which the loop's variable
does.
-/

namespace AgnoRuntime

open Civil

/-! ## The tail of a run -/

/-- What `GET /runs/{id}/stream` sends. An event is known by its position in the table. -/
inductive RunTailItem where
  | error (message : String)
  | event (id : Nat) (event : AgentEvent)
  | streamClosed (status : RunStatus)
deriving DecidableEq

/-- Where the loop of the tail stands. -/
inductive TailPhase where
  | asleep
  | runRead
  | closed
deriving DecidableEq

/-- The generator of `stream_run_events`: the instance of the run in its session,
    the events seen, what was yielded. -/
structure RunTail where
  phase : TailPhase
  loaded : Option AgentRun
  seenIds : List Nat
  yielded : List RunTailItem

namespace RunTail

/-- Before the first poll. -/
def start : RunTail := ⟨.asleep, none, [], []⟩

/-- The instance a SELECT by key returns: an instance the session holds keeps its
    attributes. -/
def instanceOf {α : Type} (held row : Option α) : Option α :=
  row.map fun r => held.getD r

/-- `list_by_run`, with the events' ids. -/
def eventsOf (db : Db) (runId : Uuid) : List (AgentEvent × Nat) :=
  db.agentEvents.zipIdx.filter fun p => p.1.runId = runId

/-- `run = await run_repo.get(run_id)`, and what follows when there is none. -/
def readRun (db : Db) (runId : Uuid) (tail : RunTail) : RunTail :=
  match instanceOf tail.loaded (db.agentRuns.find? runId) with
  | none =>
    { tail with
      phase := .closed
      yielded := tail.yielded ++ [.error "run not found"] }
  | some run => { tail with phase := .runRead, loaded := some run }

/-- The rest of an iteration: the new events, and the end of the stream when the
    run is over. -/
def readEvents (db : Db) (runId : Uuid) (tail : RunTail) : RunTail :=
  let events := Polling.takeNew Prod.snd tail.seenIds (eventsOf db runId)
  let yielded := tail.yielded ++ events.map fun p => .event p.2 p.1
  let seenIds := tail.seenIds ++ events.map Prod.snd
  -- the status of the instance, which may be older than the row
  match tail.loaded.filter (·.status.isTerminal) with
  | some run =>
    { tail with phase := .closed, seenIds, yielded := yielded ++ [.streamClosed run.status] }
  | none => { tail with phase := .asleep, seenIds, yielded }

/-- What happens: somebody commits, or the tail runs its next statement. -/
inductive Step where
  | commit (db : Db)
  | readRun
  | readEvents

/-- One step of the database and a tail. Events that are committed stay. -/
def step (runId : Uuid) : Db × RunTail → Step → Option (Db × RunTail)
  | (db, tail), .commit db' =>
    -- no transaction of the platform deletes or changes an event
    if db.agentEvents <+: db'.agentEvents then some (db', tail) else none
  | (db, tail), .readRun =>
    if tail.phase = .asleep then some (db, tail.readRun db runId) else none
  | (db, tail), .readEvents =>
    if tail.phase = .runRead then some (db, tail.readEvents db runId) else none

end RunTail

/-! ## The tail of an entity -/

/-- `RuntimeEvent`. -/
structure RuntimeEvent where
  id : Uuid
  entityType : String
  entityId : String
  eventName : String
  payload : Json
  correlationId : Option String
  createdAt : Int

/-- The model has no `deleted_at`. -/
instance : SoftDelete RuntimeEvent := ⟨fun _ => none⟩

abbrev RuntimeEventTable := KeyedTable RuntimeEvent.id

/-- `RuntimeEventRepository.list_by_entity`. -/
def RuntimeEventRepository.listByEntity (scan : ScanOrder RuntimeEvent) (table : RuntimeEventTable)
    (entityType entityId : String) (offset limit : Nat) : List RuntimeEvent × Nat :=
  BaseRepository.list scan table
    (fun e => e.entityType = entityType && e.entityId = entityId) offset limit

/-- What is emitted: the arguments of `emit_runtime_event`. -/
structure RuntimeEventCreate where
  entityType : String
  entityId : String
  eventName : String
  payload : Json
  correlationId : Option String

/-- `emit_runtime_event`, or `EventEngineService.emit`, committed at `now`. -/
def emitRuntimeEvent (payload : RuntimeEventCreate) (now : Int) (table : RuntimeEventTable) :
    RuntimeEventTable :=
  table.insertFresh (fun id =>
    { id
      entityType := payload.entityType
      entityId := payload.entityId
      eventName := payload.eventName
      payload := payload.payload
      correlationId := payload.correlationId
      createdAt := now }) (fun _ => rfl)

/-- A value that the inner loop of the tail comes upon. -/
inductive LoopValue where
  | event (event : RuntimeEvent)
  | list (items : List RuntimeEvent)
  | int (n : Nat)

/-- The members of the pair that `list_by_entity` returns: the list of the events, and how many
    there are. -/
def LoopValue.membersOf (page : List RuntimeEvent × Nat) : List LoopValue :=
  [.list page.1, .int page.2]

/-- The generator of `stream_runtime_events`: the events seen, what was yielded, and the exception
    that has ended it. -/
structure EntityTail where
  seenIds : List Uuid
  yielded : List RuntimeEvent
  raised : Option PyError

namespace EntityTail

/-- Before the first poll. -/
def start : EntityTail := ⟨[], [], none⟩

/-- What the access to an attribute raises that a value of this type does not have. -/
def attributeError (typeName name : String) : PyError :=
  .other ("'" ++ typeName ++ "' object has no attribute '" ++ name ++ "'")

/-- The inner loop: it asks each value for its `id`. -/
def forward : List LoopValue → EntityTail → EntityTail
  | [], tail => tail
  | .event event :: values, tail =>
    if event.id ∈ tail.seenIds then forward values tail
    else forward values
      { tail with seenIds := tail.seenIds ++ [event.id], yielded := tail.yielded ++ [event] }
  | .list _ :: _, tail => { tail with raised := some (attributeError "list" "id") }
  | .int _ :: _, tail => { tail with raised := some (attributeError "int" "id") }

/-- One iteration of the outer loop. The page is not unpacked: the inner loop runs over the members
    of the pair. -/
def poll (scan : ScanOrder RuntimeEvent) (table : RuntimeEventTable) (entityType entityId : String)
    (tail : EntityTail) : EntityTail :=
  match tail.raised with
  | some _ => tail
  | none =>
    tail.forward
      (LoopValue.membersOf (RuntimeEventRepository.listByEntity scan table entityType entityId 0 200))

/-- What happens: an event is committed, or the tail polls. -/
inductive Step where
  | emit (payload : RuntimeEventCreate) (now : Int)
  | poll

/-- One step; `scan` is the order in which the database returns the page of the poll. -/
def step (entityType entityId : String) (scan : ScanOrder RuntimeEvent) :
    RuntimeEventTable × EntityTail → Step → RuntimeEventTable × EntityTail
  | (table, tail), .emit payload now => (emitRuntimeEvent payload now table, tail)
  | (table, tail), .poll => (table, tail.poll scan table entityType entityId)

/-- The database and the tail after a history that starts with no events; the
    order of the page may differ from poll to poll. -/
def run (entityType entityId : String) (scan : Nat → ScanOrder RuntimeEvent)
    (history : List Step) : RuntimeEventTable × EntityTail :=
  history.zipIdx.foldl (fun s p => step entityType entityId (scan p.2) s p.1)
    (KeyedTable.empty, start)

end EntityTail

end AgnoRuntime
