import AgnoRuntime.ForStd.Prog
import AgnoRuntime.Model.Schedule
import AgnoRuntime.Model.Tables

/-!
# The schedule service

`WorkflowScheduleService` (`app/schedule/service.py`) with the request bodies of
`app/schemas/workflow_schedule.py`. A method changes the rows of its session and flushes
them; a method that raises has its session rolled back, whatever it had changed and
flushed by then.

Outside of the service are the croniter package and the database, which may refuse what
is flushed.
-/

namespace AgnoRuntime

open Civil

/-- The croniter package: `croniter.is_valid`, and `croniter(..).get_next(datetime)`. -/
structure Croniter where
  isValid : String → Bool
  getNext : String → Int → Except PyError Int

/-! ## Request bodies -/

/-- `WorkflowScheduleCreate`. -/
structure WorkflowScheduleCreate where
  scheduleType : ScheduleType
  cronExpression : Option String
  intervalSeconds : Option Nat
  inputTemplate : String
  userId : Option String
  enabled : Bool
  intervalGe : ∀ n, intervalSeconds = some n → 10 ≤ n
  inputTemplateLength : 1 ≤ inputTemplate.length
  typeSpecific : match scheduleType with
    | .cron => truthy cronExpression = true
    | .interval => intervalSeconds.isSome = true

/-- The row of a new schedule. -/
def WorkflowScheduleCreate.row (payload : WorkflowScheduleCreate) (workflowId id : Uuid) :
    WorkflowSchedule where
  id := id
  workflowId := workflowId
  scheduleType := payload.scheduleType
  cronExpression := payload.cronExpression
  intervalSeconds := payload.intervalSeconds
  inputTemplate := payload.inputTemplate
  userId := payload.userId
  enabled := payload.enabled
  nextRunAt := none
  lastRunAt := none
  lastStatus := none
  lastError := none
  lastWorkflowRunId := none
  deletedAt := none
  intervalGe := payload.intervalGe

@[simp] theorem WorkflowScheduleCreate.row_id (payload : WorkflowScheduleCreate)
    (workflowId id : Uuid) : (payload.row workflowId id).id = id := rfl

/-- `WorkflowScheduleUpdate`: a field that is sent may be sent as `null`. -/
structure WorkflowScheduleUpdate where
  cronExpression : Option (Option String)
  intervalSeconds : Option (Option Nat)
  inputTemplate : Option (Option String)
  userId : Option (Option String)
  enabled : Option (Option Bool)
  intervalGe : ∀ n, intervalSeconds = some (some n) → 10 ≤ n

namespace WorkflowScheduleUpdate

variable (payload : WorkflowScheduleUpdate)

/-- `BaseRepository.update`: a `null` leaves the column as it is. -/
def applyTo (schedule : WorkflowSchedule) : WorkflowSchedule :=
  { schedule with
    cronExpression := payload.cronExpression.join.or schedule.cronExpression
    intervalSeconds := payload.intervalSeconds.join.or schedule.intervalSeconds
    inputTemplate := payload.inputTemplate.join.getD schedule.inputTemplate
    userId := payload.userId.join.or schedule.userId
    enabled := payload.enabled.join.getD schedule.enabled
    intervalGe := by
      intro n h
      obtain hsent | ⟨-, hkept⟩ := Option.or_eq_some_iff.mp h
      · exact payload.intervalGe n (Option.join_eq_some_iff.mp hsent)
      · exact schedule.intervalGe n hkept }

@[simp] theorem applyTo_id (schedule : WorkflowSchedule) :
    (payload.applyTo schedule).id = schedule.id := rfl

/-- A field that next_run_at depends on is sent, with a value or as `null`. -/
def sendsTiming : Bool :=
  payload.cronExpression.isSome || payload.intervalSeconds.isSome || payload.enabled.isSome

end WorkflowScheduleUpdate

/-! ## The service -/

/-- Programs of the service; the state is the rows of the session. -/
abbrev ScheduleM := Prog PyError (KeyedTable WorkflowSchedule.id)

/-- A call of the service: its instant, and what the database says of the rows of a flush. -/
structure ScheduleSession where
  now : DateTime
  refuses : KeyedTable WorkflowSchedule.id → Option PyError

namespace WorkflowScheduleService

variable (croniter : Croniter) (session : ScheduleSession)

/-- `session.flush()`. -/
def flush : ScheduleM Unit := fun table =>
  match session.refuses table with
  | none => (.ok (), table)
  | some exc => (.error exc, table)

/-- Assign to the row of a schedule, and flush. -/
def assign (id : Uuid) (f : WorkflowSchedule → WorkflowSchedule) (hf : ∀ s, (f s).id = s.id) :
    ScheduleM Unit := do
  Prog.modify fun table => table.update id f hf
  flush session

/-- The row with another `next_run_at`. -/
def withNextRunAt (nextRunAt : Option Int) (schedule : WorkflowSchedule) : WorkflowSchedule :=
  { schedule with nextRunAt }

@[simp] theorem withNextRunAt_id (nextRunAt : Option Int) (schedule : WorkflowSchedule) :
    (withNextRunAt nextRunAt schedule).id = schedule.id := rfl

/-- `compute_next_run_at(schedule) if schedule.enabled else None`. -/
def nextIfEnabled (schedule : WorkflowSchedule) : Except PyError (Option Int) :=
  if schedule.enabled then
    some <$> computeNextRunAt croniter.getNext schedule session.now.micros
  else pure none

/-- `create`; `workflows` is the table it looks the workflow up in. -/
def create (workflows : KeyedTable Workflow.id) (workflowId : Uuid)
    (payload : WorkflowScheduleCreate) : ScheduleM Unit := do
  Prog.lift (Except.raiseUnless (BaseRepository.get workflows workflowId).isSome
    (.notFound ("Workflow " ++ UuidText.text workflowId ++ " not found")))
  Prog.lift (Except.raiseUnless
    (payload.scheduleType ≠ .cron || payload.cronExpression.any croniter.isValid)
    (.validationFailed
      ("Invalid cron_expression: '" ++ payload.cronExpression.getD "" ++ "'")))
  let table ← Prog.read
  Prog.modify fun table => table.insertFresh (payload.row workflowId) (payload.row_id workflowId)
  flush session
  -- the row has been flushed without a time, and gets one whether it is enabled or not
  let schedule := payload.row workflowId table.freshKey
  let nextRunAt ←
    Prog.lift (computeNextRunAt croniter.getNext schedule session.now.micros)
  assign session schedule.id (withNextRunAt (some nextRunAt)) (withNextRunAt_id _)

/-- `update`: the row is changed, and flushed, before `next_run_at` is computed. -/
def update (scheduleId : Uuid) (payload : WorkflowScheduleUpdate) : ScheduleM Unit := do
  let table ← Prog.read
  let schedule ← Prog.lift (BaseRepository.getOr404 table "WorkflowSchedule" scheduleId)
  assign session scheduleId payload.applyTo payload.applyTo_id
  if payload.sendsTiming then
    let nextRunAt ← Prog.lift (nextIfEnabled croniter session (payload.applyTo schedule))
    assign session scheduleId (withNextRunAt nextRunAt) (withNextRunAt_id _)

/-- The columns that `record_fired` writes. -/
def withFired (fired schedule : WorkflowSchedule) : WorkflowSchedule :=
  { schedule with
    lastRunAt := fired.lastRunAt
    lastStatus := fired.lastStatus
    lastError := fired.lastError
    lastWorkflowRunId := fired.lastWorkflowRunId
    nextRunAt := fired.nextRunAt }

@[simp] theorem withFired_id (fired schedule : WorkflowSchedule) :
    (withFired fired schedule).id = schedule.id := rfl

/-- `record_fired`. -/
def recordFired (schedule : WorkflowSchedule) (outcome : RunOutcome) : ScheduleM Unit := do
  let fired ← Prog.lift
    (AgnoRuntime.recordFired croniter.getNext schedule session.now.micros outcome)
  assign session schedule.id (withFired fired) (withFired_id fired)

/-- The row with its `deleted_at` set. -/
def withDeletedAt (deletedAt : DateTime) (schedule : WorkflowSchedule) : WorkflowSchedule :=
  { schedule with deletedAt := some deletedAt }

@[simp] theorem withDeletedAt_id (deletedAt : DateTime) (schedule : WorkflowSchedule) :
    (withDeletedAt deletedAt schedule).id = schedule.id := rfl

/-- `delete`. -/
def delete (scheduleId : Uuid) : ScheduleM Unit := do
  let table ← Prog.read
  let schedule ← Prog.lift (BaseRepository.getOr404 table "WorkflowSchedule" scheduleId)
  assign session schedule.id (withDeletedAt session.now) (withDeletedAt_id _)

end WorkflowScheduleService

/-! ## Histories -/

/-- An operation on schedules. -/
inductive ScheduleRequest where
  | create (workflows : KeyedTable Workflow.id) (workflowId : Uuid)
      (payload : WorkflowScheduleCreate)
  | update (scheduleId : Uuid) (payload : WorkflowScheduleUpdate)
  | recordFired (scheduleId : Uuid) (outcome : RunOutcome)
  | delete (scheduleId : Uuid)

namespace ScheduleRequest

variable (croniter : Croniter) (session : ScheduleSession)

/-- What an operation does. `record_fired` is called with a stored schedule, deleted or not. -/
def handle : ScheduleRequest → ScheduleM Unit
  | .create workflows workflowId payload =>
    WorkflowScheduleService.create croniter session workflows workflowId payload
  | .update scheduleId payload => WorkflowScheduleService.update croniter session scheduleId payload
  | .recordFired scheduleId outcome => do
    let table ← Prog.read
    match table.find? scheduleId with
    | some schedule => WorkflowScheduleService.recordFired croniter session schedule outcome
    | none => pure ()
  | .delete scheduleId => WorkflowScheduleService.delete session scheduleId

/-- The rows after an operation in a session of its own, which is rolled back if it raises. -/
def serve (request : ScheduleRequest) (table : KeyedTable WorkflowSchedule.id) :
    KeyedTable WorkflowSchedule.id :=
  match request.handle croniter session table with
  | (.ok _, table') => table'
  | (.error _, _) => table

end ScheduleRequest

/-- The rows after a history of operations on an empty table. -/
def schedulesAfter (croniter : Croniter) (history : List (ScheduleSession × ScheduleRequest)) :
    KeyedTable WorkflowSchedule.id :=
  history.foldl (fun table call => call.2.serve croniter call.1 table) .empty

end AgnoRuntime
