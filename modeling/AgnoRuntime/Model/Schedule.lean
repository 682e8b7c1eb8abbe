import AgnoRuntime.Model.Base
import AgnoRuntime.ForStd.Runs
import Mathlib.Data.List.Sort

/-!
# Workflow schedules and the ticker

`app/models/workflow_schedule.py`, the query `list_due` of
`app/repositories/workflow_schedule_repository.py`, `compute_next_run_at` and
`record_fired` of `app/schedule/service.py`, and the polling loop of
`app/schedule/ticker.py`, which any number of replicas run against one database
and one Redis.

Instants are microseconds since the epoch. A step of the system is one database
transaction or one Redis command of one replica, or time passing; a workflow run
lasts from the step that starts it to the step that commits its outcome.
-/

namespace AgnoRuntime

open Civil

/-- `ScheduleType`. -/
inductive ScheduleType where
  | cron | interval
deriving DecidableEq

/-- `WorkflowSchedule`. The schema admits intervals of at least 10 seconds. -/
structure WorkflowSchedule where
  id : Uuid
  workflowId : Uuid
  scheduleType : ScheduleType
  cronExpression : Option String
  intervalSeconds : Option Nat
  inputTemplate : String
  userId : Option String
  enabled : Bool
  nextRunAt : Option Int
  lastRunAt : Option Int
  lastStatus : Option String
  lastError : Option String
  lastWorkflowRunId : Option Uuid
  deletedAt : Option DateTime
  intervalGe : ∀ n, intervalSeconds = some n → 10 ≤ n

instance : SoftDelete WorkflowSchedule := ⟨WorkflowSchedule.deletedAt⟩

/-- The occurrence a schedule is due for: one value of its `next_run_at`. -/
def WorkflowSchedule.occurrence (schedule : WorkflowSchedule) : Uuid × Option Int :=
  (schedule.id, schedule.nextRunAt)

/-- `compute_next_run_at`; `nextCron` is `croniter(...).get_next`. -/
def computeNextRunAt (nextCron : String → Int → Except PyError Int) (schedule : WorkflowSchedule)
    (after : Int) : Except PyError Int :=
  match schedule.scheduleType with
  | .interval =>
    match schedule.intervalSeconds with
    | some n => .ok (after + n * 1000000)
    | none => .error (.other "unsupported type for timedelta seconds component: NoneType")
  | .cron =>
    match schedule.cronExpression with
    | some expression => nextCron expression after
    | none => .error (.other "'NoneType' object has no attribute 'split'")

/-- `WorkflowScheduleRepository.list_due`: at most `limit` rows, the earliest first; `scan` is
    the order in which the database returns rows due at the same instant. -/
def WorkflowScheduleRepository.listDue (scan : ScanOrder WorkflowSchedule)
    (table : KeyedTable WorkflowSchedule.id) (asOf : Int) (limit : Nat) : List WorkflowSchedule :=
  ((scan.order (table.rows.filter fun s =>
      isLive s && s.enabled && s.nextRunAt.any (· ≤ asOf))).insertionSort
    fun s s' => s.nextRunAt.getD 0 ≤ s'.nextRunAt.getD 0).take limit

/-- How a scheduled run ended: `run_workflow` returned, or it raised. -/
inductive RunOutcome where
  | returned (status : String) (workflowRunId : Uuid)
  | raised (error : String)

/-- `record_fired`, as `_fire_one` calls it for an outcome. -/
def recordFired (nextCron : String → Int → Except PyError Int) (schedule : WorkflowSchedule)
    (now : Int) (outcome : RunOutcome) : Except PyError WorkflowSchedule := do
  -- the next run counts from the end of this one
  let nextRunAt ← if schedule.enabled then some <$> computeNextRunAt nextCron schedule now
    else pure none
  match outcome with
  | .returned status workflowRunId =>
    pure { schedule with
      lastRunAt := some now, lastStatus := some status, lastError := none,
      lastWorkflowRunId := some workflowRunId, nextRunAt }
  | .raised error =>
    pure { schedule with
      lastRunAt := some now, lastStatus := some "FAILED", lastError := some error,
      lastWorkflowRunId := none, nextRunAt }

/-! ## The replicas -/

/-- Where a replica stands in `run_ticker_loop`; `due` are the polled schedules it has not come
    to yet. -/
inductive TickerPhase where
  | sleeping
  | firing (due : List WorkflowSchedule)
  | locked (schedule : WorkflowSchedule) (due : List WorkflowSchedule)
  | running (schedule fresh : WorkflowSchedule) (due : List WorkflowSchedule)

/-- A workflow run the ticker started, and the occurrence it was polled for. -/
structure StartedRun where
  occurrence : Uuid × Option Int
  workflowId : Uuid
  input : String
  userId : Option String

/-- The clock, the committed rows, the Redis locks with their expiry, the replicas, every run
    started so far, and the occurrences whose run was started and then rolled back. -/
structure TickerSystem (ι : Type) where
  clock : Int
  table : KeyedTable WorkflowSchedule.id
  locks : Uuid → Option Int
  replica : ι → TickerPhase
  started : List StartedRun
  rolledBack : List (Uuid × Option Int)

/-- A step of the system. -/
inductive TickerEvent (ι : Type) where
  | tick (clock : Int)
  | poll (i : ι) (scan : ScanOrder WorkflowSchedule)
  | lock (i : ι)
  | fetch (i : ι)
  | commit (i : ι) (outcome : RunOutcome)
  | fail (i : ι)

section Ticker

variable {ι : Type} [DecidableEq ι]

namespace TickerSystem

/-- Move one replica. -/
def setReplica (s : TickerSystem ι) (i : ι) (phase : TickerPhase) : TickerSystem ι :=
  { s with replica := fun j => if j = i then phase else s.replica j }

/-- `SET NX EX` on the schedule's lock. -/
def tryAcquireLock (s : TickerSystem ι) (i : ι) (ttlSeconds : Nat) (schedule : WorkflowSchedule)
    (due : List WorkflowSchedule) : TickerSystem ι :=
  -- a lock that has not expired is left alone, whoever holds it
  if (s.locks schedule.id).any (s.clock < ·) then s.setReplica i (.firing due)
  else
    { s.setReplica i (.locked schedule due) with
      locks := fun id =>
        if id = schedule.id then some (s.clock + ttlSeconds * 1000000) else s.locks id }

/-- The schedule is fetched again; its workflow run starts if it exists and is enabled. -/
def fetch (s : TickerSystem ι) (i : ι) (schedule : WorkflowSchedule)
    (due : List WorkflowSchedule) : TickerSystem ι :=
  match BaseRepository.get s.table schedule.id with
  | none => s.setReplica i (.firing due)
  -- whether the row is still due is not asked again
  | some fresh =>
    if fresh.enabled then
      { s.setReplica i (.running schedule fresh due) with
        started := ⟨schedule.occurrence, fresh.workflowId, fresh.inputTemplate, fresh.userId⟩ ::
          s.started }
    else s.setReplica i (.firing due)

/-- `record_fired` and the commit of the session scope. -/
def commit (s : TickerSystem ι) (i : ι) (fired : WorkflowSchedule) (due : List WorkflowSchedule) :
    TickerSystem ι :=
  { s.setReplica i (.firing due) with
    table := s.table.update fired.id (fun row => { row with
      lastRunAt := fired.lastRunAt, lastStatus := fired.lastStatus, lastError := fired.lastError,
      lastWorkflowRunId := fired.lastWorkflowRunId, nextRunAt := fired.nextRunAt }) fun _ => rfl }

/-- A step of the system. `fail` is an exception, caught by the loop, that leaves the rest of the
    tick to do: the session scope rolls back. -/
def step (nextCron : String → Int → Except PyError Int) (ttlSeconds : Nat) (s : TickerSystem ι) :
    TickerEvent ι → Option (TickerSystem ι)
  | .tick clock => if s.clock ≤ clock then some { s with clock } else none
  | .poll i scan =>
    match s.replica i with
    | .sleeping =>
      some (s.setReplica i (.firing (WorkflowScheduleRepository.listDue scan s.table s.clock 100)))
    | _ => none
  | .lock i =>
    match s.replica i with
    | .firing [] => some (s.setReplica i .sleeping)
    | .firing (schedule :: due) => some (s.tryAcquireLock i ttlSeconds schedule due)
    | _ => none
  | .fetch i =>
    match s.replica i with
    | .locked schedule due => some (s.fetch i schedule due)
    | _ => none
  | .commit i outcome =>
    match s.replica i with
    | .running _ fresh due =>
      -- an exception of `record_fired` is the event `fail`
      match recordFired nextCron fresh s.clock outcome with
      | .ok fired => some (s.commit i fired due)
      | .error _ => none
    | _ => none
  | .fail i =>
    match s.replica i with
    | .sleeping => none
    | .firing [] => none
    | .firing (_ :: due) | .locked _ due => some (s.setReplica i (.firing due))
    | .running schedule _ due =>
      some { s.setReplica i (.firing due) with
        rolledBack := schedule.occurrence :: s.rolledBack }

/-- All replicas sleep and no lock is taken. -/
def start (clock : Int) (table : KeyedTable WorkflowSchedule.id) : TickerSystem ι where
  clock := clock
  table := table
  locks := fun _ => none
  replica := fun _ => .sleeping
  started := []
  rolledBack := []

end TickerSystem

end Ticker

end AgnoRuntime
