import AgnoRuntime.Model.Schedule
import AgnoRuntime.Model.WorkflowExecution

/-!
# Firing a schedule

`_fire_one` of `app/schedule/ticker.py` in its `session_scope`: the schedule is
fetched again, its workflow is run and the outcome is recorded in one session. The
run is any program of that session, for instance `run_workflow`; it neither commits
nor rolls back.
-/

namespace AgnoRuntime

open Civil

/-- What `_fire_one` meets outside of the services: `nextCron` is `croniter(...).get_next`, and
    the database may refuse to store what `record_fired` flushes. -/
structure TickerEnv where
  env : Env
  nextCron : String → Int → Except PyError Int
  refusesFired : Nat → WorkflowSchedule → Option String

/-- The session of a tick: the world of the services, and the committed schedules and those of
    the session. -/
structure FiringWorld where
  world : World
  committed : KeyedTable WorkflowSchedule.id
  working : KeyedTable WorkflowSchedule.id

/-- Programs of such a session. -/
abbrev Firing (α : Type) : Type := Prog PyError FiringWorld α

/-- What a scheduled workflow run is. -/
abbrev WorkflowRunner.Run : Type := Uuid → WorkflowRunRequest → Svc WorkflowRunResponse

namespace Firing

variable (tenv : TickerEnv) {α : Type}

/-- The world a tick starts in. -/
def start (store : Store) (schedules : KeyedTable WorkflowSchedule.id) : FiringWorld where
  world := .start store
  committed := schedules
  working := schedules

/-- A program of the services that neither commits nor rolls back. -/
def inSession (x : Svc α) : Firing α := fun w =>
  ((x w.world).1, { w with world := (x w.world).2 })

/-- `WorkflowScheduleService.get`. -/
def get (id : Uuid) : Firing WorkflowSchedule := fun w =>
  if w.world.failed then (.error .pendingRollback, w)
  else (BaseRepository.getOr404 w.working "WorkflowSchedule" id, w)

/-- The flush of a schedule that has changed. -/
def flush (fired : WorkflowSchedule) : Firing Unit := fun w =>
  if w.world.failed then (.error .pendingRollback, w)
  else
    match tenv.refusesFired w.world.ticks fired with
    | some message =>
      (.error (.other message),
        { w with world := { w.world with failed := true, ticks := w.world.ticks + 1 } })
    | none =>
      (.ok (), { w with
        world := { w.world with ticks := w.world.ticks + 1 }
        working := w.working.update fired.id (fun row => { row with
          lastRunAt := fired.lastRunAt, lastStatus := fired.lastStatus,
          lastError := fired.lastError, lastWorkflowRunId := fired.lastWorkflowRunId,
          nextRunAt := fired.nextRunAt }) fun row => Eq.refl row.id })

/-- `WorkflowScheduleService.record_fired`. -/
def recordFired (schedule : WorkflowSchedule) (outcome : RunOutcome) : Firing Unit := do
  let now ← inSession (Svc.now tenv.env)
  let fired ← Prog.lift (AgnoRuntime.recordFired tenv.nextCron schedule now.micros outcome)
  flush tenv fired

/-- `session.commit()`. -/
def commit : Firing Unit := do
  inSession (Svc.commit tenv.env)
  Prog.modify fun w => { w with committed := w.working }

/-- `session.rollback()`. -/
def rollback : Firing Unit := do
  inSession Svc.rollback
  Prog.modify fun w => { w with working := w.committed }

/-- `session_scope`; an exception that is no `Exception` closes the session, which rolls back. -/
def sessionScope (x : Firing Unit) : Firing Unit :=
  Prog.handleError
    (do
      x
      commit tenv)
    (fun exc => do
      rollback
      Prog.raise exc)

/-- The run and the record of its outcome. -/
def runAndRecord (run : WorkflowRunner.Run) (fresh : WorkflowSchedule) : Firing Unit :=
  Prog.handleError
    (do
      let result ← inSession (run fresh.workflowId ⟨fresh.inputTemplate, none, fresh.userId⟩)
      -- within the `try`: what recording raises is recorded as a failure of the run
      recordFired tenv fresh (.returned result.status result.workflowRunId))
    (fun exc =>
      if exc.isException then recordFired tenv fresh (.raised exc.str) else Prog.raise exc)

/-- `_fire_one`; `acquired` is the answer of `_try_acquire_lock`. -/
def fireOne (acquired : Bool) (run : WorkflowRunner.Run) (scheduleId : Uuid) : Firing Unit :=
  if acquired then
    sessionScope tenv (do
      let fresh ← get scheduleId
      if fresh.enabled then runAndRecord tenv run fresh else pure ())
  else pure ()

end Firing

end AgnoRuntime
