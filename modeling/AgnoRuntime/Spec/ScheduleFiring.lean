import AgnoRuntime.Spec.ScheduleOccurrences
import AgnoRuntime.Model.ScheduleFiring
import AgnoRuntime.Model.Requests

/-!
# A fired schedule is due later

`record_fired` is to advance `next_run_at` whether the run succeeded or not. It is
flushed through the session of the run, so it is lost together with the run when a
statement of the run was refused: the session takes no further statement, `record_fired`
raises in the error branch too, and `session_scope` rolls everything back.

The committed `next_run_at` is later than the due time exactly when the outcome of the
run can still be recorded in the session.
-/

namespace AgnoRuntime

open Prog

variable {tenv : TickerEnv} {run : WorkflowRunner.Run} {fresh : WorkflowSchedule}

/-- How `_fire_one` records the end of a run; what is no `Exception` it does not catch. -/
def outcomeOf : Except PyError WorkflowRunResponse → Option RunOutcome
  | .ok result => some (.returned result.status result.workflowRunId)
  | .error exc => if exc.isException then some (.raised exc.str) else none

/-- The session takes the record of an outcome: none of its statements was refused, the next
    occurrence is computed, and the database takes the schedule. -/
structure Flushable (tenv : TickerEnv) (fresh : WorkflowSchedule) (w : World)
    (outcome : RunOutcome) (fired : WorkflowSchedule) : Prop where
  usable : w.failed = false
  computed : recordFired tenv.nextCron fresh (tenv.env.now w.ticks).micros outcome = .ok fired
  accepted : tenv.refusesFired w.ticks fired = none

/-- The outcome of a run can be recorded in its session, and the session committed. -/
def Recordable (tenv : TickerEnv) (fresh : WorkflowSchedule) (w : World) (outcome : RunOutcome) :
    Prop :=
  (∃ fired, Flushable tenv fresh w outcome fired) ∧
    tenv.env.refuses (w.ticks + 1) .commit w.working = none

/-- The committed `next_run_at` of the schedule is later than the due time. -/
def Advanced (w : FiringWorld) (scheduleId : Uuid) (due : Int) : Prop :=
  ∃ t, storedNextRunAt w.committed scheduleId = some t ∧ due < t

/-! ## Recording -/

namespace Firing

/-- A schedule keeps its id with an outcome. -/
private theorem id_withOutcome (fired row : WorkflowSchedule) :
    ({ row with
        lastRunAt := fired.lastRunAt, lastStatus := fired.lastStatus,
        lastError := fired.lastError, lastWorkflowRunId := fired.lastWorkflowRunId,
        nextRunAt := fired.nextRunAt } : WorkflowSchedule).id = row.id := rfl

/-- The session after an outcome has been flushed. -/
def recorded (w : FiringWorld) (fired : WorkflowSchedule) : FiringWorld :=
  { w with
    world := { w.world with ticks := w.world.ticks + 1 }
    working := w.working.update fired.id (fun row => { row with
      lastRunAt := fired.lastRunAt, lastStatus := fired.lastStatus,
      lastError := fired.lastError, lastWorkflowRunId := fired.lastWorkflowRunId,
      nextRunAt := fired.nextRunAt }) (id_withOutcome fired) }

/-- A program of the services in the session of a tick. -/
theorem inSession_apply {α : Type} {x : Svc α} {w : FiringWorld} {outcome : Except PyError α}
    {world : World} (h : x w.world = (outcome, world)) :
    inSession x w = (outcome, { w with world := world }) := by
  rw [inSession, h]

/-- The session has the `next_run_at` that was flushed. -/
theorem storedNextRunAt_recorded {w : FiringWorld} {fired row : WorkflowSchedule}
    (h : w.working.find? fired.id = some row) :
    storedNextRunAt (recorded w fired).working fired.id = fired.nextRunAt := by
  rw [storedNextRunAt, recorded, KeyedTable.find?_update, if_pos rfl, h]
  rfl

/-- `record_fired` fails for every outcome or for none. -/
private theorem recordFired_error {nextCron : String → Int → Except PyError Int}
    {schedule : WorkflowSchedule} {now : Int} {outcome : RunOutcome} {e : PyError}
    (h : AgnoRuntime.recordFired nextCron schedule now outcome = .error e) (outcome' : RunOutcome)
    (fired : WorkflowSchedule) :
    AgnoRuntime.recordFired nextCron schedule now outcome' ≠ .ok fired := by
  intro hok
  rw [AgnoRuntime.recordFired] at h hok
  split at h
  · rename_i henabled
    rw [if_pos henabled] at hok
    obtain ⟨next, hnext, -⟩ := Except.bind_eq_ok.mp hok
    rw [hnext] at h
    cases outcome <;> cases h
  · cases outcome <;> cases h

/-- An outcome that the session takes is flushed. -/
theorem recordFired_of_flushable {w : FiringWorld} {outcome : RunOutcome}
    {fired : WorkflowSchedule} (h : Flushable tenv fresh w.world outcome fired) :
    recordFired tenv fresh outcome w = (.ok (), recorded w fired) := by
  have hnow : inSession (Svc.now tenv.env) w = (.ok (tenv.env.now w.world.ticks), w) := rfl
  have hlift : (lift (AgnoRuntime.recordFired tenv.nextCron fresh
      (tenv.env.now w.world.ticks).micros outcome) : Firing WorkflowSchedule) w = (.ok fired, w) := by
    rw [lift_apply, h.computed]
  rw [recordFired, bind_apply_ok hnow, bind_apply_ok hlift, flush, h.usable, h.accepted]
  rfl

/-- Otherwise `record_fired` raises, and the session takes no other outcome either. -/
theorem recordFired_of_not_flushable {w : FiringWorld} {outcome : RunOutcome}
    (h : ∀ fired, ¬ Flushable tenv fresh w.world outcome fired) :
    ∃ e w', recordFired tenv fresh outcome w = (.error e, w') ∧ w'.committed = w.committed ∧
      ∀ outcome' fired, ¬ Flushable tenv fresh w'.world outcome' fired := by
  have hnow : inSession (Svc.now tenv.env) w = (.ok (tenv.env.now w.world.ticks), w) := rfl
  rw [recordFired, bind_apply_ok hnow]
  cases hcompute : AgnoRuntime.recordFired tenv.nextCron fresh
      (tenv.env.now w.world.ticks).micros outcome with
  -- The next occurrence cannot be computed, now or for another outcome.
  | error e =>
    refine ⟨e, w, rfl, rfl, fun outcome' fired hflush => ?_⟩
    exact recordFired_error hcompute outcome' fired hflush.computed
  | ok fired =>
    have hlift : (lift (.ok fired) : Firing WorkflowSchedule) w = (.ok fired, w) := rfl
    rw [bind_apply_ok hlift, flush]
    -- The session is out of order, and stays so.
    cases hfailed : w.world.failed with
    | true =>
      refine ⟨.pendingRollback, w, rfl, rfl, fun outcome' fired' hflush => ?_⟩
      cases hfailed.symm.trans hflush.usable
    | false =>
      cases hrefused : tenv.refusesFired w.world.ticks fired with
      -- Nothing stands in the way, which was excluded.
      | none => exact absurd ⟨hfailed, hcompute, hrefused⟩ (h fired)
      -- The statement is refused, and the session is out of order from here.
      | some message => exact ⟨.other message, _, rfl, rfl, fun _ _ hflush => by cases hflush.usable⟩

/-! ## One firing -/

/-- The handler of a run ends in an exception where the session takes no outcome. -/
private theorem handler_of_blocked {w : FiringWorld} (exc : PyError)
    (h : ∀ outcome fired, ¬ Flushable tenv fresh w.world outcome fired) :
    ∃ e w', (if exc.isException then recordFired tenv fresh (.raised exc.str)
        else Prog.raise exc) w = (.error e, w') ∧ w'.committed = w.committed := by
  split
  · obtain ⟨e, w', hfails, hcommitted, -⟩ := recordFired_of_not_flushable (h (.raised exc.str))
    exact ⟨e, w', hfails, hcommitted⟩
  · exact ⟨exc, w, rfl, rfl⟩

/-- The run and its record go through when the session takes the outcome; otherwise they end in
    an exception. -/
theorem runAndRecord_cases (tenv : TickerEnv) (run : WorkflowRunner.Run)
    (fresh : WorkflowSchedule) (w : FiringWorld) :
    let ended := run fresh.workflowId ⟨fresh.inputTemplate, none, fresh.userId⟩ w.world
    let w₁ : FiringWorld := { w with world := ended.2 }
    (∃ outcome fired, outcomeOf ended.1 = some outcome ∧ Flushable tenv fresh ended.2 outcome fired ∧
        runAndRecord tenv run fresh w = (.ok (), recorded w₁ fired)) ∨
      (∀ outcome, outcomeOf ended.1 = some outcome → ∀ fired,
          ¬ Flushable tenv fresh ended.2 outcome fired) ∧
        ∃ e w', runAndRecord tenv run fresh w = (.error e, w') ∧ w'.committed = w.committed := by
  intro ended w₁
  have hrun : inSession (run fresh.workflowId ⟨fresh.inputTemplate, none, fresh.userId⟩) w =
      (ended.1, w₁) := rfl
  -- a run that returned and a run that raised are both recorded, each with its own outcome
  cases hended : ended.1 with
  | ok result =>
    rw [hended] at hrun
    by_cases hflush : ∃ fired, Flushable tenv fresh ended.2
        (.returned result.status result.workflowRunId) fired
    · obtain ⟨fired, hfired⟩ := hflush
      refine .inl ⟨_, fired, rfl, hfired, ?_⟩
      refine handleError_apply_ok ?_
      rw [bind_apply_ok hrun]
      exact recordFired_of_flushable hfired
    -- the flush of the outcome failed: the handler finds the session unusable
    · obtain ⟨e, w', hfails, hcommitted, hblocked⟩ :=
        recordFired_of_not_flushable (w := w₁) (not_exists.mp hflush)
      obtain ⟨e', w'', hfails', hcommitted'⟩ := handler_of_blocked e hblocked
      refine .inr ⟨?_, e', w'', ?_, hcommitted'.trans hcommitted⟩
      · intro outcome houtcome fired hfired
        obtain rfl := Option.some.inj houtcome
        exact hflush ⟨fired, hfired⟩
      · refine (handleError_apply_error ?_).trans hfails'
        rw [bind_apply_ok hrun]
        exact hfails
  | error exc =>
    rw [hended] at hrun
    have hhandled : runAndRecord tenv run fresh w =
        (if exc.isException then recordFired tenv fresh (.raised exc.str)
          else Prog.raise exc) w₁ :=
      handleError_apply_error (bind_apply_error hrun)
    rw [hhandled]
    by_cases hexc : exc.isException = true
    · rw [if_pos hexc]
      have houtcome : outcomeOf (.error exc) = some (.raised exc.str) := if_pos hexc
      by_cases hflush : ∃ fired, Flushable tenv fresh ended.2 (.raised exc.str) fired
      · obtain ⟨fired, hfired⟩ := hflush
        exact .inl ⟨_, fired, houtcome, hfired, recordFired_of_flushable hfired⟩
      · obtain ⟨e, w', hfails, hcommitted, -⟩ :=
          recordFired_of_not_flushable (w := w₁) (not_exists.mp hflush)
        refine .inr ⟨?_, e, w', hfails, hcommitted⟩
        intro outcome houtcome' fired hfired
        rw [houtcome, Option.some.injEq] at houtcome'
        subst houtcome'
        exact hflush ⟨fired, hfired⟩
    · rw [if_neg hexc]
      -- not an `Exception`: the handler does not catch it and nothing is recorded
      refine .inr ⟨fun outcome houtcome => ?_, exc, w₁, rfl, rfl⟩
      rw [outcomeOf, if_neg hexc] at houtcome
      cases houtcome

/-- `session_scope` after a body that ended in an exception. -/
private theorem sessionScope_of_error (tenv : TickerEnv) {x : Firing Unit} {w w' : FiringWorld}
    {e : PyError}
    (h : x w = (.error e, w')) : (sessionScope tenv x w).2.committed = w'.committed := by
  rw [sessionScope, handleError_apply_error (bind_apply_error h)]
  rfl

/-- `session_scope` after a body that returned: the commit, unless the database refuses it. -/
private theorem sessionScope_of_ok (tenv : TickerEnv) {x : Firing Unit} {w w' : FiringWorld}
    (h : x w = (.ok (), w')) (hfailed : w'.world.failed = false) :
    (sessionScope tenv x w).2.committed =
      if tenv.env.refuses w'.world.ticks .commit w'.world.working = none then w'.working
      else w'.committed := by
  cases hrefuses : tenv.env.refuses w'.world.ticks .commit w'.world.working with
  | none =>
    -- The commit succeeds.
    have hsend : Svc.send tenv.env .commit w'.world = (.ok (), { w'.world with
        ticks := w'.world.ticks + 1, statements := w'.world.statements ++ [.commit] }) := by
      simp [Svc.send, hfailed, hrefuses]
    have hcommit := inSession_apply (bind_apply_ok hsend : Svc.commit tenv.env w'.world = _)
    have hscope : (do x; commit tenv : Firing Unit) w = _ :=
      (bind_apply_ok h).trans (bind_apply_ok hcommit)
    rw [if_pos rfl, sessionScope, handleError_apply_ok hscope]
  | some message =>
    -- The commit fails, and the session rolls back.
    have hsend : Svc.send tenv.env .commit w'.world = (.error (.other message), { w'.world with
        failed := true, ticks := w'.world.ticks + 1 }) := by
      simp [Svc.send, hfailed, hrefuses]
    have hcommit := inSession_apply (bind_apply_error hsend : Svc.commit tenv.env w'.world = _)
    have hscope : (do x; commit tenv : Firing Unit) w = _ :=
      (bind_apply_ok h).trans (bind_apply_error hcommit)
    rw [if_neg (by simp), sessionScope, handleError_apply_error hscope]
    rfl

end Firing

/-! ## The due time -/

/-- Once `_fire_one` has ended, after any run, the committed `next_run_at` of a due schedule is
    later than the due time exactly when the run ended in a way that is caught and its outcome
    could be recorded in the session. -/
theorem fireOne_advances_iff (tenv : TickerEnv) (run : WorkflowRunner.Run) (store : Store)
    (schedules : KeyedTable WorkflowSchedule.id) (fresh : WorkflowSchedule) (due : Int)
    (hstored : fresh ∈ schedules.rows) (hlive : isLive fresh = true)
    (henabled : fresh.enabled = true) (hdue : fresh.nextRunAt = some due)
    (hclock : ∀ n, due ≤ (tenv.env.now n).micros) (hcron : NextIsLater tenv.nextCron) :
    let ended := run fresh.workflowId ⟨fresh.inputTemplate, none, fresh.userId⟩ (.start store)
    Advanced (Firing.fireOne tenv true run fresh.id (Firing.start store schedules)).2 fresh.id due ↔
      ∃ outcome, outcomeOf ended.1 = some outcome ∧ Recordable tenv fresh ended.2 outcome := by
  intro ended
  have hget : Firing.get fresh.id (Firing.start store schedules) =
      (.ok fresh, Firing.start store schedules) := by
    show (BaseRepository.getOr404 schedules "WorkflowSchedule" fresh.id, _) = _
    rw [BaseRepository.getOr404, BaseRepository.get_of_mem hstored hlive]
  have hbody : (do
      let fresh ← Firing.get fresh.id
      if fresh.enabled then Firing.runAndRecord tenv run fresh else pure () : Firing Unit)
        (Firing.start store schedules) =
        Firing.runAndRecord tenv run fresh (Firing.start store schedules) := by
    rw [bind_apply_ok hget, if_pos henabled]
  -- As long as nothing is committed, the schedule is due for the same occurrence.
  have hstill : ∀ w : FiringWorld, w.committed = schedules → ¬ Advanced w fresh.id due := by
    intro w hw hadvanced
    obtain ⟨t, ht, hlater⟩ := hadvanced
    rw [storedNextRunAt, hw, KeyedTable.find?_of_mem hstored, Option.bind_some, hdue,
      Option.some.injEq] at ht
    omega
  rcases Firing.runAndRecord_cases tenv run fresh (Firing.start store schedules) with
    ⟨outcome, fired, hended, hflush, hran⟩ | hfails
  · have hscope := Firing.sessionScope_of_ok tenv (hbody.trans hran) hflush.usable
    split at hscope
    · rename_i haccepted
      refine iff_of_true ?_ ⟨outcome, hended, ⟨fired, hflush⟩, haccepted⟩
      obtain ⟨hid, t, ht, hlater⟩ := recordFired_eq_ok hcron henabled hflush.computed
      refine ⟨t, ?_, (hclock _).trans_lt hlater⟩
      rw [Firing.fireOne, if_pos rfl, hscope, ← hid, ← ht]
      have hfound : schedules.find? fired.id = some fresh := by
        rw [hid]
        exact KeyedTable.find?_of_mem hstored
      exact Firing.storedNextRunAt_recorded hfound
    · rename_i hrefused
      refine iff_of_false (hstill _ hscope) fun hrecordable => ?_
      obtain ⟨-, -, -, haccepted⟩ := hrecordable
      exact hrefused haccepted
  · obtain ⟨hnot, e, w', hran, hcommitted⟩ := hfails
    have hscope := Firing.sessionScope_of_error tenv (hbody.trans hran)
    refine iff_of_false (hstill _ (hscope.trans hcommitted)) fun hrecordable => ?_
    obtain ⟨outcome, hended, ⟨fired, hflush⟩, -⟩ := hrecordable
    exact hnot outcome hended fired hflush

/-! ## A run that breaks its session -/

namespace BrokenSession

open Deployment TickerSystem.EveryMinute

/-- The workflow of the deployment, due every minute. -/
def report : WorkflowSchedule := { schedule with workflowId := 1 }

/-- The schedules stored. -/
def reports : KeyedTable WorkflowSchedule.id := .singleton report

/-- A tick in the deployment, where the database may refuse statements. -/
def tick (refuses : Statement → Option String) : TickerEnv where
  env := { Deployment.env .trustClientUserId none (answering "Hi") with
    refuses := fun _ s _ => refuses s }
  nextCron := nextMinute
  refusesFired _ _ := none

/-- A tick whose statements are all accepted. -/
def healthy : TickerEnv := tick fun _ => none

/-- A tick in which the record of a step is refused. -/
def refusing : TickerEnv :=
  tick fun s => if s = .insert .workflowRunSteps then some "connection is closed" else none

end BrokenSession

open BrokenSession in
/-- A run of the workflow that meets nothing. -/
theorem fireOne_advances_example :
    let run := WorkflowExecutionService.runWorkflow healthy.env
    let ended := run 1 ⟨"report", none, none⟩ (.start Deployment.store)
    Advanced (Firing.fireOne healthy true run 1 (Firing.start Deployment.store reports)).2 1 0 ↔
      ∃ outcome, outcomeOf ended.1 = some outcome ∧ Recordable healthy report ended.2 outcome :=
  fireOne_advances_iff healthy (WorkflowExecutionService.runWorkflow healthy.env) Deployment.store
    reports report 0 (List.mem_singleton.mpr rfl) rfl rfl rfl
    (fun _ => show 0 ≤ Deployment.morning.micros by decide)
    TickerSystem.EveryMinute.nextMinute_isLater

open BrokenSession in
/-- A flush of `run_workflow` fails; the exception is caught, and the schedule is still due at 0
    when `_fire_one` has ended. -/
theorem fireOne_keeps_due_time :
    let run := WorkflowExecutionService.runWorkflow refusing.env
    (run 1 ⟨"report", none, none⟩ (.start Deployment.store)).1 =
        .error (.other "connection is closed") ∧
      ¬ Advanced (Firing.fireOne refusing true run 1
        (Firing.start Deployment.store reports)).2 1 0 := by
  intro run
  have hstill : storedNextRunAt (Firing.fireOne refusing true run 1
      (Firing.start Deployment.store reports)).2.committed 1 = some 0 := by
    decide +kernel
  refine ⟨by decide +kernel, fun hadvanced => ?_⟩
  obtain ⟨t, ht, hlater⟩ := hadvanced
  rw [hstill, Option.some.injEq] at ht
  omega

end AgnoRuntime
