import AgnoRuntime.Model.Requests
import AgnoRuntime.Model.ScheduleService
import AgnoRuntime.Spec.ScheduleOccurrences

/-!
# The times of schedules

An enabled schedule is due at some time, and has what its type needs to compute the next
one. `update` checks neither of these: it stores what it is sent, and where that is not
usable it is `compute_next_run_at` that raises, after the row has been changed and
flushed, so that the session is rolled back. A disabled schedule may hold anything, but
enabling it again computes the time.

## Key results

- `rows_handled`: what an operation does to the rows
- `schedules_timed`: the schedules after any history, and the operation after it
-/

namespace AgnoRuntime

open Prog WorkflowScheduleService

/-- What croniter does: it raises on an expression that is not valid, and otherwise returns a later
    instant. -/
structure Croniter.Lawful (croniter : Croniter) : Prop where
  raises : ∀ expression after t, croniter.getNext expression after = .ok t →
    croniter.isValid expression = true
  later : NextIsLater croniter.getNext

/-- An enabled schedule as it should be. -/
structure WorkflowSchedule.Timed (croniter : Croniter) (schedule : WorkflowSchedule) : Prop where
  nextRunAt : ∃ t, schedule.nextRunAt = some t
  cron : schedule.scheduleType = .cron →
    ∃ expression, schedule.cronExpression = some expression ∧ croniter.isValid expression = true
  interval : schedule.scheduleType = .interval →
    ∃ n, schedule.intervalSeconds = some n ∧ 10 ≤ n

/-- The operation computes `next_run_at` for the schedule with this id. -/
def ScheduleRequest.Recomputes (table : KeyedTable WorkflowSchedule.id) (id : Uuid) :
    ScheduleRequest → Prop
  | .create _ _ _ => id = table.freshKey
  | .update scheduleId payload => id = scheduleId ∧ payload.sendsTiming = true
  | .recordFired scheduleId _ => id = scheduleId
  | .delete _ => False

/-! ## One row -/

/-- The columns an enabled schedule is judged by. -/
def WorkflowSchedule.timing (schedule : WorkflowSchedule) :
    ScheduleType × Option String × Option Nat × Bool × Option Int :=
  (schedule.scheduleType, schedule.cronExpression, schedule.intervalSeconds, schedule.enabled,
    schedule.nextRunAt)

/-- The row's `next_run_at` was computed at an instant, if the schedule is enabled. -/
def ComputedAt (croniter : Croniter) (now : Int) (schedule : WorkflowSchedule) : Prop :=
  schedule.enabled = true →
    ∃ t, computeNextRunAt croniter.getNext schedule now = .ok t ∧ schedule.nextRunAt = some t

/-- The row is deleted, or its timing and whether it is deleted are those of a row there was. -/
def KeptFrom (table : KeyedTable WorkflowSchedule.id) (schedule : WorkflowSchedule) : Prop :=
  isLive schedule = false ∨
    ∃ s ∈ table.rows, schedule.timing = s.timing ∧ isLive schedule = isLive s

/-- Computing the time needs what the type of the schedule needs. -/
theorem timed_of_computedAt {croniter : Croniter} (hcron : croniter.Lawful) {now : Int}
    {schedule : WorkflowSchedule} (h : ComputedAt croniter now schedule)
    (henabled : schedule.enabled = true) : schedule.Timed croniter := by
  obtain ⟨t, hcompute, hnext⟩ := h henabled
  refine ⟨⟨t, hnext⟩, fun htype => ?_, fun htype => ?_⟩
  · rw [computeNextRunAt, htype] at hcompute
    cases hexpression : schedule.cronExpression with
    | none =>
      rw [hexpression] at hcompute
      cases hcompute
    | some expression =>
      rw [hexpression] at hcompute
      exact ⟨expression, rfl, hcron.raises _ _ _ hcompute⟩
  · rw [computeNextRunAt, htype] at hcompute
    cases hinterval : schedule.intervalSeconds with
    | none =>
      rw [hinterval] at hcompute
      cases hcompute
    | some n => exact ⟨n, rfl, schedule.intervalGe n hinterval⟩

/-- A row with the timing of a row that is as it should be is so too. -/
theorem WorkflowSchedule.Timed.of_timing {croniter : Croniter} {s s' : WorkflowSchedule}
    (h : s.Timed croniter) (htiming : s'.timing = s.timing) : s'.Timed croniter := by
  simp only [WorkflowSchedule.timing, Prod.mk.injEq] at htiming
  obtain ⟨htype, hexpression, hinterval, -, hnext⟩ := htiming
  constructor
  · rw [hnext]
    exact h.nextRunAt
  · rw [htype, hexpression]
    exact h.cron
  · rw [htype, hinterval]
    exact h.interval

/-! ## Operations -/

section Operations

variable {croniter : Croniter} {session : ScheduleSession}
  {table table' : KeyedTable WorkflowSchedule.id}

/-- A flush that succeeds changes nothing. -/
private theorem flush_bind_eq_ok {f : Unit → ScheduleM Unit} {u : Unit} :
    (WorkflowScheduleService.flush session >>= f) table = (.ok u, table') ↔
      session.refuses table = none ∧ f () table = (.ok u, table') := by
  cases hrefuses : session.refuses table with
  | none =>
    have hflush : WorkflowScheduleService.flush session table = (.ok (), table) := by
      rw [WorkflowScheduleService.flush, hrefuses]
    rw [bind_apply_ok hflush]
    simp
  | some exc =>
    have hflush : WorkflowScheduleService.flush session table = (.error exc, table) := by
      rw [WorkflowScheduleService.flush, hrefuses]
    rw [bind_apply_error hflush]
    simp

/-- An assignment that is flushed. -/
private theorem eq_of_assign_ok {id : Uuid} {f : WorkflowSchedule → WorkflowSchedule}
    {hf : ∀ s, (f s).id = s.id} {u : Unit} (h : assign session id f hf table = (.ok u, table')) :
    table' = table.update id f hf := by
  rw [assign, modify_bind_apply, ← bind_pure (WorkflowScheduleService.flush session),
    flush_bind_eq_ok] at h
  exact (Prod.mk.inj h.2).2.symm

/-- An assignment, and what follows it. -/
private theorem of_assign_bind_ok {id : Uuid} {f : WorkflowSchedule → WorkflowSchedule}
    {hf : ∀ s, (f s).id = s.id} {g : Unit → ScheduleM Unit} {u : Unit}
    (h : (assign session id f hf >>= g) table = (.ok u, table')) :
    g () (table.update id f hf) = (.ok u, table') := by
  obtain ⟨_, assigned, hassign, hrest⟩ := bind_eq_ok.mp h
  rw [← eq_of_assign_ok hassign]
  exact hrest

/-- The time of an enabled schedule is computed, and a disabled one gets none. -/
private theorem computedAt_of_nextIfEnabled {schedule s' : WorkflowSchedule}
    {nextRunAt : Option Int} (h : nextIfEnabled croniter session schedule = .ok nextRunAt)
    (hcompute : computeNextRunAt croniter.getNext s' session.now.micros =
      computeNextRunAt croniter.getNext schedule session.now.micros)
    (henabled : s'.enabled = schedule.enabled) (hnext : s'.nextRunAt = nextRunAt) :
    ComputedAt croniter session.now.micros s' := by
  intro hs'
  rw [henabled] at hs'
  rw [nextIfEnabled, if_pos hs'] at h
  cases hcomputed : computeNextRunAt croniter.getNext schedule session.now.micros with
  | error exc =>
    rw [hcomputed] at h
    cases h
  | ok t =>
    rw [hcomputed] at h hcompute
    rw [hnext, ← Except.ok.inj h]
    exact ⟨t, hcompute, rfl⟩

/-- What an operation leaves of a row. -/
def RowAfter (croniter : Croniter) (session : ScheduleSession) (request : ScheduleRequest)
    (table : KeyedTable WorkflowSchedule.id) (s' : WorkflowSchedule) : Prop :=
  (request.Recomputes table s'.id ∧ ComputedAt croniter session.now.micros s') ∨
    (¬request.Recomputes table s'.id ∧ KeptFrom table s')

/-- A row that was there is kept. -/
private theorem keptFrom_of_mem {s : WorkflowSchedule} (hs : s ∈ table.rows) : KeptFrom table s :=
  .inr ⟨s, hs, rfl, rfl⟩

/-- `create` computes the time of the new row and keeps the others. -/
private theorem rowAfter_create {workflows : KeyedTable Workflow.id} {workflowId : Uuid}
    {payload : WorkflowScheduleCreate} {u : Unit}
    (h : create croniter session workflows workflowId payload table = (.ok u, table')) :
    ∀ s' ∈ table'.rows,
      RowAfter croniter session (.create workflows workflowId payload) table s' := by
  simp only [create, lift_bind_eq_ok, read_bind_apply, modify_bind_apply, flush_bind_eq_ok] at h
  obtain ⟨-, -, -, -, -, t, hcompute, hassign⟩ := h
  rw [eq_of_assign_ok hassign]
  intro s' hs'
  obtain ⟨s, hs, rfl⟩ := KeyedTable.mem_rows_update.mp hs'
  rw [KeyedTable.rows_insertFresh, List.mem_append, List.mem_singleton] at hs
  obtain hold | rfl := hs
  · -- The new row has an id that no other row has.
    have hne : s.id ≠ table.freshKey := (KeyedTable.key_lt_freshKey hold).ne
    rw [WorkflowScheduleCreate.row_id, if_neg hne]
    exact .inr ⟨hne, keptFrom_of_mem hold⟩
  · rw [if_pos rfl]
    exact .inl ⟨rfl, fun _ => ⟨t, hcompute, rfl⟩⟩

/-- An update that sends none of the fields that the time depends on keeps the timing. -/
private theorem timing_applyTo {payload : WorkflowScheduleUpdate} (h : ¬payload.sendsTiming = true)
    (s : WorkflowSchedule) : (payload.applyTo s).timing = s.timing := by
  simp only [WorkflowScheduleUpdate.sendsTiming, Bool.or_eq_true, not_or, Bool.not_eq_true,
    Option.isSome_eq_false_iff, Option.isNone_iff_eq_none] at h
  obtain ⟨⟨hexpression, hinterval⟩, henabled⟩ := h
  simp only [WorkflowSchedule.timing, WorkflowScheduleUpdate.applyTo, hexpression, hinterval,
    henabled]
  rfl

/-- `update` computes the time if a field that it depends on is sent, and otherwise changes neither
    the time nor what it depends on. -/
private theorem rowAfter_update {scheduleId : Uuid} {payload : WorkflowScheduleUpdate} {u : Unit}
    (h : WorkflowScheduleService.update croniter session scheduleId payload table =
      (.ok u, table')) :
    ∀ s' ∈ table'.rows, RowAfter croniter session (.update scheduleId payload) table s' := by
  simp only [WorkflowScheduleService.update, lift_bind_eq_ok, read_bind_apply] at h
  obtain ⟨schedule, hget, hassigned⟩ := h
  obtain ⟨hstored, hid, -⟩ := BaseRepository.getOr404_ok hget
  have hrest := of_assign_bind_ok hassigned
  intro s' hs'
  by_cases hsends : payload.sendsTiming = true
  · rw [if_pos hsends, lift_bind_eq_ok] at hrest
    obtain ⟨nextRunAt, hnext, hassign⟩ := hrest
    rw [eq_of_assign_ok hassign] at hs'
    obtain ⟨s₁, hs₁, rfl⟩ := KeyedTable.mem_rows_update.mp hs'
    obtain ⟨s, hs, rfl⟩ := KeyedTable.mem_rows_update.mp hs₁
    by_cases hsame : s.id = scheduleId
    · -- The row is the one `get_or_404` returned.
      obtain rfl := table.eq_of_key_eq hs hstored (hsame.trans hid.symm)
      have hsame' : (payload.applyTo s).id = scheduleId := hsame
      rw [if_pos hsame, if_pos hsame']
      exact .inl ⟨⟨hsame, hsends⟩, computedAt_of_nextIfEnabled hnext rfl rfl rfl⟩
    · rw [if_neg hsame, if_neg hsame]
      exact .inr ⟨fun hrecomputes => hsame hrecomputes.1, keptFrom_of_mem hs⟩
  · rw [if_neg hsends] at hrest
    rw [← (Prod.mk.inj hrest).2] at hs'
    obtain ⟨s, hs, rfl⟩ := KeyedTable.mem_rows_update.mp hs'
    refine .inr ⟨fun hrecomputes => hsends hrecomputes.2, .inr ⟨s, hs, ?_⟩⟩
    by_cases hsame : s.id = scheduleId
    · rw [if_pos hsame]
      exact ⟨timing_applyTo hsends s, rfl⟩
    · rw [if_neg hsame]
      exact ⟨rfl, rfl⟩

/-- What `record_fired` sets `next_run_at` to. -/
private theorem nextIfEnabled_of_recordFired {schedule fired : WorkflowSchedule}
    {outcome : RunOutcome}
    (h : AgnoRuntime.recordFired croniter.getNext schedule session.now.micros outcome =
      .ok fired) :
    nextIfEnabled croniter session schedule = .ok fired.nextRunAt := by
  unfold AgnoRuntime.recordFired at h
  unfold nextIfEnabled
  by_cases henabled : schedule.enabled = true
  · rw [if_pos henabled] at h ⊢
    obtain ⟨nextRunAt, hnext, hfired⟩ := Except.bind_eq_ok.mp h
    rw [hnext]
    cases outcome with
    | returned status workflowRunId => rw [← Except.ok.inj hfired]
    | raised error => rw [← Except.ok.inj hfired]
  · rw [if_neg henabled] at h ⊢
    cases outcome with
    | returned status workflowRunId =>
      rw [← Except.ok.inj h]
      rfl
    | raised error =>
      rw [← Except.ok.inj h]
      rfl

/-- `record_fired` computes the time of the schedule that fired. -/
private theorem rowAfter_recordFired {schedule : WorkflowSchedule} {outcome : RunOutcome} {u : Unit}
    (hstored : schedule ∈ table.rows)
    (h : WorkflowScheduleService.recordFired croniter session schedule outcome table =
      (.ok u, table')) :
    ∀ s' ∈ table'.rows, RowAfter croniter session (.recordFired schedule.id outcome) table s' := by
  rw [WorkflowScheduleService.recordFired, lift_bind_eq_ok] at h
  obtain ⟨fired, hfired, hassign⟩ := h
  have hnext := nextIfEnabled_of_recordFired hfired
  intro s' hs'
  rw [eq_of_assign_ok hassign] at hs'
  obtain ⟨s, hs, rfl⟩ := KeyedTable.mem_rows_update.mp hs'
  by_cases hsame : s.id = schedule.id
  · obtain rfl := table.eq_of_key_eq hs hstored hsame
    rw [if_pos rfl]
    exact .inl ⟨rfl, computedAt_of_nextIfEnabled hnext rfl rfl rfl⟩
  · rw [if_neg hsame]
    exact .inr ⟨hsame, keptFrom_of_mem hs⟩

/-- `delete` keeps every other row. -/
private theorem rowAfter_delete {scheduleId : Uuid} {u : Unit}
    (h : delete session scheduleId table = (.ok u, table')) :
    ∀ s' ∈ table'.rows, RowAfter croniter session (.delete scheduleId) table s' := by
  simp only [delete, lift_bind_eq_ok, read_bind_apply] at h
  obtain ⟨schedule, -, hassign⟩ := h
  intro s' hs'
  rw [eq_of_assign_ok hassign] at hs'
  obtain ⟨s, hs, rfl⟩ := KeyedTable.mem_rows_update.mp hs'
  refine .inr ⟨id, ?_⟩
  by_cases hsame : s.id = schedule.id
  · rw [if_pos hsame]
    exact .inl rfl
  · rw [if_neg hsame]
    exact keptFrom_of_mem hs

/-- After an operation that succeeds, the rows it recomputes have a time computed then, and the
    others are deleted or keep their timing. -/
theorem rows_handled {request : ScheduleRequest} {u : Unit}
    (h : request.handle croniter session table = (.ok u, table')) :
    ∀ s' ∈ table'.rows, RowAfter croniter session request table s' := by
  cases request with
  | create workflows workflowId payload => exact rowAfter_create h
  | update scheduleId payload => exact rowAfter_update h
  | recordFired scheduleId outcome =>
    rw [ScheduleRequest.handle, read_bind_apply] at h
    cases hfind : table.find? scheduleId with
    | none =>
      rw [hfind] at h
      -- Without a row there is nothing to recompute.
      intro s' hs'
      rw [← (Prod.mk.inj h).2] at hs'
      exact .inr ⟨fun hid => KeyedTable.find?_eq_none_iff.mp hfind s' hs' hid, keptFrom_of_mem hs'⟩
    | some schedule =>
      rw [hfind] at h
      obtain ⟨hstored, rfl⟩ := KeyedTable.mem_of_find? hfind
      exact rowAfter_recordFired hstored h
  | delete scheduleId => exact rowAfter_delete h

/-- What a served operation leaves: what it did, or the rows there were. -/
private theorem serve_cases (croniter : Croniter) (session : ScheduleSession)
    (request : ScheduleRequest) (table : KeyedTable WorkflowSchedule.id) :
    (∃ table', request.handle croniter session table = (.ok (), table') ∧
        request.serve croniter session table = table') ∨
      request.serve croniter session table = table := by
  unfold ScheduleRequest.serve
  cases hhandle : request.handle croniter session table with
  | mk outcome table' =>
    cases outcome with
    | ok u => exact .inl ⟨table', rfl, rfl⟩
    | error exc => exact .inr rfl

end Operations

/-! ## Histories -/

/-- Every enabled schedule that is not deleted is as it should be. -/
def SchedulesTimed (croniter : Croniter) (table : KeyedTable WorkflowSchedule.id) : Prop :=
  ∀ s ∈ table.rows, isLive s = true → s.enabled = true → s.Timed croniter

/-- An operation keeps the schedules as they should be. -/
theorem SchedulesTimed.serve {croniter : Croniter} (hcron : croniter.Lawful)
    {table : KeyedTable WorkflowSchedule.id} (h : SchedulesTimed croniter table)
    (session : ScheduleSession) (request : ScheduleRequest) :
    SchedulesTimed croniter (request.serve croniter session table) := by
  obtain ⟨table', hhandle, hserve⟩ | hserve := serve_cases croniter session request table
  · rw [hserve]
    intro s' hs' hlive henabled
    obtain ⟨-, hcomputed⟩ | ⟨-, hdeleted | ⟨s, hs, htiming, hlive'⟩⟩ := rows_handled hhandle s' hs'
    · exact timed_of_computedAt hcron hcomputed henabled
    · rw [hdeleted] at hlive
      cases hlive
    · have henabled' : s.enabled = true := by
        simp only [WorkflowSchedule.timing, Prod.mk.injEq] at htiming
        rw [← htiming.2.2.2.1]
        exact henabled
      exact (h s hs (hlive'.symm.trans hlive) henabled').of_timing htiming
  · rw [hserve]
    exact h

/-- After every history of operations, every enabled schedule that is not deleted has a time and
    what its type needs; and an operation that computes the time of an enabled schedule sets it
    after its own instant. -/
theorem schedules_timed {croniter : Croniter} (hcron : croniter.Lawful)
    (history : List (ScheduleSession × ScheduleRequest)) :
    SchedulesTimed croniter (schedulesAfter croniter history) ∧
      ∀ (session : ScheduleSession) (request : ScheduleRequest)
        (table' : KeyedTable WorkflowSchedule.id),
        request.handle croniter session (schedulesAfter croniter history) = (.ok (), table') →
        ∀ s ∈ table'.rows, request.Recomputes (schedulesAfter croniter history) s.id →
          s.enabled = true → ∃ t, s.nextRunAt = some t ∧ session.now.micros < t := by
  constructor
  · -- Induction on the history, from its end.
    induction history using List.reverseRecOn with
    | nil =>
      intro s hs
      cases hs
    | append_singleton history call ih =>
      rw [schedulesAfter, List.foldl_concat]
      exact SchedulesTimed.serve hcron ih call.1 call.2
  · intro session request table' hhandle s hs hrecomputes henabled
    obtain ⟨-, hcomputed⟩ | ⟨hnot, -⟩ := rows_handled hhandle s hs
    · obtain ⟨t, hcompute, hnext⟩ := hcomputed henabled
      exact ⟨t, hnext, lt_of_computeNextRunAt hcron.later hcompute⟩
    · exact absurd hrecomputes hnot

namespace Deployment

/-- The croniter that knows one expression, that of every minute. -/
def everyMinute : Croniter where
  isValid expression := expression = "* * * * *"
  getNext expression after :=
    if expression = "* * * * *" then .ok ((after / 60000000 + 1) * 60000000)
    else .error (.other "invalid cron expression")

/-- It does what croniter does. -/
theorem everyMinute_lawful : everyMinute.Lawful where
  raises expression after t h := by
    by_cases hknown : expression = "* * * * *"
    · exact decide_eq_true hknown
    · simp [everyMinute, hknown] at h
  later expression after t h := by
    by_cases hknown : expression = "* * * * *"
    · simp only [everyMinute, hknown, if_true, Except.ok.injEq] at h
      omega
    · simp [everyMinute, hknown] at h

/-- Without an interval there is none below 10 seconds. -/
theorem ge_of_no_interval (n : Nat) (h : (none : Option Nat) = some n) : 10 ≤ n := by
  cases h

/-- An update that sends no interval sends none below 10 seconds. -/
theorem ge_of_interval_not_sent (n : Nat) (h : (none : Option (Option Nat)) = some (some n)) :
    10 ≤ n := by
  cases h

/-- A schedule of the workflow, every minute. -/
def greetings : WorkflowScheduleCreate where
  scheduleType := .cron
  cronExpression := some "* * * * *"
  intervalSeconds := none
  inputTemplate := "Hello"
  userId := none
  enabled := true
  intervalGe := ge_of_no_interval
  inputTemplateLength := by decide
  typeSpecific := by decide

/-- An update with an expression that is not valid. -/
def badExpression : WorkflowScheduleUpdate where
  cronExpression := some (some "every minute")
  intervalSeconds := none
  inputTemplate := none
  userId := none
  enabled := none
  intervalGe := ge_of_interval_not_sent

/-- The schedule is created, and an update with an expression that is not valid rolled back. -/
def greetingsHistory : List (ScheduleSession × ScheduleRequest) :=
  [(⟨morning, fun _ => none⟩, .create db.workflows 1 greetings),
    (⟨morning, fun _ => none⟩, .update 1 badExpression)]

end Deployment

open Deployment

/-- The schedule stays due a minute later. -/
theorem schedules_timed_greetings :
    (schedulesAfter everyMinute greetingsHistory).rows.map (fun s => (s.id, s.nextRunAt)) =
        [(1, some (morning.micros + 60000000))] ∧
      SchedulesTimed everyMinute (schedulesAfter everyMinute greetingsHistory) := by
  constructor
  · decide +kernel
  · exact (schedules_timed everyMinute_lawful greetingsHistory).1

end AgnoRuntime
