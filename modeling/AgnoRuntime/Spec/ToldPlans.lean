import AgnoRuntime.ForStd.Interruptions
import AgnoRuntime.Spec.PlanRuns
import AgnoRuntime.Spec.RequestHistories

/-!
# Runs of plans tell their story, whatever fails

The retries of a step catch every exception, also that of a statement which the
database has refused. But then the session refuses everything else, so no later
attempt succeeds: a plan that is answered has had all of its statements accepted, and
its rows are those of its traces. What is not answered leaves nothing.

## Key results

- `mirrors_runPlan`: a run of a plan is one with all statements accepted, or it gets stuck
- `plan_told`: what an answered request to run a plan has left, also after later requests
-/

namespace AgnoRuntime

open Svc Prog ExecutionEngineService

/-! ## Refused statements -/

/-- The environment, but no statement is refused. -/
def Env.accepting (env : Env) : Env := { env with refuses := fun _ _ _ => none }

/-- A statement has been refused: the session is out of order. -/
abbrev OutOfOrder (w : World) : Prop := w.failed = true

/-- What it then raises is an `Exception`. -/
abbrev Caught (exc : PyError) : Prop := exc.isException = true

/-- The first program does what the second does, unless a statement is refused on the way. -/
abbrev UnlessRefused {α : Type} (x y : Svc α) : Prop := Mirrors (fun w => w) OutOfOrder Caught x y

section Refusals

variable {α : Type} {env : Env}

/-- A program that sends nothing. -/
theorem mirrors_self {x : Svc α} (h : ∀ w, ¬OutOfOrder w → ¬OutOfOrder (x w).2) : UnlessRefused x x :=
  fun w hw => .inl ⟨h w hw, rfl⟩

theorem mirrors_touch (f : Db → Db) : UnlessRefused (touch f) (touch f) :=
  mirrors_self fun _ hw => hw

theorem mirrors_fetch (f : Db → Except PyError α) : UnlessRefused (fetch f) (fetch f) :=
  mirrors_self fun w hw => by
    rw [fetch_apply (Bool.eq_false_iff.mpr hw)]
    exact hw

theorem mirrors_send (s : Statement) : UnlessRefused (send env s) (send env.accepting s) := by
  intro w hw
  have hinOrder : w.failed = false := Bool.eq_false_iff.mpr hw
  have haccepted : send env.accepting s w =
      (.ok (), { w with ticks := w.ticks + 1, statements := w.statements ++ [s] }) :=
    send_apply hinOrder rfl
  cases hrefuses : env.refuses w.ticks s w.working with
  | some message =>
    rw [send_apply_refused hinOrder hrefuses]
    exact .inr ⟨rfl, _, rfl, rfl⟩
  | none =>
    rw [send_apply hinOrder hrefuses]
    exact .inl ⟨hw, haccepted⟩

theorem mirrors_write (s : Statement) (f : Db → Db) :
    UnlessRefused (write env s f) (write env.accepting s f) :=
  (mirrors_touch f).bind fun _ => mirrors_send s

/-- A session that is out of order sends nothing. -/
theorem stuck_send (s : Statement) : Stuck OutOfOrder Caught (send env s) := by
  intro w hw
  rw [send_apply_failed hw]
  exact ⟨hw, _, rfl, rfl⟩

theorem stuck_fetch (f : Db → Except PyError α) : Stuck OutOfOrder Caught (fetch f) := by
  refine Stuck.bind (fun w hw => ?_) _
  rw [query_apply_failed hw]
  exact ⟨hw, _, rfl, rfl⟩

theorem staysCut_touch (f : Db → Db) : StaysCut OutOfOrder Caught (touch f) :=
  fun _ hw => ⟨hw, fun _ h => by cases h⟩

theorem stuck_write (s : Statement) (f : Db → Db) : Stuck OutOfOrder Caught (write env s f) :=
  (staysCut_touch f).bind fun _ => stuck_send s

theorem mirrors_run (dispatch : Dispatch) (args : RunArgs) :
    UnlessRefused (Svc.run env dispatch args) (Svc.run env.accepting dispatch args) := by
  intro w hw
  refine .inl ⟨?_, rfl⟩
  have hkept : Keeps (Same World.failed) (Svc.run env dispatch args) :=
    keeps_bind keeps_read fun w => keeps_bind (fun _ => rfl) fun n =>
      keeps_bind (fun _ => rfl) fun _ => by
        cases runOutcome dispatch args (env.call n) w.working.metadata with
        | ok output => exact keeps_pure output
        | error exc => exact keeps_bind (fun _ => rfl) fun _ => keeps_raise exc
  rw [OutOfOrder, hkept w]
  exact hw

/-! ## Plans -/

section Plans

variable (context : PlanContext) (step : PlanStep) (stepInput : String) (stepRunId : Uuid)

theorem mirrors_attempt :
    UnlessRefused (attempt env context step stepInput stepRunId)
      (attempt env.accepting context step stepInput stepRunId) := by
  refine (mirrors_touch _).bind fun _ => Mirrors.bind ?_ fun _ =>
    (mirrors_fetch _).bind fun dispatch => mirrors_run dispatch _
  refine Mirrors.bind (mirrors_self fun _ hw => hw) fun w => ?_
  split
  · exact mirrors_write _ _
  · exact mirrors_pure ()

/-- No attempt succeeds on a session that is out of order: there is a lookup in each. -/
theorem stuck_attempt :
    Stuck OutOfOrder Caught (attempt env context step stepInput stepRunId) := by
  refine (staysCut_touch _).bind fun _ => StaysCut.bind ?_ fun _ => (stuck_fetch _).bind _
  intro w hw
  rw [markRetrying, bind_apply_ok (read_apply w)]
  split
  · exact (stuck_write _ _).staysCut w hw
  · exact ⟨hw, fun _ h => by cases h⟩

theorem stuck_retry {body : Svc α} (h : Stuck OutOfOrder Caught body) (left : Nat) :
    Stuck OutOfOrder Caught (retry body left) := by
  induction left with
  | zero => exact h
  | succ left ih =>
    refine h.handleError fun exc hexc => ?_
    rw [if_pos hexc]
    exact ih

/-- What was refused is retried in vain. -/
theorem mirrors_retry {x y : Svc α} (h : UnlessRefused x y) (hstuck : Stuck OutOfOrder Caught x)
    (left : Nat) : UnlessRefused (retry x left) (retry y left) := by
  induction left with
  | zero => exact h
  | succ left ih =>
    refine h.handleError (fun exc => ?_) fun exc hexc => ?_
    · split
      · exact ih
      · exact mirrors_raise exc
    · rw [if_pos hexc]
      exact stuck_retry hstuck left

theorem mirrors_failPlanStep (exc : PyError) :
    UnlessRefused (failStep env context step stepRunId exc : Svc α)
      (failStep env.accepting context step stepRunId exc) := by
  rw [failStep, failStep]
  split
  · exact (mirrors_write _ _).bind fun _ => (mirrors_write _ _).bind fun _ => mirrors_raise _
  · exact mirrors_raise exc

theorem mirrors_executePlanStep (currentOutput : String) :
    UnlessRefused (executeStep env context currentOutput step)
      (executeStep env.accepting context currentOutput step) := by
  refine Mirrors.bind ?_ fun stepRunId => Mirrors.bind ?_ fun output =>
    (mirrors_write _ _).bind fun _ => mirrors_pure output
  · exact Mirrors.bind (mirrors_self fun _ hw => hw) fun w =>
      (mirrors_write _ _).bind fun _ => mirrors_pure _
  · refine (mirrors_retry (mirrors_attempt _ _ _ _) (stuck_attempt _ _ _ _) _).handleError
      (mirrors_failPlanStep context step stepRunId) fun exc hexc => ?_
    -- the failure of the step cannot be recorded, either
    rw [failStep, if_pos hexc]
    exact (stuck_write _ _).bind _

theorem mirrors_executePlanSteps (steps : List PlanStep) (currentOutput : String) :
    UnlessRefused (executeSteps env context steps currentOutput)
      (executeSteps env.accepting context steps currentOutput) := by
  induction steps generalizing currentOutput with
  | nil => exact mirrors_pure currentOutput
  | cons step steps ih =>
    exact (mirrors_executePlanStep context step currentOutput).bind fun output => ih output

/-- A run of a plan is one with all statements accepted, or it gets stuck. -/
theorem mirrors_runPlan (plan : ExecutionPlan) (sessionId : Uuid) (userId : Option String) :
    UnlessRefused (runPlan env plan sessionId userId)
      (runPlan env.accepting plan sessionId userId) := by
  show UnlessRefused (if !env.settings.featureExecutionEngine then _ else _)
    (if !env.settings.featureExecutionEngine then _ else _)
  split
  · exact mirrors_raise _
  · split
    · exact mirrors_raise _
    · refine Mirrors.bind ?_ fun planRunId => (mirrors_executePlanSteps _ _ _).bind fun result =>
        (mirrors_write _ _).bind fun _ => mirrors_pure _
      exact Mirrors.bind (mirrors_self fun _ hw => hw) fun w =>
        (mirrors_write _ _).bind fun _ => mirrors_pure _

end Plans

end Refusals

/-! ## Requests -/

/-- The session of a request to run a plan. -/
def planSessionId (base : Db) (payload : ExecutionPlanRunRequest) : Uuid :=
  payload.sessionId.getD base.chatSessions.freshKey

/-- What an answered request to run a plan has left in the tables: the rows tell what happened at
    each step. These calls of the engine were made, on the metadata of `base`. -/
structure PlanTold (env : Env) (base : Db) (payload : ExecutionPlanRunRequest)
    (result : PlanResult) (calls : List EngineCall) (traces : List StepTrace) (db : Db) : Prop where
  fresh : base.executionPlanRuns.Lacks result.planRunId
  status : result.status = "COMPLETED"
  run : { startedPlan (ExecutionPlans.planOf env.settings payload) (planSessionId base payload)
      result.planRunId with status := .completed, result := some result.result } ∈
    db.executionPlanRuns.rows
  /-- There is one record for each step. -/
  records : ∃ records,
    planStepsOf result.planRunId db = planStepsOf result.planRunId base ++ records ∧
    List.Forall₂ (fun t record => ∃ id, record = t.record result.planRunId id) traces records
  /-- Every step was executed, in ascending order. -/
  steps : traces.map (·.step) = ordered (ExecutionPlans.planOf env.settings payload).steps
  completed : ∀ t ∈ traces, t.status = .completed
  inputs : Threads payload.message traces
  outcome : loopOutcome payload.message traces = .ok result.result
  bounded : ∀ t ∈ traces, (t.count : Int) ≤ t.step.maxRetries + 1
  /-- The attempts of a step were calls that failed, one after the other, and one that did not: those
      that follow the calls of the steps before it. -/
  performed : ∀ before t after, traces = before ++ t :: after →
    Performed env base.metadata
      ⟨result.planRunId, planSessionId base payload, payload.userId⟩
      (before.flatMap (·.calls env base.metadata
        ⟨result.planRunId, planSessionId base payload, payload.userId⟩)).length t
  calls : calls = traces.flatMap (·.calls env base.metadata
    ⟨result.planRunId, planSessionId base payload, payload.userId⟩)

/-- Later requests leave the rows as they are. -/
theorem PlanTold.kept {env : Env} {base db db' : Db} {payload : ExecutionPlanRunRequest}
    {result : PlanResult} {calls : List EngineCall} {traces : List StepTrace}
    (h : PlanTold env base payload result calls traces db) (hkept : HistoryKept db db') :
    PlanTold env base payload result calls traces db' :=
  { h with
    run := hkept.planRuns _ h.run
    records := by
      obtain ⟨records, hsteps, hrecords⟩ := h.records
      exact ⟨records, (hkept.planLog _ h.run).trans hsteps, hrecords⟩ }

/-- The steps of the plan of a request have no negative number of retries. -/
theorem maxRetries_nonneg {settings : Settings} {payload : ExecutionPlanRunRequest} :
    ∀ step ∈ (ExecutionPlans.planOf settings payload).steps, 0 ≤ step.maxRetries := by
  intro step hstep
  rw [ExecutionPlans.planOf, PlanningEngineService.buildPlan] at hstep
  split at hstep
  · rw [List.mem_singleton.mp hstep]
  · obtain ⟨i, hi, rfl⟩ := List.mem_mapIdx.mp hstep
    exact Int.natCast_nonneg _

theorem originalMessage_planOf (settings : Settings) (payload : ExecutionPlanRunRequest) :
    (ExecutionPlans.planOf settings payload).originalMessage = payload.message := by
  rw [ExecutionPlans.planOf, PlanningEngineService.buildPlan]
  split
  · rfl
  · rfl

/-- There is always a step. -/
theorem steps_planOf_ne_nil (settings : Settings) (payload : ExecutionPlanRunRequest) :
    (ExecutionPlans.planOf settings payload).steps ≠ [] := by
  rw [ExecutionPlans.planOf, PlanningEngineService.buildPlan]
  split
  · exact List.cons_ne_nil _ _
  · next hsteps =>
    intro hnone
    rw [List.mapIdx_eq_nil_iff] at hnone
    rw [hnone] at hsteps
    simp at hsteps

/-- The records of a plan are found by its id. -/
theorem planStepsOf_append {base db : Db} {planRunId : Uuid} {traces : List StepTrace}
    {records : List ExecutionPlanStepRun}
    (hrows : db.executionPlanStepRuns.rows = base.executionPlanStepRuns.rows ++ records)
    (hrecords : List.Forall₂ (fun t record => ∃ id, record = StepTrace.record t planRunId id)
      traces records) :
    planStepsOf planRunId db = planStepsOf planRunId base ++ records := by
  have hown : ∀ record ∈ records, record.planRunId = planRunId := by
    clear hrows
    induction hrecords with
    | nil => exact fun _ h => by cases h
    | cons hrecord _ ih =>
      obtain ⟨id, rfl⟩ := hrecord
      exact List.forall_mem_cons.mpr ⟨rfl, ih⟩
  rw [planStepsOf, planStepsOf, hrows, List.filter_append]
  congr 1
  rw [List.filter_eq_self]
  exact fun record hrecord => decide_eq_true (hown record hrecord)

/-- Every step was completed if the last one was. -/
theorem completed_of_threads {traces : List StepTrace} {current : String} {last : StepTrace}
    (hthreads : Threads current traces) (hlast : traces.getLast? = some last)
    (hstatus : last.status = .completed) : ∀ t ∈ traces, t.status = .completed := by
  obtain ⟨earlier, rfl⟩ := List.getLast?_eq_some_iff.mp hlast
  have hearlier := status_of_threads hthreads
  rw [List.dropLast_concat] at hearlier
  intro t ht
  rcases List.mem_append.mp ht with ht | ht
  · exact hearlier t ht
  · rw [List.mem_singleton.mp ht]
    exact hstatus

variable {env : Env} {store : Store} {payload : ExecutionPlanRunRequest} {result : PlanResult}
  {w : World}

/-- Where a plan was executed to its end, no statement was refused: so it is with all of them
    accepted. -/
theorem runPlan_accepting {plan : ExecutionPlan} {sessionId : Uuid} {userId : Option String}
    (h : runPlan env plan sessionId userId (World.start store) = (.ok result, w)) :
    runPlan env.accepting plan sessionId userId (World.start store) = (.ok result, w) := by
  have hmirrors : UnlessRefused (runPlan env plan sessionId userId)
      (runPlan env.accepting plan sessionId userId) := mirrors_runPlan _ _ _
  rcases hmirrors (World.start store) Bool.false_ne_true with ⟨-, hsame⟩ | ⟨-, exc, hexc, -⟩
  · rw [h] at hsame
    exact hsame
  · rw [h] at hexc
    cases hexc

/-- A plan that has been executed to its end, before it is committed. -/
theorem told_runExecutionPlan
    (h : ExecutionPlans.runExecutionPlan env payload (World.start store) = (.ok result, w)) :
    ∃ traces, PlanTold env store.db payload result w.engineCalls traces w.working := by
  rw [ExecutionPlans.runExecutionPlan, lift_bind_eq_ok] at h
  obtain ⟨⟨⟩, henabled, h⟩ := h
  rw [ExecutionPlans.requireEnabled] at henabled
  split at henabled
  · next hflags =>
    rw [Bool.and_eq_true] at hflags
    generalize hplan : ExecutionPlans.planOf env.settings payload = plan at h
    have hmessage : plan.originalMessage = payload.message := by
      rw [← hplan, originalMessage_planOf]
    rw [read_bind_apply] at h
    change runPlan env plan (planSessionId store.db payload) payload.userId (World.start store) = _
      at h
    have haccepts : ∀ n s db, env.accepting.refuses n s db = none := fun _ _ _ => rfl
    have haccepted := runPlan_accepting h
    have hretries : ∀ step ∈ plan.steps, 0 ≤ step.maxRetries := by
      rw [← hplan]
      exact maxRetries_nonneg
    have hsteps : plan.steps ≠ [] := by
      rw [← hplan]
      exact steps_planOf_ne_nil _ _
    obtain ⟨last, record, records, hlast, hended, hrecords, hview⟩ :=
      runPlan_traces haccepts (planSessionId store.db payload) payload.userId
        (w := World.start store) rfl hflags.2 hsteps hretries rfl rfl
    rw [haccepted] at hended hview
    have hthreads := threads_tracesFrom env.accepting store.db.metadata
      ⟨store.db.executionPlanRuns.freshKey, planSessionId store.db payload, payload.userId⟩
      (ordered plan.steps) plan.originalMessage 0
    cases hended with
    | completed output houtput hall hstatus =>
      refine ⟨_, ⟨KeyedTable.lacks_freshKey _, rfl, ?_, ⟨records, ?_, hrecords⟩, ?_, ?_, ?_, ?_, ?_,
        ?_, hview.calls⟩⟩
      · rw [hview.planRuns, hplan]
        exact List.mem_append_right _ (List.mem_singleton_self _)
      · exact planStepsOf_append hview.stepRuns hrecords
      · rw [hplan]
        exact hall
      · exact completed_of_threads hthreads hlast hstatus
      · rw [← hmessage]
        exact hthreads
      · have hloop := loopOutcome_of_getLast? hthreads hlast
        rw [loopOutcome, houtput] at hloop
        rw [← hmessage]
        exact hloop
      · exact bounded_tracesFrom _ _ _ hretries _ _
      · intro before t after hsplit
        have hperformed := performed_tracesFrom _ _ _ _ _ _ before t after hsplit
        have hstart : (World.start store).engineCalls.length = 0 := rfl
        rw [hstart, Nat.zero_add] at hperformed
        exact hperformed
  · cases henabled

/-- The request commits what a plan has left when it is answered, and otherwise nothing. -/
theorem plan_served (env : Env) (store : Store) (payload : ExecutionPlanRunRequest) :
    (∃ exc, ((Request.runExecutionPlan payload).handle env (World.start store)).1 = .error exc ∧
        ((Request.runExecutionPlan payload).served env store).committed = store.db) ∨
      ∃ result traces,
        ((Request.runExecutionPlan payload).handle env (World.start store)).1 = .ok (.plan result) ∧
        PlanTold env store.db payload result
          ((Request.runExecutionPlan payload).served env store).engineCalls traces
          ((Request.runExecutionPlan payload).served env store).committed := by
  have hcommitted : Keeps (Same World.committed)
      (ExecutionPlans.runExecutionPlan env payload) := by
    have hframe : Frame (fun _ => True) (Same World.committed) :=
      ⟨fun _ _ h => h.committed, fun _ _ _ => rfl, fun _ _ _ _ _ => rfl, fun _ _ => rfl⟩
    exact keeps_bind (keeps_lift _) fun _ => keeps_bind keeps_read fun w =>
      hframe.runPlan _ _ _ fun _ _ => trivial
  have hsame := hcommitted (World.start store)
  rw [Request.served, Request.handle]
  rcases hrun : ExecutionPlans.runExecutionPlan env payload (World.start store) with
    ⟨exc | result, w⟩
  · rw [hrun] at hsame
    have hmapped : (Response.plan <$> ExecutionPlans.runExecutionPlan env payload)
        (World.start store) = (.error exc, w) := bind_apply_error hrun
    left
    rw [getDb_apply_error hmapped]
    exact ⟨exc, rfl, hsame⟩
  · obtain ⟨traces, htold⟩ := told_runExecutionPlan hrun
    rw [hrun] at hsame
    have hmapped : (Response.plan <$> ExecutionPlans.runExecutionPlan env payload)
        (World.start store) = (.ok (.plan result), w) := bind_apply_ok hrun
    rcases hcommit : commit env w with ⟨exc | ⟨⟩, w'⟩
    · -- the plan was executed, but its rows are lost
      left
      have hleft : w'.committed = store.db := (commit_eq_error hcommit).1.trans hsame
      have hlost : getDb env (Response.plan <$> ExecutionPlans.runExecutionPlan env payload)
          (World.start store) =
            (.error exc, { w' with working := w'.committed, failed := false, expired := true }) := by
        rw [getDb, handleError_apply_error
          ((bind_apply_ok hmapped).trans (bind_apply_error hcommit))]
        rfl
      rw [hlost]
      exact ⟨exc, rfl, hleft⟩
    · right
      obtain ⟨-, rfl⟩ := commit_eq_ok hcommit
      rw [getDb_apply_ok hmapped hcommit]
      exact ⟨result, traces, rfl, htold⟩

/-- A plan is answered when all of its steps were executed, and its rows then tell every attempt
    at every step, also after any later chats, workflow runs and plans; a plan that is not answered
    has left no row, whatever failed and was retried on the way. -/
theorem plan_told (env : Env) (store : Store) (payload : ExecutionPlanRunRequest)
    (later : List (Env × Request)) :
    (∃ exc, ((Request.runExecutionPlan payload).handle env (World.start store)).1 = .error exc ∧
        ((Request.runExecutionPlan payload).served env store).committed = store.db) ∨
      ∃ result traces,
        ((Request.runExecutionPlan payload).handle env (World.start store)).1 = .ok (.plan result) ∧
        PlanTold env store.db payload result
          ((Request.runExecutionPlan payload).served env store).engineCalls traces
          (servedAll ((Request.runExecutionPlan payload).served env store).store later).db := by
  rcases plan_served env store payload with hnone | ⟨result, traces, hanswer, htold⟩
  · exact .inl hnone
  · have hkept : HistoryKept ((Request.runExecutionPlan payload).served env store).store.db
        (servedAll ((Request.runExecutionPlan payload).served env store).store later).db :=
      earlier_requests_kept _ [] later
    exact .inr ⟨result, traces, hanswer, htold.kept hkept⟩

end AgnoRuntime
