import AgnoRuntime.Spec.ClientUserId

/-!
# Runs of execution plans

`run_plan` nests a loop of retries in a loop over the steps. What it does is
described by a list of traces, one for each step it got to: the input of the step,
the exceptions of the attempts that were retried, and the outcome of the last one.
The traces are computed from what the engine answers alone; the rows, the calls of
the engine and the result of `run_plan` are those of its traces.
-/

namespace AgnoRuntime

open Svc Prog ExecutionEngineService

/-! ## Traces -/

/-- Attempts at something: the exceptions of those that were retried, and the outcome of the
    last one. -/
structure Attempts where
  failures : List PyError
  outcome : Except PyError String

/-- How many attempts there were. -/
def Attempts.count (a : Attempts) : Nat := a.failures.length + 1

/-- The attempts from the `n`-th on, with `left` retries: an exception is retried while there are
    retries left. -/
def attemptsFrom (outcome : Nat → Except PyError String) (n : Nat) : Nat → Attempts
  | 0 => ⟨[], outcome n⟩
  | left + 1 =>
    match outcome n with
    | .ok output => ⟨[], .ok output⟩
    | .error exc =>
      if exc.isException then
        let rest := attemptsFrom outcome (n + 1) left
        ⟨exc :: rest.failures, rest.outcome⟩
      else ⟨[], .error exc⟩

/-- What happened at a step. -/
structure StepTrace extends Attempts where
  step : PlanStep
  input : String

section Traces

variable (env : Env) (m : Metadata) (context : PlanContext)

/-- What the engine makes of a step, if it is called for the `n`-th time then. -/
def stepOutcome (step : PlanStep) (stepInput : String) (n : Nat) : Except PyError String :=
  match resolveStep env.hierarchyScan m step with
  | .ok dispatch =>
    runOutcome dispatch ⟨stepInput, context.sessionId, context.userId, none⟩ (env.call n) m
  | .error exc => .error exc

/-- The calls of the engine in `count` attempts: none where the step is not resolved. -/
def callsOf (step : PlanStep) (stepInput : String) (count : Nat) : List EngineCall :=
  match resolveStep env.hierarchyScan m step with
  | .ok dispatch =>
    List.replicate count ⟨dispatch, ⟨stepInput, context.sessionId, context.userId, none⟩⟩
  | .error _ => []

/-- The calls of the engine at a step. -/
def StepTrace.calls (t : StepTrace) : List EngineCall :=
  callsOf env m context t.step t.input t.count

/-- The trace of a step. -/
def traceOf (step : PlanStep) (current : String) (n : Nat) : StepTrace where
  toAttempts := attemptsFrom (stepOutcome env m context step (stepInputOf step current)) n
    (retriesOf step)
  step := step
  input := stepInputOf step current

/-- The traces of a run: a step that fails is the last one. -/
def tracesFrom : List PlanStep → String → Nat → List StepTrace
  | [], _, _ => []
  | step :: steps, current, n =>
    let t := traceOf env m context step current n
    match t.outcome with
    | .ok output =>
      t :: tracesFrom steps output (n + (t.calls env m context).length)
    | .error _ => [t]

end Traces

/-- Every attempt at the step has the outcome of its call, from the n-th call of the engine on: the
    retried ones failed, in order, and the next one has the outcome of the step. -/
def Performed (env : Env) (m : Metadata) (context : PlanContext) (n : Nat) (t : StepTrace) :
    Prop :=
  (∀ i exc, t.failures[i]? = some exc →
    stepOutcome env m context t.step t.input (n + i) = .error exc) ∧
  stepOutcome env m context t.step t.input (n + t.failures.length) = t.outcome

/-! ## What traces are like -/

section Attempts

variable {outcome : Nat → Except PyError String} {n left : Nat} {exc : PyError}

theorem attemptsFrom_of_ok {output : String} (h : outcome n = .ok output) :
    attemptsFrom outcome n left = ⟨[], .ok output⟩ := by
  cases left with
  | zero => rw [attemptsFrom, h]
  | succ left => simp only [attemptsFrom, h]

/-- An exception that is retried. -/
theorem attemptsFrom_of_retried (h : outcome n = .error exc) (hexc : exc.isException = true) :
    attemptsFrom outcome n (left + 1) =
      ⟨exc :: (attemptsFrom outcome (n + 1) left).failures,
        (attemptsFrom outcome (n + 1) left).outcome⟩ := by
  simp only [attemptsFrom, h, hexc, if_true]

/-- An exception that is not. -/
theorem attemptsFrom_of_final (h : outcome n = .error exc) (hexc : exc.isException = false) :
    attemptsFrom outcome n left = ⟨[], .error exc⟩ := by
  cases left with
  | zero => rw [attemptsFrom, h]
  | succ left => simp only [attemptsFrom, h, hexc, Bool.false_eq_true, if_false]

/-- Only the outcomes from the first attempt on matter. -/
theorem attemptsFrom_congr {n' : Nat} (h : ∀ i, outcome (n + i) = outcome (n' + i)) :
    attemptsFrom outcome n left = attemptsFrom outcome n' left := by
  have hfirst {n n' : Nat} (h : ∀ i, outcome (n + i) = outcome (n' + i)) :
      outcome n = outcome n' :=
    h 0
  induction left generalizing n n' with
  | zero => rw [attemptsFrom, attemptsFrom, hfirst h]
  | succ left ih =>
    have hrest : attemptsFrom outcome (n + 1) left = attemptsFrom outcome (n' + 1) left := by
      apply ih
      intro i
      rw [Nat.add_assoc, Nat.add_assoc]
      exact h (1 + i)
    rw [attemptsFrom, attemptsFrom, hfirst h, hrest]

variable (outcome)

/-- There is one attempt more than there are retries, at most. -/
theorem count_attemptsFrom_le (n left : Nat) :
    (attemptsFrom outcome n left).count ≤ left + 1 := by
  induction left generalizing n with
  | zero => exact Nat.le_refl 1
  | succ left ih =>
    rcases houtcome : outcome n with exc | output
    · cases hexc : exc.isException with
      | true =>
        have hrest := ih (n + 1)
        rw [attemptsFrom_of_retried houtcome hexc]
        simp only [Attempts.count, List.length_cons] at hrest ⊢
        omega
      | false =>
        rw [attemptsFrom_of_final houtcome hexc]
        show 1 ≤ left + 1 + 1
        omega
    · rw [attemptsFrom_of_ok houtcome]
      show 1 ≤ left + 1 + 1
      omega

/-- Every attempt has the outcome of its call: the retried ones failed, in order, and the one after
    them is the last. -/
theorem performed_attemptsFrom (n left : Nat) :
    (∀ i exc, (attemptsFrom outcome n left).failures[i]? = some exc →
      outcome (n + i) = .error exc) ∧
    outcome (n + (attemptsFrom outcome n left).failures.length) =
      (attemptsFrom outcome n left).outcome := by
  -- The attempts left decrease, and the number of the call grows.
  induction left generalizing n with
  | zero => exact ⟨fun _ _ h => (by cases List.getElem?_nil.symm.trans h), rfl⟩
  | succ left ih =>
    rcases houtcome : outcome n with exc | output
    · cases hexc : exc.isException with
      | true =>
        -- The attempt failed, and the next one makes the next call.
        obtain ⟨hfailures, hlast⟩ := ih (n + 1)
        rw [attemptsFrom_of_retried houtcome hexc]
        constructor
        · intro i exc' hi
          cases i with
          | zero =>
            rw [List.getElem?_cons_zero, Option.some.injEq] at hi
            exact hi ▸ houtcome
          | succ i =>
            rw [List.getElem?_cons_succ] at hi
            show outcome (n + (i + 1)) = .error exc'
            rw [show n + (i + 1) = n + 1 + i by omega]
            exact hfailures i exc' hi
        · rw [Nat.add_right_comm] at hlast
          exact hlast
      -- The exception is none that is retried.
      | false =>
        rw [attemptsFrom_of_final houtcome hexc]
        exact ⟨fun _ _ h => (by cases List.getElem?_nil.symm.trans h), houtcome⟩
    · rw [attemptsFrom_of_ok houtcome]
      exact ⟨fun _ _ h => (by cases List.getElem?_nil.symm.trans h), houtcome⟩

/-- Attempts that end in an exception have used every retry. -/
theorem count_attemptsFrom_of_error {n left : Nat} {exc : PyError}
    (h : (attemptsFrom outcome n left).outcome = .error exc) (hexc : exc.isException = true) :
    (attemptsFrom outcome n left).count = left + 1 := by
  induction left generalizing n with
  | zero => rfl
  | succ left ih =>
    rcases houtcome : outcome n with exc' | output
    · cases hretried : exc'.isException with
      | true =>
        rw [attemptsFrom_of_retried houtcome hretried] at h ⊢
        have hrest := ih h
        simp only [Attempts.count, List.length_cons] at hrest ⊢
        omega
      | false =>
        rw [attemptsFrom_of_final houtcome hretried, Except.error.injEq] at h
        rw [h, hexc] at hretried
        cases hretried
    · rw [attemptsFrom_of_ok houtcome] at h
      cases h

end Attempts

/-- Each step is given its template where that is not empty, and the output of the step before it
    otherwise; no step follows one that failed. -/
def Threads (current : String) : List StepTrace → Prop
  | [] => True
  | t :: traces =>
    t.input = (t.step.stepInputTemplate.filter (· ≠ "")).getD current ∧
    match t.outcome with
    | .ok output => Threads output traces
    | .error _ => traces = []

/-- The outcome of the loop over the steps. -/
def loopOutcome (current : String) : List StepTrace → Except PyError String
  | [] => .ok current
  | t :: traces =>
    match t.outcome with
    | .ok output => loopOutcome output traces
    | .error exc =>
      if exc.isException then
        .error (.runtimeExecution
          ("Execution plan step " ++ toString t.step.order ++ " failed: " ++ exc.str))
      else .error exc

/-- The record of the plan after the loop over the steps. -/
def markedBy (record : ExecutionPlanRun) : List StepTrace → ExecutionPlanRun
  | [] => record
  | t :: traces =>
    match t.outcome with
    | .ok _ => markedBy record traces
    | .error exc =>
      if exc.isException then { record with status := .failed, errorMessage := some exc.str }
      else record

/-- The status of a step when it is over. -/
def StepTrace.status (t : StepTrace) : ExecutionStepStatus :=
  match t.outcome with
  | .ok _ => .completed
  | .error exc =>
    if exc.isException then .failed else if 1 < t.count then .retrying else .running

/-- The record of a step when it is over. -/
def StepTrace.record (t : StepTrace) (planRunId id : Uuid) : ExecutionPlanStepRun where
  id := id
  planRunId := planRunId
  stepOrder := t.step.order
  targetType := t.step.targetType.value
  targetCode := targetCodeOf t.step
  status := t.status
  attemptCount := t.count
  input := t.input
  output := t.outcome.toOption
  errorMessage :=
    match t.outcome with
    | .ok _ => none
    | .error exc => if exc.isException then some exc.str else none

/-- The record of a plan before its first step. -/
def startedPlan (plan : ExecutionPlan) (sessionId id : Uuid) : ExecutionPlanRun :=
  ⟨id, sessionId, plan.originalMessage, plan.rationale, .running, none, none⟩

/-- How the run of a plan ended, and its record then: every step was completed, the last one that
    was got to failed, or it was interrupted by what is no `Exception`. -/
inductive PlanEnded (plan : ExecutionPlan) (started : ExecutionPlanRun) (traces : List StepTrace)
    (last : StepTrace) : Except PyError PlanResult → ExecutionPlanRun → Prop where
  | completed (output : String) (houtput : last.outcome = .ok output)
      (hsteps : traces.map (·.step) = ordered plan.steps) (hstatus : last.status = .completed) :
      PlanEnded plan started traces last (.ok ⟨started.id, "COMPLETED", output⟩)
        { started with status := .completed, result := some output }
  | failed (exc : PyError) (houtcome : last.outcome = .error exc) (hexc : exc.isException = true)
      (hattempts : (last.count : Int) = last.step.maxRetries + 1) (hstatus : last.status = .failed) :
      PlanEnded plan started traces last
        (.error (.runtimeExecution
          ("Execution plan step " ++ toString last.step.order ++ " failed: " ++ exc.str)))
        { started with status := .failed, errorMessage := some exc.str }
  | interrupted (exc : PyError) (houtcome : last.outcome = .error exc)
      (hexc : exc.isException = false) :
      PlanEnded plan started traces last (.error exc) started

/-- A run of a plan from `w`, with its outcome and the world it ended in, is accounted for by its
    traces. -/
structure PlanAccount (env : Env) (plan : ExecutionPlan) (sessionId : Uuid)
    (userId : Option String) (w : World) (run : Except PyError PlanResult × World)
    (planRunId : Uuid) (traces : List StepTrace) : Prop where
  /-- The steps are attempted in ascending order, none is left out before one that is attempted. -/
  ascending : (traces.map (·.step.order)).Pairwise (· < ·)
  steps : traces.map (·.step) <+: ordered plan.steps
  inputs : Threads plan.originalMessage traces
  /-- A step that is followed by another was completed. -/
  earlier : ∀ t ∈ traces.dropLast, t.status = .completed
  bounded : ∀ t ∈ traces, (t.count : Int) ≤ t.step.maxRetries + 1
  /-- The attempts of a step are the calls that follow those of the steps before it. -/
  performed : ∀ before t after, traces = before ++ t :: after →
    Performed env w.working.metadata ⟨planRunId, sessionId, userId⟩
      (w.engineCalls.length + (before.flatMap
        (·.calls env w.working.metadata ⟨planRunId, sessionId, userId⟩)).length) t
  calls : run.2.engineCalls = w.engineCalls ++
    traces.flatMap (·.calls env w.working.metadata ⟨planRunId, sessionId, userId⟩)
  records : ∃ records,
    run.2.working.executionPlanStepRuns.rows =
      w.working.executionPlanStepRuns.rows ++ records ∧
    List.Forall₂ (fun t record => ∃ id, record = t.record planRunId id) traces records
  ended : ∃ last record, traces.getLast? = some last ∧
    PlanEnded plan (startedPlan plan sessionId planRunId) traces last run.1 record ∧
    run.2.working.executionPlanRuns.rows = w.working.executionPlanRuns.rows ++ [record]

section Traces

variable (env : Env) (m : Metadata) (context : PlanContext)

/-- The input of a step is its template, if it has one that is not empty. -/
theorem stepInputOf_eq (step : PlanStep) (current : String) :
    stepInputOf step current = (step.stepInputTemplate.filter (· ≠ "")).getD current := by
  rw [stepInputOf]
  cases step.stepInputTemplate with
  | none => rfl
  | some template =>
    by_cases hempty : template = ""
    · simp [truthy, hempty, Option.filter_some]
    · simp [truthy, hempty, Option.filter_some]

theorem threads_tracesFrom (steps : List PlanStep) (current : String) (n : Nat) :
    Threads current (tracesFrom env m context steps current n) := by
  induction steps generalizing current n with
  | nil => trivial
  | cons step steps ih =>
    rw [tracesFrom]
    split
    · next output houtcome =>
      refine ⟨stepInputOf_eq step current, ?_⟩
      simp only [houtcome]
      exact ih _ _
    · next exc houtcome =>
      refine ⟨stepInputOf_eq step current, ?_⟩
      simp only [houtcome]

/-- The steps that were got to are the first ones. -/
theorem steps_tracesFrom (steps : List PlanStep) (current : String) (n : Nat) :
    (tracesFrom env m context steps current n).map (·.step) <+: steps := by
  induction steps generalizing current n with
  | nil => exact List.prefix_rfl
  | cons step steps ih =>
    rw [tracesFrom]
    split
    · rw [List.map_cons]
      exact List.cons_prefix_cons.mpr ⟨rfl, ih _ _⟩
    · rw [List.map_singleton]
      exact List.cons_prefix_cons.mpr ⟨rfl, List.nil_prefix⟩

/-- A trace of a run is the trace of one of its steps. -/
theorem exists_of_mem_tracesFrom {steps : List PlanStep} {current : String} {n : Nat}
    {t : StepTrace} (h : t ∈ tracesFrom env m context steps current n) :
    ∃ step ∈ steps, ∃ current' n', t = traceOf env m context step current' n' := by
  induction steps generalizing current n with
  | nil => cases h
  | cons step steps ih =>
    rw [tracesFrom] at h
    split at h
    · rcases List.mem_cons.mp h with rfl | h
      · exact ⟨step, List.mem_cons_self, current, n, rfl⟩
      · obtain ⟨step', hstep', current', n', rfl⟩ := ih h
        exact ⟨step', List.mem_cons_of_mem _ hstep', current', n', rfl⟩
    · rw [List.mem_singleton] at h
      exact ⟨step, List.mem_cons_self, current, n, h⟩

/-- A step has as many attempts as it has retries, and one. -/
theorem retriesOf_eq {step : PlanStep} (h : 0 ≤ step.maxRetries) :
    ((retriesOf step + 1 : Nat) : Int) = step.maxRetries + 1 := by
  rw [retriesOf]
  omega

/-- No step is attempted more often than it may be. -/
theorem bounded_tracesFrom {steps : List PlanStep} (hretries : ∀ step ∈ steps, 0 ≤ step.maxRetries)
    (current : String) (n : Nat) : ∀ t ∈ tracesFrom env m context (ordered steps) current n,
      (t.count : Int) ≤ t.step.maxRetries + 1 := by
  intro t ht
  obtain ⟨step, hstep, current', n', rfl⟩ := exists_of_mem_tracesFrom env m context ht
  have hretry := retriesOf_eq (hretries step
    ((List.perm_insertionSort _ steps).mem_iff.mp hstep))
  have hcount := count_attemptsFrom_le
    (stepOutcome env m context step (stepInputOf step current')) n' (retriesOf step)
  show ((attemptsFrom _ n' (retriesOf step)).count : Int) ≤ step.maxRetries + 1
  -- the first attempt, and the retries
  omega

/-- Each step is attempted from where the calls of the steps before it end. -/
theorem performed_tracesFrom (steps : List PlanStep) (current : String) (n : Nat) :
    ∀ before t after, tracesFrom env m context steps current n = before ++ t :: after →
      Performed env m context (n + (before.flatMap (·.calls env m context)).length) t := by
  induction steps generalizing current n with
  | nil =>
    intro before t after h
    exact absurd h.symm (List.append_ne_nil_of_right_ne_nil _ (List.cons_ne_nil _ _))
  | cons step steps ih =>
    intro before t after h
    have hfirst : Performed env m context n (traceOf env m context step current n) :=
      performed_attemptsFrom _ n (retriesOf step)
    rw [tracesFrom] at h
    cases before with
    | nil =>
      have hhead : traceOf env m context step current n = t := by
        split at h
        · exact (List.cons.inj h).1
        · exact (List.cons.inj h).1
      exact hhead ▸ hfirst
    | cons head before =>
      -- a later step: the first one was completed, and the others go on from its calls
      split at h
      · obtain ⟨rfl, hrest⟩ := List.cons.inj h
        have hlater := ih _ _ before t after hrest
        rw [List.flatMap_cons, List.length_append, ← Nat.add_assoc]
        exact hlater
      · cases before with
        | nil => cases (List.cons.inj h).2
        | cons _ _ => cases (List.cons.inj h).2

/-- A run without a failure gets to every step. -/
theorem steps_tracesFrom_of_ok {steps : List PlanStep} {current output : String} {n : Nat}
    (h : loopOutcome current (tracesFrom env m context steps current n) = .ok output) :
    (tracesFrom env m context steps current n).map (·.step) = steps := by
  induction steps generalizing current n with
  | nil => rfl
  | cons step steps ih =>
    rw [tracesFrom] at h ⊢
    split at h
    · next houtcome =>
      rw [loopOutcome, houtcome] at h
      simp only [List.map_cons, ih h]
      rfl
    · next exc houtcome =>
      rw [loopOutcome, houtcome] at h
      dsimp only at h
      split at h
      · cases h
      · cases h

end Traces

/-- The outcome of the loop is that of the last step. -/
theorem loopOutcome_of_getLast? {traces : List StepTrace} {current : String} {last : StepTrace}
    (hthreads : Threads current traces) (hlast : traces.getLast? = some last) :
    loopOutcome current traces = loopOutcome current [last] := by
  induction traces generalizing current with
  | nil => cases hlast
  | cons t traces ih =>
    obtain ⟨-, hrest⟩ := hthreads
    cases traces with
    | nil =>
      rw [List.getLast?_singleton, Option.some.injEq] at hlast
      rw [hlast]
    | cons t' traces =>
      -- Only the last step can have failed, so the first one has an output.
      rw [List.getLast?_cons_cons] at hlast
      rcases houtcome : t.outcome with exc | output
      · simp only [houtcome] at hrest
        cases hrest
      · simp only [houtcome] at hrest
        have hlater := ih hrest hlast
        rw [loopOutcome, houtcome]
        simp only [hlater]
        rfl

/-- A step that fails ends the loop with an exception. -/
theorem loopOutcome_of_error {t : StepTrace} {exc : PyError} (current : String)
    (h : t.outcome = .error exc) : ∃ exc', loopOutcome current [t] = .error exc' := by
  rw [loopOutcome, h]
  dsimp only
  split
  · exact ⟨_, rfl⟩
  · exact ⟨_, rfl⟩

/-- So is the record of the plan. -/
theorem markedBy_of_getLast? {traces : List StepTrace} {current : String} {last : StepTrace}
    (hthreads : Threads current traces) (hlast : traces.getLast? = some last)
    (record : ExecutionPlanRun) : markedBy record traces = markedBy record [last] := by
  induction traces generalizing current with
  | nil => cases hlast
  | cons t traces ih =>
    obtain ⟨-, hrest⟩ := hthreads
    cases traces with
    | nil =>
      rw [List.getLast?_singleton, Option.some.injEq] at hlast
      rw [hlast]
    | cons t' traces =>
      rw [List.getLast?_cons_cons] at hlast
      rcases houtcome : t.outcome with exc | output
      · simp only [houtcome] at hrest
        cases hrest
      · simp only [houtcome] at hrest
        rw [markedBy, houtcome]
        exact ih hrest hlast

/-! ## The records of a run

What a run of a plan reads and writes: the metadata, the records of plans and of their steps, and
the calls of the engine. -/

/-- What there is of plan runs. -/
structure PlanView where
  metadata : Metadata
  planRuns : List ExecutionPlanRun
  stepRuns : List ExecutionPlanStepRun
  calls : List EngineCall

/-- The session is in order, and this is what there is of plan runs. -/
structure InPlan (v : PlanView) (w : World) : Prop where
  inOrder : w.failed = false
  metadata : w.working.metadata = v.metadata
  planRuns : w.working.executionPlanRuns.rows = v.planRuns
  stepRuns : w.working.executionPlanStepRuns.rows = v.stepRuns
  calls : w.engineCalls = v.calls

/-- The record of a step after `count` more attempts. -/
def attempted (record : ExecutionPlanStepRun) (count : Nat) : ExecutionPlanStepRun :=
  { record with
    attemptCount := record.attemptCount + count
    status := if 1 < record.attemptCount + count then .retrying else record.status }

/-- Attempts add up. -/
theorem attempted_attempted (record : ExecutionPlanStepRun) (count : Nat) :
    attempted (attempted record 1) (count + 1) = attempted record (count + 2) := by
  simp only [attempted, ExecutionPlanStepRun.mk.injEq, true_and, and_true]
  constructor
  · have hmany : 1 < record.attemptCount + 1 + (count + 1) := by omega
    have hmany' : 1 < record.attemptCount + (count + 2) := by omega
    simp only [hmany, hmany', if_true]
  · omega

/-- The record of a step before its first attempt. -/
def startedRecord (planRunId : Uuid) (step : PlanStep) (stepInput : String) (id : Uuid) :
    ExecutionPlanStepRun :=
  ⟨id, planRunId, step.order, step.targetType.value, targetCodeOf step, .running, 0, stepInput,
    none, none⟩

section Run

variable {env : Env} (haccepts : ∀ n s db, env.refuses n s db = none) {v : PlanView} {w : World}

/-- What tools write is no record of a plan. -/
theorem InPlan.tooled (hw : InPlan v w) {args : RunArgs} (writes : ToolWrites args) :
    InPlan v (w.tooled writes) where
  inOrder := hw.inOrder
  metadata := (writes.kept _).metadata.trans hw.metadata
  planRuns := (congrArg KeyedTable.rows (writes.kept _).executionPlanRuns).trans hw.planRuns
  stepRuns := (congrArg KeyedTable.rows (writes.kept _).executionPlanStepRuns).trans hw.stepRuns
  calls := hw.calls

/-- A call of the engine. -/
theorem run_inPlan (dispatch : Dispatch) (args : RunArgs) (hw : InPlan v w) :
    ∃ w', Svc.run env dispatch args w =
        (runOutcome dispatch args (env.call v.calls.length) v.metadata, w') ∧
      InPlan { v with calls := v.calls ++ [⟨dispatch, args⟩] } w' := by
  have hnote : noteCall dispatch args w = (.ok w.engineCalls.length, w.called ⟨dispatch, args⟩) :=
    rfl
  have hcalled : InPlan { v with calls := v.calls ++ [⟨dispatch, args⟩] }
      (w.called ⟨dispatch, args⟩) := by
    refine ⟨hw.inOrder, hw.metadata, hw.planRuns, hw.stepRuns, ?_⟩
    show w.engineCalls ++ _ = _
    rw [hw.calls]
  rw [Svc.run, bind_apply_ok (read_apply w), bind_apply_ok hnote,
    bind_apply_ok (useTools_apply _ _), hw.metadata, hw.calls]
  rcases runOutcome dispatch args (env.call v.calls.length) v.metadata with exc | output
  · have htooled := hcalled.tooled (env.tools v.calls.length args 0)
    exact ⟨_, rfl, htooled.inOrder, htooled.metadata, htooled.planRuns, htooled.stepRuns,
      htooled.calls⟩
  · exact ⟨_, rfl, hcalled.tooled _⟩

section Attempts

variable {before : List ExecutionPlanStepRun} {record : ExecutionPlanStepRun}

/-- The record that comes last is changed. -/
theorem InPlan.updated (hw : InPlan v w) (hrecords : v.stepRuns = before ++ [record])
    (f : ExecutionPlanStepRun → ExecutionPlanStepRun) (hf : ∀ s, (f s).id = s.id) :
    (w.working.executionPlanStepRuns.update record.id f hf).rows = before ++ [f record] :=
  KeyedTable.rows_update_concat (hw.stepRuns.trans hrecords) f hf

/-- The calls of attempts add up. -/
theorem callsOf_append (m : Metadata) (context : PlanContext) (step : PlanStep)
    (stepInput : String) (count : Nat) :
    callsOf env m context step stepInput 1 ++ callsOf env m context step stepInput count =
      callsOf env m context step stepInput (count + 1) := by
  rw [callsOf, callsOf, callsOf]
  cases resolveStep env.hierarchyScan m step with
  | ok dispatch => rfl
  | error exc => rfl

/-- The outcome of the next attempt is that of the next call: where the step is not resolved there
    is no call, and always the same outcome. -/
theorem stepOutcome_next (m : Metadata) (context : PlanContext) (step : PlanStep)
    (stepInput : String) (n i : Nat) :
    stepOutcome env m context step stepInput
        (n + (callsOf env m context step stepInput 1).length + i) =
      stepOutcome env m context step stepInput (n + 1 + i) := by
  simp only [stepOutcome, callsOf]
  cases resolveStep env.hierarchyScan m step with
  | ok dispatch => rfl
  | error exc => rfl

/-- The attempts of the record that comes last. -/
theorem attemptCount_inPlan (hw : InPlan v w) (hrecords : v.stepRuns = before ++ [record]) :
    attemptCount w.working record.id = record.attemptCount := by
  have hmem : record ∈ w.working.executionPlanStepRuns.rows := by
    rw [hw.stepRuns, hrecords]
    exact List.mem_append_right _ (List.mem_singleton_self _)
  rw [attemptCount, KeyedTable.find?_of_mem hmem]
  rfl

include haccepts

theorem updateStepRun_inPlan (hw : InPlan v w) (hrecords : v.stepRuns = before ++ [record])
    (status : ExecutionStepStatus) (f : ExecutionPlanStepRun → ExecutionPlanStepRun)
    (hf : ∀ s, (f s).id = s.id) :
    ∃ w', updateStepRun env record.id status f hf w = (.ok (), w') ∧
      InPlan { v with stepRuns := before ++ [{ f record with status := status }] } w' := by
  rw [updateStepRun, write_apply hw.inOrder (haccepts _ _ _)]
  exact ⟨_, rfl, hw.inOrder, hw.metadata, hw.planRuns,
    hw.updated hrecords (fun s => { f s with status := status }) hf, hw.calls⟩

/-- `attempt_count` goes up, and from the second attempt on the step is being retried. -/
theorem countAttempt_inPlan (hw : InPlan v w) (hrecords : v.stepRuns = before ++ [record]) :
    ∃ w', (touchStepRun record.id (fun s => { s with attemptCount := s.attemptCount + 1 })
          (fun _ => rfl) >>= fun _ => markRetrying env record.id) w = (.ok (), w') ∧
      InPlan { v with stepRuns := before ++ [attempted record 1] } w' := by
  -- The count is the last row's, and it is not written before the next statement.
  have hrows := hw.updated hrecords (fun s => { s with attemptCount := s.attemptCount + 1 })
    (fun _ => rfl)
  rw [touchStepRun, bind_apply_ok (touch_apply _ w)]
  generalize hworld : w.touched _ = w₁
  have hcounted : InPlan
      { v with stepRuns := before ++ [{ record with attemptCount := record.attemptCount + 1 }] }
      -- From the second attempt on the row is marked as retrying.
      w₁ := by
    subst hworld
    exact ⟨hw.inOrder, hw.metadata, hw.planRuns, hrows, hw.calls⟩
  have hcount : attemptCount w₁.working record.id = record.attemptCount + 1 :=
    attemptCount_inPlan hcounted rfl
  rw [markRetrying, bind_apply_ok (read_apply w₁), hcount]
  by_cases hretry : 1 < record.attemptCount + 1
  · rw [if_pos hretry]
    have hmarked := updateStepRun_inPlan haccepts hcounted rfl .retrying (fun s => s) (fun _ => rfl)
    have hrow : attempted record 1 =
        { record with attemptCount := record.attemptCount + 1, status := .retrying } := by
      rw [attempted, if_pos hretry]
    rw [hrow]
    exact hmarked
  · have hrow : attempted record 1 = { record with attemptCount := record.attemptCount + 1 } := by
      rw [attempted, if_neg hretry]
    rw [if_neg hretry, hrow]
    exact ⟨w₁, rfl, hcounted⟩

/-- An attempt has the outcome of its call. -/
theorem attempt_inPlan (context : PlanContext) (step : PlanStep) (stepInput : String)
    (hw : InPlan v w) (hrecords : v.stepRuns = before ++ [record]) :
    ∃ w', attempt env context step stepInput record.id w =
        (stepOutcome env v.metadata context step stepInput v.calls.length, w') ∧
      InPlan { v with
        stepRuns := before ++ [attempted record 1]
        calls := v.calls ++ callsOf env v.metadata context step stepInput 1 } w' := by
  obtain ⟨w₁, hcount, hcounted⟩ := countAttempt_inPlan haccepts hw hrecords
  rw [ExecutionEngineService.attempt, ← bind_assoc, bind_apply_ok hcount]
  have hfetch : fetch (fun db => resolveStep env.hierarchyScan db.metadata step) w₁ =
      (resolveStep env.hierarchyScan v.metadata step, w₁) := by
    rw [fetch_apply hcounted.inOrder, hcounted.metadata]
  rw [stepOutcome, callsOf]
  rcases hresolve : resolveStep env.hierarchyScan v.metadata step with exc | dispatch
  · rw [hresolve] at hfetch
    rw [bind_apply_error hfetch]
    dsimp only
    rw [List.append_nil]
    exact ⟨w₁, rfl, hcounted⟩
  · rw [hresolve] at hfetch
    rw [bind_apply_ok hfetch]
    exact run_inPlan dispatch _ hcounted

/-- The loop of retries makes the attempts of the trace. -/
theorem retry_inPlan (context : PlanContext) (step : PlanStep) (stepInput : String) (left : Nat)
    (hw : InPlan v w) (hrecords : v.stepRuns = before ++ [record]) {a : Attempts}
    (ha : a = attemptsFrom (stepOutcome env v.metadata context step stepInput) v.calls.length
      left) :
    ∃ w', retry (attempt env context step stepInput record.id) left w = (a.outcome, w') ∧
      InPlan { v with
        stepRuns := before ++ [attempted record a.count]
        calls := v.calls ++ callsOf env v.metadata context step stepInput a.count } w' := by
  subst ha
  obtain ⟨w₁, hattempt, hattempted⟩ := attempt_inPlan haccepts context step stepInput hw hrecords
  induction left generalizing v w w₁ record with
  | zero => exact ⟨w₁, hattempt, hattempted⟩
  | succ left ih =>
    rw [retry]
    rcases houtcome : stepOutcome env v.metadata context step stepInput v.calls.length with
      exc | output
    · rw [houtcome] at hattempt
      rw [handleError_apply_error hattempt]
      cases hexc : exc.isException with
      | true =>
        -- the other attempts go on from the record of this one
        obtain ⟨w₂, hattempt', hattempted'⟩ :=
          attempt_inPlan haccepts context step stepInput hattempted rfl
        obtain ⟨w', hretry, hview⟩ := ih hattempted rfl w₂ hattempt' hattempted'
        rw [List.length_append, attemptsFrom_congr (stepOutcome_next v.metadata context step
          stepInput v.calls.length)] at hretry hview
        rw [if_pos rfl, attemptsFrom_of_retried houtcome hexc]
        refine ⟨w', hretry, ?_⟩
        simp only [Attempts.count, attempted_attempted, List.append_assoc, callsOf_append] at hview
        exact hview
      | false =>
        rw [if_neg Bool.false_ne_true, attemptsFrom_of_final houtcome hexc]
        exact ⟨w₁, rfl, hattempted⟩
    · rw [houtcome] at hattempt
      rw [handleError_apply_ok hattempt, attemptsFrom_of_ok houtcome]
      exact ⟨w₁, rfl, hattempted⟩

end Attempts

section Steps

variable {plans : List ExecutionPlanRun} {plan : ExecutionPlanRun} {context : PlanContext}

include haccepts

theorem updatePlanRun_inPlan (hw : InPlan v w) (hplans : v.planRuns = plans ++ [plan])
    (status : ExecutionPlanRunStatus) (f : ExecutionPlanRun → ExecutionPlanRun)
    (hf : ∀ r, (f r).id = r.id) :
    ∃ w', updatePlanRun env plan.id status f hf w = (.ok (), w') ∧
      InPlan { v with planRuns := plans ++ [{ f plan with status := status }] } w' := by
  have hrows : (w.working.executionPlanRuns.update plan.id
      (fun r => { f r with status := status }) hf).rows =
        plans ++ [{ f plan with status := status }] :=
    KeyedTable.rows_update_concat (hw.planRuns.trans hplans) _ _
  rw [updatePlanRun, write_apply hw.inOrder (haccepts _ _ _)]
  exact ⟨_, rfl, hw.inOrder, hw.metadata, hrows, hw.stepRuns, hw.calls⟩

/-- The record of a step is created. -/
theorem createStepRun_inPlan (planRunId : Uuid) (step : PlanStep) (stepInput : String)
    (hw : InPlan v w) :
    ∃ w' id, createStepRun env planRunId step stepInput w = (.ok id, w') ∧
      InPlan { v with stepRuns := v.stepRuns ++ [startedRecord planRunId step stepInput id] }
        w' := by
  have hrows : (withPlanStepRun w.working planRunId step stepInput).executionPlanStepRuns.rows =
      v.stepRuns ++ [startedRecord planRunId step stepInput
        w.working.executionPlanStepRuns.freshKey] := by
    rw [← hw.stepRuns]
    rfl
  rw [createStepRun_apply hw.inOrder (haccepts _ _ _)]
  exact ⟨_, _, rfl, hw.inOrder, hw.metadata, hw.planRuns, hrows, hw.calls⟩

/-- A step that failed marks its record and that of the plan; one that was interrupted marks
    nothing. -/
theorem failStep_inPlan {before : List ExecutionPlanStepRun} {record : ExecutionPlanStepRun}
    (step : PlanStep) (exc : PyError) (hw : InPlan v w) (hrecords : v.stepRuns = before ++ [record])
    (hplans : v.planRuns = plans ++ [plan]) (hid : plan.id = context.planRunId) :
    ∃ w', (failStep env context step record.id exc : Svc String) w =
        (.error (if exc.isException then .runtimeExecution
          ("Execution plan step " ++ toString step.order ++ " failed: " ++ exc.str) else exc), w') ∧
      InPlan { v with
        planRuns := plans ++ [if exc.isException then
          { plan with status := .failed, errorMessage := some exc.str } else plan]
        stepRuns := before ++ [if exc.isException then
          { record with status := .failed, errorMessage := some exc.str } else record] } w' := by
  rw [failStep]
  cases hexc : exc.isException with
  | true =>
    obtain ⟨w₁, hstep, hstepped⟩ := updateStepRun_inPlan haccepts hw hrecords .failed
      (fun s => { s with errorMessage := some exc.str }) (fun _ => rfl)
    obtain ⟨w₂, hmark, hmarked⟩ := updatePlanRun_inPlan haccepts hstepped hplans .failed
      (fun r => { r with errorMessage := some exc.str }) (fun _ => rfl)
    rw [hid] at hmark
    rw [if_pos rfl, bind_apply_ok hstep, bind_apply_ok hmark]
    exact ⟨w₂, rfl, hmarked⟩
  | false =>
    simp only [Bool.false_eq_true, if_false, ← hplans, ← hrecords]
    exact ⟨w, rfl, hw⟩

/-- A step ends as its trace does, and leaves the record of its trace. -/
theorem executeStep_inPlan (current : String) (step : PlanStep) (hw : InPlan v w)
    (hplans : v.planRuns = plans ++ [plan]) (hid : plan.id = context.planRunId) {t : StepTrace}
    (ht : t = traceOf env v.metadata context step current v.calls.length) :
    ∃ w' id, ExecutionEngineService.executeStep env context current step w =
        (loopOutcome current [t], w') ∧
      InPlan { v with
        planRuns := plans ++ [markedBy plan [t]]
        stepRuns := v.stepRuns ++ [t.record context.planRunId id]
        calls := v.calls ++ t.calls env v.metadata context } w' := by
  -- The record is created, and the attempts are made on it.
  obtain ⟨w₁, id, hcreate, hcreated⟩ :=
    createStepRun_inPlan haccepts context.planRunId step (stepInputOf step current) hw
  obtain ⟨w₂, hretry, hretried⟩ := retry_inPlan haccepts context step (stepInputOf step current)
    (retriesOf step) hcreated rfl rfl
  have hattempts : attemptsFrom (stepOutcome env v.metadata context step
      (stepInputOf step current)) v.calls.length (retriesOf step) = t.toAttempts := by
    rw [ht]
    rfl
  have hcalls : callsOf env v.metadata context step (stepInputOf step current) t.count =
      t.calls env v.metadata context := by
    rw [ht]
    rfl
  have hstep : step = t.step ∧ stepInputOf t.step current = t.input := by
    rw [ht]
    exact ⟨rfl, rfl⟩
  simp only [hattempts, hcalls] at hretry hretried
  have hretry : retry (attempt env context step (stepInputOf step current) id) (retriesOf step) w₁ =
      (t.outcome, w₂) :=
    hretry
  rw [ExecutionEngineService.executeStep, bind_apply_ok hcreate, executeStepWithRetry]
  -- The last attempt raised, or it returned the output of the step.
  rcases houtcome : t.outcome with exc | output
  · rw [houtcome] at hretry
    obtain ⟨w₃, hfail, hfailed⟩ :=
      failStep_inPlan haccepts step exc hretried rfl hplans hid
    have hfail : (failStep env context step id exc : Svc String) w₂ = (_, w₃) := hfail
    -- what is no `Exception` leaves the record as the attempts left it
    have hrow : t.record context.planRunId id = if exc.isException then
        { attempted (startedRecord context.planRunId step (stepInputOf step current) id) t.count with
          status := .failed, errorMessage := some exc.str }
        else attempted (startedRecord context.planRunId step (stepInputOf step current) id)
          t.count := by
      cases hexc : exc.isException with
      | true =>
        simp only [StepTrace.record, StepTrace.status, houtcome, attempted, startedRecord, hstep,
          Nat.zero_add, hexc, if_true]
        rfl
      | false =>
        simp only [StepTrace.record, StepTrace.status, houtcome, attempted, startedRecord, hstep,
          Nat.zero_add, hexc, Bool.false_eq_true, if_false]
        rfl
    refine ⟨w₃, id, ?_, ?_⟩
    · rw [bind_apply_error ((handleError_apply_error hretry).trans hfail), loopOutcome, houtcome,
        ← hstep.1]
      dsimp only
      split
      · rfl
      · rfl
    · rw [hrow, markedBy, houtcome]
      exact hfailed
  · rw [houtcome] at hretry
    obtain ⟨w₃, hupdate, hupdated⟩ := updateStepRun_inPlan haccepts hretried rfl .completed
      (fun s => { s with output := some output }) (fun _ => rfl)
    have hrow : t.record context.planRunId id =
        { attempted (startedRecord context.planRunId step (stepInputOf step current) id) t.count with
          output := some output, status := .completed } := by
      simp only [StepTrace.record, StepTrace.status, houtcome, attempted, startedRecord, hstep,
        Nat.zero_add]
      rfl
    have hupdate : updateStepRun env id .completed (fun s => { s with output := some output })
        (fun _ => rfl) w₂ = (.ok (), w₃) :=
      hupdate
    refine ⟨w₃, id, ?_, ?_⟩
    · rw [bind_apply_ok (handleError_apply_ok hretry), bind_apply_ok hupdate, loopOutcome, houtcome]
      rfl
    · rw [hrow, markedBy, houtcome]
      dsimp only [markedBy]
      rw [← hplans]
      exact hupdated

/-- The loop over the steps leaves the records of its traces, in order. -/
theorem executeSteps_inPlan (current : String) (steps : List PlanStep) (hw : InPlan v w)
    (hplans : v.planRuns = plans ++ [plan]) (hid : plan.id = context.planRunId)
    {traces : List StepTrace}
    (htraces : traces = tracesFrom env v.metadata context steps current v.calls.length) :
    ∃ w' records, ExecutionEngineService.executeSteps env context steps current w =
        (loopOutcome current traces, w') ∧
      List.Forall₂ (fun t record => ∃ id, record = t.record context.planRunId id) traces records ∧
      InPlan { v with
        planRuns := plans ++ [markedBy plan traces]
        stepRuns := v.stepRuns ++ records
        calls := v.calls ++ traces.flatMap (·.calls env v.metadata context) } w' := by
  subst htraces
  induction steps generalizing v w current with
  | nil =>
    refine ⟨w, [], rfl, .nil, ?_⟩
    rw [tracesFrom, markedBy, List.flatMap_nil, List.append_nil, List.append_nil, ← hplans]
    exact hw
  | cons step steps ih =>
    obtain ⟨w₁, id, hstep, hstepped⟩ := executeStep_inPlan haccepts current step hw hplans hid rfl
    rw [ExecutionEngineService.executeSteps, tracesFrom]
    generalize ht : traceOf env v.metadata context step current v.calls.length = t at hstep hstepped
    rcases houtcome : t.outcome with exc | output
    · -- the loop ends with the step that failed
      refine ⟨w₁, [t.record context.planRunId id], ?_, .cons ⟨id, rfl⟩ .nil, ?_⟩
      · obtain ⟨exc', hexc'⟩ := loopOutcome_of_error current houtcome
        rw [hexc'] at hstep
        dsimp only
        rw [bind_apply_error hstep, hexc']
      · simp only [List.flatMap_cons, List.flatMap_nil, List.append_nil]
        exact hstepped
    · rw [loopOutcome, houtcome] at hstep
      rw [markedBy, houtcome] at hstepped
      have hplans' : plans ++ [markedBy plan []] = plans ++ [plan] := rfl
      obtain ⟨w', records, hsteps, hrecords, hview⟩ := ih output hstepped hplans'
      rw [bind_apply_ok hstep]
      simp only [List.length_append] at hsteps hrecords hview
      refine ⟨w', t.record context.planRunId id :: records, ?_, ?_, ?_⟩
      · rw [hsteps, loopOutcome, houtcome]
      · exact .cons ⟨id, rfl⟩ hrecords
      · simp only [houtcome, markedBy, List.flatMap_cons]
        rw [List.append_cons v.stepRuns, ← List.append_assoc v.calls]
        exact hview

end Steps

end Run

/-! ## The account -/

/-- A step that is followed by another was completed. -/
theorem status_of_threads {traces : List StepTrace} {current : String}
    (h : Threads current traces) : ∀ t ∈ traces.dropLast, t.status = .completed := by
  induction traces generalizing current with
  | nil => exact fun _ ht => by cases ht
  | cons t traces ih =>
    obtain ⟨-, hrest⟩ := h
    cases traces with
    | nil => exact fun _ ht => by cases ht
    | cons t' traces =>
      rcases houtcome : t.outcome with exc | output
      · simp only [houtcome] at hrest
        cases hrest
      · simp only [houtcome] at hrest
        rw [List.dropLast_cons_of_ne_nil (List.cons_ne_nil _ _)]
        intro t'' ht''
        rcases List.mem_cons.mp ht'' with rfl | ht''
        · rw [StepTrace.status, houtcome]
        · exact ih hrest t'' ht''

/-- The steps of a plan whose orders are distinct are strictly ordered. -/
theorem pairwise_ordered {steps : List PlanStep} (hdistinct : (steps.map (·.order)).Nodup) :
    ((ordered steps).map (·.order)).Pairwise (· < ·) := by
  have hsorted : (ordered steps).Pairwise (fun s s' => s.order ≤ s'.order) :=
    List.pairwise_insertionSort _ steps
  have hnodup : ((ordered steps).map (·.order)).Nodup :=
    ((List.perm_insertionSort _ steps).map _).nodup_iff.mpr hdistinct
  rw [List.pairwise_map]
  rw [List.Nodup, List.pairwise_map] at hnodup
  exact (hsorted.and hnodup).imp fun h => by omega

/-- A run of a plan with steps gets to the first one. -/
theorem exists_getLast?_tracesFrom (env : Env) (m : Metadata) (context : PlanContext)
    {steps : List PlanStep} (h : steps ≠ []) (current : String) (n : Nat) :
    ∃ last ∈ tracesFrom env m context steps current n,
      (tracesFrom env m context steps current n).getLast? = some last := by
  have hne : tracesFrom env m context steps current n ≠ [] := by
    obtain ⟨step, steps, rfl⟩ := List.exists_cons_of_ne_nil h
    rw [tracesFrom]
    split
    · exact List.cons_ne_nil _ _
    · exact List.cons_ne_nil _ _
  exact ⟨_, List.getLast_mem hne, List.getLast?_eq_some_getLast hne⟩

/-- A run whose last step has failed has used all its attempts. -/
theorem count_of_error {env : Env} {m : Metadata} {context : PlanContext} {steps : List PlanStep}
    {current : String} {n : Nat} {t : StepTrace} {exc : PyError}
    (hretries : ∀ step ∈ steps, 0 ≤ step.maxRetries)
    (ht : t ∈ tracesFrom env m context steps current n) (houtcome : t.outcome = .error exc)
    (hexc : exc.isException = true) : (t.count : Int) = t.step.maxRetries + 1 := by
  obtain ⟨step, hstep, current', n', rfl⟩ := exists_of_mem_tracesFrom env m context ht
  have hcount : (traceOf env m context step current' n').count = retriesOf step + 1 :=
    count_attemptsFrom_of_error _ houtcome hexc
  rw [hcount]
  exact retriesOf_eq (hretries step hstep)

section Account

variable {env : Env} (haccepts : ∀ n s db, env.refuses n s db = none) {plan : ExecutionPlan}
  (sessionId : Uuid) (userId : Option String) {w : World}

include haccepts

/-- A plan is executed as its traces say, and its record is completed if all of them succeed. -/
theorem runPlan_traces (hw : w.failed = false)
    (hflag : env.settings.featureExecutionEngine = true) (hsteps : plan.steps ≠ [])
    (hretries : ∀ step ∈ plan.steps, 0 ≤ step.maxRetries) {planRunId : Uuid}
    (hid : planRunId = w.working.executionPlanRuns.freshKey) {traces : List StepTrace}
    (htraces : traces = tracesFrom env w.working.metadata ⟨planRunId, sessionId, userId⟩
      (ordered plan.steps) plan.originalMessage w.engineCalls.length) :
    ∃ last record records, traces.getLast? = some last ∧
      PlanEnded plan (startedPlan plan sessionId planRunId) traces last
        (runPlan env plan sessionId userId w).1 record ∧
      List.Forall₂ (fun t record => ∃ id, record = t.record planRunId id) traces records ∧
      InPlan ⟨w.working.metadata, w.working.executionPlanRuns.rows ++ [record],
        w.working.executionPlanStepRuns.rows ++ records, w.engineCalls ++ traces.flatMap
          (·.calls env w.working.metadata ⟨planRunId, sessionId, userId⟩)⟩
        (runPlan env plan sessionId userId w).2 := by
  subst hid
  have hplanned : InPlan ⟨w.working.metadata, w.working.executionPlanRuns.rows ++
      [startedPlan plan sessionId w.working.executionPlanRuns.freshKey],
      w.working.executionPlanStepRuns.rows, w.engineCalls⟩
      (w.wrote (.insert .executionPlanRuns) fun db => withPlanRun db plan sessionId) :=
    ⟨hw, rfl, rfl, rfl, rfl⟩
  obtain ⟨w₁, records, hexecute, hrecords, hexecuted⟩ :=
    executeSteps_inPlan haccepts plan.originalMessage (ordered plan.steps) hplanned rfl rfl htraces
  have hperm : (ordered plan.steps).Perm plan.steps := List.perm_insertionSort _ _
  have hthreads : Threads plan.originalMessage traces := htraces ▸ threads_tracesFrom _ _ _ _ _ _
  -- There is a step, so there is a last trace, and it decides.
  obtain ⟨last, hmem, hlast⟩ : ∃ last ∈ traces, traces.getLast? = some last := by
    rw [htraces]
    exact exists_getLast?_tracesFrom _ _ _ (fun h => hsteps (List.perm_nil.mp (h ▸ hperm).symm)) _ _
  rw [loopOutcome_of_getLast? hthreads hlast, loopOutcome] at hexecute
  rw [markedBy_of_getLast? hthreads hlast, markedBy] at hexecuted
  have hempty : plan.steps.isEmpty = false := List.isEmpty_eq_false_iff.mpr hsteps
  simp only [runPlan, hflag, hempty, Bool.not_true, Bool.false_eq_true, if_false]
  rw [bind_apply_ok (createPlanRun_apply hw (haccepts _ _ _))]
  rcases houtcome : last.outcome with exc | output
  · simp only [houtcome] at hexecute hexecuted
    cases hexc : exc.isException with
    | true =>
      simp only [hexc, if_true] at hexecute hexecuted
      -- an `Exception` is raised after the last attempt only
      have hattempts : (last.count : Int) = last.step.maxRetries + 1 :=
        count_of_error (fun step hstep => hretries step (hperm.mem_iff.mp hstep))
          (htraces ▸ hmem) houtcome hexc
      have hstatus : last.status = .failed := by
        rw [StepTrace.status, houtcome]
        simp only [hexc, if_true]
      rw [bind_apply_error hexecute]
      exact ⟨last, _, records, hlast, .failed exc houtcome hexc hattempts hstatus, hrecords,
        hexecuted⟩
    | false =>
      simp only [hexc, Bool.false_eq_true, if_false] at hexecute hexecuted
      rw [bind_apply_error hexecute]
      exact ⟨last, _, records, hlast, .interrupted exc houtcome hexc, hrecords, hexecuted⟩
  · simp only [houtcome] at hexecute hexecuted
    obtain ⟨w₂, hupdate, hupdated⟩ := updatePlanRun_inPlan haccepts hexecuted rfl .completed
      (fun r => { r with result := some output }) (fun _ => rfl)
    have hloop : loopOutcome plan.originalMessage traces = .ok output := by
      rw [loopOutcome_of_getLast? hthreads hlast, loopOutcome, houtcome]
      rfl
    -- an output of the loop is one of all steps
    have hall : traces.map (·.step) = ordered plan.steps := by
      rw [htraces] at hloop ⊢
      exact steps_tracesFrom_of_ok _ _ _ hloop
    have hstatus : last.status = .completed := by
      rw [StepTrace.status, houtcome]
    have hupdate : updatePlanRun env w.working.executionPlanRuns.freshKey .completed
        (fun r => { r with result := some output }) (fun _ => rfl) w₁ = (.ok (), w₂) :=
      hupdate
    rw [bind_apply_ok hexecute, bind_apply_ok hupdate]
    exact ⟨last, _, records, hlast, .completed output houtcome hall hstatus, hrecords, hupdated⟩

end Account

/-- A run of a plan is accounted for by the traces of its steps: where the database takes every
    statement, for every plan with steps of distinct orders, and whatever the engine answers to each
    attempt. -/
theorem runPlan_account (env : Env) (haccepts : ∀ n s db, env.refuses n s db = none)
    (hflag : env.settings.featureExecutionEngine = true) (plan : ExecutionPlan)
    (hsteps : plan.steps ≠ []) (hdistinct : (plan.steps.map (·.order)).Nodup)
    (hretries : ∀ step ∈ plan.steps, 0 ≤ step.maxRetries) (sessionId : Uuid)
    (userId : Option String) (w : World) (hw : w.failed = false) :
    ∃ planRunId traces,
      PlanAccount env plan sessionId userId w (runPlan env plan sessionId userId w) planRunId
        traces := by
  obtain ⟨last, record, records, hlast, hended, hrecords, hview⟩ :=
    runPlan_traces haccepts sessionId userId hw hflag hsteps hretries rfl rfl
  refine ⟨_, _, ?_, ?_, ?_, ?_, ?_, ?_, hview.calls, ⟨records, hview.stepRuns, hrecords⟩,
    ⟨last, record, hlast, hended, hview.planRuns⟩⟩
  · have hinit := (steps_tracesFrom env w.working.metadata
      ⟨w.working.executionPlanRuns.freshKey, sessionId, userId⟩ (ordered plan.steps)
      plan.originalMessage w.engineCalls.length).sublist
    have horders := (pairwise_ordered hdistinct).sublist (hinit.map (·.order))
    rw [List.map_map] at horders
    exact horders
  · exact steps_tracesFrom _ _ _ _ _ _
  · exact threads_tracesFrom _ _ _ _ _ _
  · exact status_of_threads (threads_tracesFrom _ _ _ _ _ _)
  · exact bounded_tracesFrom _ _ _ hretries _ _
  · exact performed_tracesFrom _ _ _ _ _ _

section Examples

open Deployment

/-- A plan that asks a team twice, the first time with two retries. -/
def Deployment.askTwice : ExecutionPlan where
  originalMessage := "Hello"
  steps := [⟨.team, "enterprise", some "sales", none, none, 2, 0⟩,
    ⟨.team, "enterprise", some "sales", none, some "Sum up", 0, 1⟩]
  rationale := "explicit multi-step plan"

/-- The theorem at a run of that plan in which the engine never answers. -/
theorem runPlan_account_example : ∃ planRunId traces,
    PlanAccount (Deployment.env .trustClientUserId none failing) askTwice 7 none
      (World.start store)
      (runPlan (Deployment.env .trustClientUserId none failing) askTwice 7 none
        (World.start store)) planRunId traces :=
  runPlan_account _ (fun _ _ _ => rfl) rfl askTwice (by decide) (by decide) (by decide) 7 none _ rfl

-- three attempts at the first step, none at the second
example : (runPlan (Deployment.env .trustClientUserId none failing) askTwice 7 none
    (World.start store)).2.working.executionPlanStepRuns.rows.map
      (fun s => (s.stepOrder, s.attemptCount, s.status)) = [(0, 3, .failed)] := by
  decide +kernel

end Examples

end AgnoRuntime
