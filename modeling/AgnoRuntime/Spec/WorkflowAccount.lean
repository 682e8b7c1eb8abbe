import AgnoRuntime.Spec.WorkflowEnds

/-!
# The account of a workflow run

After a run of a workflow, streamed or not, there is one record for each step it got
to, and the row of the run; both are those of what was executed.
-/

namespace AgnoRuntime

open Svc Prog WorkflowExecutionService

/-! ## The account -/

/-- How a run of `n` steps ended, after the first `k` of them, with the last execution, its record
    and the row of the run: that step was the last one and succeeded, it failed, or it was
    interrupted by what is no `Exception`. -/
inductive RunEnded (n k : Nat) (started : WorkflowRun) (last : StepExecution)
    (record : WorkflowRunStep) : Except PyError String → WorkflowRun → Prop where
  | completed (output : String) (houtcome : last.outcome = .ok output) (hcount : k + 1 = n)
      (hstatus : record.status = .completed) (houtput : record.output = some output) :
      RunEnded n k started last record (.ok output)
        { started with status := .completed, result := some output }
  | failed (exc : PyError) (houtcome : last.outcome = .error exc) (hexc : exc.isException = true)
      (hcount : k < n) (hstatus : record.status = .failed)
      (hmessage : record.errorMessage = some exc.str) :
      RunEnded n k started last record (.error (WorkflowExecutor.stepFailed last.step exc))
        { started with
          status := .failed
          errorMessage := some (WorkflowExecutor.stepFailed last.step exc).str }
  | interrupted (exc : PyError) (houtcome : last.outcome = .error exc)
      (hexc : exc.isException = false) (hcount : k < n) (hstatus : record.status = .running) :
      RunEnded n k started last record (.error exc) started

/-- A run that started from `w` with `n` steps, and its outcome and the world it ended in, are
    accounted for by what was executed and by the records of that. -/
structure RunAccount (answer : StepAnswers) (n : Nat) (opened : OpenRun) (input : String)
    (started : WorkflowRun) (w : World) (outcome : Except PyError String) (w' : World)
    (es : List StepExecution) (records : List WorkflowRunStep) : Prop where
  /-- The steps are executed in order; none is left out before one that is executed. -/
  steps : es.map (·.step) <+: WorkflowExecutor.ordered opened.steps
  /-- Each has the outcome that the runner answers. -/
  performed : ∀ i e, es[i]? = some e →
    e.outcome = answer (w.engineCalls.length + i) e.step e.input
  /-- The records are all there are of the run, one for each step that was executed. -/
  rows : stepsOf opened.context.workflowRunId w'.working = records
  recorded : List.Forall₂
    (fun e record => ∃ id, record = e.record opened.context.workflowRunId id) es records
  orders : records.map (·.stepOrder) = (List.range records.length).map Int.ofNat
  /-- The first one was given the input of the run, every other one the output of the one before. -/
  first : ∀ record ∈ records.head?, record.input = input
  threaded : ∀ i record next, records[i]? = some record → records[i + 1]? = some next →
    record.output = some next.input
  /-- No record is finalised twice. -/
  distinct : (records.map (·.id)).Nodup
  finalised : w'.finalised = w.finalised ++ finalisations records
  ended : ∃ before last earlier record run,
    es = before ++ [last] ∧ records = earlier ++ [record] ∧
    (∀ e ∈ before, ∃ output, e.outcome = .ok output) ∧
    (∀ r ∈ earlier, r.status = .completed) ∧
    w'.working.workflowRuns.find? opened.context.workflowRunId = some run ∧
    RunEnded n earlier.length started last record outcome run

/-! ## Executions and records -/

/-- What was executed ends with the first step that failed, or with the last one. -/
theorem Chained.exists_last {es : List StepExecution} {current : String} (h : Chained current es)
    (hne : es ≠ []) :
    ∃ before last, es = before ++ [last] ∧ (∀ e ∈ before, ∃ output, e.outcome = .ok output) ∧
      resultOf current es = last.result := by
  induction es generalizing current with
  | nil => exact absurd rfl hne
  | cons e es ih =>
    obtain ⟨-, hrest⟩ := h
    rw [resultOf]
    rcases houtcome : e.outcome with exc | output
    · simp only [houtcome] at hrest
      refine ⟨[], e, by rw [hrest]; rfl, fun _ h => (by cases h), ?_⟩
      rw [StepExecution.result, houtcome]
      rfl
    · simp only [houtcome] at hrest
      have hresult : e.result = .ok output := by
        rw [StepExecution.result, houtcome]
        rfl
      -- an output that nothing follows is the result of the whole chain
      cases es with
      | nil =>
        refine ⟨[], e, rfl, fun _ h => (by cases h), ?_⟩
        rw [hresult]
        rfl
      | cons e' es =>
        obtain ⟨before, last, hes, hbefore, hlast⟩ := ih hrest (List.cons_ne_nil _ _)
        refine ⟨e :: before, last, by rw [hes]; rfl, ?_, ?_⟩
        · intro e'' he''
          rcases List.mem_cons.mp he'' with rfl | he''
          · exact ⟨output, houtcome⟩
          · exact hbefore e'' he''
        · rw [hresult]
          exact hlast

section Records

variable {R : StepExecution → WorkflowRunStep → Prop} {es : List StepExecution}
  {records : List WorkflowRunStep}

/-- The record of what was executed last comes last. -/
theorem exists_last_record {before : List StepExecution} {last : StepExecution}
    (h : List.Forall₂ R (before ++ [last]) records) :
    ∃ earlier record, records = earlier ++ [record] ∧ List.Forall₂ R before earlier ∧
      R last record := by
  induction before generalizing records with
  | nil =>
    cases h with
    | cons hlast hnil =>
      cases hnil
      exact ⟨[], _, rfl, .nil, hlast⟩
  | cons e before ih =>
    cases h with
    | cons hfirst hrest =>
      obtain ⟨earlier, record, rfl, hearlier, hlast⟩ := ih hrest
      exact ⟨_ :: earlier, record, rfl, .cons hfirst hearlier, hlast⟩

/-- Every record is that of an execution. -/
theorem exists_of_mem_records (h : List.Forall₂ R es records) :
    ∀ record ∈ records, ∃ e ∈ es, R e record := by
  induction h with
  | nil => exact fun _ h => by cases h
  | cons hfirst _ ih =>
    intro record hrecord
    rcases List.mem_cons.mp hrecord with rfl | hrecord
    · exact ⟨_, List.mem_cons_self, hfirst⟩
    · obtain ⟨e, he, hR⟩ := ih record hrecord
      exact ⟨e, List.mem_cons_of_mem _ he, hR⟩

variable {runId : Uuid} {current : String}
  (hrecords : List.Forall₂ (fun e record => ∃ id, record = e.record runId id) es records)

include hrecords

/-- The first record has the input of the run. -/
theorem head_input_of_chained (h : Chained current es) :
    ∀ record ∈ records.head?, record.input = current := by
  cases hrecords with
  | nil => exact fun _ h => by cases h
  | cons hfirst _ =>
    obtain ⟨id, rfl⟩ := hfirst
    intro record hrecord
    rw [List.head?_cons, Option.mem_some_iff] at hrecord
    rw [← hrecord]
    exact h.1

/-- A record that is followed by another has its input for an output. -/
theorem threaded_of_chained (h : Chained current es) (i : Nat) (record next : WorkflowRunStep)
    (hrecord : records[i]? = some record) (hnext : records[i + 1]? = some next) :
    record.output = some next.input := by
  induction hrecords generalizing current i with
  | nil => cases List.getElem?_nil.symm.trans hrecord
  | cons hfirst hrest ih =>
    next e _ es records =>
    obtain ⟨id, rfl⟩ := hfirst
    obtain ⟨-, hchained⟩ := h
    rw [List.getElem?_cons_succ] at hnext
    -- A step that has failed is the last one.
    rcases houtcome : e.outcome with exc | output
    · simp only [houtcome] at hchained
      subst hchained
      cases hrest
      cases List.getElem?_nil.symm.trans hnext
    · simp only [houtcome] at hchained
      cases i with
      -- The input of the next step is the output of this one.
      | zero =>
        rw [List.getElem?_cons_zero, Option.some.injEq] at hrecord
        rw [← List.head?_eq_getElem?] at hnext
        have hinput := head_input_of_chained hrest hchained next hnext
        rw [← hrecord, hinput]
        simp only [StepExecution.record, houtcome]
        rfl
      -- The steps after the first one are chained as well.
      | succ i =>
        rw [List.getElem?_cons_succ] at hrecord
        exact ih hchained i hrecord hnext

/-- The records have the orders of the steps. -/
theorem orders_of_records :
    records.map (·.stepOrder) = (es.map (·.step)).map (·.stepOrder) := by
  induction hrecords with
  | nil => rfl
  | cons hfirst _ ih =>
    obtain ⟨id, rfl⟩ := hfirst
    rw [List.map_cons, List.map_cons, List.map_cons, ih]
    rfl

end Records

/-! ## Steps in order -/

theorem consecutive_of_map {k : Nat} {steps : List WorkflowStep}
    (h : steps.map (·.stepOrder) = (List.range' k steps.length).map Int.ofNat) :
    Consecutive k steps := by
  induction steps generalizing k with
  | nil => trivial
  | cons step steps ih =>
    rw [List.length_cons, List.range'_succ, List.map_cons, List.map_cons, List.cons.injEq] at h
    exact ⟨h.1, ih h.2⟩

/-- Steps with the orders from 0 to `n - 1` are sorted by them. -/
theorem map_stepOrder_ordered {n : Nat} {steps : List WorkflowStep}
    (h : (steps.map (·.stepOrder)).Perm ((List.range n).map Int.ofNat)) :
    (WorkflowExecutor.ordered steps).map (·.stepOrder) = (List.range n).map Int.ofNat := by
  have hperm : ((WorkflowExecutor.ordered steps).map (·.stepOrder)).Perm
      ((List.range n).map Int.ofNat) :=
    ((List.perm_insertionSort _ steps).map _).trans h
  have hsorted : (WorkflowExecutor.ordered steps).Pairwise
      (fun s s' => s.stepOrder ≤ s'.stepOrder) :=
    List.pairwise_insertionSort _ steps
  have hrange : ((List.range n).map Int.ofNat).Pairwise (· ≤ ·) := by
    rw [List.pairwise_map]
    exact List.pairwise_le_range.imp fun hle => Int.ofNat_le.mpr hle
  exact hperm.eq_of_pairwise (fun _ _ _ _ hle hge => Int.le_antisymm hle hge)
    (List.pairwise_map.mpr hsorted) hrange

/-! ## Putting it together -/

/-- What is no `Exception` is no error of the runtime. -/
theorem PyError.not_isRuntimeExecution {exc : PyError} (h : exc.isException = false) :
    exc.isRuntimeExecution = false := by
  cases exc <;> first | rfl | cases h

/-- The last execution decides how the run ended. -/
theorem runEnded_of_last {n k : Nat} (started : WorkflowRun) (last : StepExecution)
    (runId id : Uuid) (hk : k < n) (hall : ∀ output, last.outcome = .ok output → k + 1 = n) :
    RunEnded n k started last (last.record runId id) last.result
      (endedRow started last.result) := by
  rcases houtcome : last.outcome with exc | output
  -- An `Exception` fails the step, and the run with it.
  · cases hexc : exc.isException with
    | true =>
      have hresult : last.result = .error (WorkflowExecutor.stepFailed last.step exc) := by
        simp only [StepExecution.result, houtcome, Except.mapError, hexc, if_true]
      rw [hresult]
      refine .failed exc houtcome hexc hk ?_ ?_
      · simp only [StepExecution.record, StepExecution.status, houtcome, hexc, if_true]
      · simp only [StepExecution.record, houtcome, hexc, if_true]
    -- A `BaseException` interrupts both.
    | false =>
      have hresult : last.result = .error exc := by
        simp only [StepExecution.result, houtcome, Except.mapError, hexc, Bool.false_eq_true,
          if_false]
      rw [hresult, endedRow, PyError.not_isRuntimeExecution hexc]
      refine .interrupted exc houtcome hexc hk ?_
      simp only [StepExecution.record, StepExecution.status, houtcome, hexc, Bool.false_eq_true,
        if_false]
  -- The last step has succeeded, so there is no other one.
  · have hresult : last.result = .ok output := by
      rw [StepExecution.result, houtcome]
      rfl
    rw [hresult]
    refine .completed output houtcome (hall output houtcome) ?_ ?_
    · simp only [StepExecution.record, StepExecution.status, houtcome]
    · simp only [StepExecution.record, houtcome]
      rfl

section Account

variable {answer : StepAnswers} {n : Nat} {opened : OpenRun} {workflowId : Uuid}
  {request : WorkflowRunRequest} {w w' : World} {es : List StepExecution}
  {records : List WorkflowRunStep} {calls : Nat}

/-- A run whose records are those of what was executed is accounted for. -/
theorem runAccount_of_inRun (hn : 0 < n)
    (horders : (WorkflowExecutor.ordered opened.steps).map (·.stepOrder) =
      (List.range n).map Int.ofNat)
    (hes : es = executionsFrom answer request.input (WorkflowExecutor.ordered opened.steps)
      opened.context w.engineCalls.length)
    (hrecords : List.Forall₂
      (fun e record => ∃ id, record = e.record opened.context.workflowRunId id) es records)
    (hw' : InRun ((startedView opened workflowId request w).ended (resultOf request.input es)
      records calls) w') :
    RunAccount answer n opened request.input
      { openedRun opened workflowId request with status := .running } w
      (resultOf request.input es) w' es records := by
  have hlength : (WorkflowExecutor.ordered opened.steps).length = n := by
    have hmapped := congrArg List.length horders
    rwa [List.length_map, List.length_map, List.length_range] at hmapped
  -- The orders of the steps are 0, 1, ..., n - 1.
  have hconsecutive : Consecutive 0 (WorkflowExecutor.ordered opened.steps) := by
    apply consecutive_of_map
    rw [hlength, horders, List.range_eq_range']
  have hinit : es.map (·.step) <+: WorkflowExecutor.ordered opened.steps :=
    hes ▸ steps_executionsFrom answer _ _ _
  have hchained : Chained request.input es :=
    hes ▸ chained_executionsFrom answer _ hconsecutive (if_pos rfl)
  have hrowId : (endedRow { openedRun opened workflowId request with status := .running }
      (resultOf request.input es)).id = opened.context.workflowRunId := by
    cases resultOf request.input es with
    | ok output => rfl
    | error exc =>
      rw [endedRow]
      split
      · rfl
      · rfl
  have hrows : stepsOf opened.context.workflowRunId w'.working = records := by
    rw [← hrowId]
    exact hw'.steps.trans (List.nil_append _)
  have hne : es ≠ [] := by
    rw [hes]
    apply executionsFrom_ne_nil
    exact List.ne_nil_of_length_pos (hlength ▸ hn)
  -- The last execution decides how the run ends; all before it succeeded.
  obtain ⟨before, last, hlast, hbefore, hresult⟩ := hchained.exists_last hne
  obtain ⟨earlier, record, hconcat, hearlier, id, hrecord⟩ :=
    exists_last_record (hlast ▸ hrecords)
  have hcount : earlier.length + 1 ≤ n := by
    have hle := hinit.length_le
    rw [hlength, List.length_map, hlast, List.length_append, hearlier.length_eq] at hle
    exact hle
  refine ⟨hinit, ?_, hrows, hrecords, ?_, head_input_of_chained hrecords hchained,
    threaded_of_chained hrecords hchained, ?_, hw'.finalised, ?_⟩
  · intro i e he
    rw [hes] at he
    exact outcome_executionsFrom answer _ _ _ i e he
  -- the records stand for the first orders, without a gap
  · have htaken := List.prefix_iff_eq_take.mp (hinit.map (·.stepOrder))
    rw [horders, ← orders_of_records hrecords, List.length_map, ← List.map_take,
      List.take_range] at htaken
    have hmin : min records.length n = records.length := by
      rw [hconcat, List.length_append, List.length_singleton]
      omega
    rw [htaken, hmin]
  · rw [← hrows]
    exact w'.working.workflowRunSteps.keysNodup.sublist (List.filter_sublist.map _)
  · refine ⟨before, last, earlier, record, endedRow
      { openedRun opened workflowId request with status := .running } (resultOf request.input es),
      hlast, hconcat, hbefore, ?_, ?_, ?_⟩
    · intro r hr
      obtain ⟨e, he, id, rfl⟩ := exists_of_mem_records hearlier r hr
      obtain ⟨output, houtcome⟩ := hbefore e he
      rw [StepExecution.record, StepExecution.status, houtcome]
    · rw [← hrowId]
      exact hw'.run
    · rw [hresult, hrecord]
      refine runEnded_of_last _ last opened.context.workflowRunId id hcount
        fun output houtcome => ?_
      have hok : last.result = .ok output := by
        rw [StepExecution.result, houtcome]
        rfl
      -- a run whose last step succeeded has executed all steps
      have hall : es.map (·.step) = WorkflowExecutor.ordered opened.steps := by
        rw [hes] at hresult ⊢
        exact steps_executionsFrom_of_ok answer (hresult.trans hok)
      have hlengths := congrArg List.length hall
      rw [hlength, List.length_map, hlast, List.length_append, hearlier.length_eq] at hlengths
      exact hlengths

end Account

/-- A run of `run_workflow` from `w` is accounted for, and returns or raises accordingly. -/
def RunWorkflowAccounted (env : Env) (n : Nat) (workflowId : Uuid) (request : WorkflowRunRequest)
    (w : World) (opened : OpenRun) : Prop :=
  ∃ outcome es records,
    (runWorkflow env workflowId request w).1 = outcome.map (fun result =>
      ⟨opened.context.workflowRunId, WorkflowRunStatus.completed.value, result⟩) ∧
    RunAccount (ranAnswer env w.working.metadata opened.context) n opened request.input
      { openedRun opened workflowId request with status := .running } w outcome
      (runWorkflow env workflowId request w).2 es records

/-- So is a run of `run_workflow_stream`, and its client is told accordingly. -/
def RunWorkflowStreamAccounted (env : Env) (n : Nat) (workflowId : Uuid)
    (request : WorkflowRunRequest) (w : World) (opened : OpenRun) : Prop :=
  ∃ outcome es records,
    StreamEnded opened outcome (runWorkflowStream env workflowId request w) ∧
    RunAccount (streamedAnswer env w.working.metadata opened.context) n opened request.input
      { openedRun opened workflowId request with status := .running } w outcome
      (runWorkflowStream env workflowId request w).2 es records

/-- Both ways to run a workflow are accounted for by the executions of its steps: where every call
    succeeds and the client reads to the end, for every workflow with steps ordered from 0 to
    `n - 1`, every request that opens a run of it, and whatever the runner answers and tools
    write. -/
theorem workflowRun_account {env : Env} (henv : env.Healthy) {n : Nat} (hn : 0 < n)
    {workflowId : Uuid} {request : WorkflowRunRequest} {w₀ w : World} {opened : OpenRun}
    (hforeign : w₀.working.StepsHaveRuns)
    (horders : ((w₀.working.workflowSteps.rows.filter
      fun s => s.workflowId = workflowId).map (·.stepOrder)).Perm ((List.range n).map Int.ofNat))
    (hopen : openRun env workflowId request w₀ = (.ok opened, w)) :
    RunWorkflowAccounted env n workflowId request w₀ opened ∧
      RunWorkflowStreamAccounted env n workflowId request w₀ opened := by
  obtain ⟨-, -, hsteps⟩ := openRun_inRun hforeign hopen
  have hordered : (WorkflowExecutor.ordered opened.steps).map (·.stepOrder) =
      (List.range n).map Int.ofNat := by
    refine map_stepOrder_ordered (List.Perm.trans ?_ horders)
    rw [hsteps]
    exact (List.perm_insertionSort _ _).map _
  constructor
  · obtain ⟨w', records, calls, hrun, hrecords, hended⟩ :=
      runWorkflow_executes hforeign hopen henv.accepts rfl
    rw [RunWorkflowAccounted, hrun]
    exact ⟨_, _, records, rfl, runAccount_of_inRun hn hordered rfl hrecords hended⟩
  · obtain ⟨run, records, calls, hrun, hstream, hrecords, hended⟩ :=
      runWorkflowStream_executes hforeign hopen henv rfl
    rw [RunWorkflowStreamAccounted, hrun]
    exact ⟨_, _, records, hstream,
      runAccount_of_inRun hn hordered rfl hrecords hended⟩

section Examples

open Deployment

/-- The deployment, with a workflow of two steps. -/
def Deployment.greetTwice : Store where
  db := { db with
    workflowSteps := ⟨[{ greet with id := 2, stepOrder := 1 }, greet], by decide⟩ }
  redis := .empty

/-- The theorem at the runs of that workflow. -/
theorem workflowRun_account_example : ∃ opened,
    RunWorkflowAccounted (Deployment.env .trustClientUserId none (answering "Hi")) 2 1
        ⟨"Hello", none, none⟩ (World.start greetTwice) opened ∧
      RunWorkflowStreamAccounted (Deployment.env .trustClientUserId none (answering "Hi")) 2 1
        ⟨"Hello", none, none⟩ (World.start greetTwice) opened := by
  have hopens : (openRun (Deployment.env .trustClientUserId none (answering "Hi")) 1
      ⟨"Hello", none, none⟩ (World.start greetTwice)).1.isOk = true := by decide +kernel
  rcases hopen : openRun (Deployment.env .trustClientUserId none (answering "Hi")) 1
    ⟨"Hello", none, none⟩ (World.start greetTwice) with ⟨exc | opened, w⟩
  · rw [hopen] at hopens
    cases hopens
  · refine ⟨opened, workflowRun_account ⟨fun _ _ _ => rfl, fun _ => rfl, fun _ => rfl⟩
      (by decide) (fun _ h => by cases h) ?_ hopen⟩
    decide

-- the second step is given the output of the first
example : ((runWorkflow (Deployment.env .trustClientUserId none (answering "Hi")) 1
    ⟨"Hello", none, none⟩ (World.start greetTwice)).2.working.workflowRunSteps.rows.map
      fun s => (s.stepOrder, s.input, s.output, s.status)) =
    [(0, "Hello", some "Hi", .completed), (1, "Hi", some "Hi", .completed)] := by
  decide +kernel

end Examples

end AgnoRuntime
