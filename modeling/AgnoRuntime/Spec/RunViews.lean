import AgnoRuntime.Spec.Openings
import AgnoRuntime.Spec.StreamedSteps

/-!
# The records of a workflow run

What a workflow run reads and writes of the tables: its own row, the records of its
steps, and the metadata. A `RunView` is all there is of that, with the statements
that finalised a record of a step; each operation of a run is given by the view it
leads to.
-/

namespace AgnoRuntime

open Svc Prog WorkflowExecutionService

/-! ## Views -/

/-- The records of the steps of a run. -/
def stepsOf (runId : Uuid) (db : Db) : List WorkflowRunStep :=
  db.workflowRunSteps.rows.filter fun s => s.workflowRunId = runId

/-- The record of a step that a statement finalises, and as what. -/
def finalisedBy : Statement → Option (Uuid × WorkflowStepStatus)
  | .setStepStatus id status => some (id, status)
  | .insert _ | .setRunStatus _ _ | .setWorkflowRunStatus _ _ | .setPlanStatus _ _
  | .setPlanStepStatus _ _ | .commit => none

/-- The records of steps that were finalised, one after the other. -/
def World.finalised (w : World) : List (Uuid × WorkflowStepStatus) :=
  w.statements.filterMap finalisedBy

/-- A statement that finalises no record. -/
theorem World.finalised_append {w : World} {s : Statement} (hs : finalisedBy s = none) :
    (w.statements ++ [s]).filterMap finalisedBy = w.finalised := by
  rw [World.finalised, List.filterMap_append, List.filterMap_cons_none hs, List.filterMap_nil,
    List.append_nil]

/-- What there is of a run. -/
structure RunView where
  metadata : Metadata
  run : WorkflowRun
  steps : List WorkflowRunStep
  finalised : List (Uuid × WorkflowStepStatus)
  calls : Nat

/-- The session is in order, and this is what there is of the run. -/
structure InRun (v : RunView) (w : World) : Prop where
  inOrder : w.failed = false
  metadata : w.working.metadata = v.metadata
  run : w.working.workflowRuns.find? v.run.id = some v.run
  steps : stepsOf v.run.id w.working = v.steps
  finalised : w.finalised = v.finalised
  calls : w.engineCalls.length = v.calls

namespace InRun

variable {v : RunView} {w : World}

/-- A statement about other tables. -/
theorem wrote (hw : InRun v w) {s : Statement} {f : Db → Db} (hs : finalisedBy s = none)
    (hmetadata : (f w.working).metadata = w.working.metadata)
    (hruns : (f w.working).workflowRuns = w.working.workflowRuns)
    (hsteps : (f w.working).workflowRunSteps = w.working.workflowRunSteps) :
    InRun v (w.wrote s f) where
  inOrder := hw.inOrder
  metadata := hmetadata.trans hw.metadata
  run := by rw [World.wrote_working, hruns, hw.run]
  steps := by
    rw [← hw.steps, stepsOf, stepsOf, World.wrote_working, hsteps]
  finalised := (World.finalised_append hs).trans hw.finalised
  calls := hw.calls

/-- A commit. -/
theorem saved (hw : InRun v w) : InRun v w.saved :=
  ⟨hw.inOrder, hw.metadata, hw.run, hw.steps, (World.finalised_append rfl).trans hw.finalised,
    hw.calls⟩

/-- An item for the client. -/
theorem shown (hw : InRun v w) (item : StreamItem) : InRun v (w.shown item) :=
  ⟨hw.inOrder, hw.metadata, hw.run, hw.steps, hw.finalised, hw.calls⟩

/-- What the engine raised is no part of the run. -/
theorem raised (hw : InRun v w) (exc : PyError) : InRun v (w.raised exc) :=
  ⟨hw.inOrder, hw.metadata, hw.run, hw.steps, hw.finalised, hw.calls⟩

/-- A call of the engine. -/
theorem called (hw : InRun v w) (call : EngineCall) :
    InRun { v with calls := v.calls + 1 } (w.called call) where
  inOrder := hw.inOrder
  metadata := hw.metadata
  run := hw.run
  steps := hw.steps
  finalised := hw.finalised
  calls := by
    show (w.engineCalls ++ [call]).length = v.calls + 1
    rw [List.length_append, hw.calls, List.length_singleton]

/-- Tools leave the row of the run and the records of its steps alone. -/
theorem tooled (hw : InRun v w) {args : RunArgs} (writes : ToolWrites args) :
    InRun v (w.tooled writes) := by
  obtain ⟨hmem, hid⟩ := KeyedTable.mem_of_find? hw.run
  obtain ⟨new, hrows, hnew⟩ := (writes.kept w.working).workflowRunSteps
  have hothers : new.filter (fun s => s.workflowRunId = v.run.id) = [] := by
    rw [List.filter_eq_nil_iff]
    intro s hs
    rw [decide_eq_true_eq]
    exact hnew s hs v.run hmem
  refine ⟨hw.inOrder, (writes.kept _).metadata.trans hw.metadata, ?_, ?_, hw.finalised, hw.calls⟩
  · exact KeyedTable.find?_of_mem ((writes.kept _).workflowRuns v.run hmem)
  · rw [← hw.steps, stepsOf, World.tooled_working, hrows, List.filter_append, hothers,
      List.append_nil]
    rfl

/-- Events of a step that are sent on. -/
theorem streamed (hw : InRun v w) (opened : OpenRun) (step : WorkflowStep) {args : RunArgs}
    (live : LiveStream args) :
    InRun v (World.streamed opened step live w) := by
  have hforwarded (events : List StreamEvent) (i : Nat) (w : World) (hw : InRun v w) :
      InRun v (World.forwarded opened step live events i w) := by
    induction events generalizing i w with
    | nil => exact hw
    | cons event events ih =>
      rw [World.forwarded]
      exact ih (i + 1) _ ((hw.tooled _).shown _)
  rw [World.streamed]
  exact (hforwarded _ 0 w hw).tooled _

end InRun

/-! ## Operations of a run -/

/-- The record of a step that has been started. -/
def startedStep (runId : Uuid) (step : WorkflowStep) (stepInput : String) (id : Uuid) :
    WorkflowRunStep :=
  ⟨id, runId, step.id, step.stepOrder, .running, stepInput, none, none⟩

section Operations

variable {env : Env} (haccepts : ∀ n s db, env.refuses n s db = none) {v : RunView} {w : World}

include haccepts

theorem createMessage_inRun (hw : InRun v w) (sessionId : Uuid) (role : MessageRole)
    (content : String) :
    ∃ w', createMessage env sessionId none role content w = (.ok (), w') ∧ InRun v w' := by
  rw [createMessage_eq_write, write_apply hw.inOrder (haccepts _ _ _)]
  exact ⟨_, rfl, hw.wrote rfl rfl rfl rfl⟩

theorem emitEvent_inRun (hw : InRun v w) (runId : Uuid) (eventType : WorkflowEventType)
    (payload : WorkflowPayload) :
    ∃ w', WorkflowRunService.emitEvent env runId eventType payload w = (.ok (), w') ∧
      InRun v w' := by
  rw [workflow_emitEvent_eq_write, write_apply hw.inOrder (haccepts _ _ _)]
  exact ⟨_, rfl, hw.wrote rfl rfl rfl rfl⟩

/-- The record of a step is created. -/
theorem startStep_inRun (hw : InRun v w) (step : WorkflowStep) (stepInput : String) :
    ∃ w' id, WorkflowRunService.startStep env v.run.id step stepInput w = (.ok id, w') ∧
      InRun { v with steps := v.steps ++ [startedStep v.run.id step stepInput id] } w' := by
  have hwrite : write env (.insert .workflowRunSteps)
      (·.withNewStep v.run.id step stepInput) w =
        (.ok (), w.wrote (.insert .workflowRunSteps) (·.withNewStep v.run.id step stepInput)) :=
    write_apply hw.inOrder (haccepts _ _ _)
  have hstarted : InRun
      { v with steps := v.steps ++
          [startedStep v.run.id step stepInput w.working.workflowRunSteps.freshKey] }
      (w.wrote (.insert .workflowRunSteps) (·.withNewStep v.run.id step stepInput)) := by
    -- Only the steps change, by one at the end.
    have hother : InRun v (w.wrote (.insert .workflowRunSteps) id) := hw.wrote rfl rfl rfl rfl
    refine ⟨hw.inOrder, hw.metadata, hw.run, ?_, hother.finalised, hw.calls⟩
    rw [← hw.steps]
    show (w.working.workflowRunSteps.rows ++ [startedStep v.run.id step stepInput _]).filter _ = _
    rw [List.filter_append]
    congr 1
    exact List.filter_cons_of_pos (by simp [startedStep])
  -- The event is emitted.
  obtain ⟨w', hemit, hemitted⟩ := emitEvent_inRun haccepts hstarted v.run.id .workflowStepStarted
    (.stepStarted step.stepOrder step.stepType.value)
  refine ⟨w', _, ?_, hemitted⟩
  rw [WorkflowRunService.startStep, bind_apply_ok (read_apply w)]
  exact (bind_apply_ok hwrite).trans ((bind_apply_ok hemit).trans rfl)

/-- The record that comes last is finalised. -/
theorem updateStep_inRun (hw : InRun v w) {before : List WorkflowRunStep}
    {record : WorkflowRunStep} (hsteps : v.steps = before ++ [record])
    (status : WorkflowStepStatus) (f : WorkflowRunStep → WorkflowRunStep)
    (hf : ∀ s, (f s).id = s.id) (hrun : ∀ s, (f s).workflowRunId = s.workflowRunId) :
    ∃ w', WorkflowRunService.updateStep env record.id status f hf w = (.ok (), w') ∧
      InRun { v with
        steps := before ++ [{ f record with status := status }]
        finalised := v.finalised ++ [(record.id, status)] } w' := by
  rw [updateStep_eq_write, write_apply hw.inOrder (haccepts _ _ _)]
  refine ⟨_, rfl, hw.inOrder, hw.metadata, hw.run, ?_, ?_, hw.calls⟩
  · exact KeyedTable.rows_filter_update_concat (hw.steps.trans hsteps)
      (fun s => { f s with status := status }) hf fun s => by rw [hrun s]
  · rw [← hw.finalised, World.finalised, World.wrote_statements, List.filterMap_append]
    rfl

/-- `complete_step` on the record that comes last. -/
theorem completeStep_inRun (hw : InRun v w) {before : List WorkflowRunStep}
    {record : WorkflowRunStep} (hsteps : v.steps = before ++ [record]) (runId : Uuid)
    (stepOrder : Int) (output : String) :
    ∃ w', WorkflowRunService.completeStep env runId record.id stepOrder output w = (.ok (), w') ∧
      InRun { v with
        steps := before ++ [{ record with output := some output, status := .completed }]
        finalised := v.finalised ++ [(record.id, .completed)] } w' := by
  obtain ⟨w₁, hupdate, hupdated⟩ := updateStep_inRun haccepts hw hsteps .completed
    (fun s => { s with output := some output }) (fun _ => rfl) fun _ => rfl
  obtain ⟨w₂, hemit, hemitted⟩ := emitEvent_inRun haccepts hupdated runId .workflowStepCompleted
    (.stepCompleted stepOrder)
  exact ⟨w₂, (bind_apply_ok hupdate).trans hemit, hemitted⟩

/-- `fail_step` on the record that comes last. -/
theorem failStep_inRun (hw : InRun v w) {before : List WorkflowRunStep}
    {record : WorkflowRunStep} (hsteps : v.steps = before ++ [record]) (errorMessage : String) :
    ∃ w', WorkflowRunService.failStep env record.id errorMessage w = (.ok (), w') ∧
      InRun { v with
        steps := before ++ [{ record with errorMessage := some errorMessage, status := .failed }]
        finalised := v.finalised ++ [(record.id, .failed)] } w' :=
  updateStep_inRun haccepts hw hsteps .failed
    (fun s => { s with errorMessage := some errorMessage }) (fun _ => rfl) fun _ => rfl

/-- The row of the run is changed. -/
theorem updateRun_inRun (hw : InRun v w) (status : WorkflowRunStatus)
    (f : WorkflowRun → WorkflowRun) (hf : ∀ r, (f r).id = r.id) :
    ∃ w', WorkflowRunService.updateRun env v.run.id status f hf w = (.ok (), w') ∧
      InRun { v with run := { f v.run with status := status } } w' := by
  rw [workflow_updateRun_eq_write, write_apply hw.inOrder (haccepts _ _ _)]
  have hother : InRun v (w.wrote (.setWorkflowRunStatus v.run.id status) id) :=
    hw.wrote rfl rfl rfl rfl
  refine ⟨_, rfl, hw.inOrder, hw.metadata, ?_, ?_, hother.finalised, hw.calls⟩
  · have hrow := KeyedTable.find?_update w.working.workflowRuns v.run.id (f v.run).id
      (fun r => { f r with status := status }) hf
    rw [if_pos (hf v.run), hf v.run, hw.run] at hrow
    show (w.working.workflowRuns.update v.run.id (fun r => { f r with status := status }) hf).find?
      (f v.run).id = _
    rw [hf v.run]
    exact hrow
  · show stepsOf (f v.run).id w.working = v.steps
    rw [hf v.run]
    exact hw.steps

theorem markRunning_inRun (hw : InRun v w) :
    ∃ w', WorkflowRunService.markRunning env v.run.id w = (.ok (), w') ∧
      InRun { v with run := { v.run with status := .running } } w' :=
  updateRun_inRun haccepts hw .running (fun r => r) fun _ => rfl

theorem markCompleted_inRun (hw : InRun v w) (result : String) :
    ∃ w', WorkflowRunService.markCompleted env v.run.id result w = (.ok (), w') ∧
      InRun { v with run := { v.run with status := .completed, result := some result } } w' := by
  obtain ⟨w₁, hupdate, hupdated⟩ := updateRun_inRun haccepts hw .completed
    (fun r => { r with result := some result }) fun _ => rfl
  obtain ⟨w₂, hemit, hemitted⟩ := emitEvent_inRun haccepts hupdated v.run.id .workflowCompleted
    (.resultLength result.length)
  exact ⟨w₂, (bind_apply_ok hupdate).trans hemit, hemitted⟩

theorem markFailed_inRun (hw : InRun v w) (errorMessage : String) :
    ∃ w', WorkflowRunService.markFailed env v.run.id errorMessage w = (.ok (), w') ∧
      InRun { v with
        run := { v.run with status := .failed, errorMessage := some errorMessage } } w' := by
  obtain ⟨w₁, hupdate, hupdated⟩ := updateRun_inRun haccepts hw .failed
    (fun r => { r with errorMessage := some errorMessage }) fun _ => rfl
  obtain ⟨w₂, hemit, hemitted⟩ := emitEvent_inRun haccepts hupdated v.run.id .workflowFailed
    (.error errorMessage)
  exact ⟨w₂, (bind_apply_ok hupdate).trans hemit, hemitted⟩

end Operations

/-! ## The beginning of a run -/

/-- The foreign key of the records of steps: each belongs to a run that is there. -/
def Db.StepsHaveRuns (db : Db) : Prop :=
  ∀ s ∈ db.workflowRunSteps.rows, ∃ run ∈ db.workflowRuns.rows, run.id = s.workflowRunId

/-- The row of a run that has been opened. -/
def openedRun (opened : OpenRun) (workflowId : Uuid) (request : WorkflowRunRequest) :
    WorkflowRun where
  id := opened.context.workflowRunId
  workflowId := workflowId
  sessionId := opened.context.sessionId
  status := .pending
  input := request.input
  result := none
  errorMessage := none
  createdBy := request.userId

/-- What a session shows of workflow runs, before one of them. -/
private def besidesChat (w : World) :
    Metadata × KeyedTable WorkflowRun.id × KeyedTable WorkflowRunStep.id ×
      List (Uuid × WorkflowStepStatus) × Nat :=
  (w.working.metadata, w.working.workflowRuns, w.working.workflowRunSteps, w.finalised,
    w.engineCalls.length)

/-- A run that has just been created has no steps yet. -/
theorem createRun_inRun {env : Env} {workflowId sessionId runId : Uuid} {inputText : String}
    {createdBy : Option String} {w w' : World} (hforeign : w.working.StepsHaveRuns)
    (h : WorkflowRunService.createRun env workflowId sessionId inputText createdBy w =
      (.ok runId, w')) :
    InRun ⟨w.working.metadata,
      ⟨runId, workflowId, sessionId, .pending, inputText, none, none, createdBy⟩, [], w.finalised,
      w.engineCalls.length⟩ w' := by
  obtain ⟨rfl, hworks, rfl⟩ := workflow_createRun_eq_ok h
  have hnone : w.working.workflowRunSteps.rows.filter
      (fun s => s.workflowRunId = w.working.workflowRuns.freshKey) = [] := by
    rw [List.filter_eq_nil_iff]
    intro s hs hrun
    obtain ⟨run, hmem, hid⟩ := hforeign s hs
    rw [decide_eq_true_eq, ← hid] at hrun
    exact absurd hrun (Nat.ne_of_lt (KeyedTable.key_lt_freshKey hmem))
  have hinserted : InRun ⟨w.working.metadata, ⟨w.working.workflowRuns.freshKey, workflowId,
      sessionId, .pending, inputText, none, none, createdBy⟩, [], w.finalised,
      w.engineCalls.length⟩ (w.wrote (.insert .workflowRuns)
        (·.withNewWorkflowRun workflowId sessionId inputText createdBy)) :=
    ⟨hworks, rfl, KeyedTable.find?_insertFresh w.working.workflowRuns _ _, hnone,
      World.finalised_append rfl, rfl⟩
  exact hinserted.wrote rfl rfl rfl rfl

/-- The steps of the workflow that is found, of which there are some. -/
theorem findWorkflow_eq_ok {db : Db} {workflowId : Uuid} {workflow : Workflow}
    {steps : List WorkflowStep} (h : findWorkflow db workflowId = .ok (workflow, steps)) :
    steps = WorkflowStepRepository.listByWorkflow db.workflowSteps workflowId ∧
      steps.isEmpty = false := by
  rw [findWorkflow] at h
  obtain ⟨workflow', -, h⟩ := Except.bind_eq_ok.mp h
  dsimp only at h
  split at h
  · cases h
  · split at h
    · cases h
    · next hsome =>
      rw [← (Prod.mk.inj (Except.ok.inj h)).2]
      exact ⟨rfl, Bool.eq_false_iff.mpr hsome⟩

/-- A run that is opened is pending, and its steps are those of the workflow. -/
theorem openRun_inRun {env : Env} {workflowId : Uuid} {request : WorkflowRunRequest}
    {opened : OpenRun} {w w' : World} (hforeign : w.working.StepsHaveRuns)
    (h : openRun env workflowId request w = (.ok opened, w')) :
    InRun ⟨w.working.metadata, openedRun opened workflowId request, [], w.finalised,
        w.engineCalls.length⟩ w' ∧
      opened.context.stepResults = [] ∧
      opened.steps = WorkflowStepRepository.listByWorkflow w.working.workflowSteps workflowId := by
  obtain ⟨workflow, steps, session, runId, w₁, w₂, rfl, hfound, hsession, hcreate, rfl⟩ :=
    openRun_eq_ok h
  -- the session is opened or created without touching what a run reads
  have hsame : besidesChat w₁ = besidesChat w := by
    have hkeeps : Keeps (Same besidesChat) (getOrCreateSession env request.sessionId
        workflow.agentOsId workflow.teamId none request.userId ("Workflow: " ++ workflow.name)) := by
      have hwrote (w : World) :
          besidesChat (w.wrote (.insert .chatSessions) id) = besidesChat w := by
        rw [besidesChat, World.finalised, World.wrote_statements, World.finalised_append rfl]
        rfl
      exact same_getOrCreateSession (fun _ _ => rfl) hwrote (fun _ => rfl) (fun _ => rfl)
        (fun _ _ => rfl) _ _ _ _ _ _
    exact hkeeps.ok _ _ _ hsession
  simp only [besidesChat, Prod.mk.injEq] at hsame
  obtain ⟨hmetadata, hruns, hrecords, hfinalised, hcalls⟩ := hsame
  have hforeign' : w₁.working.StepsHaveRuns := by
    rw [Db.StepsHaveRuns, hruns, hrecords]
    exact hforeign
  have hcreated := createRun_inRun hforeign' hcreate
  rw [hmetadata, hfinalised, hcalls] at hcreated
  exact ⟨hcreated.wrote rfl rfl rfl rfl, rfl, (findWorkflow_eq_ok hfound).1⟩

end AgnoRuntime
