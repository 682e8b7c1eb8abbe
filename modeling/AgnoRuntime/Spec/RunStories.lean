import AgnoRuntime.Spec.RequestSteps

/-!
# What the rows of a workflow run tell

A workflow run is a row, the records of its steps and its events, in three tables.
As with turns, together they tell a story: which workflow was run on which input,
what each step was given, what came of it, and how far the run is. A story also
says what the client of a streamed run has been sent, item by item
(`RunStory.items`); which stories can happen is what `RunStory.Possible` says.
-/

namespace AgnoRuntime

open Svc Prog WorkflowExecutionService

/-! ## Steps -/

/-- How far a step is. -/
inductive StepPhase where
  | running
  | completed (output : String)
  | failed (exc : PyError)

/-- The story of a step: its record, what it was given, and the engine's events that the client of
    a stream was sent. -/
structure StepStory where
  recordId : Uuid
  step : WorkflowStep
  input : String
  sent : List StreamEvent
  phase : StepPhase

namespace StepPhase

/-- The status of the record. -/
def status : StepPhase → WorkflowStepStatus
  | running => .running
  | completed _ => .completed
  | failed _ => .failed

/-- The output in the record. -/
def output : StepPhase → Option String
  | running | failed _ => none
  | completed output => some output

/-- The error in the record. -/
def errorMessage : StepPhase → Option String
  | running | completed _ => none
  | failed exc => some exc.str

/-- The event that ends the step; there is none of a step that failed. -/
def event (runId : Uuid) (stepOrder : Int) : StepPhase → Option WorkflowEvent
  | running | failed _ => none
  | completed _ => some ⟨runId, .workflowStepCompleted, .stepCompleted stepOrder⟩

/-- What the client is sent when the step has ended. -/
def item (opened : OpenRun) (stepOrder : Int) : StepPhase → Option StreamItem
  | running => none
  | completed output =>
    some (opened.item "WorkflowStepCompleted" (.stepCompleted stepOrder output))
  | failed exc => some (opened.item "WorkflowStepFailed" (.stepFailed stepOrder exc.str))

/-- How a step ends that has been sent the whole stream. -/
def ofStream (stream : EventStream) : StepPhase :=
  match stream.error with
  | none => completed (answerOf stream.events)
  | some exc => failed exc

end StepPhase

namespace StepStory

/-- The record of the step. -/
def record (runId : Uuid) (s : StepStory) : WorkflowRunStep :=
  ⟨s.recordId, runId, s.step.id, s.step.stepOrder, s.phase.status, s.input, s.phase.output,
    s.phase.errorMessage⟩

/-- The events of the step. -/
def events (runId : Uuid) (s : StepStory) : List WorkflowEvent :=
  ⟨runId, .workflowStepStarted, .stepStarted s.step.stepOrder s.step.stepType.value⟩ ::
    (s.phase.event runId s.step.stepOrder).toList

/-- What the client has been sent of the step. -/
def items (opened : OpenRun) (s : StepStory) : List StreamItem :=
  opened.item "WorkflowStepStarted" (.stepStarted s.step.stepOrder s.step.stepType.value) ::
    (s.sent.map (fun event => opened.item ("WorkflowStep:" ++ event.eventType)
      (.stepEvent s.step.stepOrder event.payload)) ++
      (s.phase.item opened s.step.stepOrder).toList)

/-- One more event of the engine. -/
def sending (s : StepStory) (event : StreamEvent) : StepStory :=
  { s with sent := s.sent ++ [event] }

/-- The step has not ended. -/
def NotCompleted (s : StepStory) : Prop := ∀ output, s.phase ≠ .completed output

end StepStory

/-! ## Runs -/

/-- How far a run is. -/
inductive RunPhase where
  | pending
  | running
  | completed (result : String)
  | failed (error : String)

namespace RunPhase

/-- The status of the run. -/
def status : RunPhase → WorkflowRunStatus
  | pending => .pending
  | running => .running
  | completed _ => .completed
  | failed _ => .failed

/-- The result of the run. -/
def result : RunPhase → Option String
  | pending | running | failed _ => none
  | completed result => some result

/-- The error of the run. -/
def errorMessage : RunPhase → Option String
  | pending | running | completed _ => none
  | failed error => some error

/-- The event that ends the run. -/
def event (runId : Uuid) : RunPhase → Option WorkflowEvent
  | pending | running => none
  | completed result => some ⟨runId, .workflowCompleted, .resultLength result.length⟩
  | failed error => some ⟨runId, .workflowFailed, .error error⟩

/-- What the client is sent at the end. -/
def item (opened : OpenRun) : RunPhase → Option StreamItem
  | pending | running => none
  | completed result => some (opened.item "WorkflowCompleted" (.result result))
  | failed error => some (opened.item "WorkflowFailed" (.error error))

end RunPhase

/-- The story of a workflow run. -/
structure RunStory where
  opened : OpenRun
  workflowId : Uuid
  request : WorkflowRunRequest
  steps : List StepStory
  phase : RunPhase

/-- The rows of a workflow run. -/
structure RunRows where
  run : WorkflowRun
  steps : List WorkflowRunStep
  events : List WorkflowEvent

namespace RunStory

variable (story : RunStory)

/-- The id of the run. -/
def runId : Uuid := story.opened.context.workflowRunId

/-- The rows that tell the story. -/
def rows : RunRows where
  run := { openedRun story.opened story.workflowId story.request with
    status := story.phase.status
    result := story.phase.result
    errorMessage := story.phase.errorMessage }
  steps := story.steps.map (·.record story.runId)
  events := ⟨story.runId, .workflowStarted, .input story.request.input⟩ ::
    (story.steps.flatMap (·.events story.runId) ++ (story.phase.event story.runId).toList)

/-- What the client has been sent. -/
def items : List StreamItem :=
  match story.phase with
  | .pending => []
  | .running | .completed _ | .failed _ =>
    story.opened.item "WorkflowStarted" (.input story.request.input) ::
      (story.steps.flatMap (·.items story.opened) ++ (story.phase.item story.opened).toList)

/-- One step further. -/
def withStep (s : StepStory) : RunStory := { story with steps := story.steps ++ [s] }

/-- The run in another phase. -/
def inPhase (phase : RunPhase) : RunStory := { story with phase := phase }

/-- The story of a run that was just opened. -/
structure Opens (base : Db) : Prop where
  found : findWorkflow base story.workflowId = .ok (story.opened.workflow, story.opened.steps)
  context : story.opened.context = ⟨story.runId, story.opened.workflow.id,
    story.opened.context.sessionId, story.request.userId, []⟩

end RunStory

/-- The first steps were executed one after the other, which has led to a context; `known` holds of
    each. -/
inductive Executed (known : StepStory → Prop) (input : String) :
    WorkflowContext → List StepStory → WorkflowContext → Prop where
  | start (context : WorkflowContext) : Executed known input context [] context
  | next {context₀ context : WorkflowContext} {stories : List StepStory} (s : StepStory)
    (output : String) (hstories : Executed known input context₀ stories context)
    (hinput : s.input = context.previousOutput s.step.stepOrder input)
    (hphase : s.phase = .completed output) (hknown : known s) :
    Executed known input context₀ (stories ++ [s]) (context.recordResult s.step.stepOrder output)

/-- What can have happened in a run: some steps were executed in their order, each on the output
    of the one before; it may have stopped in the next one, or failed with it; and it is completed
    after the last. -/
inductive RunStory.Possible (known : StepStory → Prop) (story : RunStory) : Prop where
  | pending (hphase : story.phase = .pending) (hsteps : story.steps = [])
  | between (context : WorkflowContext) (rest : List WorkflowStep)
    (hphase : story.phase = .running)
    (hexecuted : Executed known story.request.input story.opened.context story.steps context)
    (hrest : WorkflowExecutor.ordered story.opened.steps = story.steps.map (·.step) ++ rest)
  | within (context : WorkflowContext) (stories : List StepStory) (s : StepStory)
    (rest : List WorkflowStep) (hsteps : story.steps = stories ++ [s])
    (hexecuted : Executed known story.request.input story.opened.context stories context)
    (hrest : WorkflowExecutor.ordered story.opened.steps = story.steps.map (·.step) ++ rest)
    (hinput : s.input = context.previousOutput s.step.stepOrder story.request.input)
    (hnotCompleted : s.NotCompleted) (hknown : known s)
    (hphase : story.phase = .running ∨ ∃ exc, s.phase = .failed exc ∧
      story.phase = .failed (WorkflowExecutor.stepFailed s.step exc).str)
  | completed (context : WorkflowContext)
    (hexecuted : Executed known story.request.input story.opened.context story.steps context)
    (hall : WorkflowExecutor.ordered story.opened.steps = story.steps.map (·.step))
    (hphase : story.phase = .completed context.finalResult)

/-! ## How a story goes on -/

namespace RunStory

variable (story : RunStory) {s : StepStory}

/-- A step is started: its record and its event come last. -/
theorem rows_started (h : story.phase = .running) (hs : s.phase = .running) :
    (story.withStep s).rows = ⟨story.rows.run, story.rows.steps ++ [s.record story.runId],
      story.rows.events ++ [⟨story.runId, .workflowStepStarted,
        .stepStarted s.step.stepOrder s.step.stepType.value⟩]⟩ := by
  simp [rows, withStep, runId, h, hs, StepStory.events, StepPhase.event, RunPhase.event]

/-- The step that comes last is completed. -/
theorem rows_completedStep (h : story.phase = .running) (hs : s.phase = .running)
    (output : String) :
    (story.withStep { s with phase := .completed output }).rows =
      ⟨story.rows.run,
        story.rows.steps ++ [{ s.record story.runId with
          output := some output, status := .completed }],
        (story.withStep s).rows.events ++
          [⟨story.runId, .workflowStepCompleted, .stepCompleted s.step.stepOrder⟩]⟩ := by
  simp [rows, withStep, runId, h, hs, StepStory.events, StepStory.record, StepPhase.event,
    StepPhase.status, StepPhase.output, StepPhase.errorMessage, RunPhase.event]

/-- It fails. -/
theorem rows_failedStep (h : story.phase = .running) (hs : s.phase = .running) (exc : PyError) :
    (story.withStep { s with phase := .failed exc }).rows =
      ⟨story.rows.run,
        story.rows.steps ++ [{ s.record story.runId with
          errorMessage := some exc.str, status := .failed }],
        (story.withStep s).rows.events⟩ := by
  simp [rows, withStep, runId, h, hs, StepStory.events, StepStory.record, StepPhase.event,
    StepPhase.status, StepPhase.output, StepPhase.errorMessage, RunPhase.event]

/-- The events that were sent to the client are in no table. -/
theorem rows_sent (s : StepStory) (sent : List StreamEvent) :
    (story.withStep { s with sent := sent }).rows = (story.withStep s).rows := by
  simp [rows, withStep, runId, StepStory.events, StepStory.record]

theorem rows_running (h : story.phase = .pending) :
    (story.inPhase .running).rows = { story.rows with
      run := { story.rows.run with status := .running } } := by
  simp [rows, inPhase, runId, h, RunPhase.status, RunPhase.result, RunPhase.errorMessage,
    RunPhase.event]

theorem rows_completed (h : story.phase = .running) (result : String) :
    (story.inPhase (.completed result)).rows =
      ⟨{ story.rows.run with result := some result, status := .completed }, story.rows.steps,
        story.rows.events ++
          [⟨story.runId, .workflowCompleted, .resultLength result.length⟩]⟩ := by
  simp [rows, inPhase, runId, h, RunPhase.status, RunPhase.result, RunPhase.errorMessage,
    RunPhase.event]

theorem rows_failed (h : story.phase = .running) (error : String) :
    (story.inPhase (.failed error)).rows =
      ⟨{ story.rows.run with errorMessage := some error, status := .failed }, story.rows.steps,
        story.rows.events ++ [⟨story.runId, .workflowFailed, .error error⟩]⟩ := by
  simp [rows, inPhase, runId, h, RunPhase.status, RunPhase.result, RunPhase.errorMessage,
    RunPhase.event]

/-! ### The client -/

theorem items_started (h : story.phase = .running) (hs : s.phase = .running) (hsent : s.sent = []) :
    (story.withStep s).items = story.items ++ [story.opened.item "WorkflowStepStarted"
      (.stepStarted s.step.stepOrder s.step.stepType.value)] := by
  simp [items, withStep, h, hs, hsent, StepStory.items, StepPhase.item, RunPhase.item]

theorem items_sending (h : story.phase = .running) (hs : s.phase = .running) (event : StreamEvent) :
    (story.withStep (s.sending event)).items = (story.withStep s).items ++
      [story.opened.item ("WorkflowStep:" ++ event.eventType)
        (.stepEvent s.step.stepOrder event.payload)] := by
  simp [items, withStep, h, hs, StepStory.sending, StepStory.items, StepPhase.item, RunPhase.item]

theorem items_completedStep (h : story.phase = .running) (hs : s.phase = .running)
    (output : String) :
    (story.withStep { s with phase := .completed output }).items = (story.withStep s).items ++
      [story.opened.item "WorkflowStepCompleted"
        (.stepCompleted s.step.stepOrder output)] := by
  simp [items, withStep, h, hs, StepStory.items, StepPhase.item, RunPhase.item]

theorem items_failedStep (h : story.phase = .running) (hs : s.phase = .running) (exc : PyError) :
    (story.withStep { s with phase := .failed exc }).items = (story.withStep s).items ++
      [story.opened.item "WorkflowStepFailed" (.stepFailed s.step.stepOrder exc.str)] := by
  simp [items, withStep, h, hs, StepStory.items, StepPhase.item, RunPhase.item]

theorem items_completed (h : story.phase = .running) (result : String) :
    (story.inPhase (.completed result)).items =
      story.items ++ [story.opened.item "WorkflowCompleted" (.result result)] := by
  simp [items, inPhase, h, RunPhase.item]

theorem items_failed (h : story.phase = .running) (error : String) :
    (story.inPhase (.failed error)).items =
      story.items ++ [story.opened.item "WorkflowFailed" (.error error)] := by
  simp [items, inPhase, h, RunPhase.item]

end RunStory

/-! ## The tables -/

/-- The tables have the same workflow runs. -/
structure SameWorkflowRuns (base db : Db) : Prop where
  metadata : db.metadata = base.metadata
  runs : db.workflowRuns = base.workflowRuns
  steps : db.workflowRunSteps = base.workflowRunSteps
  events : db.workflowEvents = base.workflowEvents

/-- The tables have a run that `base` has not, with these rows. Tools may have made other runs. -/
structure RunRows.In (rows : RunRows) (base db : Db) : Prop where
  fresh : base.workflowRuns.Lacks rows.run.id
  metadata : db.metadata = base.metadata
  run : rows.run ∈ db.workflowRuns.rows
  steps : stepsOf rows.run.id db = stepsOf rows.run.id base ++ rows.steps
  events : workflowEventsOf rows.run.id db = workflowEventsOf rows.run.id base ++ rows.events

namespace RunRows.In

variable {base db db' : Db} {rows : RunRows}

/-- What later requests do leaves the run alone. -/
theorem kept (h : rows.In base db) (hkept : HistoryKept db db') : rows.In base db' :=
  ⟨h.fresh, hkept.metadata.trans h.metadata, hkept.workflowRuns _ h.run,
    (hkept.runSteps _ h.run).trans h.steps, (hkept.runLog _ h.run).trans h.events⟩

theorem tools (h : rows.In base db) {args : RunArgs} (writes : ToolWrites args) :
    rows.In base (writes.apply db) :=
  h.kept (.of_tools (writes.kept db).toKeptByRuns)

/-- A run is inserted, with its first event. -/
theorem created (h : SameWorkflowRuns base db) (workflowId sessionId : Uuid) (input : String)
    (createdBy : Option String) :
    (RunRows.mk ⟨db.workflowRuns.freshKey, workflowId, sessionId, .pending, input, none, none,
      createdBy⟩ [] []).In base (db.withNewWorkflowRun workflowId sessionId input createdBy) where
  fresh := h.runs ▸ KeyedTable.lacks_freshKey db.workflowRuns
  metadata := h.metadata
  run := List.mem_append_right _ (List.mem_singleton_self _)
  steps := by
    rw [List.append_nil, stepsOf, stepsOf, ← h.steps]
    rfl
  events := by
    rw [List.append_nil, workflowEventsOf, workflowEventsOf, ← h.events]
    rfl

theorem event (h : rows.In base db) (eventType : WorkflowEventType) (payload : WorkflowPayload) :
    (RunRows.mk rows.run rows.steps (rows.events ++ [⟨rows.run.id, eventType, payload⟩])).In base
      (db.withWorkflowEvent ⟨rows.run.id, eventType, payload⟩) where
  fresh := h.fresh
  metadata := h.metadata
  run := h.run
  steps := h.steps
  events := by
    rw [← List.append_assoc, ← h.events, workflowEventsOf, Db.withWorkflowEvent,
      List.filter_append, List.filter_cons_of_pos (by simp), List.filter_nil, workflowEventsOf]

/-- The row of the run changes. -/
theorem changed (h : rows.In base db) (status : WorkflowRunStatus) (f : WorkflowRun → WorkflowRun)
    (hf : ∀ r, (f r).id = r.id) :
    (RunRows.mk { f rows.run with status := status } rows.steps rows.events).In base
      (db.withWorkflowRun rows.run.id status f hf) where
  fresh := by
    show base.workflowRuns.Lacks (f rows.run).id
    rw [hf]
    exact h.fresh
  metadata := h.metadata
  run := List.mem_map.mpr ⟨rows.run, h.run, if_pos rfl⟩
  steps := by
    show stepsOf (f rows.run).id db = stepsOf (f rows.run).id base ++ rows.steps
    rw [hf]
    exact h.steps
  events := by
    show workflowEventsOf (f rows.run).id db =
      workflowEventsOf (f rows.run).id base ++ rows.events
    rw [hf]
    exact h.events

/-- The record of a step is inserted. -/
theorem newStep (h : rows.In base db) (step : WorkflowStep) (stepInput : String) :
    (RunRows.mk rows.run (rows.steps ++
        [startedStep rows.run.id step stepInput db.workflowRunSteps.freshKey]) rows.events).In base
      (db.withNewStep rows.run.id step stepInput) where
  fresh := h.fresh
  metadata := h.metadata
  run := h.run
  steps := by
    rw [← List.append_assoc, ← h.steps]
    show (db.workflowRunSteps.rows ++ [startedStep rows.run.id step stepInput _]).filter _ = _
    rw [List.filter_append, List.filter_cons_of_pos (by simp [startedStep]), List.filter_nil,
      stepsOf]
  events := h.events

/-- The record that comes last is finalised. -/
theorem lastStep (h : rows.In base db) {before : List WorkflowRunStep} {record : WorkflowRunStep}
    (hsteps : rows.steps = before ++ [record]) (status : WorkflowStepStatus)
    (f : WorkflowRunStep → WorkflowRunStep) (hf : ∀ s, (f s).id = s.id)
    (hrun : ∀ s, (f s).workflowRunId = s.workflowRunId) :
    (RunRows.mk rows.run (before ++ [{ f record with status := status }]) rows.events).In base
      (db.withStep record.id status f hf) where
  fresh := h.fresh
  metadata := h.metadata
  run := h.run
  steps := by
    have hlast : stepsOf rows.run.id db = (stepsOf rows.run.id base ++ before) ++ [record] := by
      rw [h.steps, hsteps, List.append_assoc]
    rw [← List.append_assoc]
    exact KeyedTable.rows_filter_update_concat hlast (fun s => { f s with status := status }) hf
      fun s => by rw [hrun s]
  events := h.events

end RunRows.In

end AgnoRuntime
