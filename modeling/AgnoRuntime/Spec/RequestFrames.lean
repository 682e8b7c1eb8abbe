import AgnoRuntime.Spec.Throughout
import AgnoRuntime.Spec.TurnFrames

/-!
# What requests do to the tables of workflows

Requests never touch the workflows and their steps, and the records of executed
steps they only insert and finalize. A property of the tables that survives this is kept
throughout every request, whatever fails in it: a `StepFrame` while the steps of a
workflow are executed, a `RequestFrame` from the first statement of a request to its
last.
-/

namespace AgnoRuntime

open Svc Prog

/-- The execution a record is about: the run, the step, and its place. -/
def WorkflowRunStep.execution (r : WorkflowRunStep) : Uuid × Uuid × Int :=
  (r.workflowRunId, r.workflowStepId, r.stepOrder)

/-- What is written while the steps of a workflow are executed leaves `P` alone. -/
structure StepFrame (P : Db → Prop) : Prop where
  tools : ∀ {args : RunArgs} (writes : ToolWrites args) db, P db → P (writes.apply db)
  emitted : ∀ db events, P db → P { db with workflowEvents := events }
  started : ∀ db (row : Uuid → WorkflowRunStep) (hrow : ∀ id, (row id).id = id), P db →
    P { db with workflowRunSteps := db.workflowRunSteps.insertFresh row hrow }
  finalized : ∀ db id (f : WorkflowRunStep → WorkflowRunStep) (hf : ∀ s, (f s).id = s.id),
    (∀ s, (f s).execution = s.execution) → P db →
      P { db with workflowRunSteps := db.workflowRunSteps.update id f hf }

/-- The workflows, their steps and the records of executed steps. -/
def Db.workflowTables (db : Db) : KeyedTable Workflow.id × KeyedTable WorkflowStep.id ×
    KeyedTable WorkflowRunStep.id :=
  (db.workflows, db.workflowSteps, db.workflowRunSteps)

/-- What a request writes leaves `P` alone. -/
structure RequestFrame (P : Db → Prop) : Prop extends StepFrame P where
  elsewhere : ∀ db db' : Db, db'.workflowTables = db.workflowTables → P db → P db'

variable {P : Db → Prop} {env : Env} {α : Type}

/-! ## Sessions of the database -/

theorem keeping_violate (c : String) : Keeps (Keeping P) (violate c : Svc α) := by
  intro w hw
  rw [violate]
  split
  · exact hw
  · exact ⟨hw.committed, hw.working⟩

theorem keeping_fetch (f : Db → Except PyError α) : Keeps (Keeping P) (fetch f) :=
  keeps_bind (keeping_query _) fun _ => keeps_lift _

/-- A request and its `get_db`. -/
theorem keeping_getDb {x : Svc α} (hx : Keeps (Keeping P) x) : Keeps (Keeping P) (getDb env x) :=
  keeps_handleError
    (keeps_bind hx fun _ => keeps_bind keeping_commit fun _ => keeps_pure _)
    fun _ => keeps_bind keeping_rollback fun _ => keeps_raise _

/-- A streamed response and the session that is closed. -/
theorem keeping_streamed {x : Svc Unit} (hx : Keeps (Keeping P) x) :
    Keeps (Keeping P) (streamed x) :=
  keeps_bind (keeps_attempt hx) fun _ => keeps_bind keeping_rollback fun _ => keeps_lift _

/-! ## The steps of a workflow -/

namespace StepFrame

open WorkflowExecutionService

theorem startStep (hP : StepFrame P) (workflowRunId : Uuid) (step : WorkflowStep)
    (stepInput : String) :
    Keeps (Keeping P) (WorkflowRunService.startStep env workflowRunId step stepInput) :=
  keeps_bind keeps_read fun _ =>
    keeps_bind (keeping_write _ fun db => hP.started db _ _) fun _ =>
      keeps_bind (keeping_write _ fun db => hP.emitted db _) fun _ => keeps_pure _

theorem completeStep (hP : StepFrame P) (workflowRunId stepId : Uuid) (stepOrder : Int)
    (output : String) :
    Keeps (Keeping P)
      (WorkflowRunService.completeStep env workflowRunId stepId stepOrder output) :=
  keeps_bind (keeping_write _ fun db => hP.finalized db _ _ _ fun _ => rfl) fun _ =>
    keeping_write _ fun db => hP.emitted db _

theorem failStep (hP : StepFrame P) (stepId : Uuid) (errorMessage : String) :
    Keeps (Keeping P) (WorkflowRunService.failStep env stepId errorMessage) :=
  keeping_write _ fun db => hP.finalized db _ _ _ fun _ => rfl

/-- A call of the engine. -/
theorem run (hP : StepFrame P) (dispatch : Dispatch) (args : RunArgs) :
    Keeps (Keeping P) (Svc.run env dispatch args) :=
  keeping_run hP.tools dispatch args

theorem resolve (step : WorkflowStep) : Keeps (Keeping P) (WorkflowRunner.resolve env step) :=
  keeps_bind (keeping_query _) fun _ => keeping_engineOutcome _

/-! ### Without streaming -/

theorem executeStep (hP : StepFrame P) (runId : Uuid) (input : String)
    (context : WorkflowContext) (step : WorkflowStep) :
    Keeps (Keeping P) (WorkflowExecutor.executeStep (WorkflowRunner.runStep env)
      (callbacks env runId) input context step) := by
  refine keeps_bind (hP.startStep _ _ _) fun record => ?_
  refine keeps_bind (keeps_handleError ?_ fun exc => ?_) fun output => ?_
  · exact keeps_bind (resolve step) fun dispatch => hP.run _ _
  · rw [WorkflowExecutor.failStep]
    split
    · exact keeps_bind (hP.failStep _ _) fun _ => keeps_raise _
    · exact keeps_raise _
  · exact keeps_bind (hP.completeStep _ _ _ _) fun _ => keeps_pure _

theorem execute (hP : StepFrame P) (runId : Uuid) (input : String) (steps : List WorkflowStep)
    (context : WorkflowContext) :
    Keeps (Keeping P) (WorkflowExecutor.execute (WorkflowRunner.runStep env)
      (callbacks env runId) input steps context) := by
  have hsteps (steps : List WorkflowStep) (context : WorkflowContext) (current : String) :
      Keeps (Keeping P) (WorkflowExecutor.executeSteps (WorkflowRunner.runStep env)
        (callbacks env runId) input steps context current) := by
    induction steps generalizing context current with
    | nil => exact keeps_pure _
    | cons step steps ih => exact keeps_bind (hP.executeStep _ _ _ _) fun _ => ih _ _
  rw [WorkflowExecutor.execute]
  split
  · exact keeps_raise _
  · exact hsteps _ _ _

/-! ### Streaming -/

variable {opened : OpenRun} {input : String}

theorem forwardEvents (hP : StepFrame P) (step : WorkflowStep) {args : RunArgs} (live : LiveStream args)
    (events : List StreamEvent) (i : Nat) (collected : List String) :
    Keeps (Keeping P) (forwardEvents env opened step live events i collected) := by
  induction events generalizing i collected with
  | nil => exact keeps_pure _
  | cons event events ih =>
    exact keeps_bind (keeping_useTools hP.tools _) fun _ =>
      keeps_bind (keeping_yieldItem _) fun _ => ih _ _

theorem forwardStep (hP : StepFrame P) (context : WorkflowContext) (step : WorkflowStep)
    (stepInput : String) :
    Keeps (Keeping P) (forwardStep env opened context step stepInput) := by
  refine keeps_bind ?_ fun live => keeps_bind (hP.forwardEvents step live _ _ _) fun _ =>
    keeps_bind (keeping_endStream hP.tools live) fun _ => keeps_pure _
  exact keeps_bind (resolve step) fun dispatch => keeping_openStream dispatch _

theorem streamStep (hP : StepFrame P) (context : WorkflowContext) (step : WorkflowStep) :
    Keeps (Keeping P) (streamStep env opened input context step) := by
  refine keeps_bind (hP.startStep _ _ _) fun record => keeps_bind keeping_commit fun _ =>
    keeps_bind (keeping_yieldItem _) fun _ =>
      keeps_bind (keeps_handleError (hP.forwardStep _ _ _) fun exc => ?_) fun output =>
        keeps_bind (hP.completeStep _ _ _ _) fun _ => keeps_bind keeping_commit fun _ =>
          keeps_bind (keeping_yieldItem _) fun _ => keeps_pure _
  rw [failStreamedStep]
  split
  · exact keeps_bind (hP.failStep _ _) fun _ => keeps_bind keeping_commit fun _ =>
      keeps_bind (keeping_yieldItem _) fun _ => keeps_raise _
  · exact keeps_raise _

theorem executeStream (hP : StepFrame P) :
    Keeps (Keeping P) (executeStream env opened input) := by
  have hsteps (steps : List WorkflowStep) (context : WorkflowContext) :
      Keeps (Keeping P) (streamSteps env opened input steps context) := by
    induction steps generalizing context with
    | nil => exact keeps_pure _
    | cons step steps ih => exact keeps_bind (hP.streamStep context step) fun _ => ih _
  rw [WorkflowExecutionService.executeStream]
  split
  · exact keeps_raise _
  · exact hsteps _ _

end StepFrame

/-! ## Whole requests -/

namespace RequestFrame

/-- A statement about other tables. -/
theorem write (hP : RequestFrame P) (s : Statement) {f : Db → Db}
    (hf : ∀ db, (f db).workflowTables = db.workflowTables) :
    Keeps (Keeping P) (Svc.write env s f) :=
  keeping_write s fun db => hP.elsewhere _ _ (hf db)

theorem createMessage (hP : RequestFrame P) (sessionId : Uuid) (runId : Option Uuid)
    (role : MessageRole) (content : String) :
    Keeps (Keeping P) (createMessage env sessionId runId role content) :=
  hP.write _ fun _ => rfl

theorem createSession (hP : RequestFrame P) (id : Option Uuid) (agentOsId : Uuid)
    (teamId agentId : Option Uuid) (userId : Option String) (title : String) :
    Keeps (Keeping P) (createSession env id agentOsId teamId agentId userId title) := by
  refine keeps_bind keeps_read fun w => ?_
  simp only
  split
  · exact keeping_violate _
  · refine keeps_bind (hP.write _ fun _ => rfl) fun _ => keeps_bind ?_ fun _ => keeps_pure _
    exact keeps_modify fun _ hw => ⟨hw.committed, hw.working⟩

theorem getOrCreateSession (hP : RequestFrame P) (sessionId : Option Uuid) (agentOsId : Uuid)
    (teamId agentId : Option Uuid) (userId : Option String) (title : String) :
    Keeps (Keeping P)
      (getOrCreateSession env sessionId agentOsId teamId agentId userId title) := by
  have hnote (decision : SessionDecision) : Keeps (Keeping P) (note decision) :=
    keeps_modify fun _ hw => ⟨hw.committed, hw.working⟩
  rw [AgnoRuntime.getOrCreateSession.eq_def]
  split
  · exact hP.createSession _ _ _ _ _ _
  · refine keeps_bind (keeping_query _) fun existing => ?_
    split
    · exact hP.createSession _ _ _ _ _ _
    · split
      · exact keeps_bind (hnote _) fun _ => keeps_raise _
      · exact keeps_bind (hnote _) fun _ => keeps_pure _

/-! ### Workflow runs -/

section Workflows

open WorkflowExecutionService

variable {opened : OpenRun} {input : String}

/-- The row of a run, and the event that goes with it. -/
theorem markRun (hP : RequestFrame P) (runId : Uuid) (status : WorkflowRunStatus)
    (f : WorkflowRun → WorkflowRun) (hf : ∀ r, (f r).id = r.id) (eventType : WorkflowEventType)
    (payload : WorkflowPayload) :
    Keeps (Keeping P) (WorkflowRunService.updateRun env runId status f hf >>= fun _ =>
      WorkflowRunService.emitEvent env runId eventType payload) :=
  keeps_bind (hP.write _ fun _ => rfl) fun _ => hP.write _ fun _ => rfl

theorem openRun (hP : RequestFrame P) (workflowId : Uuid) (request : WorkflowRunRequest) :
    Keeps (Keeping P) (openRun env workflowId request) := by
  refine keeps_bind (keeping_fetch _) fun found => ?_
  refine keeps_bind (hP.getOrCreateSession _ _ _ _ _ _) fun session => ?_
  refine keeps_bind ?_ fun runId => keeps_bind (hP.createMessage _ _ _ _) fun _ => keeps_pure _
  exact keeps_bind keeps_read fun _ => keeps_bind (hP.write _ fun _ => rfl) fun _ =>
    keeps_bind (hP.write _ fun _ => rfl) fun _ => keeps_pure _

theorem completeRun (hP : RequestFrame P) (result : String) :
    Keeps (Keeping P) (completeRun env opened result) :=
  keeps_bind (hP.createMessage _ _ _ _) fun _ => hP.markRun _ _ _ _ _ _

theorem runWorkflow (hP : RequestFrame P) (workflowId : Uuid) (request : WorkflowRunRequest) :
    Keeps (Keeping P) (runWorkflow env workflowId request) := by
  refine keeps_bind (hP.openRun _ _) fun opened => keeps_bind (hP.write _ fun _ => rfl) fun _ =>
    keeps_bind (keeps_handleError (hP.execute _ _ _ _) fun exc => ?_) fun result =>
      keeps_bind (hP.completeRun _) fun _ => keeps_pure _
  rw [failAndRaise]
  split
  · exact keeps_bind (hP.markRun _ _ _ _ _ _) fun _ => keeps_raise _
  · exact keeps_raise _

theorem runWorkflowStream (hP : RequestFrame P) (workflowId : Uuid)
    (request : WorkflowRunRequest) :
    Keeps (Keeping P) (runWorkflowStream env workflowId request) := by
  refine keeps_bind ?_ fun opened => keeps_bind (keeping_yieldItem _) fun _ =>
    keeps_bind (keeps_handleError (keeps_map _ hP.executeStream) fun exc => ?_)
      fun context => ?_
  · exact keeps_bind (hP.openRun _ _) fun _ => keeps_bind keeping_commit fun _ =>
      keeps_bind (hP.write _ fun _ => rfl) fun _ => keeps_bind keeping_commit fun _ => keeps_pure _
  · rw [failStream]
    split
    · exact keeps_bind (hP.markRun _ _ _ _ _ _) fun _ => keeps_bind keeping_commit fun _ =>
        keeps_bind (keeping_yieldItem _) fun _ => keeps_pure _
    · exact keeps_raise _
  · split
    · exact keeps_pure _
    · exact keeps_bind (hP.completeRun _) fun _ => keeps_bind keeping_commit fun _ =>
        keeping_yieldItem _

end Workflows

/-! ### Chat turns -/

section Chat

open ChatService

variable {turn : ChatTurn}

/-- While the engine is executed for a turn. -/
theorem streamTurnFrame (hP : RequestFrame P) (runId : Uuid) :
    StreamTurnFrame env runId (Keeping P) where
  sameSession w w' h hw := by
    refine ⟨?_, ?_⟩
    · rw [h.committed]
      exact hw.committed
    · rw [h.working]
      exact hw.working
  tools writes := keeping_useTools hP.tools writes
  emitted _ _ := hP.write _ fun _ => rfl
  committed := keeping_commit

/-- The row of the run of a turn, and the event that goes with it. -/
theorem markTurn (hP : RequestFrame P) (runId : Uuid) (status : RunStatus)
    (f : AgentRun → AgentRun) (hf : ∀ r, (f r).id = r.id) (eventType : EventType)
    (payload : EventPayload) :
    Keeps (Keeping P) (RunTrackingService.updateRun env runId status f hf >>= fun _ =>
      RunTrackingService.emitEvent env runId eventType payload) :=
  keeps_bind (hP.write _ fun _ => rfl) fun _ => hP.write _ fun _ => rfl

theorem openTurn (hP : RequestFrame P) (request : ChatRequest) (groups : List String)
    (dispatch : Dispatch) : Keeps (Keeping P) (openTurn env request groups dispatch) := by
  refine keeps_bind (keeps_lift _) fun found => keeps_bind ?_ fun _ =>
    keeps_bind (hP.getOrCreateSession _ _ _ _ _ _) fun session => keeps_bind ?_ fun runId =>
      keeps_bind (hP.createMessage _ _ _ _) fun _ => keeps_pure _
  · refine keeps_bind (keeping_query _) fun policies => ?_
    split
    · exact keeps_pure _
    · exact keeps_bind (keeps_bind keeps_read fun _ => keeps_pure _) fun _ =>
        keeps_bind (keeping_redisCommand _) fun _ => keeps_bind keeps_read fun _ => keeps_lift _
  · exact keeps_bind keeps_read fun _ => keeps_bind (hP.write _ fun _ => rfl) fun _ =>
      keeps_bind (hP.write _ fun _ => rfl) fun _ => keeps_pure _

theorem execute (hP : RequestFrame P) : Keeps (Keeping P) (execute env turn) := by
  have hframe : StreamTurnFrame env turn.runId (Keeping P) := hP.streamTurnFrame turn.runId
  have hconsume (uiContext : Option UIContextFields) :
      Keeps (Keeping P) (consumeStream env turn uiContext) := by
    refine keeps_handleError (keeps_bind (hframe.openStream _ _) fun live =>
      keeps_bind (hframe.collectEvents live _ _ _) fun _ =>
        keeps_bind (hframe.endStream live) fun _ => keeps_pure _) fun exc => ?_
    rw [failAndRaise]
    split
    · exact keeps_bind (hP.markTurn _ _ _ _ _ _) fun _ => keeps_raise _
    · exact keeps_raise _
  rw [ChatService.execute]
  split
  · exact hconsume _
  · exact keeps_bind (hP.run _ _) fun _ => keeps_pure _
  · exact hconsume _

theorem completeTurn (hP : RequestFrame P) (result : TurnResult) :
    Keeps (Keeping P) (completeTurn env turn result) :=
  keeps_bind (hP.createMessage _ _ _ _) fun _ => hP.markTurn _ _ _ _ _ _

theorem recordTurn (hP : RequestFrame P) (result : TurnResult) :
    Keeps (Keeping P) (recordTurn env turn result) :=
  keeping_recordTurn (fun db _ => hP.elsewhere db _ rfl) _ _

theorem handleChat (hP : RequestFrame P) (request : ChatRequest) :
    Keeps (Keeping P) (handleChat env request) := by
  refine keeps_bind (keeping_fetch _) fun dispatch => keeps_bind ?_ fun executed => ?_
  · exact keeps_bind (hP.openTurn _ _ _) fun turn => keeps_bind (hP.write _ fun _ => rfl) fun _ =>
      keeps_bind hP.execute fun _ => keeps_pure _
  · exact keeps_bind (hP.completeTurn _) fun _ => keeps_bind (hP.recordTurn _) fun _ =>
      keeps_bind keeps_attributes fun _ => keeps_pure _

theorem handleCancellation (hP : RequestFrame P) (progress : Progress) :
    Keeps (Keeping P) (handleCancellation env turn progress) := by
  refine keeps_bind ?_ fun _ => keeps_bind (hP.markTurn _ _ _ _ _ _) fun _ =>
    keeps_bind keeping_commit fun _ => keeps_bind (keeping_redisCommand _) fun _ =>
      keeping_yieldItem _
  rw [savePartialOutput]
  split
  · exact keeps_pure _
  · exact hP.createMessage _ _ _ _

theorem forwardStream (hP : RequestFrame P) : Keeps (Keeping P) (forwardStream env turn) := by
  have hframe : StreamTurnFrame env turn.runId (Keeping P) := hP.streamTurnFrame turn.runId
  refine keeps_handleError (keeps_bind (hframe.openStream _ _) fun live =>
    keeps_bind ?_ fun progress => ?_) fun exc => ?_
  · rw [streamEvents_eq]
    refine keeps_bind (hframe.processEvents live _ _ _) fun processed => ?_
    rw [concludeEvents]
    split
    · exact keeps_bind (hP.handleCancellation _) fun _ => keeps_pure _
    · exact keeps_pure _
  · split
    · exact keeps_pure _
    · exact keeps_bind (hframe.endStream live) fun _ => keeps_pure _
  · rw [failStream]
    split
    · exact keeps_bind (hP.markTurn _ _ _ _ _ _) fun _ => keeps_bind keeping_commit fun _ =>
        keeps_bind (keeping_yieldItem _) fun _ => keeps_pure _
    · exact keeps_raise _

theorem handleChatStream (hP : RequestFrame P) (request : ChatRequest) :
    Keeps (Keeping P) (handleChatStream env request) := by
  refine keeps_bind (keeping_fetch _) fun dispatch => keeps_bind ?_ fun turn =>
    keeps_bind (keeping_yieldItem _) fun _ => keeps_bind hP.forwardStream fun progress => ?_
  · exact keeps_bind (hP.openTurn _ _ _) fun turn => keeps_bind keeping_commit fun _ =>
      keeps_bind (hP.write _ fun _ => rfl) fun _ => keeps_bind keeping_commit fun _ => keeps_pure _
  · split
    · exact keeps_pure _
    · exact keeps_bind (hP.completeTurn _) fun _ => keeps_bind keeping_commit fun _ =>
        keeps_bind (hP.recordTurn _) fun _ => keeps_bind keeps_attributes fun _ =>
          keeping_yieldItem _

end Chat

/-! ### Execution plans -/

section Plans

open ExecutionEngineService

theorem attempt (hP : RequestFrame P) (context : PlanContext) (step : PlanStep)
    (stepInput : String) (stepRunId : Uuid) :
    Keeps (Keeping P) (attempt env context step stepInput stepRunId) := by
  refine keeps_bind (keeping_touch fun _ => hP.elsewhere _ _ rfl) fun _ => keeps_bind ?_ fun _ =>
    keeps_bind (keeping_fetch _) fun dispatch => hP.run _ _
  refine keeps_bind keeps_read fun w => ?_
  split
  · exact hP.write _ fun _ => rfl
  · exact keeps_pure _

theorem executePlanStep (hP : RequestFrame P) (context : PlanContext) (current : String)
    (step : PlanStep) :
    Keeps (Keeping P) (ExecutionEngineService.executeStep env context current step) := by
  refine keeps_bind ?_ fun stepRunId => keeps_bind (keeps_handleError ?_ fun exc => ?_)
    fun output => keeps_bind (hP.write _ fun _ => rfl) fun _ => keeps_pure _
  · exact keeps_bind keeps_read fun _ => keeps_bind (hP.write _ fun _ => rfl) fun _ =>
      keeps_pure _
  · exact keeps_retry (hP.attempt _ _ _ _) _
  · rw [ExecutionEngineService.failStep]
    split
    · exact keeps_bind (hP.write _ fun _ => rfl) fun _ => keeps_bind (hP.write _ fun _ => rfl)
        fun _ => keeps_raise _
    · exact keeps_raise _

theorem runPlan (hP : RequestFrame P) (plan : ExecutionPlan) (sessionId : Uuid)
    (userId : Option String) : Keeps (Keeping P) (runPlan env plan sessionId userId) := by
  have hsteps (context : PlanContext) (steps : List PlanStep) (current : String) :
      Keeps (Keeping P) (executeSteps env context steps current) := by
    induction steps generalizing current with
    | nil => exact keeps_pure _
    | cons step steps ih => exact keeps_bind (hP.executePlanStep _ _ _) fun _ => ih _
  rw [ExecutionEngineService.runPlan]
  split
  · exact keeps_raise _
  · split
    · exact keeps_raise _
    · refine keeps_bind ?_ fun planRunId => keeps_bind (hsteps _ _ _) fun _ =>
        keeps_bind (hP.write _ fun _ => rfl) fun _ => keeps_pure _
      exact keeps_bind keeps_read fun _ => keeps_bind (hP.write _ fun _ => rfl) fun _ =>
        keeps_pure _

end Plans

/-! ### All entry points -/

/-- Every request keeps `P`, whatever happens in it. -/
theorem served (hP : RequestFrame P) (env : Env) (store : Store) (request : Request)
    (h : P store.db) : P (request.served env store).store.db := by
  have hhandle : Keeps (Keeping P) (request.handle env) := by
    cases request with
    | chat payload => exact keeping_getDb (keeps_map _ (hP.handleChat payload))
    | chatStream payload =>
      exact keeps_bind (keeping_streamed (hP.handleChatStream payload)) fun _ => keeps_pure _
    | runWorkflow workflowId payload =>
      exact keeping_getDb (keeps_map _ (hP.runWorkflow workflowId payload))
    | runWorkflowStream workflowId payload =>
      exact keeps_bind (keeping_streamed (hP.runWorkflowStream workflowId payload))
        fun _ => keeps_pure _
    | runExecutionPlan payload =>
      exact keeping_getDb (keeps_map _ (keeps_bind (keeps_lift _) fun _ =>
        keeps_bind keeps_read fun _ => hP.runPlan _ _ _))
  exact (hhandle (World.start store) ⟨h, h⟩).committed

end RequestFrame

end AgnoRuntime
