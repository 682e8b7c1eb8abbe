import AgnoRuntime.Spec.Outcomes

/-!
# What the services leave alone

Frame rules for the service programs. A program that only writes to its
transaction keeps `OnlyWrites`. Every other program keeps each relation that
allows what it does: deciding on a session (`OpenFrame`), calling the engine and
what tools do there (`Frame`), commits, rollbacks, Redis commands and items sent
(`SessionFrame`), or the last two together (`StreamFrame`).
-/

namespace AgnoRuntime

open Svc Prog

/-- What the statements of a request leave alone, but for the session it opens. -/
def Db.setting (db : Db) : Metadata × KeyedTable ChatSession.id := (db.metadata, db.chatSessions)

/-- Nothing happened but statements of the transaction. -/
structure OnlyWrites (w w' : World) : Prop where
  committed : w'.committed = w.committed
  setting : w'.working.setting = w.working.setting
  expired : w'.expired = w.expired
  redis : w'.redis = w.redis
  yielded : w'.yielded = w.yielded
  decisions : w'.decisions = w.decisions
  engineCalls : w'.engineCalls = w.engineCalls
  engineErrors : w'.engineErrors = w.engineErrors
  toolDecisions : w'.toolDecisions = w.toolDecisions
  toolCalls : w'.toolCalls = w.toolCalls

namespace OnlyWrites

/-- What a statement changes of the world. -/
theorem of_session (w : World) {working : Db} (hworking : working.setting = w.working.setting)
    (failed : Bool) (ticks : Nat) (statements : List Statement) :
    OnlyWrites w { w with
      working := working, failed := failed, ticks := ticks, statements := statements } where
  committed := rfl
  setting := hworking
  expired := rfl
  redis := rfl
  yielded := rfl
  decisions := rfl
  engineCalls := rfl
  engineErrors := rfl
  toolDecisions := rfl
  toolCalls := rfl

/-- Doing nothing. -/
theorem refl (w : World) : OnlyWrites w w := of_session w rfl w.failed w.ticks w.statements

/-- One after the other. -/
theorem trans {w w' w'' : World} (h : OnlyWrites w w') (h' : OnlyWrites w' w'') :
    OnlyWrites w w'' where
  committed := h'.committed.trans h.committed
  setting := h'.setting.trans h.setting
  expired := h'.expired.trans h.expired
  redis := h'.redis.trans h.redis
  yielded := h'.yielded.trans h.yielded
  decisions := h'.decisions.trans h.decisions
  engineCalls := h'.engineCalls.trans h.engineCalls
  engineErrors := h'.engineErrors.trans h.engineErrors
  toolDecisions := h'.toolDecisions.trans h.toolDecisions
  toolCalls := h'.toolCalls.trans h.toolCalls

instance : Std.Refl OnlyWrites := ⟨refl⟩

instance : IsTrans World OnlyWrites := ⟨fun _ _ _ => trans⟩

end OnlyWrites

/-! ## Programs of the transaction -/

variable {env : Env} {α : Type}

theorem onlyWrites_touch {f : Db → Db} (hf : ∀ db, (f db).setting = db.setting) :
    Keeps OnlyWrites (touch f) :=
  keeps_modify fun w => .of_session w (hf _) _ _ _

theorem onlyWrites_send (s : Statement) : Keeps OnlyWrites (send env s) := by
  intro w
  rw [send]
  split
  · exact .refl w
  · split
    · exact .of_session w rfl _ _ _
    · exact .of_session w rfl _ _ _

theorem onlyWrites_write (s : Statement) {f : Db → Db} (hf : ∀ db, (f db).setting = db.setting) :
    Keeps OnlyWrites (write env s f) :=
  keeps_bind (onlyWrites_touch hf) fun _ => onlyWrites_send s

theorem onlyWrites_violate (c : String) : Keeps OnlyWrites (violate c : Svc α) := by
  intro w
  rw [violate]
  split
  · exact .refl w
  · exact .of_session w rfl _ _ _

theorem onlyWrites_query (f : Db → α) : Keeps OnlyWrites (query f) := by
  intro w
  rw [query]
  split
  · exact .refl w
  · exact .refl w

theorem onlyWrites_fetch (f : Db → Except PyError α) : Keeps OnlyWrites (fetch f) :=
  keeps_bind (onlyWrites_query f) fun outcome => keeps_lift outcome

theorem onlyWrites_createMessage (sessionId : Uuid) (runId : Option Uuid) (role : MessageRole)
    (content : String) : Keeps OnlyWrites (createMessage env sessionId runId role content) :=
  onlyWrites_write _ fun _ => rfl

section Runs

open RunTrackingService

theorem onlyWrites_emitEvent (runId : Uuid) (eventType : EventType) (payload : EventPayload) :
    Keeps OnlyWrites (emitEvent env runId eventType payload) :=
  onlyWrites_write _ fun _ => rfl

theorem onlyWrites_createRun (sessionId agentId : Uuid) (inputText : String) :
    Keeps OnlyWrites (createRun env sessionId agentId inputText) :=
  keeps_bind keeps_read fun _ => keeps_bind (onlyWrites_write _ fun _ => rfl) fun _ =>
    keeps_bind (onlyWrites_emitEvent _ _ _) fun _ => keeps_pure _

theorem onlyWrites_markRunning (runId : Uuid) : Keeps OnlyWrites (markRunning env runId) :=
  onlyWrites_write _ fun _ => rfl

theorem onlyWrites_markCompleted (runId : Uuid) (output : String) :
    Keeps OnlyWrites (markCompleted env runId output) :=
  keeps_bind (onlyWrites_write _ fun _ => rfl) fun _ => onlyWrites_emitEvent _ _ _

theorem onlyWrites_markFailed (runId : Uuid) (errorMessage : String) :
    Keeps OnlyWrites (markFailed env runId errorMessage) :=
  keeps_bind (onlyWrites_write _ fun _ => rfl) fun _ => onlyWrites_emitEvent _ _ _

theorem onlyWrites_markCancelled (runId : Uuid) (output : String) :
    Keeps OnlyWrites (markCancelled env runId output) :=
  keeps_bind (onlyWrites_write _ fun _ => rfl) fun _ => onlyWrites_emitEvent _ _ _

theorem onlyWrites_completeTurn (turn : ChatService.ChatTurn) (result : ChatService.TurnResult) :
    Keeps OnlyWrites (ChatService.completeTurn env turn result) :=
  keeps_bind (onlyWrites_createMessage _ _ _ _) fun _ => onlyWrites_markCompleted _ _

end Runs

section WorkflowRuns

open WorkflowRunService

theorem onlyWrites_workflow_emitEvent (workflowRunId : Uuid) (eventType : WorkflowEventType)
    (payload : WorkflowPayload) :
    Keeps OnlyWrites (emitEvent env workflowRunId eventType payload) :=
  onlyWrites_write _ fun _ => rfl

theorem onlyWrites_workflow_createRun (workflowId sessionId : Uuid) (inputText : String)
    (createdBy : Option String) :
    Keeps OnlyWrites (createRun env workflowId sessionId inputText createdBy) :=
  keeps_bind keeps_read fun _ => keeps_bind (onlyWrites_write _ fun _ => rfl) fun _ =>
    keeps_bind (onlyWrites_workflow_emitEvent _ _ _) fun _ => keeps_pure _

theorem onlyWrites_workflow_markRunning (runId : Uuid) :
    Keeps OnlyWrites (markRunning env runId) :=
  onlyWrites_write _ fun _ => rfl

theorem onlyWrites_workflow_markCompleted (runId : Uuid) (result : String) :
    Keeps OnlyWrites (markCompleted env runId result) :=
  keeps_bind (onlyWrites_write _ fun _ => rfl) fun _ => onlyWrites_workflow_emitEvent _ _ _

theorem onlyWrites_workflow_markFailed (runId : Uuid) (errorMessage : String) :
    Keeps OnlyWrites (markFailed env runId errorMessage) :=
  keeps_bind (onlyWrites_write _ fun _ => rfl) fun _ => onlyWrites_workflow_emitEvent _ _ _

theorem onlyWrites_startStep (workflowRunId : Uuid) (step : WorkflowStep) (stepInput : String) :
    Keeps OnlyWrites (startStep env workflowRunId step stepInput) :=
  keeps_bind keeps_read fun _ => keeps_bind (onlyWrites_write _ fun _ => rfl) fun _ =>
    keeps_bind (onlyWrites_workflow_emitEvent _ _ _) fun _ => keeps_pure _

theorem onlyWrites_completeStep (workflowRunId stepId : Uuid) (stepOrder : Int)
    (output : String) :
    Keeps OnlyWrites (completeStep env workflowRunId stepId stepOrder output) :=
  keeps_bind (onlyWrites_write _ fun _ => rfl) fun _ => onlyWrites_workflow_emitEvent _ _ _

theorem onlyWrites_failStep (stepId : Uuid) (errorMessage : String) :
    Keeps OnlyWrites (failStep env stepId errorMessage) :=
  onlyWrites_write _ fun _ => rfl

theorem onlyWrites_completeRun (opened : WorkflowExecutionService.OpenRun) (result : String) :
    Keeps OnlyWrites (WorkflowExecutionService.completeRun env opened result) :=
  keeps_bind (onlyWrites_createMessage _ _ _ _) fun _ => onlyWrites_workflow_markCompleted _ _

end WorkflowRuns

section Plans

open ExecutionEngineService

theorem onlyWrites_updateStepRun (stepRunId : Uuid) (status : ExecutionStepStatus)
    (f : ExecutionPlanStepRun → ExecutionPlanStepRun) (hf : ∀ s, (f s).id = s.id) :
    Keeps OnlyWrites (updateStepRun env stepRunId status f hf) :=
  onlyWrites_write _ fun _ => rfl

theorem onlyWrites_updatePlanRun (planRunId : Uuid) (status : ExecutionPlanRunStatus)
    (f : ExecutionPlanRun → ExecutionPlanRun) (hf : ∀ r, (f r).id = r.id) :
    Keeps OnlyWrites (updatePlanRun env planRunId status f hf) :=
  onlyWrites_write _ fun _ => rfl

end Plans

/-! ## Opening a session

Deciding on a session notes the decision and otherwise only writes. -/

theorem onlyWrites_redisCommand_id : Keeps OnlyWrites (redisCommand env id) := by
  intro w
  rw [redisCommand]
  split
  · exact .of_session w rfl _ _ _
  · exact .of_session w rfl _ _ _

theorem onlyWrites_requireWithinQuota (caller : QuotaService.Caller) :
    Keeps OnlyWrites (QuotaService.requireWithinQuota env caller) := by
  refine keeps_bind (onlyWrites_query _) fun policies => ?_
  split
  · exact keeps_pure _
  · exact keeps_bind (keeps_bind keeps_read fun _ => keeps_pure _) fun _ =>
      keeps_bind onlyWrites_redisCommand_id fun _ => keeps_bind keeps_read fun _ => keeps_lift _

/-- A relation that allows statements of the transaction, decisions that satisfy `D`, and sessions
    created by such a decision. -/
structure OpenFrame (D : SessionDecision → Prop) (R : World → World → Prop) : Prop where
  onlyWrites : ∀ w w', OnlyWrites w w' → R w w'
  noted : ∀ w d, D d → R w { w with decisions := w.decisions ++ [d] }
  inserted : ∀ w row table, D (.created row.id row.userId) →
    w.working.chatSessions.insert? row = some table →
      R w { w with working := { w.working with chatSessions := table } }

/-- The decisions on a session that is asked for satisfy `D`: it is continued if it is there for
    the user, or else refused or created. -/
structure Decides (D : SessionDecision → Prop) (db : Db) (sessionId : Option Uuid)
    (userId : Option String) : Prop where
  continued : ∀ s ∈ db.chatSessions.rows, sessionId = some s.id → isLive s = true →
    s.userId = userId → D (.continued s.id)
  refused : ∀ id, sessionId = some id → D (.refused id)
  created : ∀ id, (∀ asked, sessionId = some asked → id = asked) → D (.created id userId)

/-- Where every decision is allowed. -/
theorem decides_true (db : Db) (sessionId : Option Uuid) (userId : Option String) :
    Decides (fun _ => True) db sessionId userId :=
  ⟨fun _ _ _ _ _ => trivial, fun _ _ => trivial, fun _ _ => trivial⟩

/-- What the session asked for is decided by, statements of the request leave alone. -/
theorem Decides.of_setting {D : SessionDecision → Prop} {db db' : Db} {sessionId : Option Uuid}
    {userId : Option String} (hD : Decides D db sessionId userId)
    (h : db'.setting = db.setting) : Decides D db' sessionId userId := by
  have hsessions : db'.chatSessions = db.chatSessions := congrArg Prod.snd h
  exact ⟨by rw [hsessions]; exact hD.continued, hD.refused, hD.created⟩

section OpenFrame

variable {D : SessionDecision → Prop} {R : World → World → Prop}

theorem OpenFrame.writes (hR : OpenFrame D R) {x : Svc α} (hx : Keeps OnlyWrites x) : Keeps R x :=
  hx.mono hR.onlyWrites

variable [Std.Refl R] [IsTrans World R]

theorem OpenFrame.createSession (hR : OpenFrame D R) {id : Option Uuid} {userId : Option String}
    (hcreated : ∀ i, (∀ asked, id = some asked → i = asked) → D (.created i userId))
    (agentOsId : Uuid) (teamId agentId : Option Uuid) (title : String) :
    Keeps R (createSession env id agentOsId teamId agentId userId title) := by
  intro w
  rw [AgnoRuntime.createSession, bind_apply_ok (read_apply w)]
  simp only
  have hid : ∀ asked, id = some asked → id.getD w.working.chatSessions.freshKey = asked :=
    fun asked hasked => by rw [hasked, Option.getD_some]
  generalize hinsert : w.working.chatSessions.insert? _ = inserted
  cases inserted with
  | none => exact hR.writes (onlyWrites_violate _) w
  | some table =>
    -- the row is added, the statement sent and the decision noted
    have hadded := hR.inserted w _ table (hcreated _ hid) hinsert
    have hsent : Keeps R (send env (.insert .chatSessions)) := hR.writes (onlyWrites_send _)
    have hnoted : Keeps R (note (.created (id.getD w.working.chatSessions.freshKey) userId)) :=
      keeps_modify fun w' => hR.noted w' _ (hcreated _ hid)
    dsimp only
    rw [write, bind_assoc, touch, bind_apply_ok (modify_apply _ w)]
    exact IsTrans.trans _ _ _ hadded
      ((keeps_bind hsent fun _ => keeps_bind hnoted fun _ => keeps_pure _) _)

theorem OpenFrame.getOrCreateSession (hR : OpenFrame D R) {sessionId : Option Uuid}
    {userId : Option String} {w : World} (hD : Decides D w.working sessionId userId)
    (agentOsId : Uuid) (teamId agentId : Option Uuid) (title : String) :
    R w (getOrCreateSession env sessionId agentOsId teamId agentId userId title w).2 := by
  rw [AgnoRuntime.getOrCreateSession.eq_def]
  split
  · exact hR.createSession hD.created _ _ _ _ w
  · rename_i id
    refine rel_bind (hR.writes (onlyWrites_query _) w) fun existing w₁ hquery => ?_
    split
    · exact hR.createSession hD.created _ _ _ _ w₁
    · rename_i found
      split
      · exact keeps_bind (keeps_modify fun w' => hR.noted w' _ (hD.refused id rfl))
          (fun _ => keeps_raise _) w₁
      · rename_i howner
        obtain ⟨-, hget, -⟩ := query_eq_ok hquery
        obtain ⟨hmem, rfl, hlive⟩ := BaseRepository.mem_of_get hget
        exact keeps_bind (keeps_modify fun w' =>
          hR.noted w' _ (hD.continued found hmem rfl hlive (not_not.mp howner)))
            (fun _ => keeps_pure _) w₁

theorem OpenFrame.openTurn (hR : OpenFrame D R) {request : ChatRequest} {w : World}
    (hD : Decides D w.working request.sessionId request.userId) (groups : List String)
    (dispatch : Dispatch) : R w (ChatService.openTurn env request groups dispatch w).2 := by
  refine rel_bind (keeps_lift _ w) fun found w₁ hfound => ?_
  obtain rfl : w₁ = w := (congrArg Prod.snd hfound).symm
  refine rel_bind (hR.writes (onlyWrites_requireWithinQuota _) w₁) fun _ w₂ hquota => ?_
  have hsetting := ((onlyWrites_requireWithinQuota _).ok _ _ _ hquota).setting
  refine rel_bind (hR.getOrCreateSession (hD.of_setting hsetting) _ _ _ _) fun session w₃ _ => ?_
  exact keeps_bind (hR.writes (onlyWrites_createRun _ _ _)) (fun _ =>
    keeps_bind (hR.writes (onlyWrites_createMessage _ _ _ _)) fun _ => keeps_pure _) w₃

theorem OpenFrame.openRun (hR : OpenFrame D R) {workflowId : Uuid} {request : WorkflowRunRequest}
    {w : World} (hD : ∀ found, WorkflowExecutionService.findWorkflow w.working workflowId =
      .ok found → Decides D w.working request.sessionId request.userId) :
    R w (WorkflowExecutionService.openRun env workflowId request w).2 := by
  refine rel_bind (hR.writes (onlyWrites_fetch _) w) fun found w₁ hfetch => ?_
  obtain ⟨-, hfound, rfl⟩ := fetch_eq_ok hfetch
  refine rel_bind (hR.getOrCreateSession (hD found hfound) _ _ _ _) fun session w₂ _ => ?_
  exact keeps_bind (hR.writes (onlyWrites_workflow_createRun _ _ _ _)) (fun _ =>
    keeps_bind (hR.writes (onlyWrites_createMessage _ _ _ _)) fun _ => keeps_pure _) w₂

/-- Where every decision is allowed, nothing is asked of the tables. -/
theorem OpenFrame.keeps_openTurn (hR : OpenFrame (fun _ => True) R) (request : ChatRequest)
    (groups : List String) (dispatch : Dispatch) :
    Keeps R (ChatService.openTurn env request groups dispatch) :=
  fun _ => hR.openTurn (decides_true _ _ _) groups dispatch

theorem OpenFrame.keeps_openRun (hR : OpenFrame (fun _ => True) R) (workflowId : Uuid)
    (request : WorkflowRunRequest) :
    Keeps R (WorkflowExecutionService.openRun env workflowId request) :=
  fun _ => hR.openRun fun _ _ => decides_true _ _ _

end OpenFrame

/-! ## Programs that call the engine -/

/-- A relation that allows statements of the transaction, quota checks, engine calls that satisfy
    `P`, and what tools do in such a call. -/
structure Frame (P : EngineCall → Prop) (R : World → World → Prop) : Prop where
  onlyWrites : ∀ w w', OnlyWrites w w' → R w w'
  call : ∀ w c, P c → R w { w with engineCalls := w.engineCalls ++ [c] }
  tools : ∀ w dispatch args (writes : ToolWrites args), P ⟨dispatch, args⟩ → R w (w.tooled writes)
  raised : ∀ w exc, R w { w with engineErrors := w.engineErrors ++ [exc] }

section Frame

variable {P : EngineCall → Prop} {R : World → World → Prop}

theorem Frame.writes (hR : Frame P R) {x : Svc α} (hx : Keeps OnlyWrites x) : Keeps R x :=
  hx.mono hR.onlyWrites

theorem Frame.useTools (hR : Frame P R) {dispatch : Dispatch} {args : RunArgs}
    (hcall : P ⟨dispatch, args⟩) (writes : ToolWrites args) : Keeps R (Svc.useTools writes) :=
  keeps_modify fun w => hR.tools w dispatch args writes hcall

variable [Std.Refl R] [IsTrans World R]

theorem Frame.engineOutcome (hR : Frame P R) (outcome : Except PyError α) :
    Keeps R (Svc.engineOutcome outcome) := by
  cases outcome with
  | ok a => exact keeps_pure a
  | error exc => exact keeps_bind (keeps_modify fun w => hR.raised w exc) fun _ => keeps_raise exc

theorem Frame.noteCall (hR : Frame P R) {dispatch : Dispatch} {args : RunArgs}
    (hcall : P ⟨dispatch, args⟩) : Keeps R (Svc.noteCall dispatch args) :=
  keeps_bind keeps_read fun _ => keeps_bind (keeps_modify fun w => hR.call w _ hcall) fun _ =>
    keeps_pure _

theorem Frame.run (hR : Frame P R) {dispatch : Dispatch} {args : RunArgs}
    (hcall : P ⟨dispatch, args⟩) : Keeps R (Svc.run env dispatch args) :=
  keeps_bind keeps_read fun _ => keeps_bind (hR.noteCall hcall) fun _ =>
    keeps_bind (hR.useTools hcall _) fun _ => hR.engineOutcome _

theorem Frame.openStream (hR : Frame P R) {dispatch : Dispatch} {args : RunArgs}
    (hcall : P ⟨dispatch, args⟩) : Keeps R (Svc.openStream env dispatch args) :=
  keeps_bind keeps_read fun _ => keeps_bind (hR.noteCall hcall) fun _ => keeps_pure _

theorem Frame.endStream (hR : Frame P R) {dispatch : Dispatch} {args : RunArgs}
    (hcall : P ⟨dispatch, args⟩) (live : LiveStream args) : Keeps R (Svc.endStream live) := by
  refine keeps_bind (hR.useTools hcall _) fun _ => ?_
  split
  · exact keeps_pure _
  · exact hR.engineOutcome _

/-! ### Chat turns -/

section Chat

open ChatService

theorem Frame.collectEvents (hR : Frame P R) (turn : ChatTurn) {dispatch : Dispatch}
    {args : RunArgs} (hcall : P ⟨dispatch, args⟩) (live : LiveStream args)
    (events : List StreamEvent) (i : Nat) (progress : Progress) :
    Keeps R (collectEvents env turn live events i progress) := by
  induction events generalizing i progress with
  | nil => exact keeps_pure _
  | cons event events ih =>
    exact keeps_bind (hR.useTools hcall _) fun _ =>
      keeps_bind (hR.writes (onlyWrites_emitEvent _ _ _)) fun _ => ih _ _

theorem Frame.failAndRaise (hR : Frame P R) (turn : ChatTurn) (exc : PyError) :
    Keeps R (ChatService.failAndRaise env turn exc : Svc α) := by
  rw [ChatService.failAndRaise]
  split
  · exact keeps_bind (hR.writes (onlyWrites_markFailed _ _)) fun _ => keeps_raise exc
  · exact keeps_raise exc

theorem Frame.consumeStream (hR : Frame P R) (turn : ChatTurn)
    (uiContext : Option UIContextFields) (hcall : P ⟨turn.dispatch, turn.args uiContext⟩) :
    Keeps R (consumeStream env turn uiContext) :=
  keeps_handleError
    (keeps_bind (hR.openStream hcall) fun live =>
      keeps_bind (hR.collectEvents turn hcall live _ _ _) fun _ =>
        keeps_bind (hR.endStream hcall live) fun _ => keeps_pure _)
    (hR.failAndRaise turn)

theorem Frame.execute (hR : Frame P R) (turn : ChatTurn)
    (hcall : ∀ uiContext, P ⟨turn.dispatch, turn.args uiContext⟩) :
    Keeps R (execute env turn) := by
  rw [ChatService.execute]
  split
  · exact hR.consumeStream turn _ (hcall _)
  · exact keeps_bind (hR.run (hcall _)) fun _ => keeps_pure _
  · exact hR.consumeStream turn _ (hcall _)

end Chat

/-! ### Workflow runs -/

section Workflows

open WorkflowExecutionService

theorem Frame.resolve (hR : Frame P R) (step : WorkflowStep) :
    Keeps R (WorkflowRunner.resolve env step) :=
  keeps_bind (hR.writes (onlyWrites_query _)) fun _ => hR.engineOutcome _

theorem Frame.runStep (hR : Frame P R) (step : WorkflowStep) (stepInput : String)
    (context : WorkflowContext)
    (hcall : ∀ dispatch, P ⟨dispatch, WorkflowRunner.args stepInput context⟩) :
    Keeps R (WorkflowRunner.runStep env step stepInput context) :=
  keeps_bind (hR.resolve step) fun dispatch => hR.run (hcall dispatch)

/-- Every call of the engine for a session and a user satisfies `P`. -/
def CallsOf (P : EngineCall → Prop) (sessionId : Uuid) (userId : Option String) : Prop :=
  ∀ dispatch stepInput, P ⟨dispatch, ⟨stepInput, sessionId, userId, none⟩⟩

theorem Frame.executeStep (hR : Frame P R) (runId : Uuid) (input : String)
    (context : WorkflowContext) (hcall : CallsOf P context.sessionId context.userId)
    (step : WorkflowStep) :
    Keeps R (WorkflowExecutor.executeStep (WorkflowRunner.runStep env) (callbacks env runId) input
      context step) := by
  refine keeps_bind (hR.writes (onlyWrites_startStep _ _ _)) fun record => ?_
  refine keeps_bind (keeps_handleError (hR.runStep _ _ _ fun d => hcall d _) fun exc => ?_)
    fun output => ?_
  · rw [WorkflowExecutor.failStep]
    split
    · exact keeps_bind (hR.writes (onlyWrites_failStep _ _)) fun _ => keeps_raise _
    · exact keeps_raise _
  · exact keeps_bind (hR.writes (onlyWrites_completeStep _ _ _ _)) fun _ => keeps_pure _

theorem Frame.executeSteps (hR : Frame P R) (runId : Uuid) (input : String)
    (steps : List WorkflowStep) (context : WorkflowContext) (current : String)
    (hcall : CallsOf P context.sessionId context.userId) :
    Keeps R (WorkflowExecutor.executeSteps (WorkflowRunner.runStep env) (callbacks env runId) input
      steps context current) := by
  induction steps generalizing context current with
  | nil => exact keeps_pure _
  | cons step steps ih =>
    exact keeps_bind (hR.executeStep runId input context hcall step) fun _ => ih _ _ hcall

theorem Frame.executeRun (hR : Frame P R) (opened : OpenRun) (input : String)
    (hcall : CallsOf P opened.context.sessionId opened.context.userId) :
    Keeps R (executeRun env opened input) := by
  refine keeps_handleError ?_ fun exc => ?_
  · rw [WorkflowExecutor.execute]
    split
    · exact keeps_raise _
    · exact hR.executeSteps _ _ _ _ _ hcall
  · rw [WorkflowExecutionService.failAndRaise]
    split
    · exact keeps_bind (hR.writes (onlyWrites_workflow_markFailed _ _)) fun _ => keeps_raise _
    · exact keeps_raise _

end Workflows

/-! ### Execution plans -/

section Plans

open ExecutionEngineService

theorem Frame.attempt (hR : Frame P R) (context : PlanContext) (step : PlanStep)
    (stepInput : String) (stepRunId : Uuid)
    (hcall : CallsOf P context.sessionId context.userId) :
    Keeps R (attempt env context step stepInput stepRunId) := by
  refine keeps_bind (hR.writes (onlyWrites_touch fun _ => rfl)) fun _ => keeps_bind ?_ fun _ =>
    keeps_bind (hR.writes (onlyWrites_fetch _)) fun dispatch => hR.run (hcall dispatch _)
  refine keeps_bind keeps_read fun w => ?_
  split
  · exact hR.writes (onlyWrites_write _ fun _ => rfl)
  · exact keeps_pure _

omit [Std.Refl R] in
theorem keeps_retry {body : Svc α} [Std.Refl R] (hbody : Keeps R body) (left : Nat) :
    Keeps R (retry body left) := by
  induction left with
  | zero => exact hbody
  | succ left ih =>
    refine keeps_handleError hbody fun exc => ?_
    split
    · exact ih
    · exact keeps_raise _

theorem Frame.failPlanStep (hR : Frame P R) (context : PlanContext) (step : PlanStep)
    (stepRunId : Uuid) (exc : PyError) :
    Keeps R (failStep env context step stepRunId exc : Svc α) := by
  rw [ExecutionEngineService.failStep]
  split
  · exact keeps_bind (hR.writes (onlyWrites_updateStepRun _ _ _ _)) fun _ =>
      keeps_bind (hR.writes (onlyWrites_updatePlanRun _ _ _ _)) fun _ => keeps_raise _
  · exact keeps_raise _

theorem Frame.executePlanStep (hR : Frame P R) (context : PlanContext) (current : String)
    (step : PlanStep) (hcall : CallsOf P context.sessionId context.userId) :
    Keeps R (ExecutionEngineService.executeStep env context current step) := by
  refine keeps_bind ?_ fun stepRunId => ?_
  · exact keeps_bind keeps_read fun _ =>
      keeps_bind (hR.writes (onlyWrites_write _ fun _ => rfl)) fun _ => keeps_pure _
  · exact keeps_bind (keeps_handleError
      (keeps_retry (hR.attempt context step _ stepRunId hcall) _)
        (hR.failPlanStep context step stepRunId)) fun output =>
          keeps_bind (hR.writes (onlyWrites_updateStepRun _ _ _ _)) fun _ => keeps_pure _

theorem Frame.executePlanSteps (hR : Frame P R) (context : PlanContext) (steps : List PlanStep)
    (current : String) (hcall : CallsOf P context.sessionId context.userId) :
    Keeps R (ExecutionEngineService.executeSteps env context steps current) := by
  induction steps generalizing current with
  | nil => exact keeps_pure _
  | cons step steps ih =>
    exact keeps_bind (hR.executePlanStep context current step hcall) fun _ => ih _

theorem Frame.runPlan (hR : Frame P R) (plan : ExecutionPlan) (sessionId : Uuid)
    (userId : Option String) (hcall : CallsOf P sessionId userId) :
    Keeps R (runPlan env plan sessionId userId) := by
  rw [ExecutionEngineService.runPlan]
  split
  · exact keeps_raise _
  · split
    · exact keeps_raise _
    · refine keeps_bind ?_ fun planRunId => ?_
      · exact keeps_bind keeps_read fun _ =>
          keeps_bind (hR.writes (onlyWrites_write _ fun _ => rfl)) fun _ => keeps_pure _
      · exact keeps_bind (hR.executePlanSteps _ _ _ hcall) fun _ =>
          keeps_bind (hR.writes (onlyWrites_updatePlanRun _ _ _ _)) fun _ => keeps_pure _

end Plans

end Frame

/-! ## Programs that commit and stream -/

/-- A relation that allows statements, commits, rollbacks, changes of Redis, and items sent. -/
structure SessionFrame (R : World → World → Prop) : Prop where
  onlyWrites : ∀ w w', OnlyWrites w w' → R w w'
  commit : ∀ w, R w { w with committed := w.working }
  rolledBack : ∀ w, R w { w with working := w.committed, failed := false, expired := true }
  redis : ∀ w redis ticks, R w { w with redis := redis, ticks := ticks }
  yielded : ∀ w item, R w { w with yielded := w.yielded ++ [item] }

section SessionFrame

variable {R : World → World → Prop}

theorem SessionFrame.writes (hR : SessionFrame R) {x : Svc α} (hx : Keeps OnlyWrites x) :
    Keeps R x :=
  hx.mono hR.onlyWrites

theorem SessionFrame.redisCommand (hR : SessionFrame R) (f : Redis → Redis) :
    Keeps R (Svc.redisCommand env f) := by
  intro w
  rw [Svc.redisCommand]
  split
  · exact hR.redis w w.redis _
  · exact hR.redis w _ _

theorem SessionFrame.rollback (hR : SessionFrame R) : Keeps R Svc.rollback :=
  keeps_modify hR.rolledBack

variable [Std.Refl R] [IsTrans World R]

omit [Std.Refl R] in
theorem SessionFrame.commits (hR : SessionFrame R) : Keeps R (Svc.commit env) :=
  keeps_bind (hR.writes (onlyWrites_send _)) fun _ => keeps_modify hR.commit

theorem SessionFrame.isCancelled (hR : SessionFrame R) (runId : Uuid) :
    Keeps R (Svc.isCancelled env runId) :=
  keeps_bind keeps_read fun _ => keeps_bind (hR.redisCommand _) fun _ => keeps_pure _

theorem SessionFrame.yieldItem (hR : SessionFrame R) (item : StreamItem) :
    Keeps R (Svc.yieldItem env item) := by
  refine keeps_bind keeps_read fun w => ?_
  refine keeps_bind (keeps_modify fun w => hR.yielded w item) fun _ => ?_
  split
  · exact keeps_raise _
  · exact keeps_pure _

omit [Std.Refl R] in
/-- What `get_db` does after a request is a commit or a rollback. -/
theorem getDb_from [Std.Refl R] (hcommit : Keeps R (Svc.commit env)) (hrollback : Keeps R Svc.rollback)
    (x : Svc α) (w : World) : R (x w).2 (getDb env x w).2 := by
  have htail : R (x w).2 ((x >>= fun a => Svc.commit env >>= fun _ => pure a) w).2 :=
    rel_bind_from (fun a => keeps_bind hcommit fun _ => keeps_pure a) w
  rw [getDb, handleError]
  rcases hc : (x >>= fun a => Svc.commit env >>= fun _ => pure a) w with ⟨exc | a, w'⟩
  · rw [hc] at htail
    exact IsTrans.trans _ _ _ htail ((keeps_bind hrollback fun _ => keeps_raise exc) w')
  · rw [hc] at htail
    exact htail

/-- What `get_db` does after a request is kept. -/
theorem SessionFrame.getDb_from (hR : SessionFrame R) (x : Svc α) (w : World) :
    R (x w).2 (getDb env x w).2 :=
  AgnoRuntime.getDb_from hR.commits hR.rollback x w

/-- `get_db` keeps what the request keeps from the world it starts in. -/
theorem SessionFrame.getDb_rel (hR : SessionFrame R) {x : Svc α} {w : World}
    (hx : R w (x w).2) : R w (getDb env x w).2 :=
  IsTrans.trans _ _ _ hx (hR.getDb_from x w)

omit [Std.Refl R] [IsTrans World R] in
/-- The session of a stream is rolled back after it. -/
theorem SessionFrame.streamed_from (hR : SessionFrame R) (x : Svc Unit) (w : World) :
    R (x w).2 (streamed x w).2 := by
  rw [streamed, bind_apply_ok (attempt_apply x w)]
  exact hR.rollback _

omit [Std.Refl R] in
/-- The session of a stream keeps what the stream keeps from the world it starts in. -/
theorem SessionFrame.streamed_rel (hR : SessionFrame R) {x : Svc Unit} {w : World}
    (hx : R w (x w).2) : R w (streamed x w).2 :=
  IsTrans.trans _ _ _ hx (hR.streamed_from x w)

/-! ### Chat turns -/

section Chat

open ChatService

theorem SessionFrame.recordUsage (hR : SessionFrame R) (runId : Uuid)
    (caller : QuotaService.Caller) (usage : QuotaService.Usage) :
    Keeps R (QuotaService.recordUsage env runId caller usage) := by
  rw [QuotaService.recordUsage]
  split
  -- The audit row, and then the counters, each with its own handler.
  · refine keeps_bind (keeps_handleError ?_ fun exc => ?_) fun _ =>
      keeps_handleError ?_ fun exc => ?_
    · exact keeps_bind (hR.writes (onlyWrites_write _ fun _ => rfl)) fun _ => hR.commits
    · split
      · exact hR.rollback
      · exact keeps_raise _
    -- The policies are read, and each has its counter recorded.
    · refine keeps_bind (hR.writes (onlyWrites_query _)) fun policies => ?_
      refine keeps_bind (keeps_bind keeps_read fun _ => keeps_pure _) fun now => ?_
      refine keeps_forEach fun p _ => ?_
      rw [QuotaService.recordCounter]
      split
      · exact keeps_pure _
      · exact keeps_bind (hR.redisCommand _) fun _ => hR.redisCommand _
    · split
      · exact keeps_pure _
      · exact keeps_raise _
  · exact keeps_pure _

theorem SessionFrame.recordTurn (hR : SessionFrame R) (turn : ChatTurn) (result : TurnResult) :
    Keeps R (recordTurn env turn result) := by
  refine keeps_bind ?_ fun cost => hR.recordUsage _ _ _
  rw [computeCostUsd.eq_def]
  split
  · exact keeps_pure _
  · refine keeps_bind (keeps_attempt (hR.writes (onlyWrites_query _))) fun outcome => ?_
    split
    · exact keeps_pure _
    · exact keeps_pure _

theorem SessionFrame.endTurn (hR : SessionFrame R) (turn : ChatTurn) (result : TurnResult) :
    Keeps R (endTurn env turn result) :=
  keeps_bind (hR.writes (onlyWrites_completeTurn turn result)) fun _ =>
    keeps_bind (hR.recordTurn turn result) fun _ =>
      keeps_bind keeps_attributes fun _ => keeps_pure _

theorem SessionFrame.handleCancellation (hR : SessionFrame R) (turn : ChatTurn)
    (progress : Progress) : Keeps R (handleCancellation env turn progress) := by
  refine keeps_bind ?_ fun _ => keeps_bind (hR.writes (onlyWrites_markCancelled _ _)) fun _ =>
    keeps_bind hR.commits fun _ => keeps_bind (hR.redisCommand _) fun _ => hR.yieldItem _
  rw [savePartialOutput]
  split
  · exact keeps_pure _
  · exact hR.writes (onlyWrites_createMessage _ _ _ _)

end Chat

end SessionFrame

/-- A relation that allows all of it. -/
structure StreamFrame (P : EngineCall → Prop) (R : World → World → Prop) : Prop
    extends Frame P R, SessionFrame R

section StreamFrame

variable {P : EngineCall → Prop} {R : World → World → Prop} [Std.Refl R] [IsTrans World R]

section Chat

open ChatService

theorem StreamFrame.streamEvents (hR : StreamFrame P R) (turn : ChatTurn) {dispatch : Dispatch}
    {args : RunArgs} (hcall : P ⟨dispatch, args⟩) (live : LiveStream args)
    (events : List StreamEvent) (i : Nat) (progress : Progress) :
    Keeps R (streamEvents env turn live events i progress) := by
  induction events generalizing i progress with
  | nil => exact keeps_pure _
  | cons event events ih =>
    refine keeps_bind (hR.useTools hcall _) fun _ =>
      keeps_bind (hR.toSessionFrame.isCancelled _) fun cancelled => ?_
    split
    · exact keeps_bind (hR.toSessionFrame.handleCancellation _ _) fun _ => keeps_pure _
    · exact keeps_bind (hR.toFrame.writes (onlyWrites_emitEvent _ _ _)) fun _ =>
        keeps_bind hR.toSessionFrame.commits fun _ =>
          keeps_bind (hR.toSessionFrame.yieldItem _) fun _ => ih _ _

theorem StreamFrame.forwardStream (hR : StreamFrame P R) (turn : ChatTurn)
    (hcall : P ⟨turn.dispatch, turn.args turn.request.uiContext⟩) :
    Keeps R (forwardStream env turn) := by
  refine keeps_handleError ?_ fun exc => ?_
  · refine keeps_bind (hR.openStream hcall) fun live =>
      keeps_bind (hR.streamEvents _ hcall _ _ _ _) fun progress => ?_
    split
    · exact keeps_pure _
    · exact keeps_bind (hR.endStream hcall live) fun _ => keeps_pure _
  · rw [ChatService.failStream]
    split
    · exact keeps_bind (hR.toFrame.writes (onlyWrites_markFailed _ _)) fun _ =>
        keeps_bind hR.toSessionFrame.commits fun _ =>
          keeps_bind (hR.toSessionFrame.yieldItem _) fun _ => keeps_pure _
    · exact keeps_raise _

theorem StreamFrame.continueStream (hR : StreamFrame P R) (turn : ChatTurn)
    (hcall : P ⟨turn.dispatch, turn.args turn.request.uiContext⟩) :
    Keeps R (ChatService.continueStream env turn) := by
  refine keeps_bind (hR.toSessionFrame.yieldItem _) fun _ =>
    keeps_bind (hR.forwardStream turn hcall) fun progress => ?_
  split
  · exact keeps_pure _
  · exact keeps_bind (hR.toFrame.writes (onlyWrites_completeTurn _ _)) fun _ =>
      keeps_bind hR.toSessionFrame.commits fun _ =>
      keeps_bind (hR.toSessionFrame.recordTurn _ _) fun _ =>
        keeps_bind keeps_attributes fun _ => hR.toSessionFrame.yieldItem _

end Chat

/-! ### Workflow runs -/

section Workflows

open WorkflowExecutionService

theorem StreamFrame.forwardEvents (hR : StreamFrame P R) (opened : OpenRun) (step : WorkflowStep)
    {dispatch : Dispatch} {args : RunArgs} (hcall : P ⟨dispatch, args⟩) (live : LiveStream args)
    (events : List StreamEvent) (i : Nat) (collected : List String) :
    Keeps R (forwardEvents env opened step live events i collected) := by
  induction events generalizing i collected with
  | nil => exact keeps_pure _
  | cons event events ih =>
    exact keeps_bind (hR.useTools hcall _) fun _ =>
      keeps_bind (hR.toSessionFrame.yieldItem _) fun _ => ih _ _

theorem StreamFrame.streamStep (hR : StreamFrame P R) (opened : OpenRun) (input : String)
    (context : WorkflowContext) (hcall : CallsOf P context.sessionId context.userId)
    (step : WorkflowStep) : Keeps R (streamStep env opened input context step) := by
  refine keeps_bind (hR.toFrame.writes (onlyWrites_startStep _ _ _)) fun record =>
    keeps_bind hR.toSessionFrame.commits fun _ => keeps_bind (hR.toSessionFrame.yieldItem _) fun _ =>
      keeps_bind (keeps_handleError ?_ fun exc => ?_) fun output =>
        keeps_bind (hR.toFrame.writes (onlyWrites_completeStep _ _ _ _)) fun _ =>
          keeps_bind hR.toSessionFrame.commits fun _ =>
            keeps_bind (hR.toSessionFrame.yieldItem _) fun _ => keeps_pure _
  · rw [forwardStep, WorkflowRunner.runStepStream, bind_assoc]
    exact keeps_bind (hR.resolve step) fun dispatch =>
      keeps_bind (hR.openStream (hcall dispatch _)) fun live =>
        keeps_bind (hR.forwardEvents _ _ (hcall dispatch _) _ _ _ _) fun _ =>
          keeps_bind (hR.endStream (hcall dispatch _) live) fun _ => keeps_pure _
  · rw [failStreamedStep]
    split
    · exact keeps_bind (hR.toFrame.writes (onlyWrites_failStep _ _)) fun _ =>
        keeps_bind hR.toSessionFrame.commits fun _ =>
          keeps_bind (hR.toSessionFrame.yieldItem _) fun _ => keeps_raise _
    · exact keeps_raise _

theorem StreamFrame.streamSteps (hR : StreamFrame P R) (opened : OpenRun) (input : String)
    (steps : List WorkflowStep) (context : WorkflowContext)
    (hcall : CallsOf P context.sessionId context.userId) :
    Keeps R (streamSteps env opened input steps context) := by
  induction steps generalizing context with
  | nil => exact keeps_pure _
  | cons step steps ih =>
    exact keeps_bind (hR.streamStep opened input context hcall step) fun _ => ih _ hcall

theorem StreamFrame.continueRun (hR : StreamFrame P R) (opened : OpenRun) (input : String)
    (hcall : CallsOf P opened.context.sessionId opened.context.userId) :
    Keeps R (WorkflowExecutionService.continueStream env opened input) := by
  refine keeps_bind (hR.toSessionFrame.yieldItem _) fun _ =>
    keeps_bind (keeps_handleError (keeps_map _ ?_) fun exc => ?_) fun context => ?_
  · rw [executeStream]
    split
    · exact keeps_raise _
    · exact hR.streamSteps opened input _ _ hcall
  · rw [WorkflowExecutionService.failStream]
    split
    · exact keeps_bind (hR.toFrame.writes (onlyWrites_workflow_markFailed _ _)) fun _ =>
        keeps_bind hR.toSessionFrame.commits fun _ =>
          keeps_bind (hR.toSessionFrame.yieldItem _) fun _ => keeps_pure _
    · exact keeps_raise _
  · split
    · exact keeps_pure _
    · exact keeps_bind (hR.toFrame.writes (onlyWrites_completeRun _ _)) fun _ =>
        keeps_bind hR.toSessionFrame.commits fun _ =>
        hR.toSessionFrame.yieldItem _

end Workflows

end StreamFrame

end AgnoRuntime
