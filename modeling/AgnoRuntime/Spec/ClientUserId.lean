import AgnoRuntime.Spec.Outcomes
import AgnoRuntime.Spec.RequestCalls

/-!
# The client's `user_id` under `keycloak_required`

A chat request is served for its effective user. The workflow service and the
execution plans use the `user_id` of the request as it came in, whatever the
authentication mode: two requests that differ in it are treated alike only where
the service gets neither of them as far as a session or the engine.
-/

namespace AgnoRuntime

open Svc Prog

/-- Two worlds made the same decisions on sessions and invoked the engine for the same users. -/
def SameTreatment (w w' : World) : Prop :=
  w.decisions = w'.decisions ∧
    w.engineCalls.map (·.args.userId) = w'.engineCalls.map (·.args.userId)

/-- The row of a session that is created for a workflow run. -/
def workflowSession (db : Db) (workflow : Workflow) (payload : WorkflowRunRequest)
    (userId : Option String) : ChatSession :=
  ⟨payload.sessionId.getD db.chatSessions.freshKey, workflow.agentOsId, workflow.teamId, none,
    userId, "Workflow: " ++ workflow.name, none⟩

/-- A service gets the session it asks for: a live one of the same user, or the new row. -/
def OpensSession (env : Env) (db : Db) (sessionId : Option Uuid) (row : ChatSession) : Prop :=
  match sessionId.bind (BaseRepository.get db.chatSessions) with
  | some existing => existing.userId = row.userId
  | none => ∃ table, db.chatSessions.insert? row = some table ∧
      env.refuses 0 (.insert .chatSessions) { db with chatSessions := table } = none

/-- A workflow run that is started for one of the two users gets a session. -/
def OpensWorkflowSession (env : Env) (db : Db) (workflowId : Uuid) (payload : WorkflowRunRequest)
    (userId userId' : Option String) : Prop :=
  ∃ workflow steps,
    WorkflowExecutionService.findWorkflow db workflowId = .ok (workflow, steps) ∧
    (OpensSession env db payload.sessionId (workflowSession db workflow payload userId) ∨
      OpensSession env db payload.sessionId (workflowSession db workflow payload userId'))

section Plans

open ExecutionEngineService

/-- The tables with the record of a plan run. -/
def withPlanRun (db : Db) (plan : ExecutionPlan) (sessionId : Uuid) : Db :=
  { db with
    executionPlanRuns := db.executionPlanRuns.insertFresh
      (fun id => ⟨id, sessionId, plan.originalMessage, plan.rationale, .running, none, none⟩)
      (fun id => Eq.refl id) }

/-- The tables with the record of a step of a plan run. -/
def withPlanStepRun (db : Db) (planRunId : Uuid) (step : PlanStep) (stepInput : String) : Db :=
  { db with
    executionPlanStepRuns := db.executionPlanStepRuns.insertFresh
      (fun id => ⟨id, planRunId, step.order, step.targetType.value, targetCodeOf step, .running, 0,
        stepInput, none, none⟩)
      (fun id => Eq.refl id) }

/-- A plan is accepted, its records are, and its first step is resolved. -/
def StartsPlan (env : Env) (db : Db) (payload : ExecutionPlanRunRequest) : Prop :=
  let plan := ExecutionPlans.planOf env.settings payload
  let planned := withPlanRun db plan (payload.sessionId.getD db.chatSessions.freshKey)
  ExecutionPlans.requireEnabled env.settings = .ok () ∧
    env.refuses 0 (.insert .executionPlanRuns) planned = none ∧
    ∃ step ∈ (ordered plan.steps).head?,
      env.refuses 1 (.insert .executionPlanStepRuns) (withPlanStepRun planned
        db.executionPlanRuns.freshKey step (stepInputOf step plan.originalMessage)) = none ∧
      ∃ dispatch, resolveStep env.hierarchyScan db.metadata step = .ok dispatch

end Plans

/-- When the `user_id` of the client does not matter. -/
def IgnoresUserId (env : Env) (store : Store) (userId userId' : Option String) : Request → Prop
  | .chat _ | .chatStream _ => True
  | .runWorkflow workflowId payload | .runWorkflowStream workflowId payload =>
    userId = userId' ∨ ¬OpensWorkflowSession env store.db workflowId payload userId userId'
  | .runExecutionPlan payload => userId = userId' ∨ ¬StartsPlan env store.db payload

variable {env : Env} {α : Type}

/-! ## Chat turns -/

/-- Under `keycloak_required` a chat request is resolved to one that does not depend on the client's
    `user_id`. -/
theorem resolveIdentity_withUserId (hmode : env.settings.authMode = .keycloakRequired)
    (payload : ChatRequest) (userId userId' : Option String) :
    ChatService.resolveIdentity env { payload with userId := userId } =
      ChatService.resolveIdentity env { payload with userId := userId' } := by
  simp only [ChatService.resolveIdentity, hmode]
  rw [resolveEffectiveUserId_keycloakRequired env.identity userId userId']

/-- Chat requests that differ in the client's `user_id` are served alike. -/
theorem served_chat_withUserId (hmode : env.settings.authMode = .keycloakRequired) (store : Store)
    (payload : ChatRequest) (userId userId' : Option String) :
    (Request.chat { payload with userId := userId }).served env store =
      (Request.chat { payload with userId := userId' }).served env store := by
  rw [Request.served, Request.served, Request.handle, Request.handle, ChatService.handleChat,
    ChatService.handleChat, resolveIdentity_withUserId hmode payload userId userId']

/-- So are streamed ones. -/
theorem served_chatStream_withUserId (hmode : env.settings.authMode = .keycloakRequired)
    (store : Store) (payload : ChatRequest) (userId userId' : Option String) :
    (Request.chatStream { payload with userId := userId }).served env store =
      (Request.chatStream { payload with userId := userId' }).served env store := by
  rw [Request.served, Request.served, Request.handle, Request.handle,
    ChatService.handleChatStream, ChatService.handleChatStream,
    resolveIdentity_withUserId hmode payload userId userId']

/-! ## Opening a session -/

section Sessions

variable {sessionId : Option Uuid} {agentOsId : Uuid} {teamId agentId : Option Uuid}
  {userId : Option String} {title : String} {w : World}

/-- A live session is continued by its user, and refused to every other. -/
theorem getOrCreateSession_of_found (hw : w.failed = false) {existing : ChatSession}
    (hfound : sessionId.bind (BaseRepository.get w.working.chatSessions) = some existing) :
    getOrCreateSession env sessionId agentOsId teamId agentId userId title w =
      if existing.userId = userId then
        (.ok existing, { w with decisions := w.decisions ++ [.continued existing.id] })
      else
        (.error (.notFound ("ChatSession " ++ UuidText.text existing.id ++
          " not found for this user_id")),
          { w with decisions := w.decisions ++ [.refused existing.id] }) := by
  obtain ⟨id, rfl, hget⟩ := Option.bind_eq_some_iff.mp hfound
  have hid : existing.id = id := (BaseRepository.mem_of_get hget).2.1
  simp only [getOrCreateSession]
  rw [bind_apply_ok (query_apply hw _)]
  simp only [hget, hid]
  by_cases hsame : existing.userId = userId
  · simp only [hsame, ne_eq, not_true_eq_false, if_true, if_false]
    rfl
  · simp only [hsame, ne_eq, not_false_eq_true, if_true, if_false]
    rfl

/-- Without a live session under the id, one is created. -/
theorem getOrCreateSession_of_absent (hw : w.failed = false)
    (hnone : sessionId.bind (BaseRepository.get w.working.chatSessions) = none) :
    getOrCreateSession env sessionId agentOsId teamId agentId userId title w =
      createSession env sessionId agentOsId teamId agentId userId title w := by
  cases sessionId with
  | none => rfl
  | some id =>
    rw [Option.bind_some] at hnone
    simp only [getOrCreateSession]
    rw [bind_apply_ok (query_apply hw _)]
    simp only [hnone]

/-- A session is created when its row is accepted. -/
theorem createSession_of_accepted (hw : w.failed = false) {row : ChatSession}
    (hrow : row = ⟨sessionId.getD w.working.chatSessions.freshKey, agentOsId, teamId, agentId,
      userId, title, none⟩) {table : KeyedTable ChatSession.id}
    (hinsert : w.working.chatSessions.insert? row = some table)
    (haccepted : env.refuses w.ticks (.insert .chatSessions)
      { w.working with chatSessions := table } = none) :
    createSession env sessionId agentOsId teamId agentId userId title w =
      (.ok row, { w.wrote (.insert .chatSessions) fun db => { db with chatSessions := table } with
        decisions := w.decisions ++ [.created row.id row.userId] }) := by
  rw [createSession, bind_apply_ok (read_apply w)]
  subst hrow
  simp only [hinsert]
  rw [bind_apply_ok (write_apply hw haccepted)]
  rfl

/-- Otherwise the flush raises. -/
theorem createSession_of_not_accepted (hw : w.failed = false) {row : ChatSession}
    (hrow : row = ⟨sessionId.getD w.working.chatSessions.freshKey, agentOsId, teamId, agentId,
      userId, title, none⟩)
    (h : ∀ table, w.working.chatSessions.insert? row = some table →
      env.refuses w.ticks (.insert .chatSessions) { w.working with chatSessions := table } ≠
        none) :
    ∃ exc w', createSession env sessionId agentOsId teamId agentId userId title w =
        (.error exc, w') ∧
      w'.decisions = w.decisions ∧ w'.engineCalls = w.engineCalls := by
  rw [createSession, bind_apply_ok (read_apply w)]
  subst hrow
  generalize (⟨_, _, _, _, _, _, _⟩ : ChatSession) = row at h
  cases hinsert : w.working.chatSessions.insert? row with
  | none =>
    simp only [violate, hw, Bool.false_eq_true, if_false]
    exact ⟨_, _, rfl, rfl, rfl⟩
  | some table =>
    obtain ⟨message, hmessage⟩ := Option.ne_none_iff_exists'.mp (h table hinsert)
    simp only
    rw [bind_apply_error (write_apply_refused hw hmessage)]
    exact ⟨_, _, rfl, rfl, rfl⟩

/-- What is decided where a service gets the session it asks for. -/
def openedDecision (db : Db) (sessionId : Option Uuid) (row : ChatSession) : SessionDecision :=
  match sessionId.bind (BaseRepository.get db.chatSessions) with
  | some existing => .continued existing.id
  | none => .created row.id row.userId

/-- What is decided where it does not. -/
def refusal (db : Db) (sessionId : Option Uuid) : List SessionDecision :=
  match sessionId.bind (BaseRepository.get db.chatSessions) with
  | some existing => [.refused existing.id]
  | none => []

/-- A service that gets the session it asks for notes that. -/
theorem getOrCreateSession_of_opens (hw : w.failed = false) (hticks : w.ticks = 0)
    {row : ChatSession} (hrow : row = ⟨sessionId.getD w.working.chatSessions.freshKey, agentOsId,
      teamId, agentId, userId, title, none⟩) (h : OpensSession env w.working sessionId row) :
    ∃ s w', getOrCreateSession env sessionId agentOsId teamId agentId userId title w =
        (.ok s, w') ∧
      w'.decisions = w.decisions ++ [openedDecision w.working sessionId row] := by
  cases hfound : sessionId.bind (BaseRepository.get w.working.chatSessions) with
  | some existing =>
    simp only [OpensSession, hfound] at h
    rw [getOrCreateSession_of_found hw hfound, if_pos (by rw [h, hrow]), openedDecision, hfound]
    exact ⟨_, _, rfl, rfl⟩
  | none =>
    simp only [OpensSession, hfound] at h
    obtain ⟨table, hinsert, haccepted⟩ := h
    rw [getOrCreateSession_of_absent hw hfound,
      createSession_of_accepted hw hrow hinsert (hticks ▸ haccepted), openedDecision, hfound]
    exact ⟨_, _, rfl, rfl⟩

/-- A service that does not get it raises, and what it has noted does not depend on the user. -/
theorem getOrCreateSession_of_not_opens (hw : w.failed = false) (hticks : w.ticks = 0)
    {row : ChatSession} (hrow : row = ⟨sessionId.getD w.working.chatSessions.freshKey, agentOsId,
      teamId, agentId, userId, title, none⟩) (h : ¬OpensSession env w.working sessionId row) :
    ∃ exc w', getOrCreateSession env sessionId agentOsId teamId agentId userId title w =
        (.error exc, w') ∧
      w'.decisions = w.decisions ++ refusal w.working sessionId ∧
      w'.engineCalls = w.engineCalls := by
  cases hfound : sessionId.bind (BaseRepository.get w.working.chatSessions) with
  | some existing =>
    simp only [OpensSession, hfound] at h
    rw [getOrCreateSession_of_found hw hfound, if_neg (by rw [hrow] at h; exact h), refusal, hfound]
    exact ⟨_, _, rfl, rfl, rfl⟩
  | none =>
    simp only [OpensSession, hfound, not_exists, not_and] at h
    obtain ⟨exc, w', hcreate, hdecisions, hcalls⟩ :=
      createSession_of_not_accepted hw hrow fun table hinsert => hticks ▸ h table hinsert
    rw [getOrCreateSession_of_absent hw hfound, hcreate, refusal, hfound]
    exact ⟨exc, w', rfl, by rw [hdecisions, List.append_nil], hcalls⟩

end Sessions

/-! ## Workflow runs -/

section Workflows

open WorkflowExecutionService

variable {store : Store} {workflowId : Uuid} (payload : WorkflowRunRequest)

/-- A request that opens a workflow run first: what it decides is decided there, and where that
    raises, the engine is not invoked. -/
def OpensFirst (env : Env) (store : Store) (workflowId : Uuid) (payload : WorkflowRunRequest)
    (request : Request) : Prop :=
  (request.served env store).decisions =
      (openRun env workflowId payload (World.start store)).2.decisions ∧
    ∀ exc w', openRun env workflowId payload (World.start store) = (.error exc, w') →
      (request.served env store).engineCalls = w'.engineCalls

/-- Nothing after the opening of a run decides on a session. -/
private theorem decidesNothing : StreamFrame (fun _ => True) (Same World.decisions) where
  onlyWrites _ _ h := h.decisions
  call _ _ _ := rfl
  tools _ _ _ _ _ := rfl
  raised _ _ := rfl
  commit _ := rfl
  rolledBack _ := rfl
  redis _ _ _ := rfl
  yielded _ _ := rfl

theorem opensFirst_runWorkflow (env : Env) (store : Store) (workflowId : Uuid) :
    OpensFirst env store workflowId payload (.runWorkflow workflowId payload) := by
  have hframe := decidesNothing
  rw [OpensFirst, Request.served, Request.handle, runWorkflow, map_bind]
  constructor
  · refine (hframe.toSessionFrame.getDb_from _ _).trans
      (rel_bind_from (R := Same World.decisions) (fun opened => ?_) _)
    exact keeps_map _ (keeps_bind
      (hframe.toSessionFrame.writes (onlyWrites_workflow_markRunning _)) fun _ =>
        keeps_bind (hframe.toFrame.executeRun opened _ fun _ _ => trivial) fun _ =>
          keeps_bind (hframe.toSessionFrame.writes (onlyWrites_completeRun _ _)) fun _ =>
            keeps_pure _)
  · intro exc w' h
    rw [getDb_apply_error (bind_apply_error h)]

theorem opensFirst_runWorkflowStream (env : Env) (store : Store) (workflowId : Uuid) :
    OpensFirst env store workflowId payload (.runWorkflowStream workflowId payload) := by
  have hframe := decidesNothing
  rw [OpensFirst, Request.served, Request.handle, runWorkflowStream,
    WorkflowExecutionService.beginStream]
  simp only [bind_assoc]
  constructor
  · refine (rel_bind_from (R := Same World.decisions) (fun _ => keeps_pure _) _).trans
      ((hframe.toSessionFrame.streamed_from _ _).trans
        (rel_bind_from (R := Same World.decisions) (fun opened => ?_) _))
    exact keeps_bind hframe.toSessionFrame.commits fun _ =>
      keeps_bind (hframe.toSessionFrame.writes (onlyWrites_workflow_markRunning _)) fun _ =>
        keeps_bind hframe.toSessionFrame.commits fun _ =>
          keeps_bind (keeps_pure _) fun _ =>
            hframe.continueRun _ _ fun _ _ => trivial
  · intro exc w' h
    rw [streamed, bind_assoc, bind_apply_ok (attempt_apply _ _), bind_apply_error h]
    rfl

/-- A run of a workflow that can be run starts with its session. -/
private theorem openRun_of_found (env : Env) {workflow : Workflow} {steps : List WorkflowStep}
    (hfind : findWorkflow store.db workflowId = .ok (workflow, steps)) :
    ∃ rest : ChatSession → Svc OpenRun, (∀ session, Keeps (Same World.decisions) (rest session)) ∧
      openRun env workflowId payload (World.start store) =
        (getOrCreateSession env payload.sessionId workflow.agentOsId workflow.teamId none
          payload.userId ("Workflow: " ++ workflow.name) >>= rest) (World.start store) := by
  refine ⟨fun session => do
    let runId ← WorkflowRunService.createRun env workflowId session.id payload.input payload.userId
    createMessage env session.id none .user payload.input
    return ⟨workflow, steps, ⟨runId, workflow.id, session.id, payload.userId, []⟩⟩,
    fun session => ?_, ?_⟩
  · have hframe := decidesNothing
    exact keeps_bind (hframe.toFrame.writes (onlyWrites_workflow_createRun _ _ _ _)) fun _ =>
      keeps_bind (hframe.toFrame.writes (onlyWrites_createMessage _ _ _ _)) fun _ => keeps_pure _
  · have hfetch : fetch (fun db => findWorkflow db workflowId) (World.start store) =
        (.ok (workflow, steps), World.start store) := by
      rw [fetch_apply rfl]
      exact congrArg (·, World.start store) hfind
    rw [openRun, bind_apply_ok hfetch]

/-- What a run that gets a session decides. -/
private theorem decisions_of_opens {workflow : Workflow} {steps : List WorkflowStep}
    (hfind : findWorkflow store.db workflowId = .ok (workflow, steps))
    (h : OpensSession env store.db payload.sessionId
      (workflowSession store.db workflow payload payload.userId)) :
    (openRun env workflowId payload (World.start store)).2.decisions =
      [openedDecision store.db payload.sessionId
        (workflowSession store.db workflow payload payload.userId)] := by
  obtain ⟨rest, hrest, hopen⟩ := openRun_of_found payload env hfind
  obtain ⟨s, w', hsession, hdecisions⟩ :=
    getOrCreateSession_of_opens (w := World.start store) rfl rfl rfl h
  have hsession' : getOrCreateSession env payload.sessionId workflow.agentOsId workflow.teamId none
      payload.userId ("Workflow: " ++ workflow.name) (World.start store) = (.ok s, w') := hsession
  rw [hopen, bind_apply_ok hsession']
  exact (hrest s w').trans hdecisions

/-- A run that gets no session ends there. -/
private theorem openRun_of_not_opens {workflow : Workflow} {steps : List WorkflowStep}
    (hfind : findWorkflow store.db workflowId = .ok (workflow, steps))
    (h : ¬OpensSession env store.db payload.sessionId
      (workflowSession store.db workflow payload payload.userId)) :
    ∃ exc w', openRun env workflowId payload (World.start store) = (.error exc, w') ∧
      w'.decisions = refusal store.db payload.sessionId ∧ w'.engineCalls = [] := by
  obtain ⟨rest, -, hopen⟩ := openRun_of_found payload env hfind
  obtain ⟨exc, w', hsession, hdecisions, hcalls⟩ :=
    getOrCreateSession_of_not_opens (w := World.start store) rfl rfl rfl h
  have hsession' : getOrCreateSession env payload.sessionId workflow.agentOsId workflow.teamId none
      payload.userId ("Workflow: " ++ workflow.name) (World.start store) = (.error exc, w') :=
    hsession
  exact ⟨exc, w', by rw [hopen, bind_apply_error hsession'], hdecisions, hcalls⟩

/-- A workflow that cannot be run is looked up, and nothing more. -/
private theorem openRun_of_not_found (env : Env) {exc : PyError}
    (hfind : findWorkflow store.db workflowId = .error exc) :
    openRun env workflowId payload (World.start store) = (.error exc, World.start store) := by
  have hfetch : fetch (fun db => findWorkflow db workflowId) (World.start store) =
      (.error exc, World.start store) := by
    rw [fetch_apply rfl]
    exact congrArg (·, World.start store) hfind
  rw [openRun, bind_apply_error hfetch]

/-- Two users who both get a session are noted differently, and so are one who gets it and one who
    does not. -/
private theorem decisions_ne {db : Db} {sessionId : Option Uuid} (row row' : ChatSession)
    (hne : row.userId ≠ row'.userId) (h : OpensSession env db sessionId row) :
    (OpensSession env db sessionId row' →
      [openedDecision db sessionId row] ≠ [openedDecision db sessionId row']) ∧
    [openedDecision db sessionId row] ≠ refusal db sessionId := by
  cases hfound : sessionId.bind (BaseRepository.get db.chatSessions) with
  | some existing =>
    simp only [OpensSession, hfound] at h
    simp only [OpensSession, openedDecision, refusal, hfound]
    constructor
    · intro h' _
      exact hne (h.symm.trans h')
    · intro hdecisions
      cases List.head_eq_of_cons_eq hdecisions
  | none =>
    simp only [openedDecision, refusal, hfound]
    constructor
    · intro _ hdecisions
      have hhead := List.head_eq_of_cons_eq hdecisions
      rw [SessionDecision.created.injEq] at hhead
      exact hne hhead.2
    · exact List.cons_ne_nil _ _

/-- Two requests that open a run of the same workflow for different users are treated alike exactly
    when neither gets a session. -/
private theorem sameTreatment_iff_of_opensFirst {userId userId' : Option String}
    (hne : userId ≠ userId') {request request' : Request}
    (h : OpensFirst env store workflowId { payload with userId := userId } request)
    (h' : OpensFirst env store workflowId { payload with userId := userId' } request') :
    SameTreatment (request.served env store) (request'.served env store) ↔
      ¬OpensWorkflowSession env store.db workflowId payload userId userId' := by
  cases hfind : findWorkflow store.db workflowId with
  -- without a runnable workflow no session is opened, whoever asks
  | error exc =>
    have hopen := openRun_of_not_found { payload with userId := userId } env hfind
    have hopen' := openRun_of_not_found { payload with userId := userId' } env hfind
    constructor
    · intro _ hopens
      obtain ⟨workflow, steps, hfound, -⟩ := hopens
      rw [hfind] at hfound
      cases hfound
    · intro _
      rw [SameTreatment, h.1, h'.1, hopen, hopen', h.2 _ _ hopen, h'.2 _ _ hopen']
      exact ⟨rfl, rfl⟩
  | ok found =>
    obtain ⟨workflow, steps⟩ := found
    have hopens : OpensWorkflowSession env store.db workflowId payload userId userId' ↔
        OpensSession env store.db payload.sessionId
          (workflowSession store.db workflow payload userId) ∨
        OpensSession env store.db payload.sessionId
          (workflowSession store.db workflow payload userId') := by
      constructor
      · intro hopens
        obtain ⟨workflow', steps', hfound, hopens⟩ := hopens
        rw [hfind, Except.ok.injEq, Prod.mk.injEq] at hfound
        rw [hfound.1]
        exact hopens
      · exact fun hopens => ⟨workflow, steps, hfind, hopens⟩
    -- Whether each user opens the session decides: both, one of them, or neither.
    rw [hopens, SameTreatment, h.1, h'.1]
    by_cases hfirst : OpensSession env store.db payload.sessionId
        (workflowSession store.db workflow payload userId)
    · refine iff_of_false (fun hsame => ?_) (fun hneither => hneither (.inl hfirst))
      have hd := decisions_of_opens { payload with userId := userId } hfind hfirst
      have hsame := hd.symm.trans hsame.1
      by_cases hsecond : OpensSession env store.db payload.sessionId
          (workflowSession store.db workflow payload userId')
      · have hd' := decisions_of_opens { payload with userId := userId' } hfind hsecond
        exact (decisions_ne _ (workflowSession store.db workflow payload userId') hne hfirst).1 hsecond
          (hsame.trans hd')
      · obtain ⟨exc, w', hopen', hd', -⟩ := openRun_of_not_opens
          { payload with userId := userId' } hfind hsecond
        rw [hopen'] at hsame
        exact (decisions_ne _ (workflowSession store.db workflow payload userId') hne hfirst).2
          (hsame.trans hd')
    · obtain ⟨exc, w, hopen, hd, hcalls⟩ := openRun_of_not_opens
          { payload with userId := userId } hfind hfirst
      by_cases hsecond : OpensSession env store.db payload.sessionId
          (workflowSession store.db workflow payload userId')
      · refine iff_of_false (fun hsame => ?_) (fun hneither => hneither (.inr hsecond))
        have hd' := decisions_of_opens { payload with userId := userId' } hfind hsecond
        rw [hopen] at hsame
        exact (decisions_ne _ (workflowSession store.db workflow payload userId) hne.symm hsecond).2
          (hd'.symm.trans (hsame.1.symm.trans hd))
      -- refused both: the same decision, and no call of the engine
      · refine iff_of_true ?_ fun heither => heither.elim hfirst hsecond
        obtain ⟨exc', w', hopen', hd', hcalls'⟩ := openRun_of_not_opens
          { payload with userId := userId' } hfind hsecond
        rw [h.2 _ _ hopen, h'.2 _ _ hopen', hopen, hopen', hcalls, hcalls']
        exact ⟨hd.trans hd'.symm, rfl⟩

end Workflows

/-! ## Execution plans -/

section Plans

open ExecutionEngineService

variable {store : Store} {payload : ExecutionPlanRunRequest}

/-- Every call of an execution plan is for the user of the request as it came in. -/
private theorem userId_of_planCall (call : EngineCall)
    (h : call ∈ ((Request.runExecutionPlan payload).served env store).engineCalls) :
    call.args.userId = payload.userId := by
  have hstream :=
    (entryFrame_callsSatisfy (P := fun call => call.args.userId = payload.userId)).toStreamFrame
  have hcalls : CallsSatisfy (fun call => call.args.userId = payload.userId) (World.start store)
      ((Request.runExecutionPlan payload).served env store) := by
    refine hstream.toSessionFrame.getDb_rel (keeps_map _ (keeps_bind (keeps_lift _) fun _ => ?_) _)
    exact keeps_bind keeps_read fun w => hstream.toFrame.runPlan _ _ _ fun _ _ => rfl
  obtain ⟨new, heq, hnew⟩ := hcalls
  rw [heq] at h
  exact hnew call h

/-- An execution plan decides on no session. -/
private theorem decisions_runExecutionPlan :
    ((Request.runExecutionPlan payload).served env store).decisions = [] := by
  have hframe := decidesNothing
  exact hframe.toSessionFrame.getDb_rel (keeps_map _ (keeps_bind (keeps_lift _) fun _ =>
    keeps_bind keeps_read fun w => hframe.toFrame.runPlan _ _ _ fun _ _ => trivial)
      (World.start store))

/-! ### Plans that do not reach the engine -/

/-- Neither the calls of the engine nor the metadata have changed. -/
private abbrev Idle : World → World → Prop := Same fun w => (w.engineCalls, w.working.metadata)

private theorem metadata_of_idle {w w' : World} (h : Idle w w') :
    w'.working.metadata = w.working.metadata :=
  congrArg Prod.snd h

/-- From `w` the program raises before it has reached the engine. -/
private def FailsIdle (x : Svc α) (w : World) : Prop :=
  (∃ exc, (x w).1 = .error exc) ∧ Idle w (x w).2

private theorem failsIdle_bind {β : Type} {x : Svc α} {f : α → Svc β} {w : World}
    (hx : Idle w (x w).2) (hf : ∀ a w', x w = (.ok a, w') → FailsIdle (f a) w') :
    FailsIdle (x >>= f) w := by
  rcases h : x w with ⟨exc | a, w'⟩
  · rw [FailsIdle, bind_apply_error h]
    rw [h] at hx
    exact ⟨⟨exc, rfl⟩, hx⟩
  · rw [FailsIdle, bind_apply_ok h]
    rw [h] at hx
    obtain ⟨hfails, hidle⟩ := hf a w' h
    exact ⟨hfails, IsTrans.trans _ _ _ hx hidle⟩

private theorem failsIdle_bind_of_fails {β : Type} {x : Svc α} {f : α → Svc β} {w : World}
    (hx : FailsIdle x w) : FailsIdle (x >>= f) w := by
  refine failsIdle_bind hx.2 fun a w' h => ?_
  obtain ⟨⟨exc, hexc⟩, -⟩ := hx
  rw [h] at hexc
  cases hexc

private theorem failsIdle_handleError {x : Svc α} {h : PyError → Svc α} {w : World}
    (hx : FailsIdle x w) (hh : ∀ exc w', Idle w w' → FailsIdle (h exc) w') :
    FailsIdle (x.handleError h) w := by
  obtain ⟨⟨exc, hexc⟩, hidle⟩ := hx
  rcases hxw : x w with ⟨exc' | a, w'⟩
  · rw [FailsIdle, handleError_apply_error hxw]
    rw [hxw] at hidle
    obtain ⟨hfails, hidle'⟩ := hh exc' w' hidle
    exact ⟨hfails, IsTrans.trans _ _ _ hidle hidle'⟩
  · rw [hxw] at hexc
    cases hexc

private theorem failsIdle_raise (exc : PyError) (w : World) :
    FailsIdle (raise exc : Svc α) w :=
  ⟨⟨exc, rfl⟩, rfl⟩

private theorem idle_write {s : Statement} {f : Db → Db} (hf : ∀ db, (f db).metadata = db.metadata)
    (w : World) : Idle w (write env s f w).2 := by
  refine rel_bind (Prod.ext rfl (hf w.working)) fun _ w' _ => ?_
  rw [send]
  split
  · rfl
  · split
    · rfl
    · rfl

/-- A write that is refused. -/
private theorem failsIdle_write {s : Statement} {f : Db → Db} {w : World}
    (hf : ∀ db, (f db).metadata = db.metadata) (hw : w.failed = false)
    (h : env.refuses w.ticks s (f w.working) ≠ none) : FailsIdle (write env s f) w := by
  obtain ⟨message, hmessage⟩ := Option.ne_none_iff_exists'.mp h
  refine ⟨⟨.other message, ?_⟩, idle_write hf w⟩
  rw [write_apply_refused hw hmessage]

private theorem idle_markRetrying (env : Env) (stepRunId : Uuid) :
    Keeps Idle (markRetrying env stepRunId) := by
  refine keeps_bind keeps_read fun w => ?_
  split
  · intro w'
    refine idle_write (fun db => ?_) w'
    rfl
  · exact keeps_pure ()

/-- A query that raises on these tables raises, also on a session that is out of order. -/
private theorem failsIdle_fetch {f : Db → Except PyError α} {w : World} {exc : PyError}
    (h : f w.working = .error exc) : FailsIdle (fetch f) w := by
  cases hw : w.failed with
  | false =>
    rw [FailsIdle, fetch_apply hw, h]
    exact ⟨⟨exc, rfl⟩, rfl⟩
  | true =>
    rw [FailsIdle, fetch, bind_apply_error (query_apply_failed hw f)]
    exact ⟨⟨_, rfl⟩, rfl⟩

/-- An attempt at a step that is not resolved. -/
private theorem failsIdle_attempt {context : PlanContext} {step : PlanStep} {stepInput : String}
    {stepRunId : Uuid} {exc : PyError} {w : World}
    (hresolve : resolveStep env.hierarchyScan w.working.metadata step = .error exc) :
    FailsIdle (attempt env context step stepInput stepRunId) w := by
  refine failsIdle_bind rfl fun _ w₁ htouch => ?_
  have htouched : Idle w w₁ := by
    rw [← show _ = w₁ from congrArg Prod.snd htouch]
    rfl
  refine failsIdle_bind (idle_markRetrying env stepRunId w₁) fun _ w₂ hretrying => ?_
  have hmarked := idle_markRetrying env stepRunId w₁
  rw [hretrying] at hmarked
  have hmetadata := metadata_of_idle (IsTrans.trans _ _ _ htouched hmarked)
  exact failsIdle_bind_of_fails (failsIdle_fetch (by rw [hmetadata]; exact hresolve))

/-- All attempts at a step that is not resolved. -/
private theorem failsIdle_retry {context : PlanContext} {step : PlanStep} {stepInput : String}
    {stepRunId : Uuid} {exc : PyError} {w : World} (left : Nat)
    (hresolve : resolveStep env.hierarchyScan w.working.metadata step = .error exc) :
    FailsIdle (retry (attempt env context step stepInput stepRunId) left) w := by
  induction left generalizing w with
  | zero => exact failsIdle_attempt hresolve
  | succ left ih =>
    refine failsIdle_handleError (failsIdle_attempt hresolve) fun exc' w' hidle => ?_
    split
    · exact ih (by rw [metadata_of_idle hidle]; exact hresolve)
    · exact failsIdle_raise exc' w'

/-- The record of a step is created. -/
theorem createStepRun_apply {planRunId : Uuid} {step : PlanStep} {stepInput : String} {w : World}
    (hw : w.failed = false) (h : env.refuses w.ticks (.insert .executionPlanStepRuns)
      (withPlanStepRun w.working planRunId step stepInput) = none) :
    createStepRun env planRunId step stepInput w =
      (.ok w.working.executionPlanStepRuns.freshKey,
        w.wrote (.insert .executionPlanStepRuns)
          fun db => withPlanStepRun db planRunId step stepInput) := by
  rw [createStepRun, bind_apply_ok (read_apply w), bind_apply_ok (write_apply hw h)]
  rfl

/-- The record of a plan run is created. -/
theorem createPlanRun_apply {plan : ExecutionPlan} {sessionId : Uuid} {w : World}
    (hw : w.failed = false) (h : env.refuses w.ticks (.insert .executionPlanRuns)
      (withPlanRun w.working plan sessionId) = none) :
    createPlanRun env plan sessionId w =
      (.ok w.working.executionPlanRuns.freshKey,
        w.wrote (.insert .executionPlanRuns) fun db => withPlanRun db plan sessionId) := by
  rw [createPlanRun, bind_apply_ok (read_apply w), bind_apply_ok (write_apply hw h)]
  rfl

/-- A step whose record is refused, or that is not resolved. -/
private theorem failsIdle_executeStep {context : PlanContext} {current : String} {step : PlanStep}
    {w : World} (hw : w.failed = false)
    (h : env.refuses w.ticks (.insert .executionPlanStepRuns)
        (withPlanStepRun w.working context.planRunId step (stepInputOf step current)) = none →
      ∀ dispatch, resolveStep env.hierarchyScan w.working.metadata step ≠ .ok dispatch) :
    FailsIdle (ExecutionEngineService.executeStep env context current step) w := by
  by_cases hrefused : env.refuses w.ticks (.insert .executionPlanStepRuns)
      (withPlanStepRun w.working context.planRunId step (stepInputOf step current)) = none
  -- The record of the step is inserted.
  · cases hresolve : resolveStep env.hierarchyScan w.working.metadata step with
    | ok dispatch => exact absurd hresolve (h hrefused dispatch)
    | error exc =>
      have hcreate := createStepRun_apply hw hrefused
      -- The step fails before it gets to the engine, on every attempt.
      refine failsIdle_bind (by rw [hcreate]; rfl) fun stepRunId w' hcreated => ?_
      rw [hcreate, Prod.mk.injEq] at hcreated
      obtain ⟨-, rfl⟩ := hcreated
      refine failsIdle_bind_of_fails (failsIdle_handleError (failsIdle_retry _ hresolve)
        fun exc' w'' _ => ?_)
      -- The failure is recorded, or retried.
      rw [failStep]
      split
      · exact failsIdle_bind (idle_write (fun db => by rfl) w'') fun _ w₁ _ =>
          failsIdle_bind (idle_write (fun db => by rfl) w₁) fun _ w₂ _ => failsIdle_raise _ w₂
      · exact failsIdle_raise exc' w''
  -- The record is refused.
  · refine failsIdle_bind_of_fails (failsIdle_bind rfl fun w₁ w₂ hread => ?_)
    rw [read_apply, Prod.mk.injEq] at hread
    obtain ⟨-, rfl⟩ := hread
    exact failsIdle_bind_of_fails (failsIdle_write (fun db => by rfl) hw hrefused)

/-- A plan has a first step. -/
theorem ordered_planOf (settings : Settings) (payload : ExecutionPlanRunRequest) :
    ∃ step steps, ordered (ExecutionPlans.planOf settings payload).steps = step :: steps := by
  have hsteps : (ExecutionPlans.planOf settings payload).steps ≠ [] := by
    rw [ExecutionPlans.planOf, PlanningEngineService.buildPlan]
    split
    · exact List.cons_ne_nil _ _
    · next hexplicit =>
      rw [Bool.not_eq_true, Bool.or_eq_false_iff, List.isEmpty_eq_false_iff] at hexplicit
      intro hnil
      exact hexplicit.2 (List.mapIdx_eq_nil_iff.mp hnil)
  refine List.exists_cons_of_ne_nil fun hnil => hsteps ?_
  have hlength := List.length_insertionSort (fun s s' : PlanStep => s.order ≤ s'.order)
    (ExecutionPlans.planOf settings payload).steps
  rw [← List.length_eq_zero_iff, ← hlength]
  exact List.length_eq_zero_iff.mpr hnil

/-- An accepted request executes the first step of its plan, and then the others. -/
private theorem runExecutionPlan_apply (payload : ExecutionPlanRunRequest)
    (henabled : ExecutionPlans.requireEnabled env.settings = .ok ()) {step : PlanStep}
    {steps : List PlanStep}
    (hsteps : ordered (ExecutionPlans.planOf env.settings payload).steps = step :: steps) :
    ∃ rest : Uuid → String → Svc PlanResult,
      (∀ id output, Keeps (CallsSatisfy fun _ => True) (rest id output)) ∧
      ExecutionPlans.runExecutionPlan env payload (World.start store) =
        (createPlanRun env (ExecutionPlans.planOf env.settings payload)
          (payload.sessionId.getD store.db.chatSessions.freshKey) >>= fun planRunId =>
            ExecutionEngineService.executeStep env
              ⟨planRunId, payload.sessionId.getD store.db.chatSessions.freshKey, payload.userId⟩
              (ExecutionPlans.planOf env.settings payload).originalMessage step >>=
                rest planRunId) (World.start store) := by
  -- The flags are on, and the plan has a step.
  have hflags : (env.settings.featurePlanningEngine && env.settings.featureExecutionEngine) =
      true := by
    rw [ExecutionPlans.requireEnabled] at henabled
    split at henabled
    · assumption
    · cases henabled
  have hexecution : env.settings.featureExecutionEngine = true :=
    (Bool.and_eq_true_iff.mp hflags).2
  have hempty : (ExecutionPlans.planOf env.settings payload).steps.isEmpty = false := by
    rw [List.isEmpty_eq_false_iff]
    intro hnil
    rw [hnil] at hsteps
    cases hsteps
  -- What follows the first step: the other ones, and the end of the plan.
  refine ⟨fun planRunId output => executeSteps env
      ⟨planRunId, payload.sessionId.getD store.db.chatSessions.freshKey, payload.userId⟩ steps
        output >>= fun result => do
    updatePlanRun env planRunId .completed (fun r => { r with result := some result })
      (fun _ => rfl)
    return ⟨planRunId, ExecutionPlanRunStatus.completed.value, result⟩, fun id output => ?_, ?_⟩
  -- It makes no call without noting it.
  · have hframe := (entryFrame_callsSatisfy (P := fun _ => True)).toStreamFrame
    exact keeps_bind (hframe.toFrame.executePlanSteps _ _ _ fun _ _ => trivial) fun _ =>
      keeps_bind (hframe.toFrame.writes (onlyWrites_updatePlanRun _ _ _ _)) fun _ => keeps_pure _
  -- Up to the first step nothing is written but the plan.
  · have hlift : (lift (ExecutionPlans.requireEnabled env.settings) : Svc Unit)
        (World.start store) = (.ok (), World.start store) := by
      rw [lift_apply, henabled]
    rw [ExecutionPlans.runExecutionPlan, bind_apply_ok hlift, bind_apply_ok (read_apply _), runPlan,
      if_neg (by rw [hexecution]; decide), if_neg (by rw [hempty]; decide), hsteps]
    simp only [executeSteps, bind_assoc]
    rfl

/-! ### Plans that reach the engine -/

/-- Calls are only added. -/
private theorem invoked_of_grows {w w' : World} (h : CallsSatisfy (fun _ => True) w w')
    (hw : w.engineCalls ≠ []) : w'.engineCalls ≠ [] := by
  obtain ⟨new, heq, -⟩ := h
  rw [heq]
  exact List.append_ne_nil_of_left_ne_nil hw new

/-- The record of a step counts its attempts. -/
theorem attemptCount_touched {db : Db} {stepRunId : Uuid} {record : ExecutionPlanStepRun}
    (hfind : db.executionPlanStepRuns.find? stepRunId = some record)
    (f : ExecutionPlanStepRun → ExecutionPlanStepRun) (hf : ∀ s, (f s).id = s.id) :
    attemptCount { db with
      executionPlanStepRuns := db.executionPlanStepRuns.update stepRunId f hf } stepRunId =
        (f record).attemptCount := by
  rw [attemptCount, KeyedTable.find?_update, if_pos rfl, hfind]
  rfl

/-- The first attempt at a step that is resolved reaches the engine. -/
private theorem invoked_attempt {context : PlanContext} {step : PlanStep} {stepInput : String}
    {stepRunId : Uuid} {record : ExecutionPlanStepRun} {dispatch : Dispatch} {w : World}
    (hw : w.failed = false)
    (hfind : w.working.executionPlanStepRuns.find? stepRunId = some record)
    (hfirst : record.attemptCount = 0)
    (hresolve : resolveStep env.hierarchyScan w.working.metadata step = .ok dispatch) :
    (attempt env context step stepInput stepRunId w).2.engineCalls ≠ [] := by
  have hframe := (entryFrame_callsSatisfy (P := fun _ => True)).toStreamFrame
  rw [ExecutionEngineService.attempt, touchStepRun, bind_apply_ok (touch_apply _ w)]
  -- The attempt is counted, and it is the first one.
  generalize htouched : w.touched _ = w₁
  have hmark : markRetrying env stepRunId w₁ = (.ok (), w₁) := by
    have hcount : attemptCount w₁.working stepRunId = 1 := by
      rw [← htouched, World.touched_working, attemptCount_touched hfind, hfirst]
    rw [markRetrying, bind_apply_ok (read_apply w₁), if_neg (by rw [hcount]; decide), pure_apply]
  -- The step is resolved as it was before.
  have hfetch : fetch (fun db => resolveStep env.hierarchyScan db.metadata step) w₁ =
      (.ok dispatch, w₁) := by
    have hmetadata : w₁.working.metadata = w.working.metadata := by
      rw [← htouched, World.touched_working]
    rw [fetch_apply (by rw [← htouched]; exact hw), hmetadata, hresolve]
  rw [bind_apply_ok hmark, bind_apply_ok hfetch, Svc.run, bind_apply_ok (read_apply w₁), noteCall,
    bind_assoc, bind_apply_ok (read_apply w₁), bind_assoc, bind_apply_ok (modify_apply _ w₁)]
  -- The call is noted, and nothing takes it back.
  have htools (args : RunArgs) (writes : ToolWrites args) :
      Keeps (CallsSatisfy fun _ => True) (useTools writes) :=
    keeps_modify fun w' => hframe.toFrame.tools w' dispatch args writes trivial
  refine invoked_of_grows ((keeps_bind (keeps_pure _) fun _ => keeps_bind (htools _ _) fun _ =>
    hframe.toFrame.engineOutcome _) _) ?_
  exact List.append_ne_nil_of_right_ne_nil _ (List.cons_ne_nil _ _)

/-- A step whose record is accepted and that is resolved reaches the engine. -/
private theorem invoked_executeStep {context : PlanContext} {current : String} {step : PlanStep}
    {dispatch : Dispatch} {w : World} (hw : w.failed = false)
    (haccepted : env.refuses w.ticks (.insert .executionPlanStepRuns)
      (withPlanStepRun w.working context.planRunId step (stepInputOf step current)) = none)
    (hresolve : resolveStep env.hierarchyScan w.working.metadata step = .ok dispatch) :
    (ExecutionEngineService.executeStep env context current step w).2.engineCalls ≠ [] := by
  have hframe := (entryFrame_callsSatisfy (P := fun _ => True)).toStreamFrame
  rw [ExecutionEngineService.executeStep, bind_apply_ok (createStepRun_apply hw haccepted)]
  -- what follows the first attempt only adds calls
  refine invoked_of_grows (rel_bind_from (fun output =>
    keeps_bind (hframe.toFrame.writes (onlyWrites_updateStepRun _ _ _ _)) fun _ => keeps_pure _) _) ?_
  refine invoked_of_grows
    (rel_handleError_from (hframe.toFrame.failPlanStep context step _) _) ?_
  generalize hcreated : w.wrote _ _ = w₁
  have hfirst : (attempt env context step (stepInputOf step current)
      w.working.executionPlanStepRuns.freshKey w₁).2.engineCalls ≠ [] := by
    subst hcreated
    have hfind : (withPlanStepRun w.working context.planRunId step
        (stepInputOf step current)).executionPlanStepRuns.find?
          w.working.executionPlanStepRuns.freshKey =
        some ⟨w.working.executionPlanStepRuns.freshKey, context.planRunId, step.order,
          step.targetType.value, targetCodeOf step, .running, 0, stepInputOf step current, none,
          none⟩ :=
      KeyedTable.find?_insertFresh _ _ _
    exact invoked_attempt hw hfind rfl hresolve
  rw [executeStepWithRetry]
  cases retriesOf step with
  | zero => exact hfirst
  | succ left =>
    refine invoked_of_grows (rel_handleError_from (fun exc => ?_) _) hfirst
    split
    · exact keeps_retry (hframe.toFrame.attempt context step _ _ fun _ _ => trivial) _
    · exact keeps_raise _

/-- What invokes the engine in a plan request is the plan. -/
private theorem engineCalls_served_plan (env : Env) (store : Store)
    (payload : ExecutionPlanRunRequest) :
    ((Request.runExecutionPlan payload).served env store).engineCalls =
      (ExecutionPlans.runExecutionPlan env payload (World.start store)).2.engineCalls := by
  have hframe : SessionFrame (Same World.engineCalls) :=
    ⟨fun _ _ h => h.engineCalls, fun _ => rfl, fun _ => rfl, fun _ _ _ => rfl, fun _ _ => rfl⟩
  refine (hframe.getDb_from _ _).trans ?_
  rw [map_eq_pure_bind]
  exact rel_bind_from (R := Same World.engineCalls) (fun _ => keeps_pure _) _

/-- A plan starts with its first step. -/
private theorem startsPlan_iff {db : Db} {step : PlanStep} {steps : List PlanStep}
    (hsteps : ordered (ExecutionPlans.planOf env.settings payload).steps = step :: steps) :
    StartsPlan env db payload ↔
      ExecutionPlans.requireEnabled env.settings = .ok () ∧
      env.refuses 0 (.insert .executionPlanRuns) (withPlanRun db
        (ExecutionPlans.planOf env.settings payload)
          (payload.sessionId.getD db.chatSessions.freshKey)) = none ∧
      env.refuses 1 (.insert .executionPlanStepRuns) (withPlanStepRun
        (withPlanRun db (ExecutionPlans.planOf env.settings payload)
          (payload.sessionId.getD db.chatSessions.freshKey)) db.executionPlanRuns.freshKey step
            (stepInputOf step (ExecutionPlans.planOf env.settings payload).originalMessage)) =
        none ∧
      ∃ dispatch, resolveStep env.hierarchyScan db.metadata step = .ok dispatch := by
  simp only [StartsPlan, hsteps, List.head?_cons, Option.mem_def, Option.some.injEq,
    exists_eq_left']

/-- An execution plan invokes the engine exactly when it starts. -/
theorem engineCalls_ne_nil_iff (env : Env) (store : Store) (payload : ExecutionPlanRunRequest) :
    ((Request.runExecutionPlan payload).served env store).engineCalls ≠ [] ↔
      StartsPlan env store.db payload := by
  obtain ⟨step, steps, hsteps⟩ := ordered_planOf env.settings payload
  rw [engineCalls_served_plan, startsPlan_iff hsteps]
  -- the three things before the first call of the engine, in the order they are done:
  -- the feature flag, the row of the plan run, the record and the target of the first step
  cases henabled : ExecutionPlans.requireEnabled env.settings with
  | error exc =>
    have hdisabled : (lift (ExecutionPlans.requireEnabled env.settings) : Svc Unit)
        (World.start store) = (.error exc, World.start store) := by
      rw [lift_apply, henabled]
    rw [ExecutionPlans.runExecutionPlan, bind_apply_error hdisabled]
    exact iff_of_false (fun hcalls => hcalls rfl) fun h => by cases h.1
  | ok _ =>
    obtain ⟨rest, hrest, hrun⟩ := runExecutionPlan_apply payload henabled hsteps
    rw [hrun]
    by_cases hplan : env.refuses 0 (.insert .executionPlanRuns) (withPlanRun store.db
        (ExecutionPlans.planOf env.settings payload)
        (payload.sessionId.getD store.db.chatSessions.freshKey)) = none
    · have hcreate := createPlanRun_apply (w := World.start store) rfl hplan
      rw [bind_apply_ok hcreate]
      by_cases hstep : env.refuses 1 (.insert .executionPlanStepRuns) (withPlanStepRun
          (withPlanRun store.db (ExecutionPlans.planOf env.settings payload)
            (payload.sessionId.getD store.db.chatSessions.freshKey))
          store.db.executionPlanRuns.freshKey step (stepInputOf step
            (ExecutionPlans.planOf env.settings payload).originalMessage)) = none ∧
          ∃ dispatch, resolveStep env.hierarchyScan store.db.metadata step = .ok dispatch
      · obtain ⟨haccepted, dispatch, hresolve⟩ := hstep
        exact iff_of_true (invoked_of_grows (rel_bind_from (hrest _) _)
          (invoked_executeStep rfl haccepted hresolve)) ⟨rfl, hplan, haccepted, dispatch, hresolve⟩
      · refine iff_of_false (fun hcalls => hcalls ?_) fun h => hstep h.2.2
        have hfails : FailsIdle (ExecutionEngineService.executeStep env
            ⟨store.db.executionPlanRuns.freshKey,
              payload.sessionId.getD store.db.chatSessions.freshKey, payload.userId⟩
            (ExecutionPlans.planOf env.settings payload).originalMessage step)
            ((World.start store).wrote (.insert .executionPlanRuns) fun db => withPlanRun db
              (ExecutionPlans.planOf env.settings payload)
              (payload.sessionId.getD store.db.chatSessions.freshKey)) :=
          failsIdle_executeStep rfl fun haccepted dispatch hresolve =>
            hstep ⟨haccepted, dispatch, hresolve⟩
        exact congrArg Prod.fst (failsIdle_bind_of_fails hfails).2
    · refine iff_of_false (fun hcalls => hcalls ?_) fun h => hplan h.2.1
      have hfails : FailsIdle (createPlanRun env (ExecutionPlans.planOf env.settings payload)
          (payload.sessionId.getD store.db.chatSessions.freshKey)) (World.start store) := by
        rw [createPlanRun, FailsIdle, bind_apply_ok (read_apply _)]
        exact failsIdle_bind_of_fails (failsIdle_write (fun db => by rfl) rfl hplan)
      exact congrArg Prod.fst (failsIdle_bind_of_fails hfails).2

/-- Two plan requests that differ in the client's `user_id` are treated alike exactly when it is the
    same or neither plan starts. -/
private theorem sameTreatment_plan_iff (userId userId' : Option String) :
    SameTreatment
        ((Request.runExecutionPlan { payload with userId := userId }).served env store)
        ((Request.runExecutionPlan { payload with userId := userId' }).served env store) ↔
      userId = userId' ∨ ¬StartsPlan env store.db payload := by
  have hcalls := engineCalls_ne_nil_iff env store { payload with userId := userId }
  have hcalls' := engineCalls_ne_nil_iff env store { payload with userId := userId' }
  constructor
  · intro hsame
    by_cases hstarts : StartsPlan env store.db payload
    · -- both invoke the engine, each for its own user
      left
      obtain ⟨call, calls, hcons⟩ := List.exists_cons_of_ne_nil (hcalls.mpr hstarts)
      obtain ⟨call', calls', hcons'⟩ := List.exists_cons_of_ne_nil (hcalls'.mpr hstarts)
      have huser := userId_of_planCall call (by rw [hcons]; exact List.mem_cons_self)
      have huser' := userId_of_planCall call' (by rw [hcons']; exact List.mem_cons_self)
      have hmap := hsame.2
      rw [hcons, hcons', List.map_cons, List.map_cons] at hmap
      exact huser.symm.trans ((List.head_eq_of_cons_eq hmap).trans huser')
    · exact .inr hstarts
  · intro h
    rcases h with rfl | hstarts
    · exact ⟨rfl, rfl⟩
    · have hnone := not_ne_iff.mp (mt hcalls.mp hstarts)
      have hnone' := not_ne_iff.mp (mt hcalls'.mp hstarts)
      exact ⟨decisions_runExecutionPlan.trans decisions_runExecutionPlan.symm, by rw [hnone, hnone']⟩

end Plans

/-- Under `keycloak_required`, two requests that differ in the client's `user_id` are treated alike
    exactly when the request ignores it. -/
theorem sameTreatment_iff_ignoresUserId (env : Env)
    (hmode : env.settings.authMode = .keycloakRequired) (store : Store) (request : Request)
    (userId userId' : Option String) :
    SameTreatment ((request.withUserId userId).served env store)
        ((request.withUserId userId').served env store) ↔
      IgnoresUserId env store userId userId' request := by
  cases request with
  | chat payload =>
    -- The identity is the token's, whatever `user_id` says.
    refine iff_of_true ?_ trivial
    rw [Request.withUserId, Request.withUserId,
      served_chat_withUserId hmode store payload userId userId']
    exact ⟨rfl, rfl⟩
  | chatStream payload =>
    refine iff_of_true ?_ trivial
    rw [Request.withUserId, Request.withUserId,
      served_chatStream_withUserId hmode store payload userId userId']
    exact ⟨rfl, rfl⟩
  | runWorkflow workflowId payload =>
    -- The workflow endpoints take `user_id` as it is sent.
    by_cases hsame : userId = userId'
    · subst hsame
      exact iff_of_true ⟨rfl, rfl⟩ (.inl rfl)
    · exact (sameTreatment_iff_of_opensFirst payload hsame (opensFirst_runWorkflow _ env store _)
        (opensFirst_runWorkflow _ env store _)).trans (or_iff_right hsame).symm
  | runWorkflowStream workflowId payload =>
    by_cases hsame : userId = userId'
    · subst hsame
      exact iff_of_true ⟨rfl, rfl⟩ (.inl rfl)
    · exact (sameTreatment_iff_of_opensFirst payload hsame
        (opensFirst_runWorkflowStream _ env store _)
          (opensFirst_runWorkflowStream _ env store _)).trans (or_iff_right hsame).symm
  | runExecutionPlan payload => exact sameTreatment_plan_iff userId userId'

section Examples

open Deployment

/-- The theorem at a chat request of nobody who is verified. -/
theorem sameTreatment_iff_ignoresUserId_example :
    SameTreatment
      ((Request.chat (hello (some "sales") (some "alice"))).served
        (Deployment.env .keycloakRequired none (answering "Hi")) store)
      ((Request.chat (hello (some "sales") (some "bob"))).served
        (Deployment.env .keycloakRequired none (answering "Hi")) store) :=
  (sameTreatment_iff_ignoresUserId (Deployment.env .keycloakRequired none (answering "Hi")) rfl
    store (.chat (hello (some "sales") none)) (some "alice") (some "bob")).mpr trivial

/-- Without a verified identity, an execution plan is run for whomever the client names. -/
theorem plan_run_for_named_user :
    ¬SameTreatment
      ((Request.runExecutionPlan ⟨"enterprise", "Hello", [⟨some "sales", none, none, 0⟩], none,
        some "alice"⟩).served (Deployment.env .keycloakRequired none (answering "Hi")) store)
      ((Request.runExecutionPlan ⟨"enterprise", "Hello", [⟨some "sales", none, none, 0⟩], none,
        some "bob"⟩).served (Deployment.env .keycloakRequired none (answering "Hi")) store) := by
  intro h
  exact absurd h.2 (by decide +kernel)

end Examples

end AgnoRuntime
