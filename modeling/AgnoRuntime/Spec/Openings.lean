import AgnoRuntime.Spec.Outcomes

/-!
# How turns and runs are opened

A turn of a chat and a run of a workflow are opened alike: the session is found or created, the run
is inserted with its first event, and the message of the user is stored. The lemmas here say which
programs have been run, and where they led, if the opening succeeds, and for whom the session is
that was opened.

## Key results

- `openTurn_eq_ok`, `openRun_eq_ok`: the parts of an opening that succeeds
- `createRun_eq_ok`, `workflow_createRun_eq_ok`: the two statements that create a run
- `openTurn_owner`, `openRun_owner`: whose session is opened
-/

namespace AgnoRuntime

open Svc Prog

variable {env : Env} {w w' : World}

/-- The tables with the row of an agent's run added. -/
def Db.withNewRun (db : Db) (sessionId agentId : Uuid) (inputText : String) : Db :=
  { db with
    agentRuns := db.agentRuns.insertFresh
      (fun id => ⟨id, sessionId, agentId, .pending, inputText, none, none⟩)
      (fun id => Eq.refl id) }

/-- A run is created under an id that is new, and then its first event. -/
theorem createRun_eq_ok {sessionId agentId runId : Uuid} {inputText : String}
    (h : RunTrackingService.createRun env sessionId agentId inputText w = (.ok runId, w')) :
    runId = w.working.agentRuns.freshKey ∧ w.failed = false ∧
      w' = (w.wrote (.insert .agentRuns) (·.withNewRun sessionId agentId inputText)).wrote
        (.insert .agentEvents) (·.withAgentEvent ⟨runId, .agentStarted, .input inputText⟩) := by
  rw [RunTrackingService.createRun, bind_apply_ok (read_apply w)] at h
  obtain ⟨_, w₁, hinsert, h⟩ := bind_eq_ok.mp h
  obtain ⟨_, w₂, hemit, h⟩ := bind_eq_ok.mp h
  rw [pure_apply, Prod.mk.injEq, Except.ok.injEq] at h
  obtain ⟨rfl, rfl⟩ := h
  obtain ⟨hworks, rfl⟩ := write_eq_ok hinsert
  obtain ⟨-, rfl⟩ := write_eq_ok hemit
  exact ⟨rfl, hworks, rfl⟩

/-- The same of the run of a workflow. -/
theorem workflow_createRun_eq_ok {workflowId sessionId runId : Uuid} {inputText : String}
    {createdBy : Option String}
    (h : WorkflowRunService.createRun env workflowId sessionId inputText createdBy w =
      (.ok runId, w')) :
    runId = w.working.workflowRuns.freshKey ∧ w.failed = false ∧
      w' = (w.wrote (.insert .workflowRuns)
          (·.withNewWorkflowRun workflowId sessionId inputText createdBy)).wrote
        (.insert .workflowEvents)
        (·.withWorkflowEvent ⟨runId, .workflowStarted, .input inputText⟩) := by
  rw [WorkflowRunService.createRun, bind_apply_ok (read_apply w)] at h
  obtain ⟨_, w₁, hinsert, h⟩ := bind_eq_ok.mp h
  obtain ⟨_, w₂, hemit, h⟩ := bind_eq_ok.mp h
  rw [pure_apply, Prod.mk.injEq, Except.ok.injEq] at h
  obtain ⟨rfl, rfl⟩ := h
  obtain ⟨hworks, rfl⟩ := write_eq_ok hinsert
  obtain ⟨-, rfl⟩ := write_eq_ok hemit
  exact ⟨rfl, hworks, rfl⟩

/-- The dispatch of a turn is resolved in the tables that it is opened in. -/
theorem resolveDispatch_eq_ok {request : ChatRequest} {dispatch : Dispatch}
    (h : ChatService.resolveDispatch env request w = (.ok dispatch, w')) :
    AgnoRuntimeEngine.resolveDispatchContext env.hierarchyScan w.working.metadata request.agentOs
      request.team = .ok dispatch ∧ w' = w := by
  obtain ⟨-, hresolved, hstate⟩ := fetch_eq_ok h
  exact ⟨hresolved, hstate⟩

/-- A turn that is opened has passed the quota check, and has a session, a run and a message. -/
theorem openTurn_eq_ok {request : ChatRequest} {groups : List String} {dispatch : Dispatch}
    {turn : ChatService.ChatTurn}
    (h : ChatService.openTurn env request groups dispatch w = (.ok turn, w')) :
    ∃ (agentOs : AgentOS) (team : Team) (agent : Agent) (session : ChatSession) (runId : Uuid)
        (w₁ w₂ w₃ : World),
      turn = ⟨request, groups, dispatch, agentOs, team, agent, session.id, runId⟩ ∧
      QuotaService.requireWithinQuota env
        ⟨request.userId, groups, agent.modelId.or agentOs.defaultModelId⟩ w = (.ok (), w₁) ∧
      getOrCreateSession env request.sessionId agentOs.id (some team.id) (some agent.id)
        request.userId (ChatService.titleOf request.message) w₁ = (.ok session, w₂) ∧
      RunTrackingService.createRun env session.id agent.id request.message w₂ = (.ok runId, w₃) ∧
      w₃.failed = false ∧ w' = w₃.wrote (.insert .chatMessages)
        (·.withMessage ⟨session.id, some runId, .user, request.message⟩) := by
  obtain ⟨⟨agentOs, team, agent⟩, w₀, hrep, h⟩ := bind_eq_ok.mp h
  dsimp only at h
  obtain ⟨_, w₁, hquota, h⟩ := bind_eq_ok.mp h
  obtain ⟨session, w₂, hsession, h⟩ := bind_eq_ok.mp h
  obtain ⟨runId, w₃, hrun, h⟩ := bind_eq_ok.mp h
  obtain ⟨_, w₄, hmessage, h⟩ := bind_eq_ok.mp h
  rw [pure_apply, Prod.mk.injEq, Except.ok.injEq] at h
  obtain ⟨rfl, rfl⟩ := h
  -- the representative of the dispatch is computed without touching the session
  rw [lift_apply, Prod.mk.injEq] at hrep
  obtain ⟨-, rfl⟩ := hrep
  obtain ⟨hworks, rfl⟩ := write_eq_ok hmessage
  exact ⟨agentOs, team, agent, session, runId, w₁, w₂, w₃, rfl, hquota, hsession, hrun, hworks, rfl⟩

/-- A run that is opened is one of a workflow that is found, and has a session, a row and a
    message. -/
theorem openRun_eq_ok {workflowId : Uuid} {request : WorkflowRunRequest}
    {opened : WorkflowExecutionService.OpenRun}
    (h : WorkflowExecutionService.openRun env workflowId request w = (.ok opened, w')) :
    ∃ (workflow : Workflow) (steps : List WorkflowStep) (session : ChatSession) (runId : Uuid)
        (w₁ w₂ : World),
      opened = ⟨workflow, steps, ⟨runId, workflow.id, session.id, request.userId, []⟩⟩ ∧
      WorkflowExecutionService.findWorkflow w.working workflowId = .ok (workflow, steps) ∧
      getOrCreateSession env request.sessionId workflow.agentOsId workflow.teamId none
        request.userId ("Workflow: " ++ workflow.name) w = (.ok session, w₁) ∧
      WorkflowRunService.createRun env workflowId session.id request.input request.userId w₁ =
        (.ok runId, w₂) ∧
      w' = w₂.wrote (.insert .chatMessages)
        (·.withMessage ⟨session.id, none, .user, request.input⟩) := by
  obtain ⟨⟨workflow, steps⟩, w₀, hfind, h⟩ := bind_eq_ok.mp h
  dsimp only at h
  obtain ⟨session, w₁, hsession, h⟩ := bind_eq_ok.mp h
  obtain ⟨runId, w₂, hcreate, h⟩ := bind_eq_ok.mp h
  obtain ⟨_, w₃, hmessage, h⟩ := bind_eq_ok.mp h
  rw [pure_apply, Prod.mk.injEq, Except.ok.injEq] at h
  obtain ⟨rfl, rfl⟩ := h
  -- a failed session answers no query, so the run was not opened on one
  obtain ⟨-, hfound, rfl⟩ := fetch_eq_ok hfind
  obtain ⟨-, rfl⟩ := write_eq_ok hmessage
  exact ⟨workflow, steps, session, runId, w₁, w₂, rfl, hfound, hsession, hcreate, rfl⟩

/-! ## Programs that leave the world alone -/

/-- A query leaves the world alone. -/
theorem query_state {α : Type} (f : Db → α) (w : World) : (query f w).2 = w := by
  rw [query]
  split <;> rfl

/-- The quota check writes nothing. -/
theorem working_requireWithinQuota (env : Env) (caller : QuotaService.Caller) :
    Keeps (Same World.working) (QuotaService.requireWithinQuota env caller) := by
  have hquery : Keeps (Same World.working) (QuotaService.callerPolicies env caller) := by
    intro w
    rw [QuotaService.callerPolicies, query_state]
    rfl
  refine keeps_bind hquery fun policies => ?_
  split
  · exact keeps_pure _
  · refine keeps_bind (keeps_bind keeps_read fun _ => keeps_pure _) fun _ =>
      keeps_bind (fun w => ?_) fun _ => keeps_bind keeps_read fun _ => keeps_lift _
    rw [redisCommand]
    split <;> rfl

/-! ## The sessions that are opened -/

/-- A session that is created is inserted under the id that was asked for, or a new one. -/
theorem createSession_eq_ok {id : Option Uuid} {agentOsId : Uuid} {teamId agentId : Option Uuid}
    {userId : Option String} {title : String} {w w' : World} {s : ChatSession}
    (h : createSession env id agentOsId teamId agentId userId title w = (.ok s, w')) :
    s.id = id.getD w.working.chatSessions.freshKey ∧
      ∃ table, w.working.chatSessions.insert? s = some table := by
  rw [createSession, bind_apply_ok (read_apply w)] at h
  simp only at h
  generalize hinsert : w.working.chatSessions.insert? _ = inserted at h
  cases inserted with
  | none =>
    simp only [violate] at h
    split at h
    · cases congrArg Prod.fst h
    · cases congrArg Prod.fst h
  | some table =>
    obtain ⟨-, w₁, -, h⟩ := bind_eq_ok.mp h
    obtain ⟨-, w₂, -, h⟩ := bind_eq_ok.mp h
    rw [pure_apply, Prod.mk.injEq, Except.ok.injEq] at h
    obtain ⟨rfl, -⟩ := h
    exact ⟨rfl, table, hinsert⟩

/-- No row has its id. -/
theorem createSession_fresh {id : Option Uuid} {agentOsId : Uuid} {teamId agentId : Option Uuid}
    {userId : Option String} {title : String} {w w' : World} {s : ChatSession}
    (h : createSession env id agentOsId teamId agentId userId title w = (.ok s, w')) :
    ∀ row ∈ w.working.chatSessions.rows, row.id ≠ s.id := by
  obtain ⟨-, table, hinsert⟩ := createSession_eq_ok h
  exact (KeyedTable.rows_of_insert? hinsert).1

/-- The session that is opened has the id that was asked for. -/
theorem getOrCreateSession_id {sessionId : Option Uuid} {agentOsId : Uuid}
    {teamId agentId : Option Uuid} {userId : Option String} {title : String} {w w' : World}
    {s : ChatSession}
    (h : getOrCreateSession env sessionId agentOsId teamId agentId userId title w =
      (.ok s, w')) : ∀ asked, sessionId = some asked → s.id = asked := by
  rw [getOrCreateSession.eq_def] at h
  -- A session that is created has the id that was asked for, or a new one.
  split at h
  · intro asked hasked
    cases hasked
  · rename_i id
    obtain ⟨existing, w₁, hquery, h⟩ := bind_eq_ok.mp h
    obtain ⟨-, hget, rfl⟩ := query_eq_ok hquery
    cases existing with
    | none =>
      intro asked hasked
      exact (createSession_eq_ok h).1.trans (Option.some.inj hasked)
    -- The one that was found has it.
    | some found =>
      dsimp only at h
      split at h
      · obtain ⟨-, w₂, -, h⟩ := bind_eq_ok.mp h
        cases congrArg Prod.fst h
      · obtain ⟨-, w₂, -, h⟩ := bind_eq_ok.mp h
        rw [pure_apply, Prod.mk.injEq, Except.ok.injEq] at h
        rintro asked hasked
        rw [← h.1, (BaseRepository.mem_of_get hget).2.1]
        exact Option.some.inj hasked

/-- The session that is opened belongs to the user it is opened for, or was not there before. -/
theorem getOrCreateSession_owner {sessionId : Option Uuid} {agentOsId : Uuid}
    {teamId agentId : Option Uuid} {userId : Option String} {title : String} {w w' : World}
    {s : ChatSession}
    (h : getOrCreateSession env sessionId agentOsId teamId agentId userId title w =
      (.ok s, w')) :
    ∀ row ∈ w.working.chatSessions.rows, row.id = s.id →
      sessionId = some row.id ∧ isLive row = true ∧ row.userId = userId := by
  intro row hrow hid
  rw [getOrCreateSession.eq_def] at h
  split at h
  · exact absurd hid (createSession_fresh h row hrow)
  · rename_i id
    obtain ⟨existing, w₁, hquery, h⟩ := bind_eq_ok.mp h
    obtain ⟨-, hget, rfl⟩ := query_eq_ok hquery
    cases existing with
    | none => exact absurd hid (createSession_fresh h row hrow)
    | some found =>
      dsimp only at h
      split at h
      · obtain ⟨-, w₂, -, h⟩ := bind_eq_ok.mp h
        cases congrArg Prod.fst h
      · rename_i howner
        obtain ⟨-, w₂, -, h⟩ := bind_eq_ok.mp h
        rw [pure_apply, Prod.mk.injEq, Except.ok.injEq] at h
        obtain ⟨hmem, hkey, hlive⟩ := BaseRepository.mem_of_get hget
        -- ids are unique in the table, so the row asked about is the one that was found
        have hsame : row = found :=
          w₁.working.chatSessions.eq_of_key_eq hrow hmem (hid.trans (h.1 ▸ rfl))
        subst hsame
        exact ⟨by rw [hkey], hlive, not_not.mp howner⟩

section Opened

open ChatService WorkflowExecutionService

/-- A turn is opened in a session of its user, or in a new one. -/
theorem openTurn_owner {request : ChatRequest} {groups : List String} {dispatch : Dispatch}
    {w w' : World} {turn : ChatTurn}
    (h : openTurn env request groups dispatch w = (.ok turn, w')) :
    ∀ row ∈ w.working.chatSessions.rows, row.id = turn.sessionId →
      row.userId = request.userId := by
  intro row hrow hid
  obtain ⟨agentOs, team, agent, session, runId, w₁, w₂, w₃, rfl, hquota, hsession, -⟩ :=
    openTurn_eq_ok h
  have hworking : w₁.working = w.working := (working_requireWithinQuota env _).ok _ _ _ hquota
  have hrows : row ∈ w₁.working.chatSessions.rows := by
    rw [hworking]
    exact hrow
  exact (getOrCreateSession_owner hsession row hrows hid).2.2

/-- A run is opened for the session and the user its request names, or in a new session. -/
theorem openRun_owner {workflowId : Uuid} {request : WorkflowRunRequest} {w w' : World}
    {opened : OpenRun} (h : openRun env workflowId request w = (.ok opened, w')) :
    (∃ found, findWorkflow w.working workflowId = .ok found) ∧
    opened.context.userId = request.userId ∧
    (∀ asked, request.sessionId = some asked → opened.context.sessionId = asked) ∧
    ∀ row ∈ w.working.chatSessions.rows, row.id = opened.context.sessionId →
      request.sessionId = some row.id ∧ isLive row = true ∧ row.userId = request.userId := by
  obtain ⟨workflow, steps, session, runId, w₁, w₂, rfl, hfound, hsession, -⟩ := openRun_eq_ok h
  exact ⟨⟨_, hfound⟩, rfl, getOrCreateSession_id hsession, getOrCreateSession_owner hsession⟩

end Opened

end AgnoRuntime
