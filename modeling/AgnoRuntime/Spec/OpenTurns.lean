import AgnoRuntime.Spec.TurnViews

/-!
# The beginning of a turn

Opening a turn checks the quota, finds or creates the session, and adds the run, its
first event and the user's message. Of what there is of a turn, only the last three
change; `handle_chat` and `handle_chat_stream` then mark the run running.
-/

namespace AgnoRuntime

open Svc Prog ChatService

/-- The run, its first event and the user's message. -/
def TurnView.opened (v : TurnView) (turn : ChatTurn) : TurnView :=
  { v with
    run := some ⟨turn.runId, turn.sessionId, turn.agent.id, .pending, turn.request.message, none,
      none⟩
    events := v.events ++ [⟨turn.runId, .agentStarted, .input turn.request.message⟩]
    messages := v.messages ++
      [⟨turn.sessionId, some turn.runId, .user, turn.request.message⟩]
    history := v.history ++ [.pending] }

/-- The run marked running. -/
def TurnView.started (v : TurnView) (turn : ChatTurn) : TurnView :=
  (v.opened turn).withRun .running fun r => r

variable {env : Env}

/-- What there is of a turn, and what the client was sent. -/
private def besidesSessions (runId : Uuid) (w : World) : TurnView × List StreamItem :=
  (viewOf runId w, w.yielded)

/-- The quota check shows in nothing of a turn. -/
private theorem besidesSessions_requireWithinQuota (runId : Uuid) (caller : QuotaService.Caller) :
    Keeps (Same (besidesSessions runId)) (QuotaService.requireWithinQuota env caller) := by
  refine keeps_bind (fun w => ?_) fun policies => ?_
  · rw [QuotaService.callerPolicies, query_state]
    rfl
  · split
    · exact keeps_pure _
    · refine keeps_bind (keeps_bind keeps_read fun _ => keeps_pure _) fun _ =>
        keeps_bind (fun w => ?_) fun _ => keeps_bind keeps_read fun _ => keeps_lift _
      rw [redisCommand]
      split
      · rfl
      · rfl

/-- Neither does the session. -/
private theorem besidesSessions_getOrCreateSession (runId : Uuid) (sessionId : Option Uuid)
    (agentOsId : Uuid) (teamId agentId : Option Uuid) (userId : Option String) (title : String) :
    Keeps (Same (besidesSessions runId))
      (getOrCreateSession env sessionId agentOsId teamId agentId userId title) := by
  have hwrote (w : World) :
      besidesSessions runId (w.wrote (.insert .chatSessions) id) = besidesSessions runId w := by
    have hhistory : statusHistory runId (w.statements ++ [.insert .chatSessions]) = _ :=
      statusHistory_of_none rfl
    show (_, _) = (_, _)
    simp only [viewOf, World.wrote_statements, hhistory]
    rfl
  exact same_getOrCreateSession (fun _ _ => rfl) hwrote (fun _ => rfl) (fun _ => rfl)
    (fun _ _ => rfl) _ _ _ _ _ _

/-- The run is created pending, with its first event. -/
private theorem createRun_view {sessionId agentId runId : Uuid} {inputText : String} {w w' : World}
    (h : RunTrackingService.createRun env sessionId agentId inputText w = (.ok runId, w')) :
    viewOf runId w' = { viewOf runId w with
      run := some ⟨runId, sessionId, agentId, .pending, inputText, none, none⟩
      events := (viewOf runId w).events ++ [⟨runId, .agentStarted, .input inputText⟩]
      history := (viewOf runId w).history ++ [.pending] } ∧ w'.yielded = w.yielded := by
  obtain ⟨rfl, -, rfl⟩ := createRun_eq_ok h
  refine ⟨?_, rfl⟩
  have hhistory (statements : List Statement) :
      statusHistory w.working.agentRuns.freshKey
          (statements ++ [.insert .agentRuns] ++ [.insert .agentEvents]) =
        statusHistory w.working.agentRuns.freshKey statements ++ [.pending] := by
    rw [statusHistory_of_none rfl, statusHistory, List.filterMap_append]
    rfl
  simp only [viewOf, World.wrote_statements, World.wrote_working, hhistory, Db.withNewRun,
    Db.withAgentEvent, KeyedTable.find?_insertFresh]
  rfl

/-- A turn that is opened shows its run, the first event and the user's message. -/
theorem openTurn_inView {request : ChatRequest} {groups : List String} {dispatch : Dispatch}
    {turn : ChatTurn} {w w' : World} (hw : w.expired = false)
    (h : openTurn env request groups dispatch w = (.ok turn, w')) :
    InView turn.runId ((viewOf turn.runId w).opened turn) w' ∧ w'.yielded = w.yielded ∧
      turn.request = request ∧ turn.groups = groups ∧ turn.dispatch = dispatch := by
  have hloaded : w'.expired = false := ((expired_openTurn _ _ _).ok _ _ _ h).trans hw
  obtain ⟨agentOs, team, agent, session, runId, w₁, w₂, w₃, rfl, hquota, hsession, hrun, horder,
    rfl⟩ := openTurn_eq_ok h
  have hchecked := (besidesSessions_requireWithinQuota runId _).ok _ _ _ hquota
  have hdecided := (besidesSessions_getOrCreateSession runId _ _ _ _ _ _).ok _ _ _ hsession
  have hbefore : besidesSessions runId w₂ = besidesSessions runId w :=
    Eq.trans hdecided hchecked
  obtain ⟨hview, hyielded⟩ := Prod.mk.inj hbefore
  obtain ⟨hcreated, hsent⟩ := createRun_view hrun
  refine ⟨⟨horder, hloaded, ?_⟩, hsent.trans hyielded, rfl, rfl, rfl⟩
  have hshown : viewOf runId (w₃.wrote (.insert .chatMessages)
      (·.withMessage ⟨session.id, some runId, .user, request.message⟩)) = _ :=
    viewOf_wrote_message runId w₃ rfl
  rw [hcreated, hview] at hshown
  exact hshown

/-- The world in which a turn goes on: its session is in order, the run is marked running. -/
theorem markRunning_undisturbed (henv : env.Healthy) {turn : ChatTurn} {v : TurnView} {w : World}
    (hw : InView turn.runId v w) :
    ∃ w', RunTrackingService.markRunning env turn.runId w = (.ok (), w') ∧
      InView turn.runId (v.withRun .running fun r => r) w' ∧ w'.yielded = w.yielded := by
  rw [RunTrackingService.markRunning, updateRun_accepted henv.refusesAuditOnly hw.inOrder]
  exact ⟨_, rfl, hw.run .running (fun r => r) (fun _ => rfl), rfl⟩

/-- A streamed turn that is opened is committed as running. -/
theorem beginStream_inView {request : ChatRequest} {groups : List String} {dispatch : Dispatch}
    {turn : ChatTurn} {w w' : World} (hw : w.expired = false)
    (h : beginStream env request groups dispatch w = (.ok turn, w')) :
    InView turn.runId ((viewOf turn.runId w).started turn) w' ∧ w'.committed = w'.working ∧
      w'.yielded = w.yielded ∧ turn.request = request ∧ turn.groups = groups ∧
      turn.dispatch = dispatch := by
  obtain ⟨turn', w₁, hopen, h⟩ := bind_eq_ok.mp h
  obtain ⟨_, w₂, hcommit, h⟩ := bind_eq_ok.mp h
  obtain ⟨_, w₃, hmark, h⟩ := bind_eq_ok.mp h
  obtain ⟨_, w₄, hcommit', h⟩ := bind_eq_ok.mp h
  rw [pure_apply, Prod.mk.injEq, Except.ok.injEq] at h
  obtain ⟨rfl, rfl⟩ := h
  obtain ⟨hopened, hyielded, hturn⟩ := openTurn_inView hw hopen
  obtain ⟨-, rfl⟩ := commit_eq_ok hcommit
  obtain ⟨-, rfl⟩ := write_eq_ok hmark
  obtain ⟨-, rfl⟩ := commit_eq_ok hcommit'
  exact ⟨(hopened.saved.run .running (fun r => r) (fun _ => rfl)).saved, rfl, hyielded, hturn⟩

end AgnoRuntime
