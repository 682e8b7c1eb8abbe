import AgnoRuntime.Spec.Throughout
import AgnoRuntime.Spec.TurnFrames

/-!
# When usage cannot be recorded

`record_usage` commits the session it shares with its caller, or rolls it back when
the audit row is refused. `handle_chat_stream` has committed the completed turn by
then; `handle_chat` has committed nothing, and loses the turn.
-/

namespace AgnoRuntime

open Svc Prog ChatService

/-- The run of a turn is completed with its output, and both messages of the turn are there. -/
def RecordsTurn (db : Db) (turn : ChatTurn) (result : TurnResult) : Prop :=
  (∃ run ∈ db.agentRuns.rows, run.id = turn.runId ∧ run.status = .completed ∧
    run.output = some result.output) ∧
  ⟨turn.sessionId, some turn.runId, .user, turn.request.message⟩ ∈ db.chatMessages ∧
  ⟨turn.sessionId, some turn.runId, .assistant, result.output⟩ ∈ db.chatMessages

/-- `handle_chat_stream` up to the end of the engine's execution; `none` where the turn is over. -/
def beginChatStream (env : Env) (payload : ChatRequest) : Svc (Option (ChatTurn × TurnResult)) := do
  let dispatch ← resolveDispatch env (resolveIdentity env payload).1
  let turn ← beginStream env (resolveIdentity env payload).1 (resolveIdentity env payload).2
    dispatch
  yieldItem env (turn.item "agent_started" (.started turn.agent.code turn.team.code))
  let progress ← forwardStream env turn
  return progress.map fun progress => (turn, resultOf progress)

/-- The tables after the end of a turn. -/
def completedDb (turn : ChatTurn) (result : TurnResult) (db : Db) : Db :=
  ((db.withMessage ⟨turn.sessionId, some turn.runId, .assistant, result.output⟩).withRun turn.runId
    .completed (fun r => { r with output := some result.output }) (fun _ => rfl)).withAgentEvent
      ⟨turn.runId, .agentCompleted, .outputLength result.output.length⟩

/-- What a turn cost. -/
def turnCost (m : Metadata) (turn : ChatTurn) (result : TurnResult) : Option ℚ :=
  turn.modelId.bind fun id =>
    (BaseRepository.get m.models id).bind (costOf · result.inputTokens result.outputTokens)

/-- The tables with the audit row of a turn. -/
def withUsageEvent (turn : ChatTurn) (result : TurnResult) (costUsd : Option ℚ) (db : Db) : Db :=
  { db with
    quotaUsageEvents := db.quotaUsageEvents.insertFresh
      (fun id => ⟨id, some turn.runId, turn.caller.userId.getD "", turn.caller.groups,
        turn.caller.modelId, result.inputTokens, result.outputTokens, costUsd⟩)
      (fun _ => rfl) }

/-- The database takes the audit row of a turn whose execution ended in `w`. -/
def AuditAccepted (env : Env) (w : World) (turn : ChatTurn) (result : TurnResult) : Prop :=
  env.refuses (w.ticks + 3) (.insert .quotaUsageEvents)
    (withUsageEvent turn result (turnCost w.working.metadata turn result)
      (completedDb turn result w.working)) = none

/-! ## The open turn -/

variable {env : Env} {turn : ChatTurn} {result : TurnResult}

/-- The session is in order and has rolled nothing back, and the run and the user's message are
    there. -/
structure TurnOpen (turn : ChatTurn) (w : World) : Prop where
  inOrder : w.failed = false
  loaded : w.expired = false
  run : ∃ run ∈ w.working.agentRuns.rows, run.id = turn.runId
  message : ⟨turn.sessionId, some turn.runId, .user, turn.request.message⟩ ∈ w.working.chatMessages

/-- An open turn stays open. -/
private def StaysOpen (turn : ChatTurn) (w w' : World) : Prop := TurnOpen turn w → TurnOpen turn w'

instance : Std.Refl (StaysOpen turn) := ⟨fun _ h => h⟩

instance : IsTrans World (StaysOpen turn) := ⟨fun _ _ _ h h' hw => h' (h hw)⟩

private theorem staysOpen_streamTurnFrame (hother : RefusesAuditOnly env) :
    StreamTurnFrame env turn.runId (StaysOpen turn) where
  sameSession w w' h hw := by
    constructor
    · exact h.failed.trans hw.inOrder
    · exact h.expired.trans hw.loaded
    · rw [h.working]
      exact hw.run
    · rw [h.working]
      exact hw.message
  -- Tools add messages, and leave runs of chats alone.
  tools writes w hw := by
    have hkept := writes.kept w.working
    constructor
    · exact hw.inOrder
    · exact hw.loaded
    · rw [World.tooled_working, hkept.agentRuns]
      exact hw.run
    · obtain ⟨new, hnew, -⟩ := hkept.chatMessages
      rw [World.tooled_working, hnew]
      exact List.mem_append_left _ hw.message
  emitted eventType payload w hw := by
    rw [emitEvent_accepted hother hw.inOrder]
    exact ⟨hw.inOrder, hw.loaded, hw.run, hw.message⟩
  committed w hw := by
    rw [commit_accepted hother hw.inOrder]
    exact ⟨hw.inOrder, hw.loaded, hw.run, hw.message⟩

/-- Opening a session leaves the runs alone. -/
theorem agentRuns_getOrCreateSession (sessionId : Option Uuid) (agentOsId : Uuid)
    (teamId agentId : Option Uuid) (userId : Option String) (title : String) :
    Keeps (Same fun w => w.working.agentRuns)
      (getOrCreateSession env sessionId agentOsId teamId agentId userId title) :=
  same_getOrCreateSession (fun _ _ => rfl) (fun _ => rfl) (fun _ => rfl) (fun _ => rfl)
    (fun _ _ => rfl) _ _ _ _ _ _

/-- Opening a turn rolls nothing back. -/
theorem expired_openTurn (request : ChatRequest) (groups : List String) (dispatch : Dispatch) :
    Keeps (Same World.expired) (openTurn env request groups dispatch) :=
  OpenFrame.keeps_openTurn
    ⟨fun _ _ h => h.expired, fun _ _ _ => rfl, fun _ _ _ _ _ => rfl⟩ request groups dispatch

/-- A turn that is opened is open, and its run is new. -/
theorem openTurn_open {request : ChatRequest} {groups : List String} {dispatch : Dispatch}
    {w w' : World} (hw : w.expired = false)
    (h : openTurn env request groups dispatch w = (.ok turn, w')) :
    TurnOpen turn w' ∧ ∀ run ∈ w.working.agentRuns.rows, run.id ≠ turn.runId := by
  have hloaded : w'.expired = false := ((expired_openTurn _ _ _).ok _ _ _ h).trans hw
  obtain ⟨agentOs, team, agent, session, runId, w₁, w₂, w₃, rfl, hquota, hsession, hrun, horder,
    rfl⟩ := openTurn_eq_ok h
  obtain ⟨rfl, -, rfl⟩ := createRun_eq_ok hrun
  -- the run and the message are the last rows of their tables
  have hexists : ∃ run ∈ (w₂.working.withNewRun session.id agent.id request.message).agentRuns.rows,
      run.id = w₂.working.agentRuns.freshKey :=
    ⟨_, List.mem_append_right _ (List.mem_singleton_self _), rfl⟩
  refine ⟨⟨horder, hloaded, hexists, List.mem_append_right _ (List.mem_singleton_self _)⟩, ?_⟩
  -- neither the quota check nor the session has changed the runs
  intro row hrow
  have hruns : w₂.working.agentRuns = w.working.agentRuns := by
    have hcreated : w₂.working.agentRuns = w₁.working.agentRuns :=
      (agentRuns_getOrCreateSession _ _ _ _ _ _).ok _ _ _ hsession
    have hchecked : w₁.working = w.working :=
      (working_requireWithinQuota env _).ok _ _ _ hquota
    rw [hcreated, hchecked]
  rw [← hruns] at hrow
  exact Nat.ne_of_lt (KeyedTable.key_lt_freshKey hrow)

/-! ## The end of the turn -/

/-- Completing a turn takes three statements, none of them the audit insert. -/
theorem completeTurn_apply (turn : ChatTurn) (result : TurnResult) (hother : RefusesAuditOnly env)
    {w : World} (hw : w.failed = false) :
    ∃ w', completeTurn env turn result w = (.ok (), w') ∧
      w'.working = completedDb turn result w.working ∧ w'.committed = w.committed ∧
      w'.failed = false ∧ w'.expired = w.expired ∧ w'.ticks = w.ticks + 3 := by
  rw [completeTurn, bind_apply_ok (createMessage_accepted hother hw _ _ _ _),
    RunTrackingService.markCompleted, bind_apply_ok (updateRun_accepted hother ?_ _ _ _ _),
    emitEvent_accepted hother]
  · exact ⟨_, rfl, rfl, rfl, hw, rfl, rfl⟩
  · exact hw
  · exact hw

/-- Completing an open turn records it. -/
theorem recordsTurn_completedDb {w : World} (h : TurnOpen turn w) :
    RecordsTurn (completedDb turn result w.working) turn result := by
  obtain ⟨run, hrun, hid⟩ := h.run
  refine ⟨⟨{ run with output := some result.output, status := .completed }, ?_, hid, rfl, rfl⟩,
    List.mem_append_left _ h.message, List.mem_append_right _ (List.mem_singleton_self _)⟩
  rw [completedDb, Db.withAgentEvent, Db.withRun, KeyedTable.mem_rows_update]
  exact ⟨run, hrun, by rw [if_pos hid]⟩

/-- The turn is recorded, for good. -/
private abbrev CommittedWith (turn : ChatTurn) (result : TurnResult) : World → Prop :=
  Throughout fun db => RecordsTurn db turn result

/-- What a turn cost is read off the prices of its model. -/
theorem computeCostUsd_apply {w : World} (hw : w.failed = false) :
    computeCostUsd turn.modelId result.inputTokens result.outputTokens w =
      (.ok (turnCost w.working.metadata turn result), w) := by
  rw [computeCostUsd.eq_def, turnCost]
  cases turn.modelId with
  | none => rfl
  | some id =>
    simp only
    rw [bind_apply_ok (attempt_apply _ w), query_apply hw]
    rfl

/-- Usage of a caller who is not tracked is not recorded. -/
theorem recordTurn_of_not_tracks (htracks : QuotaService.tracks env turn.caller = false)
    {w : World} (hw : w.failed = false) : recordTurn env turn result w = (.ok (), w) := by
  rw [recordTurn, bind_apply_ok (computeCostUsd_apply hw), QuotaService.recordUsage,
    if_neg (by rw [htracks]; exact Bool.false_ne_true), pure_apply]

/-- The audit row of a turn, accepted. -/
theorem createUsageEvent_apply {costUsd : Option ℚ} {w : World} (hw : w.failed = false)
    (haccepted : env.refuses w.ticks (.insert .quotaUsageEvents)
      (withUsageEvent turn result costUsd w.working) = none) :
    QuotaService.createUsageEvent env turn.runId turn.caller
        ⟨result.inputTokens, result.outputTokens, costUsd⟩ w =
      (.ok (), w.wrote (.insert .quotaUsageEvents) (withUsageEvent turn result costUsd)) :=
  write_apply hw haccepted

/-- The audit row of a turn, refused. -/
theorem createUsageEvent_apply_refused {costUsd : Option ℚ} {message : String} {w : World}
    (hw : w.failed = false) (hrefused : env.refuses w.ticks (.insert .quotaUsageEvents)
      (withUsageEvent turn result costUsd w.working) = some message) :
    QuotaService.createUsageEvent env turn.runId turn.caller
        ⟨result.inputTokens, result.outputTokens, costUsd⟩ w =
      (.error (.other message), w.refused (withUsageEvent turn result costUsd)) :=
  write_apply_refused hw hrefused

/-- Recording usage whose audit row is accepted commits the turn. -/
private theorem committedWith_recordTurn (hother : RefusesAuditOnly env)
    (htracks : QuotaService.tracks env turn.caller = true) {w : World} (hw : w.failed = false)
    (hrecords : RecordsTurn w.working turn result)
    (haccepted : env.refuses w.ticks (.insert .quotaUsageEvents)
      (withUsageEvent turn result (turnCost w.working.metadata turn result) w.working) = none) :
    CommittedWith turn result (recordTurn env turn result w).2 := by
  rw [recordTurn, bind_apply_ok (computeCostUsd_apply hw), QuotaService.recordUsage,
    if_pos htracks]
  have haudit : (QuotaService.createUsageEvent env turn.runId turn.caller
      ⟨result.inputTokens, result.outputTokens, turnCost w.working.metadata turn result⟩ >>=
        fun _ => commit env) w =
      (.ok (), (w.wrote (.insert .quotaUsageEvents) (withUsageEvent turn result
        (turnCost w.working.metadata turn result))).saved) := by
    rw [bind_apply_ok (createUsageEvent_apply hw haccepted), commit_accepted hother]
    exact hw
  rw [bind_apply_ok (handleError_apply_ok haudit)]
  exact keeps_counters keeping_redisCommand _ _ _ ⟨hrecords, hrecords⟩

/-- The transaction holds nothing that is not committed, and nothing is committed any more. -/
private def StaysSettled (w w' : World) : Prop :=
  w.working = w.committed → w'.working = w'.committed ∧ w'.committed = w.committed

instance : Std.Refl StaysSettled := ⟨fun _ h => ⟨h, rfl⟩⟩

instance : IsTrans World StaysSettled :=
  ⟨fun _ _ _ h h' hw => ⟨(h' (h hw).1).1, (h' (h hw).1).2.trans (h hw).2⟩⟩

private theorem staysSettled_rollback : Keeps StaysSettled rollback := fun _ _ => ⟨rfl, rfl⟩

private theorem staysSettled_commit : Keeps StaysSettled (commit env) := by
  refine keeps_bind (fun w hw => ?_) fun _ => keeps_modify fun w hw => ⟨rfl, hw⟩
  rw [send]
  split
  · exact ⟨hw, rfl⟩
  · split
    · exact ⟨hw, rfl⟩
    · exact ⟨hw, rfl⟩

private theorem staysSettled_redisCommand (f : Redis → Redis) :
    Keeps StaysSettled (redisCommand env f) := by
  intro w hw
  rw [redisCommand]
  split
  · exact ⟨hw, rfl⟩
  · exact ⟨hw, rfl⟩

/-- Recording usage whose audit row is refused rolls the session back. -/
private theorem settled_recordTurn (htracks : QuotaService.tracks env turn.caller = true)
    {w : World} (hw : w.failed = false) {message : String}
    (hrefused : env.refuses w.ticks (.insert .quotaUsageEvents)
      (withUsageEvent turn result (turnCost w.working.metadata turn result) w.working) =
        some message) :
    (recordTurn env turn result w).2.working = (recordTurn env turn result w).2.committed ∧
      (recordTurn env turn result w).2.committed = w.committed := by
  rw [recordTurn, bind_apply_ok (computeCostUsd_apply hw), QuotaService.recordUsage,
    if_pos htracks]
  have haudit : (QuotaService.createUsageEvent env turn.runId turn.caller
      ⟨result.inputTokens, result.outputTokens, turnCost w.working.metadata turn result⟩ >>=
        fun _ => commit env) w = (.error (.other message), w.refused (withUsageEvent turn result
          (turnCost w.working.metadata turn result))) :=
    bind_apply_error (createUsageEvent_apply_refused hw hrefused)
  have hrolledBack : Prog.handleError (QuotaService.createUsageEvent env turn.runId turn.caller
      ⟨result.inputTokens, result.outputTokens, turnCost w.working.metadata turn result⟩ >>=
        fun _ => commit env) (fun exc => if exc.isException then rollback else Prog.raise exc) w =
      (.ok (), { w.refused (withUsageEvent turn result (turnCost w.working.metadata turn result))
        with working := w.committed, failed := false, expired := true }) := by
    rw [handleError_apply_error haudit]
    rfl
  rw [bind_apply_ok hrolledBack]
  exact keeps_counters staysSettled_redisCommand _ _ _ rfl

/-! ## Both endpoints -/

section Endpoints

variable {store : Store} {payload : ChatRequest} {w : World}

/-- Marking a run as running leaves its turn open. -/
private theorem staysOpen_markRunning (hother : RefusesAuditOnly env) :
    Keeps (StaysOpen turn) (RunTrackingService.markRunning env turn.runId) := by
  intro w hw
  rw [RunTrackingService.markRunning, updateRun_accepted hother hw.inOrder]
  obtain ⟨run, hrun, hid⟩ := hw.run
  refine ⟨hw.inOrder, hw.loaded, ⟨{ run with status := .running }, ?_, hid⟩, hw.message⟩
  rw [World.wrote_working, Db.withRun, KeyedTable.mem_rows_update]
  exact ⟨run, hrun, by rw [if_pos hid]⟩

/-- A turn whose execution succeeds in `handle_chat` is open, new, and not committed. -/
theorem beginChat_open (hother : RefusesAuditOnly env)
    (h : beginChat env payload (World.start store) = (.ok (turn, result), w)) :
    TurnOpen turn w ∧ w.committed = store.db ∧
      ∀ run ∈ store.db.agentRuns.rows, run.id ≠ turn.runId := by
  have hcommitted : w.committed = store.db := (committed_beginChat payload).ok _ _ _ h
  obtain ⟨dispatch, w₁, hdispatch, h⟩ := bind_eq_ok.mp h
  obtain ⟨turn', w₂, hopen, h⟩ := bind_eq_ok.mp h
  obtain ⟨_, w₃, hrunning, h⟩ := bind_eq_ok.mp h
  obtain ⟨result', w₄, hexecute, h⟩ := bind_eq_ok.mp h
  rw [pure_apply, Prod.mk.injEq, Except.ok.injEq, Prod.mk.injEq] at h
  obtain ⟨⟨rfl, rfl⟩, rfl⟩ := h
  obtain ⟨-, rfl⟩ := resolveDispatch_eq_ok hdispatch
  obtain ⟨hturn, hnew⟩ := openTurn_open rfl hopen
  refine ⟨?_, hcommitted, hnew⟩
  have hmarked := (staysOpen_markRunning hother).ok _ _ _ hrunning hturn
  exact (staysOpen_streamTurnFrame hother).ok_execute _ _ _ hexecute hmarked

/-- What `handle_chat` does after it has completed the turn. -/
private theorem served_chat_from {R : World → World → Prop} [Std.Refl R] [IsTrans World R]
    (hcommit : Keeps R (commit env)) (hrollback : Keeps R rollback) {w' : World}
    (hbegin : beginChat env payload (World.start store) = (.ok (turn, result), w))
    (hcomplete : completeTurn env turn result w = (.ok (), w')) :
    R (recordTurn env turn result w').2 ((Request.chat payload).served env store) := by
  refine IsTrans.trans _ _ _ ?_ (getDb_from hcommit hrollback _ _)
  rw [handleChat_eq, map_bind, bind_apply_ok hbegin, map_eq_pure_bind, ChatService.endTurn]
  simp only [bind_assoc]
  rw [bind_apply_ok hcomplete]
  exact rel_bind_from (fun _ => keeps_bind keeps_attributes fun _ =>
    keeps_bind (keeps_pure _) fun _ => keeps_pure _) _

/-- `handle_chat` records its turn unless the audit row of a tracked caller is refused. -/
theorem recordsTurn_chat_iff (hother : RefusesAuditOnly env)
    (hbegin : beginChat env payload (World.start store) = (.ok (turn, result), w)) :
    RecordsTurn ((Request.chat payload).served env store).committed turn result ↔
      QuotaService.tracks env turn.caller = false ∨ AuditAccepted env w turn result := by
  obtain ⟨hopen, hcommitted, hnew⟩ := beginChat_open hother hbegin
  obtain ⟨w', hcomplete, hworking, hkept, horder, hloaded, hticks⟩ :=
    completeTurn_apply turn result hother hopen.inOrder
  have hrecords : RecordsTurn w'.working turn result := by
    rw [hworking]
    exact recordsTurn_completedDb hopen
  have haudit : env.refuses w'.ticks (.insert .quotaUsageEvents) (withUsageEvent turn result
      (turnCost w'.working.metadata turn result) w'.working) = none ↔
        AuditAccepted env w turn result := by
    rw [AuditAccepted, hticks, hworking]
    rfl
  cases htracks : QuotaService.tracks env turn.caller with
  | false =>
    -- nothing is recorded, and `get_db` commits the turn
    refine iff_of_true ?_ (.inl rfl)
    have hok : (Response.chat <$> handleChat env payload) (World.start store) =
        (.ok (.chat (responseOf turn result)), w') := by
      rw [handleChat_eq, map_bind, bind_apply_ok hbegin, map_eq_pure_bind, ChatService.endTurn]
      simp only [bind_assoc]
      rw [bind_apply_ok hcomplete, bind_apply_ok (recordTurn_of_not_tracks htracks horder),
        bind_apply_ok (attributes_apply (hloaded.trans hopen.loaded))]
      rfl
    rw [Request.served, Request.handle, getDb_apply_ok hok (commit_accepted hother horder)]
    exact hrecords
  | true =>
    cases hrefused : env.refuses w'.ticks (.insert .quotaUsageEvents) (withUsageEvent turn result
        (turnCost w'.working.metadata turn result) w'.working) with
    | none =>
      refine iff_of_true ?_ (.inr (haudit.mp hrefused))
      exact (served_chat_from keeping_commit keeping_rollback hbegin hcomplete
        (committedWith_recordTurn hother htracks horder hrecords hrefused)).committed
    | some message =>
      -- the session was rolled back to where the request started
      have hsettled := settled_recordTurn htracks horder hrefused
      have hserved := served_chat_from staysSettled_commit staysSettled_rollback hbegin hcomplete
        hsettled.1
      refine iff_of_false (fun h => ?_) fun h => ?_
      · rw [hserved.2, hsettled.2, hkept, hcommitted] at h
        obtain ⟨run, hrun, hid, -⟩ := h.1
        exact hnew run hrun hid
      · rcases h with h | h
        · cases h
        · rw [haudit.mpr h] at hrefused
          cases hrefused

/-- A turn whose execution succeeds in `handle_chat_stream` is open. -/
theorem beginChatStream_open (hother : RefusesAuditOnly env)
    (h : beginChatStream env payload (World.start store) = (.ok (some (turn, result)), w)) :
    TurnOpen turn w := by
  -- The endpoint, step by step: resolve, begin, say so, forward.
  obtain ⟨dispatch, w₁, hdispatch, h⟩ := bind_eq_ok.mp h
  obtain ⟨turn', w₂, hbegin, h⟩ := bind_eq_ok.mp h
  obtain ⟨_, w₃, hyield, h⟩ := bind_eq_ok.mp h
  obtain ⟨progress, w₄, hforward, h⟩ := bind_eq_ok.mp h
  rw [pure_apply, Prod.mk.injEq, Except.ok.injEq] at h
  obtain ⟨hprogress, rfl⟩ := h
  obtain ⟨progress', rfl, hpair⟩ := Option.map_eq_some_iff.mp hprogress
  rw [Prod.mk.injEq] at hpair
  obtain ⟨rfl, rfl⟩ := hpair
  obtain ⟨-, rfl⟩ := resolveDispatch_eq_ok hdispatch
  -- To begin a turn is to open it and to mark it, with a commit after each.
  obtain ⟨turn'', w₅, hopen, hbegin⟩ := bind_eq_ok.mp hbegin
  obtain ⟨_, w₆, hcommit, hbegin⟩ := bind_eq_ok.mp hbegin
  obtain ⟨_, w₇, hrunning, hbegin⟩ := bind_eq_ok.mp hbegin
  obtain ⟨_, w₈, hcommit', hbegin⟩ := bind_eq_ok.mp hbegin
  rw [pure_apply, Prod.mk.injEq, Except.ok.injEq] at hbegin
  obtain ⟨rfl, rfl⟩ := hbegin
  have hframe : StreamTurnFrame env turn''.runId (StaysOpen turn'') :=
    staysOpen_streamTurnFrame hother
  -- Each of these steps leaves the turn open.
  have hcommitted := hframe.committed.ok _ _ _ hcommit (openTurn_open rfl hopen).1
  have hmarked := (staysOpen_markRunning hother).ok _ _ _ hrunning hcommitted
  have hstarted := hframe.committed.ok _ _ _ hcommit' hmarked
  exact hframe.forwardStream hforward ((hframe.yieldItem _).ok _ _ _ hyield hstarted)

/-- `handle_chat_stream` executes the engine, and then ends the turn if it is not over. -/
theorem handleChatStream_eq (payload : ChatRequest) :
    handleChatStream env payload = beginChatStream env payload >>= fun executed =>
      match executed with
      | none => pure ()
      | some (turn, result) => endStreamTurn env turn result := by
  rw [beginChatStream]
  simp only [bind_assoc, pure_bind]
  refine bind_congr fun dispatch => ?_
  rw [chatStreamTurn]
  refine bind_congr fun turn => ?_
  rw [ChatService.continueStream]
  refine bind_congr fun _ => bind_congr fun progress => ?_
  cases progress with
  | none => rfl
  | some progress => rfl

/-- `handle_chat_stream` records its turn in any case. -/
theorem recordsTurn_chatStream (hother : RefusesAuditOnly env)
    (hbegin : beginChatStream env payload (World.start store) = (.ok (some (turn, result)), w)) :
    RecordsTurn ((Request.chatStream payload).served env store).committed turn result := by
  have hopen := beginChatStream_open hother hbegin
  obtain ⟨w', hcomplete, hworking, -, horder, -, -⟩ :=
    completeTurn_apply turn result hother hopen.inOrder
  have hrecords : RecordsTurn w'.working turn result := by
    rw [hworking]
    exact recordsTurn_completedDb hopen
  -- the turn is committed before its usage is recorded
  have hrecorded : CommittedWith turn result (handleChatStream env payload (World.start store)).2 := by
    rw [handleChatStream_eq, bind_apply_ok hbegin]
    simp only [endStreamTurn]
    rw [bind_apply_ok hcomplete, bind_apply_ok (commit_accepted hother horder)]
    exact keeps_bind (keeping_recordTurn (fun _ _ h => h) _ _) (fun _ =>
      keeps_bind keeps_attributes fun _ => keeping_yieldItem _) _ ⟨hrecords, hrecords⟩
  have hserved : Keeping (fun db => RecordsTurn db turn result) (handleChatStream env payload
      (World.start store)).2 ((Request.chatStream payload).served env store) := by
    rw [Request.served, Request.handle, streamed, bind_assoc, bind_apply_ok (attempt_apply _ _)]
    exact keeps_bind (keeps_bind keeping_rollback fun _ => keeps_lift _)
      (fun _ => keeps_pure _) _
  exact (hserved hrecorded).committed

end Endpoints

/-- Where the database refuses at most the audit row, a turn whose execution succeeds is recorded
    by `handle_chat_stream`, and by `handle_chat` exactly when its caller is not tracked or the
    audit row is accepted. -/
theorem recordsTurn_iff (env : Env) (hother : RefusesAuditOnly env) (store : Store)
    (payload : ChatRequest) (turn : ChatTurn) (result : TurnResult) (w : World) :
    (beginChat env payload (World.start store) = (.ok (turn, result), w) →
      (RecordsTurn ((Request.chat payload).served env store).committed turn result ↔
        QuotaService.tracks env turn.caller = false ∨ AuditAccepted env w turn result)) ∧
    (beginChatStream env payload (World.start store) = (.ok (some (turn, result)), w) →
      RecordsTurn ((Request.chatStream payload).served env store).committed turn result) :=
  ⟨recordsTurn_chat_iff hother, recordsTurn_chatStream hother⟩

section Examples

open Deployment

/-- The deployment with quotas, and a database that refuses audit rows. -/
def Deployment.auditless : Env :=
  { Deployment.env .trustClientUserId none (answering "Hi") with
    settings := ⟨.trustClientUserId, true, true, true⟩
    refuses := fun _ s _ => if s = .insert .quotaUsageEvents then some "disk full" else none }

/-- The theorem at a turn of `alice`'s on that deployment: streamed, it is recorded. -/
theorem recordsTurn_iff_example : ∃ turn result,
    RecordsTurn ((Request.chatStream (hello (some "sales") (some "alice"))).served auditless
      store).committed turn result := by
  have hexecuted : ((beginChatStream auditless (hello (some "sales") (some "alice"))
      (World.start store)).1.toOption.join).isSome = true := by
    decide +kernel
  rcases hbegin : beginChatStream auditless (hello (some "sales") (some "alice"))
    (World.start store) with ⟨exc | _ | ⟨turn, result⟩, w⟩
  · rw [hbegin] at hexecuted
    cases hexecuted
  · rw [hbegin] at hexecuted
    cases hexecuted
  · have hother : RefusesAuditOnly auditless := fun _ _ _ hs => if_neg hs
    exact ⟨turn, result, (recordsTurn_iff auditless hother store _ turn result w).2 hbegin⟩

/-- The same turn, not streamed: the engine has answered, and nothing of the turn is left. -/
theorem audit_failure_loses_turn : ∃ turn result w,
    beginChat auditless (hello (some "sales") (some "alice")) (World.start store) =
      (.ok (turn, result), w) ∧
    ¬RecordsTurn ((Request.chat (hello (some "sales") (some "alice"))).served auditless
      store).committed turn result := by
  have hexecuted : (beginChat auditless (hello (some "sales") (some "alice"))
      (World.start store)).1.isOk = true := by
    decide +kernel
  rcases hbegin : beginChat auditless (hello (some "sales") (some "alice"))
    (World.start store) with ⟨exc | ⟨turn, result⟩, w⟩
  · rw [hbegin] at hexecuted
    cases hexecuted
  · refine ⟨turn, result, w, rfl, fun h => ?_⟩
    have hnone : ((Request.chat (hello (some "sales") (some "alice"))).served auditless
        store).committed.agentRuns.rows = [] := by
      decide +kernel
    obtain ⟨run, hrun, -⟩ := h.1
    rw [hnone] at hrun
    cases hrun

end Examples

end AgnoRuntime
