import AgnoRuntime.Spec.UsageFailure

/-!
# Turns that nothing disturbs

Where the database, Redis and the client are well, each operation of a chat turn is
a change of what there is of the turn: its run, the events, its messages, the usage
recorded, the statuses its run went through and the calls of the engine. `viewOf`
reads that off a world, and the lemmas of this file say how every operation changes
it. What tools write does not show.
-/

namespace AgnoRuntime

open Svc Prog ChatService

/-! ## Views -/

/-- The status that a statement of a turn gives its run. -/
def statusSet (runId : Uuid) : Statement → Option RunStatus
  | .insert .agentRuns => some .pending
  | .setRunStatus id status => if id = runId then some status else none
  | _ => none

/-- The statuses that the run of a turn went through. -/
def statusHistory (runId : Uuid) (statements : List Statement) : List RunStatus :=
  statements.filterMap (statusSet runId)

/-- Other statements do not change the status. -/
theorem statusHistory_of_none {runId : Uuid} {statements : List Statement} {s : Statement}
    (h : statusSet runId s = none) :
    statusHistory runId (statements ++ [s]) = statusHistory runId statements := by
  rw [statusHistory, List.filterMap_append, List.filterMap_cons_none h, List.filterMap_nil,
    List.append_nil, statusHistory]

/-- The messages of a run. -/
def messagesOf (runId : Uuid) (db : Db) : List ChatMessage :=
  db.chatMessages.filter fun m => m.runId = some runId

/-- What there is of a turn. -/
structure TurnView where
  metadata : Metadata
  run : Option AgentRun
  events : List AgentEvent
  messages : List ChatMessage
  usage : KeyedTable QuotaUsageEvent.id
  history : List RunStatus
  calls : List EngineCall

/-- What there is of the turn of a run. -/
def viewOf (runId : Uuid) (w : World) : TurnView where
  metadata := w.working.metadata
  run := w.working.agentRuns.find? runId
  events := w.working.agentEvents
  messages := messagesOf runId w.working
  usage := w.working.quotaUsageEvents
  history := statusHistory runId w.statements
  calls := w.engineCalls

namespace TurnView

/-- More events. -/
def withEvents (v : TurnView) (events : List AgentEvent) : TurnView :=
  { v with events := v.events ++ events }

/-- One more message. -/
def withMessage (v : TurnView) (message : ChatMessage) : TurnView :=
  { v with messages := v.messages ++ [message] }

/-- The run changed. -/
def withRun (v : TurnView) (status : RunStatus) (f : AgentRun → AgentRun) : TurnView :=
  { v with
    run := v.run.map fun r => { f r with status := status }
    history := v.history ++ [status] }

/-- One more call of the engine. -/
def withCall (v : TurnView) (call : EngineCall) : TurnView := { v with calls := v.calls ++ [call] }

@[simp] theorem withEvents_nil (v : TurnView) : v.withEvents [] = v := by
  rw [withEvents, List.append_nil]

@[simp] theorem withEvents_withEvents (v : TurnView) (events events' : List AgentEvent) :
    (v.withEvents events).withEvents events' = v.withEvents (events ++ events') := by
  simp only [withEvents, List.append_assoc]

end TurnView

section Operations

variable (runId : Uuid) (w : World)

/-- What tools write does not show. -/
theorem viewOf_tooled {args : RunArgs} (writes : ToolWrites args) :
    viewOf runId (w.tooled writes) = viewOf runId w := by
  have hkept := writes.kept w.working
  obtain ⟨new, hnew, hforeign⟩ := hkept.chatMessages
  have hmessages : messagesOf runId (writes.apply w.working) = messagesOf runId w.working := by
    have hnone : new.filter (fun m => m.runId = some runId) = [] := by
      rw [List.filter_eq_nil_iff]
      intro m hm
      simp [hforeign m hm]
    rw [messagesOf, hnew, List.filter_append, hnone, List.append_nil, messagesOf]
  simp only [viewOf, World.tooled_working, World.tooled_statements, World.tooled_engineCalls,
    hkept.metadata, hkept.agentRuns, hkept.agentEvents, hkept.quotaUsageEvents, hmessages]

theorem viewOf_saved : viewOf runId w.saved = viewOf runId w := by
  have hhistory : statusHistory runId (w.statements ++ [.commit]) = _ := statusHistory_of_none rfl
  simp only [viewOf, World.saved_working, World.saved_statements, World.saved_engineCalls, hhistory]

theorem viewOf_wrote_event (event : AgentEvent) :
    viewOf runId (w.wrote (.insert .agentEvents) (·.withAgentEvent event)) =
      (viewOf runId w).withEvents [event] := by
  have hhistory : statusHistory runId (w.statements ++ [.insert .agentEvents]) = _ :=
    statusHistory_of_none rfl
  simp only [viewOf, World.wrote_statements, hhistory]
  rfl

theorem viewOf_wrote_message {message : ChatMessage} (h : message.runId = some runId) :
    viewOf runId (w.wrote (.insert .chatMessages) (·.withMessage message)) =
      (viewOf runId w).withMessage message := by
  have hmessages : messagesOf runId (w.working.withMessage message) =
      messagesOf runId w.working ++ [message] := by
    rw [messagesOf, Db.withMessage, List.filter_append, List.filter_cons_of_pos (by simp [h])]
    rfl
  have hhistory : statusHistory runId (w.statements ++ [.insert .chatMessages]) = _ :=
    statusHistory_of_none rfl
  simp only [viewOf, World.wrote_statements, World.wrote_working, hhistory, hmessages]
  rfl

theorem viewOf_wrote_run (status : RunStatus) (f : AgentRun → AgentRun)
    (hf : ∀ r, (f r).id = r.id) :
    viewOf runId (w.wrote (.setRunStatus runId status) (·.withRun runId status f hf)) =
      (viewOf runId w).withRun status f := by
  have hhistory : statusHistory runId (w.statements ++ [.setRunStatus runId status]) =
      statusHistory runId w.statements ++ [status] := by
    rw [statusHistory, List.filterMap_append]
    simp [statusSet, statusHistory]
  have hrun : (w.working.withRun runId status f hf).agentRuns.find? runId =
      (w.working.agentRuns.find? runId).map fun r => { f r with status := status } := by
    rw [Db.withRun, KeyedTable.find?_update, if_pos rfl]
  simp only [viewOf, World.wrote_statements, World.wrote_working, hhistory, hrun]
  rfl

end Operations

/-- The session is in order and has rolled nothing back, and this is what there is of the turn. -/
structure InView (runId : Uuid) (v : TurnView) (w : World) : Prop where
  inOrder : w.failed = false
  loaded : w.expired = false
  view : viewOf runId w = v

namespace InView

variable {runId : Uuid} {v : TurnView} {w : World}

theorem tooled (h : InView runId v w) {args : RunArgs} (writes : ToolWrites args) :
    InView runId v (w.tooled writes) :=
  ⟨h.inOrder, h.loaded, (viewOf_tooled runId w writes).trans h.view⟩

theorem saved (h : InView runId v w) : InView runId v w.saved :=
  ⟨h.inOrder, h.loaded, (viewOf_saved runId w).trans h.view⟩

theorem commanded (h : InView runId v w) (f : Redis → Redis) : InView runId v (w.commanded f) :=
  ⟨h.inOrder, h.loaded, h.view⟩

theorem shown (h : InView runId v w) (item : StreamItem) : InView runId v (w.shown item) :=
  ⟨h.inOrder, h.loaded, h.view⟩

theorem called (h : InView runId v w) (call : EngineCall) :
    InView runId (v.withCall call) (w.called call) := by
  obtain ⟨horder, hloaded, rfl⟩ := h
  exact ⟨horder, hloaded, rfl⟩

theorem event (h : InView runId v w) (e : AgentEvent) :
    InView runId (v.withEvents [e]) (w.wrote (.insert .agentEvents) (·.withAgentEvent e)) :=
  ⟨h.inOrder, h.loaded, by rw [viewOf_wrote_event, h.view]⟩

theorem message (h : InView runId v w) {m : ChatMessage} (hm : m.runId = some runId) :
    InView runId (v.withMessage m) (w.wrote (.insert .chatMessages) (·.withMessage m)) :=
  ⟨h.inOrder, h.loaded, by rw [viewOf_wrote_message runId w hm, h.view]⟩

theorem run (h : InView runId v w) (status : RunStatus) (f : AgentRun → AgentRun)
    (hf : ∀ r, (f r).id = r.id) :
    InView runId (v.withRun status f)
      (w.wrote (.setRunStatus runId status) (·.withRun runId status f hf)) :=
  ⟨h.inOrder, h.loaded, by rw [viewOf_wrote_run, h.view]⟩

/-- What of a world does not concern Redis. -/
private def besidesRedis (w : World) :
    Db × Db × Bool × Bool × List Statement × List StreamItem × List EngineCall :=
  (w.committed, w.working, w.failed, w.expired, w.statements, w.yielded, w.engineCalls)

private theorem same_eq {w' : World} (h : Same besidesRedis w w') :
    w'.committed = w.committed ∧ w'.working = w.working ∧ w'.failed = w.failed ∧
      w'.expired = w.expired ∧ w'.statements = w.statements ∧ w'.yielded = w.yielded ∧
        w'.engineCalls = w.engineCalls := by
  have heq : besidesRedis w' = besidesRedis w := h
  simp only [besidesRedis, Prod.mk.injEq] at heq
  exact heq

private theorem same {w' : World} (h : InView runId v w) (hsame : Same besidesRedis w w') :
    InView runId v w' := by
  obtain ⟨-, hworking, hfailed, hexpired, hstatements, -, hcalls⟩ := same_eq hsame
  refine ⟨hfailed.trans h.inOrder, hexpired.trans h.loaded, ?_⟩
  rw [viewOf, hworking, hstatements, hcalls]
  exact h.view

end InView

/-! ## Undisturbed operations -/

section Undisturbed

variable {env : Env} (henv : env.Healthy) {turn : ChatTurn} {v : TurnView} {w : World}

include henv

theorem redisCommand_undisturbed (f : Redis → Redis) (w : World) :
    redisCommand env f w = (.ok (), w.commanded f) := by
  rw [redisCommand, henv.redisAnswers]
  rfl

theorem isCancelled_undisturbed (runId : Uuid) (w : World) :
    isCancelled env runId w = (.ok (env.cancelRequested w.ticks runId), w.commanded id) := by
  rw [isCancelled, bind_apply_ok (read_apply w),
    bind_apply_ok (redisCommand_undisturbed henv id w), pure_apply]

theorem yieldItem_undisturbed (item : StreamItem) (w : World) :
    yieldItem env item w = (.ok (), w.shown item) := by
  rw [yieldItem, bind_apply_ok (read_apply w), bind_apply_ok (modify_apply _ w),
    henv.attended, if_neg Bool.false_ne_true, pure_apply]
  rfl

end Undisturbed

/-! ## The events of a turn -/

/-- The event recorded for an event of the engine. -/
def engineEvent (runId : Uuid) (event : StreamEvent) : AgentEvent :=
  ⟨runId, safeEventType event.eventType, .engine event.payload⟩

/-- Several events further. -/
def Progress.addAll (progress : Progress) (events : List StreamEvent) : Progress :=
  events.foldl (fun progress event => progress.add event.payload) progress

/-- The events that are processed before a cancellation is seen. Each is preceded by a check, and
    followed by two statements. -/
def processedEvents (env : Env) (runId : Uuid) : List StreamEvent → Nat → List StreamEvent
  | [], _ => []
  | event :: events, ticks =>
    if env.cancelRequested ticks runId then []
    else event :: processedEvents env runId events (ticks + 3)

section Events

variable {env : Env} (henv : env.Healthy) {turn : ChatTurn} {v : TurnView} {w : World}

include henv

/-- The loop of `handle_chat` records every event. -/
theorem collectEvents_undisturbed {args : RunArgs} (live : LiveStream args)
    (events : List StreamEvent) (i : Nat)
    (progress : Progress) (hw : InView turn.runId v w) :
    ∃ w', collectEvents env turn live events i progress w = (.ok (progress.addAll events), w') ∧
      InView turn.runId (v.withEvents (events.map (engineEvent turn.runId))) w' := by
  induction events generalizing i progress v w with
  | nil => exact ⟨w, rfl, by rw [List.map_nil, TurnView.withEvents_nil]; exact hw⟩
  | cons event events ih =>
    have htooled := hw.tooled (live.tools i)
    have hemitted := htooled.event (engineEvent turn.runId event)
    obtain ⟨w', hrest, hview⟩ := ih (i + 1) (progress.add event.payload) hemitted
    refine ⟨w', ?_, ?_⟩
    · rw [collectEvents, bind_apply_ok (useTools_apply _ w),
        bind_apply_ok (emitEvent_accepted henv.refusesAuditOnly htooled.inOrder _ _ _)]
      exact hrest
    · rw [TurnView.withEvents_withEvents] at hview
      exact hview

/-- The loop of `handle_chat_stream` records every event until it sees a cancellation. -/
theorem processEvents_undisturbed {args : RunArgs} (live : LiveStream args)
    (events : List StreamEvent) (i : Nat)
    (progress : Progress) (hw : InView turn.runId v w) :
    ∃ w', processEvents env turn live events i progress w =
        (.ok (progress.addAll (processedEvents env turn.runId events w.ticks),
          decide ((processedEvents env turn.runId events w.ticks).length < events.length)), w') ∧
      InView turn.runId (v.withEvents
        ((processedEvents env turn.runId events w.ticks).map (engineEvent turn.runId))) w' := by
  induction events generalizing i progress v w with
  | nil => exact ⟨w, rfl, by rw [processedEvents, List.map_nil, TurnView.withEvents_nil]; exact hw⟩
  | cons event events ih =>
    -- The tools of the event do their work, and the turn looks for the signal.
    have htooled := hw.tooled (live.tools i)
    rw [processEvents, bind_apply_ok (useTools_apply _ w),
      bind_apply_ok (isCancelled_undisturbed henv _ _), processedEvents]
    have hchecked := htooled.commanded id
    rw [World.tooled_ticks]
    cases hcancelled : env.cancelRequested w.ticks turn.runId with
    | true =>
      -- The signal is there, and no event is processed any more.
      refine ⟨(w.tooled (live.tools i)).commanded id, rfl, ?_⟩
      rw [if_pos rfl, List.map_nil, TurnView.withEvents_nil]
      exact hchecked
    | false =>
      -- The event is recorded, committed and sent.
      have hemitted := hchecked.event (engineEvent turn.runId event)
      have hemit : RunTrackingService.emitEvent env turn.runId (safeEventType event.eventType)
          (.engine event.payload) ((w.tooled (live.tools i)).commanded id) =
            (.ok (), ((w.tooled (live.tools i)).commanded id).wrote (.insert .agentEvents)
              (·.withAgentEvent (engineEvent turn.runId event))) :=
        emitEvent_accepted henv.refusesAuditOnly hchecked.inOrder _ _ _
      obtain ⟨w', hrest, hview⟩ := ih (i + 1) (progress.add event.payload)
        (hemitted.saved.shown (turn.item event.eventType (.engine event.payload)))
      refine ⟨w', ?_, ?_⟩
      · rw [if_neg Bool.false_ne_true, if_neg Bool.false_ne_true, bind_apply_ok hemit,
          bind_apply_ok (commit_accepted henv.refusesAuditOnly hemitted.inOrder),
          bind_apply_ok (yieldItem_undisturbed henv _ _), List.length_cons, List.length_cons]
        simp only [Nat.add_lt_add_iff_right]
        exact hrest
      · rw [TurnView.withEvents_withEvents] at hview
        exact hview

end Events

/-! ## The engine -/

/-- The n-th call of the engine as a stream. -/
theorem openStream_apply (env : Env) (dispatch : Dispatch) (args : RunArgs) (w : World) :
    openStream env dispatch args w =
      (.ok ⟨streamOutcome dispatch args (env.call w.engineCalls.length) w.working.metadata,
        env.tools w.engineCalls.length args⟩, w.called ⟨dispatch, args⟩) := rfl

/-- The n-th call of the engine. -/
theorem run_apply_ok {env : Env} {dispatch : Dispatch} {args : RunArgs} {output : String}
    {w : World} (h : runOutcome dispatch args (env.call w.engineCalls.length) w.working.metadata =
      .ok output) :
    Svc.run env dispatch args w = (.ok output,
      (w.called ⟨dispatch, args⟩).tooled (env.tools w.engineCalls.length args 0)) := by
  have hnote : noteCall dispatch args w = (.ok w.engineCalls.length, w.called ⟨dispatch, args⟩) :=
    rfl
  rw [Svc.run, bind_apply_ok (read_apply w), bind_apply_ok hnote, bind_apply_ok (useTools_apply _ _), h]
  rfl

/-- The end of a stream without an exception. -/
theorem endStream_apply_ok {args : RunArgs} {live : LiveStream args} (h : live.stream.error = none)
    (w : World) :
    endStream live w =
      (.ok (), w.tooled (live.tools live.stream.events.length)) := by
  rw [endStream, bind_apply_ok (useTools_apply _ w), h]
  rfl

/-- The end of a stream by an exception. -/
theorem endStream_apply_error {args : RunArgs} {live : LiveStream args} {exc : PyError}
    (h : live.stream.error = some exc) (w : World) :
    endStream live w = (.error exc, { w.tooled (live.tools live.stream.events.length) with
      engineErrors := w.engineErrors ++ [exc] }) := by
  rw [endStream, bind_apply_ok (useTools_apply _ w), h]
  rfl

/-! ## The end of a turn -/

/-- The turn completed. -/
def TurnView.completed (v : TurnView) (turn : ChatTurn) (result : TurnResult) : TurnView :=
  ((v.withMessage ⟨turn.sessionId, some turn.runId, .assistant, result.output⟩).withRun .completed
    fun r => { r with output := some result.output }).withEvents
      [⟨turn.runId, .agentCompleted, .outputLength result.output.length⟩]

/-- Its usage recorded, if the caller is tracked. -/
def TurnView.charged (v : TurnView) (env : Env) (turn : ChatTurn) (result : TurnResult) :
    TurnView :=
  if QuotaService.tracks env turn.caller then
    { v with
      usage := v.usage.insertFresh
        (fun id => ⟨id, some turn.runId, turn.caller.userId.getD "", turn.caller.groups,
          turn.caller.modelId, result.inputTokens, result.outputTokens,
          turnCost v.metadata turn result⟩)
        (fun _ => rfl) }
  else v

section Charged

variable (v : TurnView) (env : Env) (turn : ChatTurn) (result : TurnResult)

@[simp] theorem TurnView.charged_run : (v.charged env turn result).run = v.run := by
  rw [charged]
  split
  · rfl
  · rfl

@[simp] theorem TurnView.charged_events : (v.charged env turn result).events = v.events := by
  rw [charged]
  split
  · rfl
  · rfl

@[simp] theorem TurnView.charged_messages :
    (v.charged env turn result).messages = v.messages := by
  rw [charged]
  split
  · rfl
  · rfl

@[simp] theorem TurnView.charged_history : (v.charged env turn result).history = v.history := by
  rw [charged]
  split
  · rfl
  · rfl

@[simp] theorem TurnView.charged_calls : (v.charged env turn result).calls = v.calls := by
  rw [charged]
  split
  · rfl
  · rfl

end Charged

section End

variable {env : Env} (henv : env.Healthy) {turn : ChatTurn} {v : TurnView} {w : World}

include henv

theorem completeTurn_undisturbed (result : TurnResult) (hw : InView turn.runId v w) :
    ∃ w', completeTurn env turn result w = (.ok (), w') ∧
      InView turn.runId (v.completed turn result) w' ∧ w'.yielded = w.yielded := by
  have hother := henv.refusesAuditOnly
  have hmessage := hw.message (m := ⟨turn.sessionId, some turn.runId, .assistant, result.output⟩) rfl
  have hrun := hmessage.run .completed (fun r => { r with output := some result.output })
    (fun _ => rfl)
  have hevent := hrun.event ⟨turn.runId, .agentCompleted, .outputLength result.output.length⟩
  rw [completeTurn, bind_apply_ok (createMessage_accepted hother hw.inOrder _ _ _ _),
    RunTrackingService.markCompleted,
    bind_apply_ok (updateRun_accepted hother hmessage.inOrder _ _ _ _),
    emitEvent_accepted hother hrun.inOrder]
  exact ⟨_, rfl, hevent, rfl⟩

/-- The Redis half of `record_usage` succeeds. -/
theorem counters_undisturbed (caller : QuotaService.Caller) (usage : QuotaService.Usage)
    (hw : w.failed = false) :
    ∃ w', Prog.handleError
        (do
          let policies ← QuotaService.callerPolicies env caller
          let now ← Svc.now env
          Prog.forEach (QuotaService.recordCounter env now usage) policies)
        (fun exc => if exc.isException then pure () else Prog.raise exc) w = (.ok (), w') ∧
      Same InView.besidesRedis w w' := by
  have hredis (f : Redis → Redis) : Keeps (Same InView.besidesRedis) (redisCommand env f) := by
    intro w
    rw [redisCommand_undisturbed henv]
    rfl
  refine ⟨_, Prod.ext ?_ rfl, keeps_counters hredis caller usage w⟩
  have hround (now : Civil.DateTime) (p : QuotaPolicy) (w : World) :
      ∃ w', QuotaService.recordCounter env now usage p w = (.ok (), w') := by
    rw [QuotaService.recordCounter]
    split
    · exact ⟨w, rfl⟩
    · rw [bind_apply_ok (redisCommand_undisturbed henv _ w), redisCommand_undisturbed henv]
      exact ⟨_, rfl⟩
  obtain ⟨w', hloop⟩ := forEach_ok (hround (env.now w.ticks)) (QuotaService.effectivePolicies
    env.settings.featureQuotaManagement env.policyScan w.working.quotaPolicies caller) w
  rw [handleError]
  rw [QuotaService.callerPolicies, bind_apply_ok (query_apply hw _), Svc.now, bind_assoc,
    bind_apply_ok (read_apply w), pure_bind, hloop]

/-- Recording the usage of a turn leaves everything of it committed, if it was before. -/
theorem recordTurn_undisturbed (result : TurnResult) (hw : InView turn.runId v w) :
    ∃ w', recordTurn env turn result w = (.ok (), w') ∧
      InView turn.runId (v.charged env turn result) w' ∧
      (w.committed = w.working → w'.committed = w'.working) ∧ w'.yielded = w.yielded := by
  rw [TurnView.charged]
  -- a caller without quota tracking writes nothing
  cases htracks : QuotaService.tracks env turn.caller with
  | false =>
    exact ⟨w, recordTurn_of_not_tracks htracks hw.inOrder, hw, fun h => h, rfl⟩
  | true =>
    have haccepted := henv.accepts w.ticks (.insert .quotaUsageEvents)
      (withUsageEvent turn result (turnCost w.working.metadata turn result) w.working)
    -- the usage event is saved on its own, before any counter is tooled
    have haudit : (QuotaService.createUsageEvent env turn.runId turn.caller
        ⟨result.inputTokens, result.outputTokens, turnCost w.working.metadata turn result⟩ >>=
          fun _ => commit env) w =
        (.ok (), (w.wrote (.insert .quotaUsageEvents) (withUsageEvent turn result
          (turnCost w.working.metadata turn result))).saved) := by
      rw [bind_apply_ok (createUsageEvent_apply hw.inOrder haccepted),
        commit_accepted henv.refusesAuditOnly]
      exact hw.inOrder
    have hview : InView turn.runId (v.charged env turn result)
        (w.wrote (.insert .quotaUsageEvents) (withUsageEvent turn result
          (turnCost w.working.metadata turn result))).saved := by
      refine InView.saved ⟨hw.inOrder, hw.loaded, ?_⟩
      have hhistory : statusHistory turn.runId
          (w.statements ++ [.insert .quotaUsageEvents]) = _ := statusHistory_of_none rfl
      rw [← hw.view, TurnView.charged, if_pos htracks]
      simp only [viewOf, World.wrote_statements, hhistory]
      rfl
    obtain ⟨w', hcounters, hsame⟩ := counters_undisturbed henv turn.caller
      ⟨result.inputTokens, result.outputTokens, turnCost w.working.metadata turn result⟩
      hview.inOrder
    refine ⟨w', ?_, ?_, ?_, ?_⟩
    · rw [recordTurn, bind_apply_ok (computeCostUsd_apply hw.inOrder), QuotaService.recordUsage,
        if_pos htracks, bind_apply_ok (handleError_apply_ok haudit)]
      exact hcounters
    · rw [TurnView.charged, if_pos htracks] at hview
      exact hview.same hsame
    · intro _
      obtain ⟨hcommitted, hworking, -⟩ := InView.same_eq hsame
      rw [hcommitted, hworking, World.saved_committed, World.saved_working]
    · obtain ⟨-, -, -, -, -, hyielded, -⟩ := InView.same_eq hsame
      rw [hyielded]
      rfl

end End

end AgnoRuntime
