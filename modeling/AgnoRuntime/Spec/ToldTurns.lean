import AgnoRuntime.Spec.RequestHistories
import AgnoRuntime.Spec.Stages
import AgnoRuntime.Spec.TurnStories

/-!
# Turns tell their story, whatever fails

Each statement of a turn takes its rows from one stage of its story to the next, and
it commits at the end of a stage only. So wherever a statement is refused, Redis
fails, the engine raises or the client leaves, the committed rows tell a story, and
a client that was streamed to has been told the same one.
-/

namespace AgnoRuntime

open Svc Prog ChatService RunTrackingService

/-! ## The story of a turn -/

/-- The turn has recorded these events and is so far. -/
def ChatService.ChatTurn.story (turn : ChatTurn) (recorded : List StreamEvent)
    (phase : TurnPhase) : TurnStory :=
  ⟨turn.runId, turn.sessionId, turn.agent.id, turn.request.message, recorded,
    assistantText recorded, phase⟩

/-- The tables that a turn may leave: it has no run yet, or its run tells a story. -/
def TurnTold (base db : Db) : Prop :=
  SameTurns base db ∨ ∃ story : TurnStory, story.Possible ∧ story.rows.In base db

variable {base : Db} {env : Env} {turn : ChatTurn} {recorded : List StreamEvent}
  {C : Db → Prop} {items : List StreamItem}

theorem TurnTold.runsTold {db : Db} (h : TurnTold base db) (hbase : RunsTold base) :
    RunsTold db := by
  rcases h with hsame | ⟨story, hpossible, hin⟩
  · exact hbase.of_same hsame
  · exact hbase.of_in hpossible hin

/-- A story that has been recorded as it went is possible. -/
theorem possible_story {phase : TurnPhase} (h : phase = .pending → recorded = []) :
    (turn.story recorded phase).Possible :=
  ⟨h, .inl rfl⟩

/-! ## Statements -/

section Statements

variable {rows : TurnRows} {runId : Uuid}

theorem told_updateRun (hid : rows.run.id = runId) (status : RunStatus) (f : AgentRun → AgentRun)
    (hf : ∀ r, (f r).id = r.id) :
    Triple (Stage C (rows.In base) items) (updateRun env runId status f hf)
      (fun _ => Stage C ((rows.withRun status f).In base) items) (Declined C items) :=
  stage_write _ fun db hdb => by
    subst hid
    exact hdb.run status f hf

theorem told_event (eventType : EventType) (payload : EventPayload) :
    Triple (Stage C (rows.In base) items) (emitEvent env runId eventType payload)
      (fun _ => Stage C ((rows.withEvent ⟨runId, eventType, payload⟩).In base) items)
      (Declined C items) :=
  stage_write _ fun _ hdb => hdb.event _

theorem told_message (sessionId : Uuid) (role : MessageRole) (content : String) :
    Triple (Stage C (rows.In base) items) (createMessage env sessionId (some runId) role content)
      (fun _ => Stage C ((rows.withMessage ⟨sessionId, some runId, role, content⟩).In base) items)
      (Declined C items) :=
  stage_write _ fun _ hdb => hdb.message rfl

end Statements

/-- The rows of a run that was just created. -/
def newRows (runId sessionId agentId : Uuid) (input : String) : TurnRows :=
  ⟨⟨runId, sessionId, agentId, .pending, input, none, none⟩,
    [⟨runId, .agentStarted, .input input⟩], []⟩

/-- A run is created under the next key of the table, with its first event. -/
theorem told_createRun (sessionId agentId : Uuid) (input : String) :
    Triple (Stage C (SameTurns base) items) (createRun env sessionId agentId input)
      (fun runId => Stage C ((newRows runId sessionId agentId input).In base) items)
      (Declined C items) := by
  intro w hw
  have hinsert : Triple (Stage C (fun db => db = w.working) items)
      (write env (.insert .agentRuns) (·.withNewRun sessionId agentId input))
      (fun _ => Stage C ((TurnRows.mk
        ⟨w.working.agentRuns.freshKey, sessionId, agentId, .pending, input, none, none⟩ []
          []).In base) items) (Declined C items) :=
    stage_write _ fun db hdb => hdb ▸ hw.working.newRun sessionId agentId input
  have hcreate : Triple (Stage C (fun db => db = w.working) items)
      (write env (.insert .agentRuns) (·.withNewRun sessionId agentId input) >>= fun _ =>
        emitEvent env w.working.agentRuns.freshKey .agentStarted (.input input) >>= fun _ =>
          (pure w.working.agentRuns.freshKey : Svc Uuid))
      (fun runId => Stage C ((newRows runId sessionId agentId input).In base) items)
      (Declined C items) :=
    triple_bind hinsert fun _ => triple_bind (told_event _ _) fun _ => triple_pure fun _ hw => hw
  exact hcreate w hw.exact

/-- The session, the run, its first event and the message of the user. -/
theorem told_openTurn (request : ChatRequest) (groups : List String) (dispatch : Dispatch) :
    Triple (Stage C (SameTurns base) items) (openTurn env request groups dispatch)
      (fun turn w => turn.dispatch = dispatch ∧ turn.request = request ∧
        Stage C ((turn.story [] .pending).rows.In base) items w)
      (Abandoned C items) := by
  refine triple_bind (Q := fun _ => Stage C (SameTurns base) items)
    (triple_lift (fun _ _ _ hw => hw) fun _ _ _ hw => hw.abandoned) fun found => ?_
  refine triple_bind (stage_requireWithinQuota _) fun _ => ?_
  refine triple_bind (stage_getOrCreateSession
    (fun _ _ h => ⟨h.metadata, h.runs, h.events, h.messages⟩) _ _ _ _ _ _) fun session => ?_
  exact triple_bind (abandoning (told_createRun _ _ _)) fun runId =>
    triple_bind (abandoning (told_message _ _ _)) fun _ => triple_pure fun _ hw => ⟨rfl, rfl, hw⟩

theorem told_markRunning : Triple (Stage C ((turn.story [] .pending).rows.In base) items)
    (markRunning env turn.runId)
    (fun _ => Stage C ((turn.story [] .running).rows.In base) items) (Declined C items) := by
  have hrows := (turn.story [] .pending).rows_running rfl
  exact hrows ▸ told_updateRun rfl .running (fun r => r) fun _ => rfl

/-- An event of the engine is recorded. -/
theorem told_emitEvent (event : StreamEvent) :
    Triple (Stage C ((turn.story recorded .running).rows.In base) items)
      (emitEvent env turn.runId (safeEventType event.eventType) (.engine event.payload))
      (fun _ => Stage C ((turn.story (recorded ++ [event]) .running).rows.In base) items)
      (Declined C items) := by
  have hrows := (turn.story recorded .running).rows_recording rfl event
  exact hrows ▸ told_event _ _

/-- The assistant's message, the row of the run and the last event. -/
theorem told_completeTurn (result : TurnResult) :
    Triple (Stage C ((turn.story recorded .running).rows.In base) items)
      (completeTurn env turn result)
      (fun _ => Stage C (TurnRows.In { turn.story recorded (.ended .completed) with
        text := result.output : TurnStory }.rows base) items)
      (Declined C items) := by
  have hrows := (turn.story recorded .running).rows_completed rfl result.output
  exact hrows ▸ triple_bind (told_message _ _ _) fun _ =>
    triple_bind (told_updateRun rfl _ _ _) fun _ => told_event _ _

theorem told_markFailed (error : String) :
    Triple (Stage C ((turn.story recorded .running).rows.In base) items)
      (markFailed env turn.runId error)
      (fun _ => Stage C ((turn.story recorded (.ended (.failed error))).rows.In base) items)
      (Declined C items) := by
  have hrows := (turn.story recorded .running).rows_failed rfl error
  exact hrows ▸ triple_bind (told_updateRun rfl _ _ _) fun _ => told_event _ _

/-- What the assistant has said so far is saved. -/
theorem told_savePartialOutput :
    Triple (Stage C ((turn.story recorded .running).rows.In base) items)
      (savePartialOutput env turn (assistantText recorded))
      (fun _ => Stage C ((turn.story recorded .running).said.In base) items)
      (Declined C items) := by
  rw [savePartialOutput, TurnStory.said]
  show Triple _ _ (fun _ => Stage C (TurnRows.In (if assistantText recorded = "" then _ else _) base)
    items) _
  split
  · exact triple_pure fun _ hw => hw
  · exact told_message _ _ _

theorem told_markCancelled :
    Triple (Stage C ((turn.story recorded .running).said.In base) items)
      (markCancelled env turn.runId (assistantText recorded))
      (fun _ => Stage C ((turn.story recorded (.ended .cancelled)).rows.In base) items)
      (Declined C items) := by
  have hid : (turn.story recorded .running).said.run.id = turn.runId := by
    rw [TurnStory.said]
    split
    · rfl
    · rfl
  have hrows := (turn.story recorded .running).rows_cancelled rfl
  exact hrows ▸ triple_bind (told_updateRun hid _ _ _) fun _ => told_event _ _

/-- An event that is recorded adds to the progress of the turn. -/
theorem add_addAll (recorded : List StreamEvent) (event : StreamEvent) :
    (Progress.empty.addAll recorded).add event.payload =
      Progress.empty.addAll (recorded ++ [event]) := by
  simp [Progress.addAll]

/-! ## Without streaming -/

theorem told_collectEvents {args : RunArgs} (live : LiveStream args) (events : List StreamEvent)
    (i : Nat) :
    Triple (Stage C ((turn.story recorded .running).rows.In base) items)
      (collectEvents env turn live events i (Progress.empty.addAll recorded))
      (fun progress w => ∃ recorded, progress = Progress.empty.addAll recorded ∧
        Stage C ((turn.story recorded .running).rows.In base) items w)
      (Abandoned C items) := by
  induction events generalizing i recorded with
  | nil => exact triple_pure fun _ hw => ⟨recorded, rfl, hw⟩
  | cons event events ih =>
    refine triple_bind (stage_useTools _ fun _ h => h.tools _) fun _ =>
      triple_bind (abandoning (told_emitEvent event)) fun _ => ?_
    rw [add_addAll]
    exact ih _

/-- An engine that raises is noted, but nothing of it is committed. -/
theorem told_consumeStream (uiContext : Option UIContextFields) :
    Triple (Stage C ((turn.story [] .running).rows.In base) items)
      (consumeStream env turn uiContext)
      (fun result w => ∃ recorded, result.output = assistantText recorded ∧
        Stage C ((turn.story recorded .running).rows.In base) items w)
      (Abandoned C items) := by
  refine triple_handleError (H := Abandoned C items) ?_ fun exc => ?_
  · refine triple_bind (stage_openStream _ _ fun _ h => h.metadata) fun live => ?_
    intro w hw
    refine triple_bind (told_collectEvents live _ _) (fun progress => ?_) w hw.2
    intro w hw
    obtain ⟨recorded, rfl, hw⟩ := hw
    refine triple_bind ((stage_endStream (fun _ _ h => h.tools _) live).onError
      fun _ _ h => h.2.abandoned) (fun _ => triple_pure fun _ hw => ?_) w hw
    exact ⟨recorded, text_addAll recorded, hw.2⟩
  · rw [failAndRaise]
    split
    · exact triple_bind (abandoned_writes (onlyWrites_markFailed _ _) exc) fun _ =>
        triple_raise fun _ hw => hw
    · exact triple_raise fun _ hw => hw

/-- The engine streams its events, or a team answers at once. -/
theorem told_execute :
    Triple (Stage C ((turn.story [] .running).rows.In base) items) (execute env turn)
      (fun result w => ∃ recorded, (result.output = assistantText recorded ∨ recorded = []) ∧
        Stage C ((turn.story recorded .running).rows.In base) items w)
      (Abandoned C items) := by
  have hconsume (uiContext : Option UIContextFields) :
      Triple (Stage C ((turn.story [] .running).rows.In base) items)
        (consumeStream env turn uiContext)
        (fun result w => ∃ recorded, (result.output = assistantText recorded ∨ recorded = []) ∧
          Stage C ((turn.story recorded .running).rows.In base) items w)
        (Abandoned C items) :=
    (told_consumeStream uiContext).mono (fun _ hw => hw)
      (fun _ _ h => by
        obtain ⟨recorded, htext, hw⟩ := h
        exact ⟨recorded, .inl htext, hw⟩)
      fun _ _ h => h
  rw [ChatService.execute]
  split
  · exact hconsume _
  · exact triple_bind ((stage_run (fun _ _ h => h.tools _) _ _ fun _ h => h.metadata).onError
      fun _ _ h => h.abandoned) fun _ => triple_pure fun _ hw => ⟨[], .inr rfl, hw.2⟩
  · exact hconsume _

/-- The tables of a turn that has an outcome do not depend on the usage. -/
private theorem usage_turnTold (db : Db) (usage : KeyedTable QuotaUsageEvent.id)
    (h : TurnTold base db) : TurnTold base { db with quotaUsageEvents := usage } := by
  rcases h with hsame | ⟨story, hpossible, hin⟩
  · exact .inl ⟨hsame.metadata, hsame.runs, hsame.events, hsame.messages⟩
  · exact .inr ⟨story, hpossible, hin.fresh, hin.metadata, hin.runs, hin.events, hin.messages⟩

/-- The turn is opened, runs and is executed. -/
theorem told_beginTurn (request : ChatRequest) (groups : List String) (dispatch : Dispatch) :
    Triple (Stage C (SameTurns base) items) (beginTurn env request groups dispatch)
      (fun begun w => ∃ recorded, (begun.2.output = assistantText recorded ∨ recorded = []) ∧
        Stage C ((begun.1.story recorded .running).rows.In base) items w)
      (Abandoned C items) := by
  refine triple_bind (told_openTurn _ _ _) fun turn w hw => ?_
  exact triple_bind (abandoning told_markRunning) (fun _ => triple_bind told_execute
    fun result => triple_pure fun _ hw => hw) w hw.2.2

/-- The story of the turn is told to its end. -/
theorem told_endTurn {result : TurnResult}
    (htext : result.output = assistantText recorded ∨ recorded = []) :
    Triple (Stage (SameTurns base) ((turn.story recorded .running).rows.In base) items)
      (endTurn env turn result) (fun _ => Stage (TurnTold base) (TurnTold base) items)
      (Abandoned (TurnTold base) items) := by
  have hpossible : ({ turn.story recorded (.ended .completed) with
      text := result.output } : TurnStory).Possible :=
    ⟨fun h => (by cases h), htext.imp id fun h => ⟨h, rfl⟩⟩
  refine triple_bind (Q := fun _ => Stage (TurnTold base) (TurnTold base) items) ?_ fun _ =>
    triple_bind ((stage_recordTurn usage_turnTold _ _).onError fun _ _ h => h.elim) fun _ =>
      triple_bind (stage_recorded_attributes.onError fun _ _ h => h.2.2) fun _ =>
        triple_pure fun _ hw => hw
  exact (abandoning (told_completeTurn result)).mono (fun _ h => h)
    (fun _ _ hw => hw.mono (fun _ h => .inl h) fun _ h => .inr ⟨_, hpossible, h⟩)
    fun _ _ h => ⟨.inl h.1, h.2⟩

/-- A turn of `handle_chat` leaves a story that is told, or none. -/
theorem told_handleChat (request : ChatRequest) :
    Triple (Stage (SameTurns base) (SameTurns base) []) (handleChat env request)
      (fun _ => Stage (TurnTold base) (TurnTold base) []) (Abandoned (TurnTold base) []) := by
  refine triple_bind ((stage_fetch _).onError fun _ _ h => ⟨.inl h.committed, h.yielded⟩)
    fun dispatch => triple_bind ((told_beginTurn _ _ _).onError fun _ _ h => ⟨.inl h.1, h.2⟩)
      fun begun w hw => ?_
  obtain ⟨recorded, htext, hw⟩ := hw
  exact told_endTurn htext w hw

/-! ## Streaming -/

/-- What the client of a stream is sent while the turn runs: its start, and each event. -/
def ChatService.ChatTurn.sent (turn : ChatTurn) (recorded : List StreamEvent) :
    List StreamItem :=
  turn.item "agent_started" (.started turn.agent.code turn.team.code) ::
    recorded.map fun event => turn.item event.eventType (.engine event.payload)

/-- What a streamed turn leaves behind, and what its client has been sent. -/
inductive StreamTold (env : Env) (base : Db) (w : World) : Prop where
  /-- The turn was not opened. -/
  | unopened (hsame : SameTurns base w.committed) (hyielded : w.yielded = [])
  /-- The run was not marked as running. -/
  | pending (turn : ChatTurn) (hin : (turn.story [] .pending).rows.In base w.committed)
    (hyielded : w.yielded = [])
  /-- The turn broke off. The client has been sent the events that are recorded. -/
  | brokeOff (turn : ChatTurn) (stream : EventStream) (recorded : List StreamEvent)
    (hstream : EngineAnswers env turn.dispatch (turn.args turn.request.uiContext) base.metadata
      stream)
    (hinit : recorded <+: stream.events)
    (hin : (turn.story recorded .running).rows.In base w.committed)
    (hyielded : w.yielded = turn.sent recorded)
  /-- The turn ended as the stream says. The client has been sent the events that are recorded and
      the end of the turn; of a cancellation it may not have been told, nor of a completion where
      the row of the usage was refused. -/
  | ended (turn : ChatTurn) (stream : EventStream) (recorded : List StreamEvent)
    (hstream : EngineAnswers env turn.dispatch (turn.args turn.request.uiContext) base.metadata
      stream)
    (hinit : recorded <+: stream.events)
    (hin : (turn.story recorded (.ended (TurnEnd.ofStream stream recorded))).rows.In base
      w.committed)
    (hyielded : w.yielded = turn.sent recorded ++
        [(TurnEnd.ofStream stream recorded).item turn (assistantText recorded)] ∨
      TurnEnd.ofStream stream recorded = .cancelled ∧ w.yielded = turn.sent recorded ∨
      TurnEnd.ofStream stream recorded = .completed ∧ w.yielded = turn.sent recorded ∧
        UsageRefused env turn.caller)

/-- The turn runs, and its client has been sent what is recorded. -/
abbrev Streaming (base : Db) (turn : ChatTurn) (recorded : List StreamEvent) : World → Prop :=
  Stage ((turn.story recorded .running).rows.In base) ((turn.story recorded .running).rows.In base)
    (turn.sent recorded)

variable {stream : EventStream}

theorem ofStream_cancelled {events : List StreamEvent} {event : StreamEvent}
    (h : stream.events = recorded ++ event :: events) :
    TurnEnd.ofStream stream recorded = .cancelled := by
  rw [TurnEnd.ofStream, if_pos (by simp [h])]

theorem ofStream_completed (h : stream.error = none) :
    TurnEnd.ofStream stream stream.events = .completed := by
  rw [TurnEnd.ofStream, if_neg (Nat.lt_irrefl _), h]

theorem ofStream_failed {exc : PyError} (h : stream.error = some exc) :
    TurnEnd.ofStream stream stream.events = .failed exc.str := by
  rw [TurnEnd.ofStream, if_neg (Nat.lt_irrefl _), h]

section Streams

variable (hstream : EngineAnswers env turn.dispatch (turn.args turn.request.uiContext)
  base.metadata stream)

include hstream

/-- A cancellation that was seen is committed before the client is told. -/
theorem told_handleCancellation (hinit : recorded <+: stream.events)
    (hending : TurnEnd.ofStream stream recorded = .cancelled) :
    Triple (Streaming base turn recorded)
      (handleCancellation env turn (Progress.empty.addAll recorded))
      (fun _ => StreamTold env base)
      fun exc w => exc.isRuntimeExecution = false ∧ StreamTold env base w := by
  -- Until the commit, the turn is told as it broke off.
  have hbroke (exc : PyError) (w : World)
      (h : Declined ((turn.story recorded .running).rows.In base) (turn.sent recorded) exc w) :
      exc.isRuntimeExecution = false ∧ StreamTold env base w :=
    ⟨h.uncaught, .brokeOff turn stream recorded hstream hinit h.committed h.yielded⟩
  -- From then on, it is cancelled, whether or not the client is told.
  have hended (w : World)
      (hin : (turn.story recorded (.ended .cancelled)).rows.In base w.committed)
      (hyielded : w.yielded = turn.sent recorded ++
          [TurnEnd.cancelled.item turn (assistantText recorded)] ∨
        w.yielded = turn.sent recorded) :
      StreamTold env base w := by
    refine .ended turn stream recorded hstream hinit (hending.symm ▸ hin) ?_
    rw [hending]
    exact hyielded.imp_right fun h => .inl ⟨rfl, h⟩
  -- The text so far, the status, the commit, the key and the item.
  show Triple _ (savePartialOutput env turn (Progress.empty.addAll recorded).text >>= fun _ =>
    markCancelled env turn.runId (Progress.empty.addAll recorded).text >>= fun _ => commit env >>=
      fun _ => redisCommand env id >>= fun _ => yieldItem env (turn.item "run_cancelled"
        (.cancelled "Run cancelled by user" (Progress.empty.addAll recorded).text))) _ _
  rw [text_addAll]
  refine triple_bind (told_savePartialOutput.onError hbroke) fun _ =>
    triple_bind (told_markCancelled.onError hbroke) fun _ =>
      triple_bind (stage_commit.onError hbroke) fun _ =>
        triple_bind ((stage_redisCommand _).onError fun exc w h => ?_) fun _ =>
          (stage_yieldItem _).mono (fun _ h => h) (fun _ w h => ?_) fun exc w h => ?_
  -- Redis fails after the commit.
  · exact ⟨h.1.uncaught, hended w h.1.committed (.inr h.1.yielded)⟩
  · exact hended w h.committed (.inl h.yielded)
  -- The client leaves with the item.
  · exact ⟨h.uncaught, hended w h.committed (.inl h.yielded)⟩

/-- The events that were sent are the first of the stream, or all of them. -/
theorem told_streamEvents {args : RunArgs} (live : LiveStream args) (events : List StreamEvent)
    (i : Nat) (hrest : stream.events = recorded ++ events) :
    Triple (Streaming base turn recorded)
      (streamEvents env turn live events i (Progress.empty.addAll recorded))
      (fun outcome w =>
        outcome = some (Progress.empty.addAll stream.events) ∧
            Streaming base turn stream.events w ∨
          outcome = none ∧ StreamTold env base w)
      fun exc w => exc.isRuntimeExecution = false ∧ StreamTold env base w := by
  have hinit : recorded <+: stream.events := ⟨events, hrest.symm⟩
  -- Until an event is committed, the turn is told without it.
  have hbroke (exc : PyError) (w : World)
      (h : Declined ((turn.story recorded .running).rows.In base) (turn.sent recorded) exc w) :
      exc.isRuntimeExecution = false ∧ StreamTold env base w :=
    ⟨h.uncaught, .brokeOff turn stream recorded hstream hinit h.committed h.yielded⟩
  induction events generalizing i recorded with
  | nil =>
    rw [List.append_nil] at hrest
    subst hrest
    exact triple_pure fun _ hw => .inl ⟨rfl, hw⟩
  | cons event events ih =>
    refine triple_bind (stage_useTools _ fun _ h => h.tools _) fun _ =>
      triple_bind ((stage_isCancelled _).onError hbroke) fun cancelled => ?_
    -- The turn is cancelled before it records the event.
    split
    · exact triple_bind (told_handleCancellation hstream hinit (ofStream_cancelled hrest)) fun _ =>
        triple_pure fun _ hw => .inr ⟨rfl, hw⟩
    · have hnext : stream.events = (recorded ++ [event]) ++ events := by simp [hrest]
      have hsent : turn.sent recorded ++ [turn.item event.eventType (.engine event.payload)] =
          turn.sent (recorded ++ [event]) := by simp [ChatTurn.sent]
      -- The event is recorded and committed, and sent.
      refine triple_bind ((told_emitEvent event).onError hbroke) fun _ =>
        triple_bind (stage_commit.onError hbroke) fun _ =>
          triple_bind ((stage_yieldItem _).onError fun exc w h => ?_) fun _ => ?_
      -- The client leaves with the event.
      · exact ⟨h.uncaught, .brokeOff turn stream _ hstream ⟨events, hnext.symm⟩ h.committed
          (hsent ▸ h.yielded)⟩
      · rw [add_addAll, hsent]
        exact ih _ hnext ⟨events, hnext.symm⟩ fun exc w h =>
          ⟨h.uncaught, .brokeOff turn stream _ hstream ⟨events, hnext.symm⟩ h.committed h.yielded⟩

omit hstream in
/-- What is consumed of the engine's stream. -/
theorem told_forwardStream :
    Triple (Streaming base turn []) (forwardStream env turn)
      (fun outcome w =>
        (∃ stream, EngineAnswers env turn.dispatch (turn.args turn.request.uiContext)
            base.metadata stream ∧ stream.error = none ∧
            outcome = some (Progress.empty.addAll stream.events) ∧
            Streaming base turn stream.events w) ∨
          outcome = none ∧ StreamTold env base w)
      fun _ => StreamTold env base := by
  -- What the handler gets: the turn broke off, or the engine's stream did.
  refine triple_handleError (H := fun exc w =>
      (exc.isRuntimeExecution = false ∧ StreamTold env base w) ∨
        ∃ stream, EngineAnswers env turn.dispatch (turn.args turn.request.uiContext)
          base.metadata stream ∧ stream.error = some exc ∧
          Streaming base turn stream.events w) ?_ fun exc => ?_
  -- The stream is opened, and its events forwarded.
  · refine triple_bind (stage_openStream _ _ fun _ h => h.metadata) fun live w hw => ?_
    obtain ⟨hstream, hw⟩ := hw
    refine triple_bind ((told_streamEvents hstream live live.stream.events 0 rfl).onError
      fun _ _ h => .inl h) (fun outcome => ?_) w hw
    intro w hw
    -- All events were sent, or the turn was cancelled.
    rcases hw with ⟨rfl, hw⟩ | ⟨rfl, hw⟩
    · refine triple_bind (stage_endStream (fun _ _ h => h.tools _) live) (fun _ =>
        triple_pure fun _ hw => ?_) |>.onError (fun exc w h => ?_) w hw
      · exact .inl ⟨live.stream, hstream, hw.1, rfl, hw.2⟩
      -- The engine's stream broke off after its events.
      · exact .inr ⟨live.stream, hstream, h.1, h.2⟩
    · exact .inr ⟨rfl, hw⟩
  · rw [failStream]
    split
    -- `except RuntimeExecutionError`: the turn is marked as failed, and the client told.
    · next hcaught =>
      intro w hw
      rcases hw with ⟨huncaught, -⟩ | ⟨stream, hstream, herror, hw⟩
      · rw [huncaught] at hcaught
        cases hcaught
      -- Until the commit, the turn is told as it broke off.
      · have hbroke (exc : PyError) (w : World) (h : Declined
            ((turn.story stream.events .running).rows.In base) (turn.sent stream.events) exc w) :
            StreamTold env base w :=
          .brokeOff turn stream _ hstream (List.prefix_refl _) h.committed h.yielded
        -- From then on, it has failed, also if the client leaves with the item.
        have hended (w : World)
            (hin : (turn.story stream.events (.ended (.failed exc.str))).rows.In base w.committed)
            (hyielded : w.yielded = turn.sent stream.events ++ [turn.item "error" (.error exc.str)]) :
            StreamTold env base w := by
          refine .ended turn stream stream.events hstream (List.prefix_refl _) ?_ (.inl ?_)
          · rw [ofStream_failed herror]
            exact hin
          · rw [ofStream_failed herror]
            exact hyielded
        refine triple_bind ((told_markFailed exc.str).onError hbroke) (fun _ =>
          triple_bind (stage_commit.onError hbroke) fun _ =>
            triple_bind ((stage_yieldItem _).onError fun _ w h => ?_) fun _ =>
              triple_pure fun w h => ?_) w hw
        · exact hended w h.committed h.yielded
        · exact .inr ⟨rfl, hended w h.committed h.yielded⟩
    -- The error goes on.
    · refine triple_raise fun w hw => ?_
      rcases hw with ⟨-, htold⟩ | ⟨stream, hstream, -, hw⟩
      · exact htold
      · exact .brokeOff turn stream _ hstream (List.prefix_refl _) hw.committed hw.yielded

/-- The turn is completed, and its client is told. -/
theorem told_endStreamTurn (herror : stream.error = none) :
    Triple (Streaming base turn stream.events)
      (endStreamTurn env turn (resultOf (Progress.empty.addAll stream.events)))
      (fun _ => StreamTold env base) fun _ => StreamTold env base := by
  -- Until the commit, the turn is told as it broke off.
  have hbroke (exc : PyError) (w : World) (h : Declined
      ((turn.story stream.events .running).rows.In base) (turn.sent stream.events) exc w) :
      StreamTold env base w :=
    .brokeOff turn stream _ hstream (List.prefix_refl _) h.committed h.yielded
  -- From then on it is completed, whether or not the client is told.
  have hended (w : World)
      (hin : (turn.story stream.events (.ended .completed)).rows.In base w.committed)
      (hyielded : w.yielded = turn.sent stream.events ++
          [turn.item "agent_completed" (.completed (assistantText stream.events))] ∨
        w.yielded = turn.sent stream.events ∧ UsageRefused env turn.caller) :
      StreamTold env base w := by
    refine .ended turn stream stream.events hstream (List.prefix_refl _) ?_ ?_
    · rw [ofStream_completed herror]
      exact hin
    · rw [ofStream_completed herror]
      exact hyielded.imp_right fun h => .inr ⟨rfl, h⟩
  rw [resultOf, text_addAll]
  refine triple_bind ((told_completeTurn _).onError hbroke) fun _ =>
    triple_bind (stage_commit.onError hbroke) fun _ =>
      triple_bind ((stage_recordTurn (fun _ _ h => ?_) _ _).onError fun _ _ h => h.elim) fun _ =>
        triple_bind (stage_recorded_attributes.onError fun _ w h => ?_) fun _ =>
          (stage_yieldItem _).mono (fun _ h => h) (fun _ w h => ?_) fun _ w h => ?_
  -- The rows of the turn do not depend on its usage.
  · exact ⟨h.fresh, h.metadata, h.runs, h.events, h.messages⟩
  -- The usage was refused, and the attributes of the turn are lost.
  · exact hended w h.2.2.1 (.inr ⟨h.2.2.2, h.2.1⟩)
  -- The end was sent,
  · exact hended w h.committed (.inl h.yielded)
  -- or the client left with it.
  · exact hended w h.committed (.inl h.yielded)

end Streams

/-- The turn is opened and running, before the client is sent anything. -/
theorem told_beginStream (request : ChatRequest) (groups : List String) (dispatch : Dispatch) :
    Triple (Stage (SameTurns base) (SameTurns base) []) (beginStream env request groups dispatch)
      (fun turn => Stage ((turn.story [] .running).rows.In base)
        ((turn.story [] .running).rows.In base) [])
      fun _ => StreamTold env base := by
  refine triple_bind ((told_openTurn _ _ _).onError fun _ _ h => .unopened h.1 h.2) fun turn w hw => ?_
  have hpending (exc : PyError) (w : World)
      (h : Declined ((turn.story [] .pending).rows.In base) [] exc w) : StreamTold env base w :=
    .pending turn h.committed h.yielded
  have hbegin : Triple (Stage (SameTurns base) ((turn.story [] .pending).rows.In base) [])
      (commit env >>= fun _ => markRunning env turn.runId >>= fun _ => commit env >>= fun _ =>
        (pure turn : Svc ChatTurn))
      (fun turn => Stage ((turn.story [] .running).rows.In base)
        ((turn.story [] .running).rows.In base) []) fun _ => StreamTold env base :=
    triple_bind (stage_commit.onError fun _ w h => .unopened h.committed h.yielded) fun _ =>
      triple_bind (told_markRunning.onError hpending) fun _ =>
        triple_bind (stage_commit.onError hpending) fun _ => triple_pure fun _ hw => hw
  exact hbegin w hw.2.2

/-- A turn of `handle_chat_stream`: what its client has been sent is what its rows tell. -/
theorem told_handleChatStream (request : ChatRequest) :
    Triple (Stage (SameTurns base) (SameTurns base) []) (handleChatStream env request)
      (fun _ => StreamTold env base) fun _ => StreamTold env base := by
  refine triple_bind ((stage_fetch _).onError fun _ _ h => .unopened h.committed h.yielded)
    fun dispatch => triple_bind (told_beginStream _ _ _) fun turn => ?_
  have hbegun (w : World) (hin : (turn.story [] .running).rows.In base w.committed)
      (hyielded : w.yielded = turn.sent []) : StreamTold env base w :=
    .brokeOff turn (streamOutcome turn.dispatch (turn.args turn.request.uiContext) (env.call 0)
      base.metadata) [] ⟨0, rfl⟩ List.nil_prefix hin hyielded
  refine triple_bind ((stage_yieldItem _).onError fun _ w h => hbegun w h.committed h.yielded)
    fun _ => triple_bind told_forwardStream fun outcome w hw => ?_
  rcases hw with ⟨stream, hstream, herror, rfl, hw⟩ | ⟨rfl, hw⟩
  · exact told_endStreamTurn hstream herror w hw
  · exact hw

/-- What is not committed does not matter to it. -/
theorem StreamTold.rolledBack {w : World} (h : StreamTold env base w) :
    StreamTold env base { w with working := w.committed, failed := false, expired := true } := by
  cases h with
  | unopened hsame hyielded => exact .unopened hsame hyielded
  | pending turn hin hyielded => exact .pending turn hin hyielded
  | brokeOff turn stream recorded hstream hinit hin hyielded =>
    exact .brokeOff turn stream recorded hstream hinit hin hyielded
  | ended turn stream recorded hstream hinit hin hyielded =>
    exact .ended turn stream recorded hstream hinit hin hyielded

/-! ## Requests -/

/-- Whatever the surroundings do, a streamed turn leaves rows that tell what its client has been
    sent: it has no run and sent nothing, or its run tells of the first events of the engine's
    stream, each of them recorded and sent once and in order, and of the end it was sent. A run
    can be completed without its client being told where the row of the usage is refused. -/
theorem stream_told (env : Env) (store : Store) (payload : ChatRequest) :
    StreamTold env store.db ((Request.chatStream payload).served env store) := by
  have hserved : Triple (Stage (SameTurns store.db) (SameTurns store.db) [])
      ((Request.chatStream payload).handle env) (fun _ => StreamTold env store.db)
      fun _ => StreamTold env store.db := by
    refine triple_bind (triple_bind (triple_attempt (R := fun _ => StreamTold env store.db)
      (told_handleChatStream payload) (fun _ _ h => h) fun _ _ h => h) fun outcome => ?_)
        fun _ => triple_pure fun _ h => h
    exact triple_bind (triple_modify fun _ h => h.rolledBack) fun _ =>
      triple_lift (fun _ _ _ h => h) fun _ _ _ h => h
  exact hserved.state ⟨rfl, .refl _, .refl _, rfl, rfl⟩

/-- So it leaves a story that is told, or none. -/
theorem StreamTold.turnTold {w : World} (h : StreamTold env base w) :
    TurnTold base w.committed := by
  cases h with
  | unopened hsame => exact .inl hsame
  | pending turn hin => exact .inr ⟨_, possible_story fun _ => rfl, hin⟩
  | brokeOff turn stream recorded hstream hinit hin =>
    exact .inr ⟨_, possible_story fun h => (by cases h), hin⟩
  | ended turn stream recorded hstream hinit hin =>
    exact .inr ⟨_, possible_story fun h => (by cases h), hin⟩

/-- The same of a turn of `POST /chat`. -/
theorem chat_told (env : Env) (store : Store) (payload : ChatRequest) :
    TurnTold store.db ((Request.chat payload).served env store).committed := by
  have hserved : Triple (Stage (SameTurns store.db) (SameTurns store.db) [])
      ((Request.chat payload).handle env) (fun _ w => TurnTold store.db w.committed)
      fun _ w => TurnTold store.db w.committed := by
    refine triple_handleError (H := fun _ w => TurnTold store.db w.committed) ?_ fun exc => ?_
    · refine triple_bind (Q := fun _ => Stage (TurnTold store.db) (TurnTold store.db) []) ?_
        fun response => triple_bind (stage_commit.onError fun _ _ h => h.committed) fun _ =>
          triple_pure fun _ hw => hw.committed
      exact triple_bind ((told_handleChat payload).onError fun _ _ h => h.1) fun _ =>
        triple_pure fun _ hw => hw
    · exact triple_bind (triple_modify fun _ h => h) fun _ => triple_raise fun _ h => h
  exact hserved.state ⟨rfl, .refl _, .refl _, rfl, rfl⟩

/-- Requests of another kind have no turns. -/
theorem RequestStep.sameTurns {kind : RequestKind} {db db' : Db} (hkind : kind ≠ .chat)
    (hstep : RequestStep base kind db db') : SameTurns db db' := by
  cases hstep with
  -- Tools, and messages without a run, leave the turns alone.
  | tools kind args writes db => exact (SameTurns.refl db).tools writes
  | message kind db m hrun =>
    refine (SameTurns.refl db).message ?_
    cases hid : m.runId with
    | none => rfl
    | some id => exact absurd (hrun id hid).1 hkind
  -- These steps are a chat's.
  | newRun => exact absurd rfl hkind
  | agentEvent => exact absurd rfl hkind
  | run => exact absurd rfl hkind
  | usage => exact absurd rfl hkind
  -- The other tables are none of the turns'.
  | session => exact ⟨rfl, rfl, rfl, rfl⟩
  | newWorkflowRun => exact ⟨rfl, rfl, rfl, rfl⟩
  | workflowEvent => exact ⟨rfl, rfl, rfl, rfl⟩
  | workflowRun => exact ⟨rfl, rfl, rfl, rfl⟩
  | newStep => exact ⟨rfl, rfl, rfl, rfl⟩
  | step => exact ⟨rfl, rfl, rfl, rfl⟩
  | newPlanRun => exact ⟨rfl, rfl, rfl, rfl⟩
  | planRun => exact ⟨rfl, rfl, rfl, rfl⟩
  | newPlanStep => exact ⟨rfl, rfl, rfl, rfl⟩
  | planStep => exact ⟨rfl, rfl, rfl, rfl⟩

/-- A request leaves runs that tell a story, if it finds such. -/
theorem runsTold_served (env : Env) (request : Request) (store : Store) (h : RunsTold store.db) :
    RunsTold (request.served env store).store.db := by
  have hsteps {db : Db} (hkind : request.kind ≠ .chat)
      (hreaches : RequestReaches store.db request.kind db) : RunsTold db := by
    induction hreaches with
    | refl => exact h
    | tail _ hstep ih => exact ih.of_same (hstep.sameTurns hkind)
  have hreaches := Request.served_reaches env store request
  cases request with
  | chat payload => exact (chat_told env store payload).runsTold h
  | chatStream payload => exact (stream_told env store payload).turnTold.runsTold h
  | runWorkflow => exact hsteps nofun hreaches
  | runWorkflowStream => exact hsteps nofun hreaches
  | runExecutionPlan => exact hsteps nofun hreaches

/-- After any chats, workflow runs and plans, with any failures, every run tells a story: one message
    of the user, its start, the events of the engine, and what goes with its status. -/
theorem runs_told (store : Store) (h : RunsTold store.db) (history : List (Env × Request)) :
    RunsTold (servedAll store history).db :=
  servedAll_invariant (P := fun s => RunsTold s.db) runsTold_served h history

/-- The theorem on the deployment, after a turn that was answered, a streamed turn whose engine
    failed, and a workflow. -/
theorem runs_told_example : RunsTold (servedAll Deployment.store
    [(Deployment.env .trustClientUserId none (Deployment.answering "Hi"),
        .chat (Deployment.hello (some "sales") none)),
      (Deployment.env .trustClientUserId none Deployment.failing,
        .chatStream (Deployment.hello none (some "alice"))),
      (Deployment.env .trustClientUserId none (Deployment.answering "Hi"),
        .runWorkflow 1 ⟨"Hello", none, none⟩)]).db :=
  runs_told Deployment.store
    ⟨fun _ h => (by cases h), fun _ h => (by cases h), fun _ h => (by cases h)⟩ _

end AgnoRuntime
