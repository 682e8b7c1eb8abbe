import AgnoRuntime.Spec.OpenTurns

/-!
# How a streamed turn ends

Where nothing disturbs it, a turn of `handle_chat_stream` processes the events of the
engine until it sees a cancellation, or to the end of the stream, and then ends in
one of three ways. The run with its messages, the recorded events and the last item
the client is sent tell the same story, which `StreamedTurn` spells out.
-/

namespace AgnoRuntime

open Svc Prog ChatService

/-- The ways a streamed turn ends. -/
inductive TurnEnd where
  | completed
  | failed (message : String)
  | cancelled
deriving DecidableEq

namespace TurnEnd

/-- The status of the run. -/
def status : TurnEnd → RunStatus
  | completed => .completed
  | failed _ => .failed
  | cancelled => .cancelled

/-- `run.output`, where the assistant has said `text`. -/
def output (text : String) : TurnEnd → Option String
  | completed => some text
  | failed _ => none
  | cancelled => if text = "" then none else some text

/-- `run.error_message`. -/
def errorMessage : TurnEnd → Option String
  | completed => none
  | failed message => some message
  | cancelled => some RunTrackingService.cancelledReason

/-- What the assistant's message says, if there is one. -/
def reply (text : String) : TurnEnd → Option String
  | completed => some text
  | failed _ => none
  | cancelled => if text = "" then none else some text

/-- The event that is recorded last. -/
def event (runId : Uuid) (text : String) : TurnEnd → AgentEvent
  | completed => ⟨runId, .agentCompleted, .outputLength text.length⟩
  | failed message => ⟨runId, .error, .error message⟩
  | cancelled => ⟨runId, .runCancelled, .cancelled RunTrackingService.cancelledReason text.length⟩

/-- The item that is sent last. -/
def item (turn : ChatTurn) (text : String) : TurnEnd → StreamItem
  | completed => turn.item "agent_completed" (.completed text)
  | failed message => turn.item "error" (.error message)
  | cancelled => turn.item "run_cancelled" (.cancelled "Run cancelled by user" text)

/-- How a turn ends that has processed these events of a stream. -/
def ofStream (stream : EventStream) (processed : List StreamEvent) : TurnEnd :=
  if processed.length < stream.events.length then cancelled
  else
    match stream.error with
    | none => completed
    | some exc => failed exc.str

end TurnEnd

/-- The assistant's text in the events of a stream. -/
def assistantText (events : List StreamEvent) : String :=
  mergeContentParts (events.filterMap fun event => Progress.contentPiece event.payload)

/-- A message of the turn. -/
def ChatService.ChatTurn.message (turn : ChatTurn) (role : MessageRole) (content : String) :
    ChatMessage :=
  ⟨turn.sessionId, some turn.runId, role, content⟩

/-- A turn that was opened on `db`, has processed these events and ended so. -/
structure StreamedTurn (turn : ChatTurn) (db : Db) (processed : List StreamEvent)
    (ending : TurnEnd) (w : World) : Prop where
  /-- The run goes from pending to running to its end, and no further. -/
  history : statusHistory turn.runId w.statements = [.pending, .running, ending.status]
  run : w.committed.agentRuns.find? turn.runId =
    some ⟨turn.runId, turn.sessionId, turn.agent.id, ending.status, turn.request.message,
      ending.output (assistantText processed), ending.errorMessage⟩
  messages : messagesOf turn.runId w.committed = messagesOf turn.runId db ++
    turn.message .user turn.request.message ::
      ((ending.reply (assistantText processed)).map (turn.message .assistant)).toList
  events : w.committed.agentEvents = db.agentEvents ++
    ⟨turn.runId, .agentStarted, .input turn.request.message⟩ ::
      (processed.map (engineEvent turn.runId) ++
        [ending.event turn.runId (assistantText processed)])
  last : w.yielded.getLast? = some (ending.item turn (assistantText processed))

/-- `handle_chat_stream` up to the commit of its run as running. -/
def openStreamTurn (env : Env) (payload : ChatRequest) : Svc ChatTurn := do
  let dispatch ← resolveDispatch env (resolveIdentity env payload).1
  beginStream env (resolveIdentity env payload).1 (resolveIdentity env payload).2 dispatch

/-- The stream the engine answers a turn with, in its first call. -/
def engineStream (env : Env) (turn : ChatTurn) (m : Metadata) : EventStream :=
  streamOutcome turn.dispatch (turn.args turn.request.uiContext) (env.call 0) m

/-! ## The text of a turn -/

/-- The parts of a turn's text are the pieces of its events. -/
theorem contentParts_addAll (progress : Progress) (events : List StreamEvent) :
    (progress.addAll events).contentParts = progress.contentParts ++
      events.filterMap fun event => Progress.contentPiece event.payload := by
  induction events generalizing progress with
  | nil =>
    rw [List.filterMap_nil, List.append_nil]
    rfl
  | cons event events ih =>
    have hnext : progress.addAll (event :: events) =
        (progress.add event.payload).addAll events := rfl
    rw [hnext, ih]
    show progress.contentParts ++ (Progress.contentPiece event.payload).toList ++ _ = _
    rw [List.append_assoc, List.filterMap_cons]
    cases Progress.contentPiece event.payload with
    | none => rfl
    | some piece => rfl

theorem text_addAll (events : List StreamEvent) :
    (Progress.empty.addAll events).text = assistantText events := by
  rw [Progress.text, contentParts_addAll]
  rfl

/-! ## The three endings -/

section Endings

variable {env : Env} (henv : env.Healthy) {turn : ChatTurn} {v : TurnView} {w : World}

include henv

/-- `mark_completed`, `mark_failed` and `mark_cancelled`: the run changes, and an event is added. -/
theorem mark_undisturbed (status : RunStatus) (f : AgentRun → AgentRun) (hf : ∀ r, (f r).id = r.id)
    (eventType : EventType) (payload : EventPayload) (hw : InView turn.runId v w) :
    ∃ w', (RunTrackingService.updateRun env turn.runId status f hf >>= fun _ =>
        RunTrackingService.emitEvent env turn.runId eventType payload) w = (.ok (), w') ∧
      InView turn.runId ((v.withRun status f).withEvents [⟨turn.runId, eventType, payload⟩]) w' ∧
      w'.yielded = w.yielded := by
  have hrun := hw.run status f hf
  rw [bind_apply_ok (updateRun_accepted henv.refusesAuditOnly hw.inOrder _ _ _ _),
    emitEvent_accepted henv.refusesAuditOnly hrun.inOrder]
  exact ⟨_, rfl, hrun.event _, rfl⟩

/-- The assistant's message, if there is one. -/
theorem savePartialOutput_undisturbed (text : String) (hw : InView turn.runId v w) :
    ∃ w', savePartialOutput env turn text w = (.ok (), w') ∧
      InView turn.runId { v with messages := v.messages ++
        ((TurnEnd.cancelled.reply text).map (turn.message .assistant)).toList } w' ∧
      w'.yielded = w.yielded := by
  rw [savePartialOutput, TurnEnd.reply]
  by_cases hempty : text = ""
  · simp only [hempty, if_true, Option.map_none, Option.toList_none, List.append_nil]
    exact ⟨w, rfl, hw, rfl⟩
  · simp only [hempty, if_false]
    rw [createMessage_accepted henv.refusesAuditOnly hw.inOrder]
    exact ⟨_, rfl, hw.message rfl, rfl⟩

/-- A cancellation is settled and announced. -/
theorem handleCancellation_undisturbed (progress : Progress) (hw : InView turn.runId v w) :
    ∃ w', handleCancellation env turn progress w = (.ok (), w') ∧
      InView turn.runId
        (({ v with messages := v.messages ++
            ((TurnEnd.cancelled.reply progress.text).map (turn.message .assistant)).toList }.withRun
          .cancelled fun r => { r with
            output := TurnEnd.cancelled.output progress.text
            errorMessage := some RunTrackingService.cancelledReason }).withEvents
          [TurnEnd.cancelled.event turn.runId progress.text]) w' ∧
      w'.committed = w'.working ∧
      w'.yielded = w.yielded ++ [TurnEnd.cancelled.item turn progress.text] := by
  obtain ⟨w₁, hsave, hsaved, hyielded₁⟩ := savePartialOutput_undisturbed henv progress.text hw
  obtain ⟨w₂, hmark, hmarked, hyielded₂⟩ := mark_undisturbed henv .cancelled
    (fun r => { r with
      output := if progress.text = "" then none else some progress.text
      errorMessage := some RunTrackingService.cancelledReason })
    (fun _ => rfl) .runCancelled
    (.cancelled RunTrackingService.cancelledReason progress.text.length) hsaved
  have hmark : RunTrackingService.markCancelled env turn.runId progress.text w₁ = (.ok (), w₂) :=
    hmark
  rw [handleCancellation, bind_apply_ok hsave, bind_apply_ok hmark,
    bind_apply_ok (commit_accepted henv.refusesAuditOnly hmarked.inOrder),
    bind_apply_ok (redisCommand_undisturbed henv id _), yieldItem_undisturbed henv]
  refine ⟨_, rfl, (hmarked.saved.commanded id).shown _, rfl, ?_⟩
  show w₂.yielded ++ [_] = w.yielded ++ [_]
  rw [hyielded₂, hyielded₁]
  rfl

/-- A failure is settled and announced. -/
theorem failStream_undisturbed {exc : PyError} (hexc : exc.isRuntimeExecution = true)
    (hw : InView turn.runId v w) :
    ∃ w', failStream env turn exc w = (.ok none, w') ∧
      InView turn.runId ((v.withRun .failed fun r => { r with
        errorMessage := some exc.str }).withEvents [⟨turn.runId, .error, .error exc.str⟩]) w' ∧
      w'.committed = w'.working ∧
      w'.yielded = w.yielded ++ [turn.item "error" (.error exc.str)] := by
  obtain ⟨w₁, hmark, hmarked, hyielded₁⟩ := mark_undisturbed henv .failed
    (fun r => { r with errorMessage := some exc.str }) (fun _ => rfl) .error (.error exc.str) hw
  have hmark : RunTrackingService.markFailed env turn.runId exc.str w = (.ok (), w₁) := hmark
  rw [failStream, if_pos hexc, bind_apply_ok hmark,
    bind_apply_ok (commit_accepted henv.refusesAuditOnly hmarked.inOrder),
    bind_apply_ok (yieldItem_undisturbed henv _ _)]
  refine ⟨_, rfl, hmarked.saved.shown _, rfl, ?_⟩
  show w₁.yielded ++ [_] = w.yielded ++ [_]
  rw [hyielded₁]

/-- A completed turn is settled, charged and announced. -/
theorem endStreamTurn_undisturbed (result : TurnResult) (hw : InView turn.runId v w) :
    ∃ w', endStreamTurn env turn result w = (.ok (), w') ∧
      InView turn.runId ((v.completed turn result).charged env turn result) w' ∧
      w'.committed = w'.working ∧
      w'.yielded = w.yielded ++ [turn.item "agent_completed" (.completed result.output)] := by
  obtain ⟨w₁, hcomplete, hcompleted, hyielded₁⟩ := completeTurn_undisturbed henv result hw
  obtain ⟨w₂, hrecord, hrecorded, hcommitted, hyielded₂⟩ :=
    recordTurn_undisturbed henv result hcompleted.saved
  rw [endStreamTurn, bind_apply_ok hcomplete,
    bind_apply_ok (commit_accepted henv.refusesAuditOnly hcompleted.inOrder),
    bind_apply_ok hrecord, bind_apply_ok (attributes_apply hrecorded.loaded),
    yieldItem_undisturbed henv]
  refine ⟨_, rfl, hrecorded.shown _, hcommitted rfl, ?_⟩
  show w₂.yielded ++ [_] = w.yielded ++ [_]
  rw [hyielded₂, ← hyielded₁]
  rfl

end Endings

/-! ## The turn -/

section Turn

variable {env : Env} (henv : env.Healthy) {turn : ChatTurn} {v : TurnView} {w : World}

/-- A run after a turn that ended so. -/
def TurnEnd.mark (ending : TurnEnd) (text : String) (run : AgentRun) : AgentRun :=
  { run with
    status := ending.status
    output := ending.output text
    errorMessage := ending.errorMessage }

/-- The world that a turn with this run ended in shows this. -/
structure Ended (turn : ChatTurn) (v : TurnView) (run : AgentRun) (processed : List StreamEvent)
    (ending : TurnEnd) (w : World) : Prop where
  inOrder : w.failed = false
  committed : w.committed = w.working
  history : statusHistory turn.runId w.statements = v.history ++ [ending.status]
  run : w.working.agentRuns.find? turn.runId = some (ending.mark (assistantText processed) run)
  messages : messagesOf turn.runId w.working = v.messages ++
    ((ending.reply (assistantText processed)).map (turn.message .assistant)).toList
  events : w.working.agentEvents = v.events ++ (processed.map (engineEvent turn.runId) ++
    [ending.event turn.runId (assistantText processed)])
  last : w.yielded.getLast? = some (ending.item turn (assistantText processed))

/-- The view of the last world says how the turn ended. -/
theorem Ended.of_inView {run : AgentRun} {processed : List StreamEvent} {ending : TurnEnd}
    {ended : TurnView}
    {sent : List StreamItem} (h : InView turn.runId ended w) (hcommitted : w.committed = w.working)
    (hyielded : w.yielded = sent ++ [ending.item turn (assistantText processed)])
    (hhistory : ended.history = v.history ++ [ending.status])
    (hrun : ended.run = some (ending.mark (assistantText processed) run))
    (hmessages : ended.messages = v.messages ++
      ((ending.reply (assistantText processed)).map (turn.message .assistant)).toList)
    (hevents : ended.events = v.events ++ (processed.map (engineEvent turn.runId) ++
      [ending.event turn.runId (assistantText processed)])) :
    Ended turn v run processed ending w where
  inOrder := h.inOrder
  committed := hcommitted
  history := (congrArg TurnView.history h.view).trans hhistory
  run := (congrArg TurnView.run h.view).trans hrun
  messages := (congrArg TurnView.messages h.view).trans hmessages
  events := (congrArg TurnView.events h.view).trans hevents
  last := by rw [hyielded, List.getLast?_concat]

/-- The stream of a turn leads to what its events and its end lead to. -/
theorem forwardStream_of_processed {live : LiveStream (turn.args turn.request.uiContext)}
    {progress : Progress} {cancelled : Bool} {w₁ w₂ : World}
    (hopen : openStream env turn.dispatch (turn.args turn.request.uiContext) w = (.ok live, w₁))
    (hprocess : processEvents env turn live live.stream.events 0 Progress.empty w₁ =
      (.ok (progress, cancelled), w₂)) :
    forwardStream env turn w =
      (if cancelled then do
          handleCancellation env turn progress
          return none
        else do
          endStream live
          return some progress : Svc (Option Progress)).handleError (failStream env turn) w₂ := by
  rw [forwardStream, handleError, handleError, bind_apply_ok hopen, streamEvents_eq, bind_assoc,
    bind_apply_ok hprocess]
  cases cancelled with
  | true => simp only [concludeEvents, if_true, bind_assoc, pure_bind]
  | false => simp only [concludeEvents, Bool.false_eq_true, if_false, pure_bind]

section Forwarded

variable {live : LiveStream (turn.args turn.request.uiContext)} {progress : Progress}
  {w₁ w₂ w₃ : World}

/-- A stream that is cut short leads to the cancellation of the turn. -/
theorem forwardStream_cancelled
    (hopen : openStream env turn.dispatch (turn.args turn.request.uiContext) w = (.ok live, w₁))
    (hprocess : processEvents env turn live live.stream.events 0 Progress.empty w₁ =
      (.ok (progress, true), w₂))
    (hcancel : handleCancellation env turn progress w₂ = (.ok (), w₃)) :
    forwardStream env turn w = (.ok none, w₃) := by
  rw [forwardStream_of_processed hopen hprocess, if_pos rfl]
  apply handleError_apply_ok
  rw [bind_apply_ok hcancel]
  rfl

/-- A stream that comes to its end leaves what was gathered on the way. -/
theorem forwardStream_ended
    (hopen : openStream env turn.dispatch (turn.args turn.request.uiContext) w = (.ok live, w₁))
    (hprocess : processEvents env turn live live.stream.events 0 Progress.empty w₁ =
      (.ok (progress, false), w₂))
    (hend : live.stream.error = none) :
    forwardStream env turn w =
      (.ok (some progress), w₂.tooled (live.tools live.stream.events.length)) := by
  rw [forwardStream_of_processed hopen hprocess, if_neg Bool.false_ne_true]
  apply handleError_apply_ok
  rw [bind_apply_ok (endStream_apply_ok hend w₂)]
  rfl

/-- A stream that ends with an exception leads to where the turn fails. -/
theorem forwardStream_failed {exc : PyError}
    (hopen : openStream env turn.dispatch (turn.args turn.request.uiContext) w = (.ok live, w₁))
    (hprocess : processEvents env turn live live.stream.events 0 Progress.empty w₁ =
      (.ok (progress, false), w₂))
    (hend : live.stream.error = some exc) :
    forwardStream env turn w =
      failStream env turn exc { w₂.tooled (live.tools live.stream.events.length) with
        engineErrors := w₂.engineErrors ++ [exc] } := by
  rw [forwardStream_of_processed hopen hprocess, if_neg Bool.false_ne_true,
    handleError_apply_error (bind_apply_error (endStream_apply_error hend w₂))]

end Forwarded

include henv

/-- From its first event on, a turn processes the events it gets to, and ends. -/
theorem continueStream_undisturbed (hw : InView turn.runId v w) {run : AgentRun}
    (hrun : v.run = some run) (hfresh : run.output = none ∧ run.errorMessage = none)
    {stream : EventStream}
    (hstream : stream = streamOutcome turn.dispatch (turn.args turn.request.uiContext)
      (env.call w.engineCalls.length) w.working.metadata)
    (hengine : ∀ exc, stream.error = some exc → exc.isRuntimeExecution = true)
    {processed : List StreamEvent}
    (hprocessed : processed = processedEvents env turn.runId stream.events w.ticks) :
    ∃ w', continueStream env turn w = (.ok (), w') ∧
      Ended turn v run processed (.ofStream stream processed) w' := by
  generalize hstarted : turn.item "agent_started" (.started turn.agent.code turn.team.code) =
    started
  have hopen := openStream_apply env turn.dispatch (turn.args turn.request.uiContext)
    (w.shown started)
  rw [World.shown_working, show (w.shown started).engineCalls = w.engineCalls from rfl,
    ← hstream] at hopen
  generalize hlive : (⟨stream, _⟩ : LiveStream _) = live at hopen
  have hevents : live.stream = stream := by
    rw [← hlive]
  -- The events that are processed before the end or the cancellation.
  obtain ⟨w₁, hprocess, hview⟩ := processEvents_undisturbed henv live live.stream.events 0
    Progress.empty ((hw.shown started).called ⟨turn.dispatch, turn.args turn.request.uiContext⟩)
  have hticks : ((w.shown started).called
      ⟨turn.dispatch, turn.args turn.request.uiContext⟩).ticks = w.ticks := rfl
  rw [hticks, show processedEvents env turn.runId live.stream.events w.ticks = processed by
    rw [hevents, hprocessed]] at hprocess hview
  rw [ChatService.continueStream, hstarted, bind_apply_ok (yieldItem_undisturbed henv started w)]
  rw [TurnEnd.ofStream]
  -- The stream was cut short, came to its end, or ended with an exception of the engine.
  by_cases hcancelled : processed.length < stream.events.length
  · rw [if_pos hcancelled]
    rw [hevents, decide_eq_true hcancelled, ← hevents] at hprocess
    obtain ⟨w₂, hcancel, hended, hcommitted, hyielded⟩ :=
      handleCancellation_undisturbed henv (Progress.empty.addAll processed) hview
    rw [bind_apply_ok (forwardStream_cancelled hopen hprocess hcancel)]
    rw [text_addAll] at hended hyielded
    refine ⟨w₂, rfl, .of_inView hended hcommitted hyielded rfl ?_ rfl ?_⟩
    · show v.run.map _ = _
      rw [hrun]
      rfl
    · exact List.append_assoc _ _ _
  · rw [if_neg hcancelled]
    rw [hevents, decide_eq_false hcancelled, ← hevents] at hprocess
    have htooled := hview.tooled (live.tools live.stream.events.length)
    cases herror : stream.error with
    | none =>
      obtain ⟨w₂, hcomplete, hended, hcommitted, hyielded⟩ :=
        endStreamTurn_undisturbed henv (resultOf (Progress.empty.addAll processed)) htooled
      rw [bind_apply_ok (forwardStream_ended hopen hprocess (hevents ▸ herror))]
      rw [resultOf, text_addAll] at hended hyielded
      refine ⟨w₂, hcomplete, .of_inView hended hcommitted hyielded ?_ ?_ ?_ ?_⟩
      · rw [TurnView.charged_history]
        rfl
      · rw [TurnView.charged_run]
        show v.run.map _ = _
        rw [hrun, TurnEnd.mark, TurnEnd.errorMessage, ← hfresh.2]
        rfl
      · rw [TurnView.charged_messages]
        rfl
      · rw [TurnView.charged_events]
        exact List.append_assoc _ _ _
    | some exc =>
      have hforward := forwardStream_failed hopen hprocess (hevents ▸ herror)
      generalize hraised : ({ w₁.tooled (live.tools live.stream.events.length) with
        engineErrors := w₁.engineErrors ++ [exc] } : World) = w₂ at hforward
      have hview₂ : InView turn.runId ((v.withCall
          ⟨turn.dispatch, turn.args turn.request.uiContext⟩).withEvents
            (processed.map (engineEvent turn.runId))) w₂ := by
        rw [← hraised]
        exact ⟨htooled.inOrder, htooled.loaded, htooled.view⟩
      obtain ⟨w₃, hfail, hended, hcommitted, hyielded⟩ :=
        failStream_undisturbed henv (hengine exc herror) hview₂
      rw [bind_apply_ok (hforward.trans hfail)]
      refine ⟨w₃, rfl, .of_inView hended hcommitted hyielded rfl ?_ ?_ ?_⟩
      · show v.run.map _ = _
        rw [hrun, TurnEnd.mark, TurnEnd.output, ← hfresh.1]
        rfl
      · exact (List.append_nil _).symm
      · exact List.append_assoc _ _ _

end Turn

/-! ## The request -/

variable {env : Env} {turn : ChatTurn}

/-- `handle_chat_stream` opens a turn, and goes on with it. -/
theorem handleChatStream_eq_openStreamTurn (payload : ChatRequest) :
    handleChatStream env payload = openStreamTurn env payload >>= continueStream env := by
  rw [openStreamTurn, bind_assoc]
  rfl

/-- A turn that is opened is committed as running, on tables that are otherwise those of before. -/
theorem openStreamTurn_inView {payload : ChatRequest} {store : Store} {w : World}
    (h : openStreamTurn env payload (World.start store) = (.ok turn, w)) :
    InView turn.runId ((viewOf turn.runId (World.start store)).started turn) w ∧
      w.committed = w.working ∧ w.yielded = [] := by
  obtain ⟨dispatch, w₁, hresolve, hbegin⟩ := bind_eq_ok.mp h
  obtain ⟨-, rfl⟩ := resolveDispatch_eq_ok hresolve
  obtain ⟨hview, hcommitted, hyielded, -⟩ := beginStream_inView rfl hbegin
  exact ⟨hview, hcommitted, hyielded⟩

/-- Where nothing disturbs it, a turn of `handle_chat_stream` whose engine ends its stream or raises
    `RuntimeExecutionError` ends as its stream and the cancel requests say, and the run, its
    messages, the recorded events and the last item sent agree. -/
theorem streamedTurn_of_open (env : Env) (henv : env.Healthy) (store : Store)
    (payload : ChatRequest) (turn : ChatTurn) (w : World)
    (hopen : openStreamTurn env payload (World.start store) = (.ok turn, w))
    (stream : EventStream) (hstream : stream = engineStream env turn store.db.metadata)
    (hengine : ∀ exc, stream.error = some exc → exc.isRuntimeExecution = true)
    (processed : List StreamEvent)
    (hprocessed : processed = processedEvents env turn.runId stream.events w.ticks) :
    StreamedTurn turn store.db processed (.ofStream stream processed)
      ((Request.chatStream payload).served env store) := by
  obtain ⟨hview, -, -⟩ := openStreamTurn_inView hopen
  -- The engine is asked in the tables that were there before.
  have hmetadata : w.working.metadata = store.db.metadata :=
    congrArg TurnView.metadata hview.view
  have hcalls : w.engineCalls = [] := congrArg TurnView.calls hview.view
  rw [engineStream] at hstream
  obtain ⟨w', hcontinue, hended⟩ := continueStream_undisturbed henv hview rfl ⟨rfl, rfl⟩
    (by rw [hmetadata, hcalls]; exact hstream) hengine hprocessed
  -- The request is served, and its last commit is that of the turn.
  have hhandled : handleChatStream env payload (World.start store) = (.ok (), w') := by
    rw [handleChatStream_eq_openStreamTurn, bind_apply_ok hopen, hcontinue]
  have hserved : (Request.chatStream payload).served env store =
      { w' with working := w'.committed, failed := false, expired := true } := by
    rw [Request.served, Request.handle, streamed, bind_assoc, bind_apply_ok (attempt_apply _ _),
      hhandled]
    rfl
  rw [hserved]
  constructor
  -- What is committed is what the turn has left.
  · exact hended.history
  · show w'.committed.agentRuns.find? _ = _
    rw [hended.committed]
    exact hended.run
  · show messagesOf _ w'.committed = _
    rw [hended.committed, List.append_cons]
    exact hended.messages
  · show w'.committed.agentEvents = _
    rw [hended.committed, List.append_cons]
    exact hended.events
  · exact hended.last

section Examples

open Deployment

/-- A team that has answered something when the model fails. -/
def Deployment.brokenOff : AgnoCall :=
  agno (.error (.other "model unavailable"))
    [⟨"TeamRunResponseContent", some "Hi", [], some (UuidText.text 1)⟩]
    (some (.other "model unavailable"))

/-- The deployment over that team. -/
def Deployment.interrupted : Env := Deployment.env .trustClientUserId none brokenOff

/-- A request to the team is opened, and its stream ends in a `RuntimeExecutionError`. -/
private theorem interrupted_opens : ∃ turn w,
    openStreamTurn interrupted (hello (some "sales") none) (World.start store) = (.ok turn, w) ∧
    (∀ exc, (engineStream interrupted turn db.metadata).error = some exc →
      exc.isRuntimeExecution = true) ∧
    assistantText (processedEvents interrupted turn.runId
      (engineStream interrupted turn db.metadata).events w.ticks) = "Hi" ∧
    (((Request.chatStream (hello (some "sales") none)).served interrupted
      store).committed.agentRuns.find? turn.runId).map (·.output) = some none := by
  have hchecked :
      (match openStreamTurn interrupted (hello (some "sales") none) (World.start store) with
      | (.ok turn, w) =>
        let stream := engineStream interrupted turn db.metadata
        stream.error.all PyError.isRuntimeExecution &&
        decide (assistantText (processedEvents interrupted turn.runId stream.events w.ticks) =
          "Hi") &&
        decide ((((Request.chatStream (hello (some "sales") none)).served interrupted
          store).committed.agentRuns.find? turn.runId).map (·.output) = some none)
      | (.error _, _) => false) = true := by
    decide +kernel
  rcases hopen : openStreamTurn interrupted (hello (some "sales") none) (World.start store) with
    ⟨exc | turn, w⟩
  · rw [hopen] at hchecked
    cases hchecked
  · rw [hopen] at hchecked
    simp only [Bool.and_eq_true, decide_eq_true_eq] at hchecked
    obtain ⟨⟨herror, htext⟩, houtput⟩ := hchecked
    refine ⟨turn, w, rfl, fun exc hexc => ?_, htext, houtput⟩
    rw [hexc] at herror
    exact herror

/-- The theorem at a turn that fails halfway. -/
theorem streamedTurn_of_open_example : ∃ turn processed ending,
    StreamedTurn turn db processed ending
      ((Request.chatStream (hello (some "sales") none)).served interrupted store) := by
  obtain ⟨turn, w, hopen, hengine, -⟩ := interrupted_opens
  have hhealthy : interrupted.Healthy := ⟨fun _ _ _ => rfl, fun _ => rfl, fun _ => rfl⟩
  exact ⟨turn, _, _, streamedTurn_of_open interrupted hhealthy store _ turn w hopen _ rfl hengine _
    rfl⟩

/-- The run of that turn has no output, though the assistant has said something before the turn
    failed. -/
theorem failed_turn_without_output : ∃ turn w,
    openStreamTurn interrupted (hello (some "sales") none) (World.start store) = (.ok turn, w) ∧
    ¬(((Request.chatStream (hello (some "sales") none)).served interrupted
      store).committed.agentRuns.find? turn.runId).bind (·.output) =
        some (assistantText (processedEvents interrupted turn.runId
          (engineStream interrupted turn db.metadata).events w.ticks)) := by
  obtain ⟨turn, w, hopen, -, -, houtput⟩ := interrupted_opens
  refine ⟨turn, w, hopen, fun h => ?_⟩
  obtain ⟨run, hrun, hnone⟩ := Option.map_eq_some_iff.mp houtput
  rw [hrun, Option.bind_some, hnone] at h
  cases h

end Examples

end AgnoRuntime
