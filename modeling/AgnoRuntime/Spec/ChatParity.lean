import AgnoRuntime.Spec.FailedRuns
import AgnoRuntime.Spec.StreamedTurns

/-!
# The same turn with and without streaming

`handle_chat` and `handle_chat_stream` are meant to differ in the shape of their
response only. Where nothing disturbs them, both show the same sequence of changes,
made from the call of the engine, the events recorded and the result; so what they
leave agrees exactly where these three do. The root branch of `handle_chat` drops
`ui_context`, and its team branch calls `run_team`, which gives neither events nor
tokens.
-/

namespace AgnoRuntime

open Svc Prog ChatService

/-- Two requests did the same turn: they called the engine the same way, and left the same events,
    the same messages of the run and the same usage. -/
structure SameTurn (runId : Uuid) (w w' : World) : Prop where
  calls : w.engineCalls = w'.engineCalls
  events : w.committed.agentEvents = w'.committed.agentEvents
  messages : messagesOf runId w.committed = messagesOf runId w'.committed
  usage : w.committed.quotaUsageEvents = w'.committed.quotaUsageEvents

/-- What both endpoints do first: resolve the dispatch and open the turn. -/
def openChatTurn (env : Env) (payload : ChatRequest) : Svc ChatTurn := do
  let dispatch ← resolveDispatch env (resolveIdentity env payload).1
  openTurn env (resolveIdentity env payload).1 (resolveIdentity env payload).2 dispatch

/-- The stream a turn is answered with, for a `ui_context`. -/
def streamFor (env : Env) (turn : ChatTurn) (m : Metadata) (uiContext : Option UIContextFields) :
    EventStream :=
  streamOutcome turn.dispatch (turn.args uiContext) (env.call 0) m

/-- The output a turn is answered with when it is not streamed. -/
def outputFor (env : Env) (turn : ChatTurn) (m : Metadata) : Except PyError String :=
  runOutcome turn.dispatch (turn.args turn.request.uiContext) (env.call 0) m

/-- Neither method of the engine fails for the turn, with its `ui_context` or without. -/
structure NeverFails (env : Env) (turn : ChatTurn) (m : Metadata) : Prop where
  run : ∃ output, outputFor env turn m = .ok output
  stream : (streamFor env turn m turn.request.uiContext).error = none
  streamWithout : (streamFor env turn m none).error = none

/-- The two endpoints execute the turn the same way. -/
def ExecutedAlike (env : Env) (turn : ChatTurn) (m : Metadata) : Prop :=
  match turn.dispatch with
  | .runtime _ => True
  | .root _ => turn.request.uiContext = none
  | .team _ =>
    (streamFor env turn m turn.request.uiContext).events = [] ∧ outputFor env turn m = .ok ""

/-! ## What a turn shows -/

/-- What the engine was asked for in a turn, the events it sent and what came out. -/
structure Execution where
  call : EngineCall
  events : List StreamEvent
  result : TurnResult

/-- The turn was executed so. -/
def TurnView.executed (v : TurnView) (turn : ChatTurn) (x : Execution) : TurnView :=
  (v.withCall x.call).withEvents (x.events.map (engineEvent turn.runId))

/-- The turn was opened, executed so, completed and charged. -/
def TurnView.ran (v : TurnView) (env : Env) (turn : ChatTurn) (x : Execution) : TurnView :=
  (((v.started turn).executed turn x).completed turn x.result).charged env turn x.result

/-- A stream consumed to its end. -/
def Execution.ofStream (turn : ChatTurn) (uiContext : Option UIContextFields)
    (stream : EventStream) : Execution :=
  ⟨⟨turn.dispatch, turn.args uiContext⟩, stream.events,
    resultOf (Progress.empty.addAll stream.events)⟩

/-- The execution of a turn by `handle_chat`, with this output where it is not streamed. -/
def chatExecution (env : Env) (turn : ChatTurn) (m : Metadata) (output : String) : Execution :=
  match turn.dispatch with
  | .runtime _ =>
    .ofStream turn turn.request.uiContext (streamFor env turn m turn.request.uiContext)
  | .team _ => ⟨⟨turn.dispatch, turn.args turn.request.uiContext⟩, [], ⟨output, 0, 0⟩⟩
  | .root _ => .ofStream turn none (streamFor env turn m none)

/-- The execution of a turn by `handle_chat_stream`. -/
def streamExecution (env : Env) (turn : ChatTurn) (m : Metadata) : Execution :=
  .ofStream turn turn.request.uiContext (streamFor env turn m turn.request.uiContext)

section Ran

variable {v : TurnView} {env : Env} {turn : ChatTurn} {x y : Execution}

theorem ran_calls : (v.ran env turn x).calls = v.calls ++ [x.call] := by
  rw [TurnView.ran, TurnView.charged_calls]
  rfl

theorem ran_events : (v.ran env turn x).events = v.events ++
    [⟨turn.runId, .agentStarted, .input turn.request.message⟩] ++
      x.events.map (engineEvent turn.runId) ++
        [⟨turn.runId, .agentCompleted, .outputLength x.result.output.length⟩] := by
  rw [TurnView.ran, TurnView.charged_events]
  rfl

theorem ran_messages : (v.ran env turn x).messages = v.messages ++
    [turn.message .user turn.request.message] ++ [turn.message .assistant x.result.output] := by
  rw [TurnView.ran, TurnView.charged_messages]
  rfl

/-- What is compared of two requests shows in their views, once everything is committed. -/
theorem sameTurn_iff_views {runId : Uuid} {v v' : TurnView} {w w' : World}
    (h : viewOf runId w = v) (hcommitted : w.committed = w.working) (h' : viewOf runId w' = v')
    (hcommitted' : w'.committed = w'.working) :
    SameTurn runId w w' ↔ v.calls = v'.calls ∧ v.events = v'.events ∧
      v.messages = v'.messages ∧ v.usage = v'.usage := by
  rw [← h, ← h']
  constructor
  · intro hsame
    obtain ⟨hcalls, hevents, hmessages, husage⟩ := hsame
    rw [hcommitted, hcommitted'] at hevents hmessages husage
    exact ⟨hcalls, hevents, hmessages, husage⟩
  · intro hviews
    obtain ⟨hcalls, hevents, hmessages, husage⟩ := hviews
    constructor
    · exact hcalls
    · rw [hcommitted, hcommitted']
      exact hevents
    · rw [hcommitted, hcommitted']
      exact hmessages
    · rw [hcommitted, hcommitted']
      exact husage

/-- Views that agree in what is compared come of the same call, as many events and the same
    output. -/
theorem execution_of_same (hcalls : (v.ran env turn x).calls = (v.ran env turn y).calls)
    (hevents : (v.ran env turn x).events = (v.ran env turn y).events)
    (hmessages : (v.ran env turn x).messages = (v.ran env turn y).messages) :
    x.call = y.call ∧ x.events.length = y.events.length ∧ x.result.output = y.result.output := by
  rw [ran_calls, ran_calls, List.append_cancel_left_eq, List.singleton_inj] at hcalls
  rw [ran_messages, ran_messages, List.append_cancel_left_eq, List.singleton_inj] at hmessages
  have hlength := congrArg List.length hevents
  rw [ran_events, ran_events] at hlength
  simp only [List.length_append, List.length_map, List.length_singleton, Nat.add_right_cancel_iff,
    Nat.add_left_cancel_iff] at hlength
  exact ⟨hcalls, hlength, congrArg ChatMessage.content hmessages⟩

end Ran

section Executions

variable {env : Env} {turn : ChatTurn} {m : Metadata} {output : String}

theorem chatExecution_runtime {ctx : ResolvedRuntimeContext} (h : turn.dispatch = .runtime ctx) :
    chatExecution env turn m output =
      .ofStream turn turn.request.uiContext (streamFor env turn m turn.request.uiContext) := by
  simp only [chatExecution, h]

theorem chatExecution_team {ctx : ResolvedTeamContext} (h : turn.dispatch = .team ctx) :
    chatExecution env turn m output =
      ⟨⟨turn.dispatch, turn.args turn.request.uiContext⟩, [], ⟨output, 0, 0⟩⟩ := by
  simp only [chatExecution, h]

theorem chatExecution_root {ctx : ResolvedRootContext} (h : turn.dispatch = .root ctx) :
    chatExecution env turn m output = .ofStream turn none (streamFor env turn m none) := by
  simp only [chatExecution, h]

/-- Where the condition holds, the executions are the same. -/
theorem chatExecution_eq (houtput : outputFor env turn m = .ok output)
    (halike : ExecutedAlike env turn m) :
    chatExecution env turn m output = streamExecution env turn m := by
  rw [streamExecution]
  rw [ExecutedAlike] at halike
  rcases hdispatch : turn.dispatch with ctx | ctx | ctx
  · rw [chatExecution_runtime hdispatch]
  · rw [hdispatch] at halike
    obtain ⟨hevents, hempty⟩ := halike
    rw [houtput, Except.ok.injEq] at hempty
    rw [chatExecution_team hdispatch, Execution.ofStream, hevents, hempty]
    rfl
  · rw [hdispatch] at halike
    rw [chatExecution_root hdispatch, halike]

/-- Where the executions agree in what is compared, the condition holds. -/
theorem executedAlike_of_same (houtput : outputFor env turn m = .ok output)
    (hcall : (chatExecution env turn m output).call = (streamExecution env turn m).call)
    (hevents : (chatExecution env turn m output).events.length =
      (streamExecution env turn m).events.length)
    (hresult : (chatExecution env turn m output).result.output =
      (streamExecution env turn m).result.output) : ExecutedAlike env turn m := by
  rw [streamExecution] at hcall hevents hresult
  rw [ExecutedAlike]
  rcases hdispatch : turn.dispatch with ctx | ctx | ctx
  · trivial
  · rw [chatExecution_team hdispatch] at hevents hresult
    have hnone : (streamFor env turn m turn.request.uiContext).events = [] :=
      List.length_eq_zero_iff.mp hevents.symm
    refine ⟨hnone, ?_⟩
    have hempty : output = (resultOf (Progress.empty.addAll
      (streamFor env turn m turn.request.uiContext).events)).output := hresult
    rw [houtput, hempty, hnone]
    rfl
  · rw [chatExecution_root hdispatch] at hcall
    have hargs := congrArg EngineCall.args hcall
    exact (congrArg RunArgs.uiContext hargs).symm

end Executions

/-! ## Without streaming -/

section Undisturbed

variable {env : Env} (henv : env.Healthy) {turn : ChatTurn} {v : TurnView} {w : World}

include henv

/-- A stream that is consumed by `handle_chat`. -/
theorem consumeStream_undisturbed (hw : InView turn.runId v w) (uiContext : Option UIContextFields)
    {stream : EventStream} (hstream : stream = streamOutcome turn.dispatch (turn.args uiContext)
      (env.call w.engineCalls.length) w.working.metadata) (hend : stream.error = none) :
    ∃ w', consumeStream env turn uiContext w =
        (.ok (Execution.ofStream turn uiContext stream).result, w') ∧
      InView turn.runId (v.executed turn (.ofStream turn uiContext stream)) w' := by
  have hopen := openStream_apply env turn.dispatch (turn.args uiContext) w
  rw [← hstream] at hopen
  generalize hlive : (⟨stream, _⟩ : LiveStream _) = live at hopen
  have hevents : live.stream = stream := by
    rw [← hlive]
  obtain ⟨w₁, hcollect, hview⟩ := collectEvents_undisturbed henv live live.stream.events 0
    Progress.empty (hw.called ⟨turn.dispatch, turn.args uiContext⟩)
  have hended := endStream_apply_ok (hevents ▸ hend : live.stream.error = none) w₁
  rw [hevents] at hcollect hview hended
  refine ⟨_, handleError_apply_ok ?_, hview.tooled (live.tools stream.events.length)⟩
  rw [bind_apply_ok hopen, hevents, bind_apply_ok hcollect, bind_apply_ok hended]
  rfl

/-- The engine's part of a turn of `handle_chat`. -/
theorem execute_undisturbed (hw : InView turn.runId v w) (hcalls : v.calls = [])
    (hnever : NeverFails env turn v.metadata) {output : String}
    (houtput : outputFor env turn v.metadata = .ok output) :
    ∃ w', execute env turn w = (.ok (chatExecution env turn v.metadata output).result, w') ∧
      InView turn.runId (v.executed turn (chatExecution env turn v.metadata output)) w' := by
  -- What the engine is asked in the state `w` is what the turn says.
  have hmetadata : w.working.metadata = v.metadata := congrArg TurnView.metadata hw.view
  have hfirst : w.engineCalls.length = 0 := by
    have hnone : w.engineCalls = v.calls := congrArg TurnView.calls hw.view
    rw [hnone, hcalls]
    rfl
  have hstream (uiContext : Option UIContextFields) : streamFor env turn v.metadata uiContext =
      streamOutcome turn.dispatch (turn.args uiContext) (env.call w.engineCalls.length)
        w.working.metadata := by
    rw [hmetadata, hfirst]
    rfl
  -- Agents and root teams are streamed, and teams are run.
  rcases hdispatch : turn.dispatch with ctx | ctx | ctx
  · have hexecute : execute env turn = consumeStream env turn turn.request.uiContext := by
      simp only [execute, hdispatch]
    rw [hexecute, chatExecution_runtime hdispatch]
    exact consumeStream_undisturbed henv hw _ (hstream _) hnever.stream
  · have hexecute : execute env turn =
        (Svc.run env turn.dispatch (turn.args turn.request.uiContext) >>= fun output =>
          return ⟨output, 0, 0⟩) := by
      simp only [execute, hdispatch]
    have hrun : Svc.run env turn.dispatch (turn.args turn.request.uiContext) w = (.ok output, _) :=
      run_apply_ok (by rw [hmetadata, hfirst]; exact houtput)
    rw [hexecute, chatExecution_team hdispatch]
    refine ⟨_, bind_apply_ok hrun, ?_⟩
    rw [TurnView.executed, List.map_nil, TurnView.withEvents_nil]
    exact (hw.called _).tooled _
  · have hexecute : execute env turn = consumeStream env turn none := by
      simp only [execute, hdispatch]
    rw [hexecute, chatExecution_root hdispatch]
    exact consumeStream_undisturbed henv hw none (hstream none) hnever.streamWithout

/-! ## With streaming -/

omit henv in
/-- A check for a cancellation that never was requested finds none. -/
theorem processedEvents_of_not_cancelled
    (hcancel : ∀ n, env.cancelRequested n turn.runId = false) (events : List StreamEvent)
    (ticks : Nat) : processedEvents env turn.runId events ticks = events := by
  induction events generalizing ticks with
  | nil => rfl
  | cons event events ih =>
    rw [processedEvents, hcancel, if_neg Bool.false_ne_true, ih]

/-- A stream that is consumed by `handle_chat_stream`, to the end of the turn. -/
theorem continueStream_completed (hw : InView turn.runId v w)
    (hcancel : ∀ n, env.cancelRequested n turn.runId = false) {stream : EventStream}
    (hstream : stream = streamOutcome turn.dispatch (turn.args turn.request.uiContext)
      (env.call w.engineCalls.length) w.working.metadata) (hend : stream.error = none) :
    ∃ w', ChatService.continueStream env turn w = (.ok (), w') ∧
      InView turn.runId (((v.executed turn (.ofStream turn turn.request.uiContext stream)).completed
        turn (Execution.ofStream turn turn.request.uiContext stream).result).charged env turn
          (Execution.ofStream turn turn.request.uiContext stream).result) w' ∧
      w'.committed = w'.working := by
  generalize hstarted : turn.item "agent_started" (.started turn.agent.code turn.team.code) =
    started
  have hopen := openStream_apply env turn.dispatch (turn.args turn.request.uiContext)
    (w.shown started)
  rw [World.shown_working, show (w.shown started).engineCalls = w.engineCalls from rfl,
    ← hstream] at hopen
  generalize hlive : (⟨stream, _⟩ : LiveStream _) = live at hopen
  have hevents : live.stream = stream := by
    rw [← hlive]
  obtain ⟨w₁, hprocess, hview⟩ := processEvents_undisturbed henv live live.stream.events 0
    Progress.empty ((hw.shown started).called ⟨turn.dispatch, turn.args turn.request.uiContext⟩)
  rw [processedEvents_of_not_cancelled hcancel, decide_eq_false (Nat.lt_irrefl _)] at hprocess
  rw [processedEvents_of_not_cancelled hcancel] at hview
  -- no cancellation and no error of the stream: the loop ends with all of its events
  have hover := forwardStream_ended hopen hprocess (hevents ▸ hend)
  rw [hevents] at hover hview
  obtain ⟨w₂, hcomplete, hcompleted, hcommitted, -⟩ := endStreamTurn_undisturbed henv
    (resultOf (Progress.empty.addAll stream.events))
    (hview.tooled (live.tools stream.events.length))
  refine ⟨w₂, ?_, hcompleted, hcommitted⟩
  rw [ChatService.continueStream, hstarted, bind_apply_ok (yieldItem_undisturbed henv started w),
    bind_apply_ok hover]
  exact hcomplete

end Undisturbed

/-! ## The two requests -/

section Requests

variable {env : Env} {store : Store} {payload : ChatRequest} {turn : ChatTurn} {w : World}

/-- Opening a turn shows its run, its first event and the user's message. -/
theorem openChatTurn_inView
    (h : openChatTurn env payload (World.start store) = (.ok turn, w)) :
    InView turn.runId ((viewOf turn.runId (World.start store)).opened turn) w := by
  obtain ⟨dispatch, w₁, hresolve, hopen⟩ := bind_eq_ok.mp h
  obtain ⟨-, rfl⟩ := resolveDispatch_eq_ok hresolve
  exact (openTurn_inView rfl hopen).1

/-- `handle_chat` opens a turn, executes it, and ends it. -/
theorem handleChat_eq_openChatTurn (payload : ChatRequest) :
    handleChat env payload = (openChatTurn env payload >>= fun turn =>
      RunTrackingService.markRunning env turn.runId >>= fun _ =>
        execute env turn >>= fun result => endTurn env turn result) := by
  rw [openChatTurn, bind_assoc]
  refine bind_congr fun dispatch => ?_
  rw [chatTurn, beginTurn, bind_assoc]
  refine bind_congr fun turn => ?_
  rw [bind_assoc]
  refine bind_congr fun _ => ?_
  rw [bind_assoc]
  rfl

/-- `handle_chat_stream` opens a turn, commits it as running, and goes on with it. -/
theorem handleChatStream_eq_openChatTurn (payload : ChatRequest) :
    handleChatStream env payload = (openChatTurn env payload >>= fun turn =>
      commit env >>= fun _ => RunTrackingService.markRunning env turn.runId >>= fun _ =>
        commit env >>= fun _ => ChatService.continueStream env turn) := by
  rw [openChatTurn, bind_assoc]
  refine bind_congr fun dispatch => ?_
  rw [chatStreamTurn, ChatService.beginStream, bind_assoc]
  refine bind_congr fun turn => ?_
  simp only [bind_assoc, pure_bind]

section Healthy

variable (henv : env.Healthy)
  (hopen : openChatTurn env payload (World.start store) = (.ok turn, w))
  (hnever : NeverFails env turn store.db.metadata)

include henv hopen hnever

/-- What a request to `POST /chat` leaves. -/
theorem served_chat_view {output : String}
    (houtput : outputFor env turn store.db.metadata = .ok output) :
    viewOf turn.runId ((Request.chat payload).served env store) =
        (viewOf turn.runId (World.start store)).ran env turn
          (chatExecution env turn store.db.metadata output) ∧
      ((Request.chat payload).served env store).committed =
        ((Request.chat payload).served env store).working := by
  obtain ⟨w₁, hmark, hstarted, -⟩ := markRunning_undisturbed henv (openChatTurn_inView hopen)
  have hexecute : ∃ w₂, execute env turn w₁ =
        (.ok (chatExecution env turn store.db.metadata output).result, w₂) ∧
      InView turn.runId (((viewOf turn.runId (World.start store)).started turn).executed turn
        (chatExecution env turn store.db.metadata output)) w₂ :=
    execute_undisturbed henv hstarted rfl hnever houtput
  -- What was executed plays no part in how the turn ends.
  generalize chatExecution env turn store.db.metadata output = x at hexecute
  obtain ⟨w₂, hexecute, hexecuted⟩ := hexecute
  obtain ⟨w₃, hcomplete, hcompleted, -⟩ := completeTurn_undisturbed henv x.result hexecuted
  obtain ⟨w₄, hrecord, hrecorded, -⟩ := recordTurn_undisturbed henv x.result hcompleted
  -- The request is served, and its session commits.
  have hhandled : handleChat env payload (World.start store) =
      (.ok (responseOf turn x.result), w₄) := by
    rw [handleChat_eq_openChatTurn, bind_apply_ok hopen, bind_apply_ok hmark,
      bind_apply_ok hexecute, endTurn, bind_apply_ok hcomplete, bind_apply_ok hrecord,
      bind_apply_ok (attributes_apply hrecorded.loaded), pure_apply]
  have hmapped : (Response.chat <$> handleChat env payload) (World.start store) =
      (.ok (.chat (responseOf turn x.result)), w₄) := by
    rw [map_eq_pure_bind, bind_apply_ok hhandled]
    rfl
  have hserved : (Request.chat payload).served env store = w₄.saved := by
    rw [Request.served, Request.handle,
      getDb_apply_ok hmapped (commit_accepted henv.refusesAuditOnly hrecorded.inOrder)]
  rw [hserved]
  exact ⟨hrecorded.saved.view, rfl⟩

/-- What a request to `POST /chat/stream` leaves that is not cancelled. -/
theorem served_chatStream_view (hcancel : ∀ n, env.cancelRequested n turn.runId = false) :
    viewOf turn.runId ((Request.chatStream payload).served env store) =
        (viewOf turn.runId (World.start store)).ran env turn
          (streamExecution env turn store.db.metadata) ∧
      ((Request.chatStream payload).served env store).committed =
        ((Request.chatStream payload).served env store).working := by
  have hopened := openChatTurn_inView hopen
  -- The turn commits when it is opened, and again when it runs.
  obtain ⟨w₁, hmark, hstarted, -⟩ := markRunning_undisturbed henv hopened.saved
  have hview : InView turn.runId (((viewOf turn.runId (World.start store)).started turn))
      w₁.saved := hstarted.saved
  generalize hw₂ : w₁.saved = w₂ at hview
  -- What the engine is asked is what the turn says.
  have hmetadata : w₂.working.metadata = store.db.metadata := congrArg TurnView.metadata hview.view
  have hcalls : w₂.engineCalls = [] := congrArg TurnView.calls hview.view
  have hstream : streamFor env turn store.db.metadata turn.request.uiContext =
      streamOutcome turn.dispatch (turn.args turn.request.uiContext)
        (env.call w₂.engineCalls.length) w₂.working.metadata := by
    rw [hmetadata, hcalls]
    rfl
  obtain ⟨w₃, hcontinue, hended, hcommitted⟩ := continueStream_completed henv hview hcancel
    hstream hnever.stream
  -- The request is served, and its last commit is that of the turn.
  have hhandled : handleChatStream env payload (World.start store) = (.ok (), w₃) := by
    rw [handleChatStream_eq_openChatTurn, bind_apply_ok hopen,
      bind_apply_ok (commit_accepted henv.refusesAuditOnly hopened.inOrder), bind_apply_ok hmark,
      bind_apply_ok (commit_accepted henv.refusesAuditOnly hstarted.inOrder), hw₂]
    exact hcontinue
  have hserved : (Request.chatStream payload).served env store =
      { w₃ with working := w₃.committed, failed := false, expired := true } := by
    rw [Request.served, Request.handle, streamed, bind_assoc, bind_apply_ok (attempt_apply _ _),
      hhandled]
    rfl
  rw [hserved]
  rw [hcommitted]
  exact ⟨hended.view, rfl⟩

end Healthy

/-- Where no turn is opened, the two requests leave the same. -/
theorem sameTurn_of_not_opened
    (h : ∀ turn w, openChatTurn env payload (World.start store) ≠ (.ok turn, w)) (runId : Uuid) :
    SameTurn runId ((Request.chat payload).served env store)
      ((Request.chatStream payload).served env store) := by
  -- To open a turn calls no engine and commits nothing.
  have hkept : Keeps (Same fun w => (w.committed, w.engineCalls)) (openChatTurn env payload) := by
    have hframe : OpenFrame (fun _ => True) (Same fun w : World => (w.committed, w.engineCalls)) :=
      ⟨fun _ _ h => Prod.ext h.committed h.engineCalls, fun _ _ _ => rfl, fun _ _ _ _ _ => rfl⟩
    exact keeps_bind (hframe.writes (onlyWrites_fetch _)) fun dispatch =>
      hframe.keeps_openTurn _ _ _
  rcases hopen : openChatTurn env payload (World.start store) with ⟨exc | turn, w⟩
  · have hsame := hkept (World.start store)
    rw [hopen] at hsame
    obtain ⟨hcommitted, hcalls⟩ := Prod.mk.inj hsame
    -- Neither endpoint goes on after the error.
    have hchat : (Response.chat <$> handleChat env payload) (World.start store) =
        (.error exc, w) := by
      rw [map_eq_pure_bind, handleChat_eq_openChatTurn]
      exact bind_apply_error (bind_apply_error hopen)
    have hstream : handleChatStream env payload (World.start store) = (.error exc, w) := by
      rw [handleChatStream_eq_openChatTurn]
      exact bind_apply_error hopen
    -- Both roll back to what was committed before.
    have hchat' : (Request.chat payload).served env store =
        { w with working := w.committed, failed := false, expired := true } := by
      rw [Request.served, Request.handle, getDb_apply_error hchat]
    have hstream' : (Request.chatStream payload).served env store =
        { w with working := w.committed, failed := false, expired := true } := by
      rw [Request.served, Request.handle, streamed, bind_assoc,
        bind_apply_ok (attempt_apply _ _), hstream]
      rfl
    rw [hchat', hstream']
    exact ⟨rfl, rfl, rfl, rfl⟩
  -- The turn was opened.
  · exact absurd hopen (h turn w)

end Requests

/-- Where nothing disturbs them, the request is not cancelled and the engine does not fail,
    `POST /chat` and `POST /chat/stream` do the same turn exactly where a single agent is executed,
    or a root team without a `ui_context`, or a team that says nothing either way. -/
theorem sameTurn_iff (env : Env) (henv : env.Healthy) (store : Store) (payload : ChatRequest)
    (hcancel : ∀ n runId, env.cancelRequested n runId = false)
    (hnever : ∀ turn w, openChatTurn env payload (World.start store) = (.ok turn, w) →
      NeverFails env turn store.db.metadata) :
    (∀ turn w, openChatTurn env payload (World.start store) = (.ok turn, w) →
      (SameTurn turn.runId ((Request.chat payload).served env store)
          ((Request.chatStream payload).served env store) ↔
        ExecutedAlike env turn store.db.metadata)) ∧
    ((∀ turn w, openChatTurn env payload (World.start store) ≠ (.ok turn, w)) →
      ∀ runId, SameTurn runId ((Request.chat payload).served env store)
        ((Request.chatStream payload).served env store)) := by
  refine ⟨fun turn w hopen => ?_, sameTurn_of_not_opened⟩
  have hengine := hnever turn w hopen
  obtain ⟨output, houtput⟩ := hengine.run
  obtain ⟨hchat, hchat'⟩ := served_chat_view henv hopen hengine houtput
  obtain ⟨hstream, hstream'⟩ := served_chatStream_view henv hopen hengine
    (fun n => hcancel n turn.runId)
  rw [sameTurn_iff_views hchat hchat' hstream hstream']
  constructor
  · intro h
    obtain ⟨hcalls, hevents, hmessages, -⟩ := h
    obtain ⟨hcall, hlength, hresult⟩ := execution_of_same hcalls hevents hmessages
    exact executedAlike_of_same houtput hcall hlength hresult
  · intro halike
    rw [chatExecution_eq houtput halike]
    exact ⟨rfl, rfl, rfl, rfl⟩

section Examples

open Deployment

/-- The deployment, where the model answers "Hi". -/
def Deployment.greeting : Env := Deployment.env .trustClientUserId none (answering "Hi")

/-- A request to the root team, with an attachment. -/
def Deployment.helloWithReport : ChatRequest :=
  { hello none none with uiContext := some ⟨some ["report.pdf"]⟩ }

/-- The turn of a request is opened, and the engine does not fail. -/
private def opensSoundly (payload : ChatRequest) : Bool :=
  match openChatTurn greeting payload (World.start store) with
  | (.ok turn, _) =>
    (outputFor greeting turn db.metadata).isOk &&
    (streamFor greeting turn db.metadata turn.request.uiContext).error.isNone &&
    (streamFor greeting turn db.metadata none).error.isNone
  | (.error _, _) => false

private theorem neverFails_of_opensSoundly (payload : ChatRequest)
    (h : opensSoundly payload = true) :
    ∃ turn w, openChatTurn greeting payload (World.start store) = (.ok turn, w) ∧
      NeverFails greeting turn db.metadata := by
  rw [opensSoundly] at h
  rcases hopen : openChatTurn greeting payload (World.start store) with ⟨exc | turn, w⟩
  · rw [hopen] at h
    cases h
  · rw [hopen] at h
    simp only [Bool.and_eq_true, Option.isNone_iff_eq_none] at h
    obtain ⟨⟨houtput, hstream⟩, hwithout⟩ := h
    refine ⟨turn, w, rfl, ?_, hstream, hwithout⟩
    cases hrun : outputFor greeting turn db.metadata with
    | ok output => exact ⟨output, rfl⟩
    | error exc =>
      rw [hrun] at houtput
      cases houtput

/-- The `ui_context` of a turn of a root team. -/
private def rootContext (turn : ChatTurn) : Option (Option UIContextFields) :=
  match turn.dispatch with
  | .root _ => some turn.request.uiContext
  | _ => none

private theorem executedAlike_of_rootContext {turn : ChatTurn} {uiContext : Option UIContextFields}
    (h : rootContext turn = some uiContext) :
    ExecutedAlike greeting turn db.metadata ↔ uiContext = none := by
  rw [rootContext] at h
  cases hdispatch : turn.dispatch with
  | root team =>
    rw [hdispatch] at h
    rw [ExecutedAlike, hdispatch, Option.some.inj h]
  | team team =>
    rw [hdispatch] at h
    cases h
  | runtime agent =>
    rw [hdispatch] at h
    cases h

/-- The theorem at the turns of two requests to the root team: the one without an attachment is the
    same turn either way, the one with an attachment is not. -/
theorem sameTurn_iff_example :
    (∃ turn w, openChatTurn greeting (hello none none) (World.start store) = (.ok turn, w) ∧
      (SameTurn turn.runId ((Request.chat (hello none none)).served greeting store)
          ((Request.chatStream (hello none none)).served greeting store) ↔
        ExecutedAlike greeting turn db.metadata) ∧
      ExecutedAlike greeting turn db.metadata) ∧
    ∃ turn w, openChatTurn greeting helloWithReport (World.start store) = (.ok turn, w) ∧
      (SameTurn turn.runId ((Request.chat helloWithReport).served greeting store)
          ((Request.chatStream helloWithReport).served greeting store) ↔
        ExecutedAlike greeting turn db.metadata) ∧
      ¬ExecutedAlike greeting turn db.metadata := by
  have hhealthy : greeting.Healthy := ⟨fun _ _ _ => rfl, fun _ => rfl, fun _ => rfl⟩
  -- The turn of a sound request never fails.
  have hsound : ∀ payload, opensSoundly payload = true → ∀ turn w,
      openChatTurn greeting payload (World.start store) = (.ok turn, w) →
        NeverFails greeting turn db.metadata := by
    intro payload hpayload turn w hopen
    obtain ⟨turn', w', hopen', hnever⟩ := neverFails_of_opensSoundly payload hpayload
    rw [hopen] at hopen'
    cases hopen'
    exact hnever
  constructor
  · have hroot : opensSoundly (hello none none) = true := by decide +kernel
    obtain ⟨turn, w, hopen, -⟩ := neverFails_of_opensSoundly _ hroot
    have hcontext : (openChatTurn greeting (hello none none) (World.start store)).1.toOption.bind
        rootContext = some none := by
      decide +kernel
    rw [hopen] at hcontext
    exact ⟨turn, w, hopen, (sameTurn_iff greeting hhealthy store _ (fun _ _ => rfl)
      (hsound _ hroot)).1 turn w hopen, (executedAlike_of_rootContext hcontext).mpr rfl⟩
  · have hreport : opensSoundly helloWithReport = true := by decide +kernel
    obtain ⟨turn, w, hopen, -⟩ := neverFails_of_opensSoundly _ hreport
    have hcontext : (openChatTurn greeting helloWithReport (World.start store)).1.toOption.bind
        rootContext = some (some ⟨some ["report.pdf"]⟩) := by
      decide +kernel
    rw [hopen] at hcontext
    exact ⟨turn, w, hopen, (sameTurn_iff greeting hhealthy store _ (fun _ _ => rfl)
      (hsound _ hreport)).1 turn w hopen,
      fun h => Option.some_ne_none _ ((executedAlike_of_rootContext hcontext).mp h)⟩

/-- `POST /chat` hands no attachment to the root team, and records no event of a team. -/
theorem chat_differs_from_stream :
    (∃ turn w, openChatTurn greeting helloWithReport (World.start store) = (.ok turn, w) ∧
      NeverFails greeting turn db.metadata ∧
      ¬SameTurn turn.runId ((Request.chat helloWithReport).served greeting store)
        ((Request.chatStream helloWithReport).served greeting store)) ∧
    ∃ turn w, openChatTurn greeting (hello (some "sales") none) (World.start store) =
        (.ok turn, w) ∧
      NeverFails greeting turn db.metadata ∧
      ¬SameTurn turn.runId ((Request.chat (hello (some "sales") none)).served greeting store)
        ((Request.chatStream (hello (some "sales") none)).served greeting store) := by
  constructor
  · obtain ⟨turn, w, hopen, hnever⟩ :=
      neverFails_of_opensSoundly helloWithReport (by decide +kernel)
    refine ⟨turn, w, hopen, hnever, fun h => ?_⟩
    have hdiffers : ((Request.chat helloWithReport).served greeting store).engineCalls.map
        (·.args.uiContext) ≠ ((Request.chatStream helloWithReport).served greeting
          store).engineCalls.map (·.args.uiContext) := by
      decide +kernel
    exact hdiffers (congrArg _ h.calls)
  · obtain ⟨turn, w, hopen, hnever⟩ :=
      neverFails_of_opensSoundly (hello (some "sales") none) (by decide +kernel)
    refine ⟨turn, w, hopen, hnever, fun h => ?_⟩
    have hdiffers : ((Request.chat (hello (some "sales") none)).served greeting
        store).committed.agentEvents ≠ ((Request.chatStream (hello (some "sales") none)).served
          greeting store).committed.agentEvents := by
      decide +kernel
    exact hdiffers h.events

end Examples

end AgnoRuntime
