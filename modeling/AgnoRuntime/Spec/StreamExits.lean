import AgnoRuntime.Spec.Disturbances
import AgnoRuntime.Spec.SettledRuns
import AgnoRuntime.Spec.StreamedSteps

/-!
# Where a stream can be struck

Which moments of a streamed turn, or of a streamed workflow run, decide whether its run
is settled: every exchange from the first item on to the commit of the end. Each is
asked for by the part of the stream it belongs to, so that the condition can be read
off the source line by line.
-/

namespace AgnoRuntime

open Svc Prog

/-! ## Chat turns -/

section Chat

open ChatService

namespace ChatService.ChatTurn

variable (turn : ChatTurn)

/-- The statements that end the run. -/
def ending (status : RunStatus) (f : AgentRun → AgentRun) (hf : ∀ r, (f r).id = r.id)
    (eventType : EventType) (payload : EventPayload) : List (Statement × (Db → Db)) :=
  [(.setRunStatus turn.runId status, (·.withRun turn.runId status f hf)),
    (.insert .agentEvents, (·.withAgentEvent ⟨turn.runId, eventType, payload⟩)),
    (.commit, id)]

/-- The statement that adds the assistant's message. -/
def reply (text : String) : Statement × (Db → Db) :=
  (.insert .chatMessages, (·.withMessage (turn.message .assistant text)))

/-- A run keeps its id with its output. -/
private theorem id_withOutput (text : String) (r : AgentRun) :
    ({ r with output := some text } : AgentRun).id = r.id := rfl

/-- A run keeps its id with its error. -/
private theorem id_withMessage (message : String) (r : AgentRun) :
    ({ r with errorMessage := some message } : AgentRun).id = r.id := rfl

/-- A run keeps its id with what was streamed before it was cancelled. -/
private theorem id_withPartial (text : String) (r : AgentRun) :
    ({ r with
        output := if text = "" then none else some text
        errorMessage := some RunTrackingService.cancelledReason } : AgentRun).id = r.id := rfl

/-- The statements of a turn that is completed. -/
def completion (text : String) : List (Statement × (Db → Db)) :=
  turn.reply text :: turn.ending .completed (fun r => { r with output := some text })
    (id_withOutput text) .agentCompleted (.outputLength text.length)

/-- The statements of a turn that fails. -/
def failure (message : String) : List (Statement × (Db → Db)) :=
  turn.ending .failed (fun r => { r with errorMessage := some message })
    (id_withMessage message) .error (.error message)

/-- The statements of a turn that is cancelled. -/
def cancellation (text : String) : List (Statement × (Db → Db)) :=
  (if text = "" then [] else [turn.reply text]) ++
    turn.ending .cancelled
      (fun r => { r with
        output := if text = "" then none else some text
        errorMessage := some RunTrackingService.cancelledReason })
      (id_withPartial text) .runCancelled
      (.cancelled RunTrackingService.cancelledReason text.length)

/-- The statements for an event of the engine. -/
def recording (event : StreamEvent) : List (Statement × (Db → Db)) :=
  [(.insert .agentEvents, (·.withAgentEvent (engineEvent turn.runId event))), (.commit, id)]

end ChatService.ChatTurn

variable (env : Env)

/-- Nothing strikes a turn after its stream has ended. -/
def EndUndisturbed (turn : ChatTurn) {args : RunArgs} (live : LiveStream args)
    (progress : Progress) (m : Moment) : Prop :=
  let m := m.tooled (live.tools live.stream.events.length)
  match live.stream.error with
  | none => Takes env (turn.completion progress.text) m
  | some exc => exc.isRuntimeExecution = true ∧ Takes env (turn.failure exc.str) m

/-- Nothing strikes a turn from its i-th event on: Redis answers each check for a cancellation, the
    database takes each event, the client stays for it, and the end is undisturbed. -/
def EventsUndisturbed (turn : ChatTurn) {args : RunArgs} (live : LiveStream args) :
    List StreamEvent → Nat → Progress → Moment → Prop
  | [], _, progress, m => EndUndisturbed env turn live progress m
  | event :: events, i, progress, m =>
    let m := m.tooled (live.tools i)
    env.redisFails m.ticks = none ∧
    if env.cancelRequested m.ticks turn.runId then
      Takes env (turn.cancellation progress.text) m.commanded
    else
      Takes env (turn.recording event) m.commanded ∧
      env.closes m.sent = false ∧
      EventsUndisturbed turn live events (i + 1) (progress.add event.payload)
        ((m.commanded.wrote (·.withAgentEvent (engineEvent turn.runId event))).wrote id).shown

/-- Nothing strikes a turn whose run is committed as running before it is settled. -/
def TurnUndisturbed (turn : ChatTurn) (m : Moment) : Prop :=
  env.closes m.sent = false ∧
  let live := streamOf env m.shown turn.dispatch (turn.args turn.request.uiContext)
  EventsUndisturbed env turn live live.stream.events 0 Progress.empty m.shown.called

variable {env} {turn : ChatTurn} {w : World}

/-- A run is ended where the database takes the three statements. -/
theorem returns_ending (hw : w.failed = false) (status : RunStatus) (f : AgentRun → AgentRun)
    (hf : ∀ r, (f r).id = r.id) (eventType : EventType) (payload : EventPayload)
    (conclusion : Conclusion) {K : Conclusion → World → Prop}
    (hK : ∀ w, K conclusion w) :
    Returns ((RunTrackingService.updateRun env turn.runId status f hf >>= fun _ =>
        RunTrackingService.emitEvent env turn.runId eventType payload) >>= fun _ =>
          commit env >>= fun _ => return conclusion) K w ↔
      Takes env (turn.ending status f hf eventType payload) w.moment := by
  simp only [updateRun_eq_write, emitEvent_eq_write, returns_bind, returns_write, returns_commit,
    returns_pure, World.wrote_failed, hw, hK, and_true, ChatTurn.ending, Takes]
  exact Iff.rfl

/-- What the rest of a settled turn asks for. -/
private def Rest (env : Env) (turn : ChatTurn) : Conclusion → World → Prop
  | .completed progress, w =>
    Returns (completeTurn env turn (resultOf progress) >>= fun _ => commit env) (fun _ _ => True) w
  | .failed _, _ | .cancelled _, _ => True

/-- A turn is completed where the database takes its statements. -/
theorem returns_completion (hw : w.failed = false) (result : TurnResult) :
    Returns (completeTurn env turn result >>= fun _ => commit env) (fun _ _ => True) w ↔
      Takes env (turn.completion result.output) w.moment := by
  simp only [completeTurn, RunTrackingService.markCompleted, createMessage_eq_write,
    updateRun_eq_write, emitEvent_eq_write, returns_bind, returns_write, returns_commit,
    World.wrote_failed, hw, and_true, ChatTurn.completion, ChatTurn.ending, Takes]
  exact Iff.rfl

/-- A turn is marked failed where the database takes its statements, and for nothing else than
    `RuntimeExecutionError`. -/
theorem returns_failTurn (hw : w.failed = false) (exc : PyError) :
    Returns (failTurn env turn exc) (Rest env turn) w ↔
      exc.isRuntimeExecution = true ∧ Takes env (turn.failure exc.str) w.moment := by
  rw [failTurn]
  cases hexc : exc.isRuntimeExecution with
  | true =>
    simp only [if_true, true_and]
    exact returns_ending hw _ _ _ _ _ (.failed exc.str) fun _ => trivial
  | false =>
    simp only [Bool.false_eq_true, if_false, false_and, iff_false]
    exact not_returns_of_error (raise_apply exc w)

/-- The handler re-raises what is none of the engine's. -/
theorem failTurn_of_foreign (exc : PyError) (h : Foreign exc) :
    failTurn env turn exc = Prog.raise exc := by
  rw [failTurn, if_neg (by rw [h]; exact Bool.false_ne_true)]

/-- What `consumeTurn` does when the loop is over. -/
private def conclude (env : Env) (turn : ChatTurn) {args : RunArgs} (live : LiveStream args)
    (processed : Progress × Bool) : Svc Conclusion :=
  if processed.2 then do
    savePartialOutput env turn processed.1.text
    RunTrackingService.markCancelled env turn.runId processed.1.text
    commit env
    return .cancelled processed.1.text
  else do
    endStream live
    return .completed processed.1

/-- A cancelled turn is settled where the database takes its statements. -/
private theorem returns_conclude_cancelled (hw : w.failed = false) {args : RunArgs}
    (live : LiveStream args) (progress : Progress) :
    Returns ((conclude env turn live (progress, true)).handleError (failTurn env turn))
        (Rest env turn) w ↔
      Takes env (turn.cancellation progress.text) w.moment := by
  have hforeign : RaisesOnly Foreign (conclude env turn live (progress, true)) := by
    refine raisesOnly_bind ?_ fun _ => raisesOnly_bind ?_ fun _ =>
      raisesOnly_bind foreign_commit fun _ => raisesOnly_pure _
    · rw [savePartialOutput]
      split
      · exact raisesOnly_pure _
      · exact foreign_write _ _
    · exact raisesOnly_bind (foreign_write _ _) fun _ => foreign_write _ _
  rw [returns_handleError_of_raisesOnly hforeign failTurn_of_foreign, conclude, if_pos rfl,
    returns_bind, savePartialOutput, ChatTurn.cancellation]
  by_cases hempty : progress.text = ""
  · rw [if_pos hempty, if_pos hempty, returns_pure, List.nil_append]
    exact returns_ending hw _ _ _ _ _ (.cancelled progress.text) fun _ => trivial
  · rw [if_neg hempty, if_neg hempty, createMessage_eq_write, returns_write hw]
    refine and_congr Iff.rfl ?_
    exact returns_ending (w := w.wrote _ _) hw _ _ _ _ _ (.cancelled progress.text) fun _ => trivial

/-- A turn whose stream has ended is settled where the rest is undisturbed. -/
private theorem returns_conclude_ended (hw : w.failed = false) {args : RunArgs}
    (live : LiveStream args) (progress : Progress) :
    Returns ((conclude env turn live (progress, false)).handleError (failTurn env turn))
        (Rest env turn) w ↔
      EndUndisturbed env turn live progress w.moment := by
  rw [conclude, if_neg Bool.false_ne_true, EndUndisturbed]
  cases herror : live.stream.error with
  | none =>
    have hended : (endStream live >>= fun _ => (return .completed progress : Svc Conclusion)) w =
        (.ok (.completed progress), w.tooled (live.tools live.stream.events.length)) := by
      rw [bind_apply_ok (endStream_apply_ok herror w)]
      rfl
    rw [returns_of_ok (handleError_apply_ok hended)]
    exact returns_completion (w := w.tooled _) hw (resultOf progress)
  | some exc =>
    have hended : (endStream live >>= fun _ => (return .completed progress : Svc Conclusion)) w =
        (.error exc, _) := bind_apply_error (endStream_apply_error herror w)
    rw [returns_handleError_of_error hended]
    refine returns_failTurn ?_ exc
    exact hw

/-- The loop leads to the end of the turn where nothing strikes it. -/
private theorem returns_processEvents (hw : w.failed = false) {args : RunArgs}
    (live : LiveStream args) (events : List StreamEvent) (i : Nat) (progress : Progress) :
    Returns (processEvents env turn live events i progress)
        (fun processed => Returns ((conclude env turn live processed).handleError
          (failTurn env turn)) (Rest env turn)) w ↔
      EventsUndisturbed env turn live events i progress w.moment := by
  induction events generalizing i progress w with
  | nil =>
    rw [processEvents, returns_pure]
    exact returns_conclude_ended hw live progress
  | cons event events ih =>
    rw [processEvents, returns_bind, returns_useTools, returns_bind, returns_isCancelled,
      EventsUndisturbed]
    refine and_congr Iff.rfl ?_
    -- the flag is asked after each event and before it is recorded
    by_cases hcancelled : env.cancelRequested w.ticks turn.runId = true
    · have hprogram : env.cancelRequested (w.tooled (live.tools i)).ticks turn.runId = true :=
        hcancelled
      have hmoment : env.cancelRequested (w.moment.tooled (live.tools i)).ticks turn.runId =
        true := hcancelled
      rw [if_pos hprogram, if_pos hmoment, returns_pure]
      exact returns_conclude_cancelled (w := (w.tooled _).commanded id) hw live progress
    · have hprogram :
          ¬env.cancelRequested (w.tooled (live.tools i)).ticks turn.runId = true :=
        hcancelled
      have hmoment :
          ¬env.cancelRequested (w.moment.tooled (live.tools i)).ticks turn.runId = true :=
        hcancelled
      rw [if_neg hprogram, if_neg hmoment]
      have hnext := ih (w := ((((w.tooled (live.tools i)).commanded id).wrote
        (.insert .agentEvents) (·.withAgentEvent (engineEvent turn.runId event))).saved).shown
          (turn.item event.eventType (.engine event.payload))) hw (i + 1)
            (progress.add event.payload)
      simp only [moment_shown, moment_saved, moment_wrote, moment_commanded, moment_tooled]
        at hnext
      rw [← hnext]
      simp only [emitEvent_eq_write, returns_bind, returns_write, returns_commit,
        returns_yieldItem, World.wrote_failed, World.commanded_failed, World.tooled_failed, hw,
        ChatTurn.recording, Takes, and_true, and_assoc]
      exact Iff.rfl

/-- The engine raises nothing while its events are processed. -/
private theorem foreign_processEvents {args : RunArgs} (live : LiveStream args)
    (events : List StreamEvent) (i : Nat) (progress : Progress) :
    RaisesOnly Foreign (processEvents env turn live events i progress) := by
  induction events generalizing i progress with
  | nil => exact raisesOnly_pure _
  | cons event events ih =>
    refine raisesOnly_bind (foreign_modify _) fun _ =>
      raisesOnly_bind (foreign_isCancelled _) fun cancelled => ?_
    split
    · exact raisesOnly_pure _
    · exact raisesOnly_bind (foreign_write _ _) fun _ => raisesOnly_bind foreign_commit fun _ =>
        raisesOnly_bind (foreign_yieldItem _) fun _ => ih _ _

/-- The engine's part of a turn leads to its end where nothing strikes it. -/
private theorem returns_concludeTurn (hw : w.failed = false)
    {live : LiveStream (turn.args turn.request.uiContext)}
    (hlive : live = streamOf env w.moment turn.dispatch (turn.args turn.request.uiContext)) :
    Returns (concludeTurn env turn) (Rest env turn) w ↔
      EventsUndisturbed env turn live live.stream.events 0 Progress.empty w.moment.called := by
  -- The stream is the one that the engine answers with.
  have hopen : openStream env turn.dispatch (turn.args turn.request.uiContext) w =
      (.ok live, w.called ⟨turn.dispatch, turn.args turn.request.uiContext⟩) := by
    rw [openStream_apply, hlive]
    rfl
  -- The events fail by what no handler takes.
  have hforeign : RaisesOnly Foreign
      (processEvents env turn live live.stream.events 0 Progress.empty) :=
    foreign_processEvents live _ _ _
  rw [concludeTurn, consumeTurn, returns_handleError_bind
    (fun _ _ h => by rw [hopen] at h; cases congrArg Prod.fst h), returns_of_ok hopen,
    returns_handleError_bind_of_raisesOnly hforeign failTurn_of_foreign]
  -- So the turn is concluded where all its events are processed.
  have hprocess : Returns (processEvents env turn live live.stream.events 0 Progress.empty)
      (fun processed => Returns ((conclude env turn live processed).handleError
        (failTurn env turn)) (Rest env turn))
      (w.called ⟨turn.dispatch, turn.args turn.request.uiContext⟩) ↔
    EventsUndisturbed env turn live live.stream.events 0 Progress.empty
      (w.called ⟨turn.dispatch, turn.args turn.request.uiContext⟩).moment :=
    returns_processEvents (w := w.called _) hw live _ _ _
  rw [moment_called] at hprocess
  exact hprocess

/-- A turn whose run is committed as running is settled exactly where nothing strikes it before. -/
theorem returns_settleTurn (hw : w.failed = false) :
    Returns (settleTurn env turn) (fun _ _ => True) w ↔ TurnUndisturbed env turn w.moment := by
  rw [settleTurn, returns_bind, returns_yieldItem]
  generalize turn.item "agent_started" (.started turn.agent.code turn.team.code) = item
  rw [TurnUndisturbed, ← moment_shown w item, returns_bind]
  refine and_congr Iff.rfl ?_
  refine (returns_congr fun conclusion w' _ => ?_).trans
    (returns_concludeTurn (w := w.shown item) hw rfl)
  cases conclusion with
  | completed progress => simp only [Rest, returns_bind, returns_pure]
  | failed message => exact returns_pure
  | cancelled text => exact returns_pure

end Chat

end AgnoRuntime
