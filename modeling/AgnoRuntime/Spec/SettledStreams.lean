import AgnoRuntime.Spec.Disturbances
import AgnoRuntime.Spec.StreamedTurns
import AgnoRuntime.Spec.Throughout

/-!
# Streams that leave their run running

A streamed run is settled by the commit that follows `mark_completed`, `mark_failed`
or `mark_cancelled`. Only `RuntimeExecutionError` leads there from an exception: any
other one, and a client that is gone, ends the generator where it is. So each of
the two generators is split where it commits the end of its run, and its run is over
exactly where the first part is got through.
-/

namespace AgnoRuntime

open Svc Prog

/-! ## Settling a run

`R` says that the run is running, `E` that there is one, and `O` that it is over. -/

section Settling

variable {R E O : Db → Prop} {env : Env} {α β : Type} {w : World}

/-- The run is still running, as far as is committed. -/
structure Unsettled (R E : Db → Prop) (w : World) : Prop where
  committed : R w.committed
  working : E w.working

/-- Where a program succeeds, `Q` holds; where it does not, the run is left running. -/
def Reaches (R E : Db → Prop) (Q : α → World → Prop) (x : Svc α) (w : World) : Prop :=
  wp x (fun outcome w' =>
    match outcome with
    | .ok a => Q a w'
    | .error _ => Unsettled R E w') w

/-- The run is over for good. -/
def Over {α : Type} (O : Db → Prop) (_ : α) (w : World) : Prop := Throughout O w

/-- The run is marked as over, which is not committed yet. -/
def Marked {α : Type} (R O : Db → Prop) (_ : α) (w : World) : Prop :=
  R w.committed ∧ O w.working

/-- One program after the other. -/
theorem Reaches.bind {Q : α → World → Prop} {Q' : β → World → Prop} {x : Svc α} {f : α → Svc β}
    (hx : Reaches R E Q x w) (hf : ∀ a w', Q a w' → Reaches R E Q' (f a) w') :
    Reaches R E Q' (x >>= f) w := by
  rw [Reaches, wp_bind]
  refine wp_mono hx fun outcome w' hw' => ?_
  cases outcome with
  | ok a => exact hf a w' hw'
  | error exc => exact hw'

theorem Reaches.pure {Q : α → World → Prop} {a : α} (h : Q a w) :
    Reaches R E Q (pure a : Svc α) w :=
  h

/-- Two programs, and what comes after both. -/
theorem Reaches.bind_bind {γ : Type} {Q : β → World → Prop} {Q' : γ → World → Prop} {x : Svc α}
    {y : α → Svc β} {f : β → Svc γ} (hx : Reaches R E Q (x >>= y) w)
    (hf : ∀ b w', Q b w' → Reaches R E Q' (f b) w') :
    Reaches R E Q' (x >>= fun a => y a >>= f) w := by
  rw [← bind_assoc]
  exact hx.bind hf

/-- A handler goes on from a run that is running. -/
theorem Reaches.handleError {Q : α → World → Prop} {x : Svc α} {h : PyError → Svc α}
    (hx : Reaches R E Q x w) (hh : ∀ exc w', Unsettled R E w' → Reaches R E Q (h exc) w') :
    Reaches R E Q (x.handleError h) w := by
  rcases hxw : x w with ⟨exc | a, w'⟩
  · rw [Reaches, wp, hxw] at hx
    rw [Reaches, wp, handleError_apply_error hxw]
    exact hh exc w' hx
  · rw [Reaches, wp, hxw] at hx
    rw [Reaches, wp, handleError_apply_ok hxw]
    exact hx

/-- What keeps the run running reaches no end of it. -/
theorem Reaches.of_keeping {x : Svc α} (hx : Keeps (Keeping R) x) (hexists : ∀ db, R db → E db)
    (hw : Throughout R w) : Reaches R E (fun _ => Throughout R) x w := by
  have hkept := hx w hw
  rw [Reaches, wp]
  cases (x w).1 with
  | ok a => exact hkept
  | error exc => exact ⟨hkept.committed, hexists _ hkept.working⟩

/-- After changes that leave the run at its end, it is marked, whether they are accepted or not. -/
private theorem Reaches.write_over {f : Db → Db} (s : Statement) (hcommitted : R w.committed)
    (hworking : O (f w.working)) (hover : ∀ db, O db → E db) :
    Reaches R E (Marked R O) (write env s f) w := by
  have hsaved : R (write env s f w).2.committed := by
    rw [committed_write]
    exact hcommitted
  have hchanged : O (write env s f w).2.working := by
    rw [working_write s f w]
    exact hworking
  rw [Reaches, wp]
  cases (write env s f w).1 with
  | ok u => exact ⟨hsaved, hchanged⟩
  | error exc => exact ⟨hsaved, hover _ hchanged⟩

/-- Changes that end the run mark it. -/
theorem Reaches.write_marks {f : Db → Db} (s : Statement) (hf : ∀ db, E db → O (f db))
    (hover : ∀ db, O db → E db) (hw : Unsettled R E w) :
    Reaches R E (Marked R O) (write env s f) w :=
  Reaches.write_over s hw.committed (hf _ hw.working) hover

/-- A run that is marked stays so while other tables change. -/
theorem Reaches.write_marked {f : Db → Db} (s : Statement) (hf : ∀ db, O db → O (f db))
    (hover : ∀ db, O db → E db) (hw : R w.committed ∧ O w.working) :
    Reaches R E (Marked R O) (write env s f) w :=
  Reaches.write_over s hw.1 (hf _ hw.2) hover

/-- A run that is marked is over with the next commit. -/
theorem Reaches.commit_over (hover : ∀ db, O db → E db) (hw : R w.committed ∧ O w.working) :
    Reaches R E (Over O) (commit env) w := by
  rw [Reaches, wp]
  rcases hcommit : commit env w with ⟨exc | u, w'⟩
  · obtain ⟨hcommitted, hworking⟩ := commit_eq_error hcommit
    refine ⟨?_, ?_⟩
    · rw [hcommitted]
      exact hw.1
    · rw [hworking]
      exact hover _ hw.2
  · obtain ⟨-, rfl⟩ := commit_eq_ok hcommit
    exact ⟨hw.2, hw.2⟩

/-- Marking a run with its event, and committing that. -/
theorem Reaches.settle {f g : Db → Db} (s s' : Statement) (hf : ∀ db, E db → O (f db))
    (hg : ∀ db, O db → O (g db)) (hover : ∀ db, O db → E db) (hw : Unsettled R E w) :
    Reaches R E (Over O)
      ((write env s f >>= fun _ => write env s' g) >>= fun _ => commit env) w :=
  ((write_marks s hf hover hw).bind fun _ _ h => write_marked s' hg hover h).bind
    fun _ _ h => commit_over hover h

/-- The run is over exactly where the end is reached: what comes after it keeps it over, and a run
    that is running is not over. -/
theorem over_iff_of_reaches {x : Svc α} {f : α → Svc Unit} (hx : Reaches R E (Over O) x w)
    (hf : ∀ a, Keeps (Keeping O) (f a)) (hrunning : ∀ db, R db → ¬O db) :
    O ((x >>= f) w).2.committed ↔ ∃ a w', x w = (.ok a, w') := by
  rcases hxw : x w with ⟨exc | a, w'⟩
  · rw [Reaches, wp, hxw] at hx
    rw [bind_apply_error hxw]
    refine iff_of_false (hrunning _ hx.committed) fun h => ?_
    obtain ⟨a, w'', hok⟩ := h
    cases congrArg Prod.fst hok
  · rw [Reaches, wp, hxw] at hx
    rw [bind_apply_ok hxw]
    exact iff_of_true (hf a w' hx).committed ⟨a, w', rfl⟩

/-- What is committed of a stream is left when the response is over. -/
theorem committed_streamed (x : Svc Unit) (a : α) (w : World) :
    ((streamed x >>= fun _ => (return a : Svc α)) w).2.committed = (x w).2.committed := by
  rw [streamed, bind_assoc, bind_apply_ok (attempt_apply x w)]
  cases (x w).1 with
  | ok u => rfl
  | error exc => rfl

end Settling

/-! ## Chat turns -/

namespace ChatService

/-- How the engine's part of a turn ended. -/
inductive Conclusion where
  | completed (progress : Progress)
  | failed (message : String)
  | cancelled (text : String)

variable (env : Env)

/-- The `try` of `forwardStream` without what follows the commit of a cancelled run. -/
def consumeTurn (turn : ChatTurn) : Svc Conclusion := do
  let live ← openStream env turn.dispatch (turn.args turn.request.uiContext)
  let (progress, cancelled) ← processEvents env turn live live.stream.events 0 Progress.empty
  if cancelled then do
    savePartialOutput env turn progress.text
    RunTrackingService.markCancelled env turn.runId progress.text
    commit env
    return .cancelled progress.text
  else do
    endStream live
    return .completed progress

/-- `failStream` without what follows the commit. -/
def failTurn (turn : ChatTurn) (exc : PyError) : Svc Conclusion :=
  if exc.isRuntimeExecution then do
    RunTrackingService.markFailed env turn.runId exc.str
    commit env
    return .failed exc.str
  else Prog.raise exc

/-- `forwardStream` without what follows the commit of a cancelled or a failed run. -/
def concludeTurn (turn : ChatTurn) : Svc Conclusion :=
  Prog.handleError (consumeTurn env turn) (failTurn env turn)

/-- `continueStream` up to the commit of the end of its run. -/
def settleTurn (turn : ChatTurn) : Svc Conclusion := do
  yieldItem env (turn.item "agent_started" (.started turn.agent.code turn.team.code))
  let conclusion ← concludeTurn env turn
  match conclusion with
  | .completed progress => do
    completeTurn env turn (resultOf progress)
    commit env
    return conclusion
  | .failed _ | .cancelled _ => return conclusion

/-- The rest of `continueStream`. -/
def announceTurn (turn : ChatTurn) : Conclusion → Svc Unit
  | .completed progress => do
    recordTurn env turn (resultOf progress)
    attributes
    yieldItem env (turn.item "agent_completed" (.completed progress.text))
  | .failed message => yieldItem env (turn.item "error" (.error message))
  | .cancelled text => do
    redisCommand env id
    yieldItem env (turn.item "run_cancelled" (.cancelled "Run cancelled by user" text))

end ChatService

section Chat

open ChatService

variable {env : Env} {turn : ChatTurn}

/-- What `forwardStream` does within its `try` after the commit of a cancelled run. -/
def announceCancelled (env : Env) (turn : ChatTurn) (conclusion : Conclusion) :
    Svc (Option Progress) :=
  match conclusion with
  | .completed progress => return some progress
  | .failed _ | .cancelled _ => do
    announceTurn env turn conclusion
    return none

/-- The `try` of `forwardStream`, split at the commit of a cancelled run. -/
theorem forwardStream_eq_consumeTurn (turn : ChatTurn) :
    forwardStream env turn = (consumeTurn env turn >>= announceCancelled env turn).handleError
      (failStream env turn) := by
  rw [forwardStream]
  congr 1
  rw [consumeTurn, bind_assoc]
  refine bind_congr fun live => ?_
  rw [streamEvents_eq, bind_assoc, bind_assoc]
  refine bind_congr fun processed => ?_
  obtain ⟨progress, cancelled⟩ := processed
  cases cancelled with
  | true =>
    simp only [if_true, concludeEvents, handleCancellation, announceCancelled, announceTurn,
      bind_assoc, pure_bind]
  | false =>
    simp only [Bool.false_eq_true, if_false, concludeEvents, announceCancelled, bind_assoc,
      pure_bind]

/-- What is left of a cancelled or a failed turn does not reach the handler. -/
theorem announceCancelled_handled {conclusion : Conclusion} {k : Option Progress → Svc Unit}
    (hk : k none = pure ())
    (hcancelled : announceCancelled env turn conclusion =
      announceTurn env turn conclusion >>= fun _ => return none)
    (herror : RaisesOnly Foreign (announceTurn env turn conclusion)) (w : World) :
    ((announceCancelled env turn conclusion).handleError (failStream env turn) >>= k) w =
      announceTurn env turn conclusion w := by
  rw [hcancelled]
  rcases hannounce : announceTurn env turn conclusion w with ⟨exc | u, w'⟩
  · have hraise : failStream env turn exc = Prog.raise exc := by
      rw [failStream, if_neg (by rw [herror w exc w' hannounce]; exact Bool.false_ne_true)]
    rw [bind_apply_error ((handleError_apply_error (bind_apply_error hannounce)).trans
      (congrFun hraise w'))]
  · have hdone : (announceTurn env turn conclusion >>= fun _ =>
        (return none : Svc (Option Progress))) w = (.ok none, w') := by
      rw [bind_apply_ok hannounce]
      rfl
    rw [bind_apply_ok (handleError_apply_ok hdone), hk]
    rfl

/-- A turn is settled, and then announced. -/
theorem continueStream_eq_settle (turn : ChatTurn) :
    continueStream env turn = settleTurn env turn >>= announceTurn env turn := by
  rw [ChatService.continueStream, settleTurn, bind_assoc]
  refine bind_congr fun _ => ?_
  funext w
  rcases hconsume : consumeTurn env turn w with ⟨exc | conclusion, w₁⟩
  · -- the exception reaches both handlers
    have hfails : forwardStream env turn w = failStream env turn exc w₁ := by
      rw [forwardStream_eq_consumeTurn]
      exact handleError_apply_error (bind_apply_error hconsume)
    have hconcludes : concludeTurn env turn w = _ := handleError_apply_error hconsume
    rw [bind_apply_congr hfails, bind_assoc, bind_apply_congr hconcludes]
    cases hexc : exc.isRuntimeExecution with
    | true =>
      simp only [failStream, failTurn, hexc, if_true, bind_assoc, pure_bind, announceTurn,
        bind_pure_unit]
    | false =>
      simp only [failStream, failTurn, hexc, Bool.false_eq_true, if_false]
      rfl
  · have hconcludes : concludeTurn env turn w = (.ok conclusion, w₁) :=
      handleError_apply_ok hconsume
    have hforwards : forwardStream env turn w =
        (announceCancelled env turn conclusion).handleError (failStream env turn) w₁ := by
      rw [forwardStream_eq_consumeTurn]
      exact handleError_apply_congr (bind_apply_ok hconsume) _
    rw [bind_apply_congr hforwards, bind_assoc, bind_apply_ok hconcludes]
    cases conclusion with
    | completed progress =>
      have hdone : announceCancelled env turn (.completed progress) w₁ =
          (.ok (some progress), w₁) := rfl
      rw [bind_apply_ok (handleError_apply_ok hdone)]
      simp only [endStreamTurn, bind_assoc, pure_bind]
      rfl
    | failed message =>
      have hforeign : RaisesOnly Foreign (announceTurn env turn (.failed message)) :=
        foreign_yieldItem _
      exact announceCancelled_handled rfl rfl hforeign w₁
    | cancelled text =>
      have hforeign : RaisesOnly Foreign (announceTurn env turn (.cancelled text)) :=
        raisesOnly_bind (foreign_redisCommand _) fun _ => foreign_yieldItem _
      exact announceCancelled_handled rfl rfl hforeign w₁

/-- The run with this id is there, in a status that satisfies `p`. -/
def RunIs (p : RunStatus → Prop) (runId : Uuid) (db : Db) : Prop :=
  ∃ run ∈ db.agentRuns.rows, run.id = runId ∧ p run.status

variable {p : RunStatus → Prop} {runId : Uuid}

/-- Tools leave runs alone. -/
theorem runIs_tools {args : RunArgs} (writes : ToolWrites args) (db : Db) (h : RunIs p runId db) :
    RunIs p runId (writes.apply db) := by
  rw [RunIs, (writes.kept db).agentRuns]
  exact h

/-- A run that is given a status has it. -/
theorem runIs_withRun {status : RunStatus} (hstatus : p status) (f : AgentRun → AgentRun)
    (hf : ∀ r, (f r).id = r.id) (db : Db) (h : RunIs (fun _ => True) runId db) :
    RunIs p runId (db.withRun runId status f hf) := by
  obtain ⟨run, hrun, hid, -⟩ := h
  refine ⟨{ f run with status := status }, ?_, (hf run).trans hid, hstatus⟩
  rw [Db.withRun, KeyedTable.mem_rows_update]
  exact ⟨run, hrun, by rw [if_pos hid]⟩

/-- A run that is running is not over. -/
theorem not_over_of_running (db : Db) (h : RunIs (· = .running) runId db) :
    ¬RunIs (·.isTerminal = true) runId db := by
  intro hover
  obtain ⟨run, hrun, hid, hstatus⟩ := h
  obtain ⟨run', hrun', hid', hstatus'⟩ := hover
  rw [db.agentRuns.eq_of_key_eq hrun' hrun (hid'.trans hid.symm), hstatus] at hstatus'
  cases hstatus'

theorem runIs_of_over (db : Db) (h : RunIs (·.isTerminal = true) runId db) :
    RunIs (fun _ => True) runId db := by
  obtain ⟨run, hrun, hid, -⟩ := h
  exact ⟨run, hrun, hid, trivial⟩

theorem runIs_of_running (db : Db) (h : RunIs (· = .running) runId db) :
    RunIs (fun _ => True) runId db := by
  obtain ⟨run, hrun, hid, -⟩ := h
  exact ⟨run, hrun, hid, trivial⟩

/-- While the engine's events are processed, a run that is running stays so. -/
private theorem keeping_streamTurnFrame : StreamTurnFrame env turn.runId (Keeping (RunIs p runId)) where
  sameSession w w' h hw := by
    refine ⟨?_, ?_⟩
    · rw [h.committed]
      exact hw.committed
    · rw [h.working]
      exact hw.working
  tools writes := keeping_useTools (fun writes => runIs_tools writes) writes
  emitted _ _ := keeping_write _ fun _ h => h
  committed := keeping_commit

/-- Where a program of a turn succeeds, `Q` holds; where not, its run is left running. -/
abbrev TurnReaches {α : Type} (turn : ChatTurn) (Q : α → World → Prop) (x : Svc α) (w : World) :
    Prop :=
  Reaches (RunIs (· = .running) turn.runId) (RunIs (fun _ => True) turn.runId) Q x w

/-- The run of a turn is over for good. -/
abbrev TurnOver {α : Type} (turn : ChatTurn) : α → World → Prop :=
  Over (RunIs (·.isTerminal = true) turn.runId)

/-- One of the three marks, and the commit that settles it. -/
theorem settle_mark {status : RunStatus} (hstatus : status.isTerminal = true)
    (f : AgentRun → AgentRun) (hf : ∀ r, (f r).id = r.id) (eventType : EventType)
    (payload : EventPayload) {w : World}
    (hw : Unsettled (RunIs (· = .running) turn.runId) (RunIs (fun _ => True) turn.runId) w) :
    TurnReaches turn (TurnOver turn)
      ((RunTrackingService.updateRun env turn.runId status f hf >>= fun _ =>
        RunTrackingService.emitEvent env turn.runId eventType payload) >>= fun _ => commit env) w :=
  Reaches.settle _ _ (runIs_withRun hstatus f hf) (fun _ h => h) runIs_of_over hw

/-- A run that is running throughout is there. -/
theorem unsettled_of_running {w : World} (hw : Throughout (RunIs (· = .running) runId) w) :
    Unsettled (RunIs (· = .running) runId) (RunIs (fun _ => True) runId) w :=
  ⟨hw.committed, runIs_of_running _ hw.working⟩

/-- Messages leave runs alone. -/
private theorem keeping_createMessage (sessionId : Uuid) (id : Option Uuid) (role : MessageRole)
    (content : String) :
    Keeps (Keeping (RunIs p runId)) (createMessage env sessionId id role content) :=
  keeping_write _ fun _ h => h

/-- A completed turn has its run running still; after any other the run is over. -/
def Concluded (turn : ChatTurn) : Conclusion → World → Prop
  | .completed _ => Throughout (RunIs (· = .running) turn.runId)
  | .failed _ | .cancelled _ => Throughout (RunIs (·.isTerminal = true) turn.runId)

/-- What is consumed of the engine's stream keeps the run running, unless it is cancelled. -/
theorem reaches_consumeTurn {w : World}
    (hw : Throughout (RunIs (· = .running) turn.runId) w) :
    TurnReaches turn (Concluded turn) (consumeTurn env turn) w := by
  have hframe : StreamTurnFrame env turn.runId (Keeping (RunIs (· = .running) turn.runId)) :=
    keeping_streamTurnFrame
  -- The stream is opened, and its events processed, while the run is running.
  refine (Reaches.of_keeping (hframe.openStream _ _) runIs_of_running hw).bind
    fun live w₁ hw₁ => ?_
  refine (Reaches.of_keeping (hframe.processEvents live _ _ _) runIs_of_running hw₁).bind
    fun processed w₂ hw₂ => ?_
  obtain ⟨progress, cancelled⟩ := processed
  cases cancelled with
  | true =>
    -- What has been said so far is saved; the run is running still.
    have hsave : Keeps (Keeping (RunIs (· = .running) turn.runId))
        (savePartialOutput env turn progress.text) := by
      rw [savePartialOutput]
      split
      · exact keeps_pure _
      · exact keeping_createMessage _ _ _ _
    refine (Reaches.of_keeping hsave runIs_of_running hw₂).bind fun _ w₃ hw₃ => ?_
    exact (settle_mark rfl _ _ _ _ (unsettled_of_running hw₃)).bind_bind fun _ _ hover =>
      Reaches.pure hover
  -- The stream has ended, and the run is running still.
  | false =>
    refine (Reaches.of_keeping (hframe.endStream live) runIs_of_running hw₂).bind
      fun _ w₃ hw₃ => Reaches.pure hw₃

/-- Where a turn is settled its run is over, and where not it is left running. -/
theorem reaches_settleTurn {w : World} (hw : Throughout (RunIs (· = .running) turn.runId) w) :
    TurnReaches turn (TurnOver turn) (settleTurn env turn) w := by
  refine (Reaches.of_keeping (keeping_yieldItem _) runIs_of_running hw).bind fun _ w₁ hw₁ => ?_
  -- The turn is concluded by its stream, or by the error that broke it off.
  have hconclude : TurnReaches turn (Concluded turn) (concludeTurn env turn) w₁ := by
    refine (reaches_consumeTurn hw₁).handleError fun exc w₂ hw₂ => ?_
    rw [failTurn]
    split
    · exact (settle_mark rfl _ _ _ _ hw₂).bind_bind fun _ _ hover => Reaches.pure hover
    · exact hw₂
  refine hconclude.bind fun conclusion w₂ hw₂ => ?_
  cases conclusion with
  | completed progress =>
    -- The message of the assistant does not touch the run, which then ends.
    have hmessage : TurnReaches turn (fun _ => Throughout (RunIs (· = .running) turn.runId))
        (createMessage env turn.sessionId (some turn.runId) .assistant (resultOf progress).output)
        w₂ :=
      Reaches.of_keeping (keeping_createMessage _ _ _ _) runIs_of_running hw₂
    have hcomplete : TurnReaches turn (TurnOver turn)
        (completeTurn env turn (resultOf progress) >>= fun _ => commit env) w₂ := by
      rw [completeTurn, bind_assoc]
      exact hmessage.bind fun _ w₃ hw₃ => settle_mark rfl _ _ _ _ (unsettled_of_running hw₃)
    exact hcomplete.bind_bind fun _ _ hover => Reaches.pure hover
  | failed message => exact Reaches.pure hw₂
  | cancelled text => exact Reaches.pure hw₂

/-- What comes after leaves the run over. -/
theorem keeping_announceTurn (conclusion : Conclusion) :
    Keeps (Keeping (RunIs p runId)) (announceTurn env turn conclusion) := by
  cases conclusion with
  | completed progress =>
    exact keeps_bind (keeping_recordTurn (fun _ _ h => h) _ _) fun _ =>
      keeps_bind keeps_attributes fun _ => keeping_yieldItem _
  | failed message => exact keeping_yieldItem _
  | cancelled text => exact keeps_bind (keeping_redisCommand _) fun _ => keeping_yieldItem _

/-- A turn that is opened is running. -/
theorem running_of_openStreamTurn {payload : ChatRequest} {store : Store} {w : World}
    (h : openStreamTurn env payload (World.start store) = (.ok turn, w)) :
    w.failed = false ∧ Throughout (RunIs (· = .running) turn.runId) w := by
  obtain ⟨hview, hcommitted, -⟩ := openStreamTurn_inView h
  have hrun : w.working.agentRuns.find? turn.runId = some _ := congrArg TurnView.run hview.view
  have hrunning : RunIs (· = .running) turn.runId w.working :=
    ⟨_, (KeyedTable.mem_of_find? hrun).1, rfl, rfl⟩
  refine ⟨hview.inOrder, ?_, hrunning⟩
  rw [hcommitted]
  exact hrunning

/-- The run of a turn is over after its request exactly where it is settled. -/
theorem over_iff_settleTurn {payload : ChatRequest} {store : Store} {w : World}
    (h : openStreamTurn env payload (World.start store) = (.ok turn, w)) :
    RunIs (·.isTerminal = true) turn.runId
        ((Request.chatStream payload).served env store).committed ↔
      ∃ conclusion w', settleTurn env turn w = (.ok conclusion, w') := by
  have hserved : ((Request.chatStream payload).served env store).committed =
      ((settleTurn env turn >>= announceTurn env turn) w).2.committed := by
    rw [Request.served, Request.handle, committed_streamed, handleChatStream_eq_openStreamTurn,
      bind_apply_ok h, continueStream_eq_settle]
  rw [hserved]
  exact over_iff_of_reaches (reaches_settleTurn (running_of_openStreamTurn h).2)
    keeping_announceTurn not_over_of_running

end Chat

end AgnoRuntime
