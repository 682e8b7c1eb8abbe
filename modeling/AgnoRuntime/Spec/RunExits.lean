import AgnoRuntime.Spec.StreamExits

/-!
# Where a streamed workflow run can be struck

The condition of `StreamExits` for `run_workflow_stream`, and the two together: which
streams leave their run over, and which leave it running.
-/

namespace AgnoRuntime

open Svc Prog WorkflowExecutionService

/-! ## The statements of a run -/

namespace WorkflowExecutionService.OpenRun

variable (opened : OpenRun)

/-- The id of the run. -/
abbrev runId : Uuid := opened.context.workflowRunId

/-- The statements that end the run. -/
def ending (status : WorkflowRunStatus) (f : WorkflowRun → WorkflowRun)
    (hf : ∀ r, (f r).id = r.id) (eventType : WorkflowEventType) (payload : WorkflowPayload) :
    List (Statement × (Db → Db)) :=
  [(.setWorkflowRunStatus opened.runId status, (·.withWorkflowRun opened.runId status f hf)),
    (.insert .workflowEvents, (·.withWorkflowEvent ⟨opened.runId, eventType, payload⟩)),
    (.commit, id)]

/-- A run keeps its id with its result. -/
private theorem id_withResult (result : String) (r : WorkflowRun) :
    ({ r with result := some result } : WorkflowRun).id = r.id := rfl

/-- A run keeps its id with its error. -/
private theorem id_withError (message : String) (r : WorkflowRun) :
    ({ r with errorMessage := some message } : WorkflowRun).id = r.id := rfl

/-- The statements of a run that is completed. -/
def completion (result : String) : List (Statement × (Db → Db)) :=
  (.insert .chatMessages,
      (·.withMessage ⟨opened.context.sessionId, none, .assistant, result⟩)) ::
    opened.ending .completed (fun r => { r with result := some result })
      (id_withResult result) .workflowCompleted (.resultLength result.length)

/-- The statements of a run that fails. -/
def failure (message : String) : List (Statement × (Db → Db)) :=
  opened.ending .failed (fun r => { r with errorMessage := some message })
    (id_withError message) .workflowFailed (.error message)

/-- The statements that start a step. -/
def starting (step : WorkflowStep) (stepInput : String) : List (Statement × (Db → Db)) :=
  [(.insert .workflowRunSteps, (·.withNewStep opened.runId step stepInput)),
    (.insert .workflowEvents, (·.withWorkflowEvent ⟨opened.runId, .workflowStepStarted,
      .stepStarted step.stepOrder step.stepType.value⟩)),
    (.commit, id)]

/-- The statements that complete a step. -/
def completing (record : Uuid) (stepOrder : Int) (output : String) :
    List (Statement × (Db → Db)) :=
  [(.setStepStatus record .completed,
      (·.withStep record .completed (fun s => { s with output := some output })
        fun s => Eq.refl s.id)),
    (.insert .workflowEvents, (·.withWorkflowEvent ⟨opened.runId, .workflowStepCompleted,
      .stepCompleted stepOrder⟩)),
    (.commit, id)]

end WorkflowExecutionService.OpenRun

/-- The statements that mark a step failed. -/
def failing (record : Uuid) (message : String) : List (Statement × (Db → Db)) :=
  [(.setStepStatus record .failed,
      (·.withStep record .failed (fun s => { s with errorMessage := some message })
        fun s => Eq.refl s.id)),
    (.commit, id)]

/-! ## The condition -/

section Condition

variable (env : Env) (opened : OpenRun)

/-- Nothing strikes a run one of whose steps has failed. -/
def FailureUndisturbed (record : Uuid) (step : WorkflowStep) (exc : PyError) (m : Moment) : Prop :=
  exc.isException = true ∧
  Takes env (failing record exc.str) m ∧
  env.closes m.sent = false ∧
  Takes env (opened.failure (WorkflowExecutor.stepFailed step exc).str)
    (m.wroteAll (failing record exc.str)).shown

/-- Nothing strikes the execution of a step: the client stays for its events, and what fails is an
    `Exception`. Where it succeeds, the rest is asked for. -/
def ExecutionUndisturbed (context : WorkflowContext) (step : WorkflowStep) (stepInput : String)
    (record : Uuid) (rest : String → Moment → Prop) (m : Moment) : Prop :=
  match WorkflowRunner.resolveStep env.hierarchyScan m.db.metadata step with
  | .error exc => FailureUndisturbed env opened record step exc m
  | .ok dispatch =>
    let live := streamOf env m dispatch (WorkflowRunner.args stepInput context)
    (∀ j < live.stream.events.length, env.closes (m.sent + j) = false) ∧
    match live.stream.error with
    | some exc => FailureUndisturbed env opened record step exc (m.called.streamed live)
    | none => rest (answerOf live.stream.events) (m.called.streamed live)

/-- Nothing strikes a run from one of its steps on: the database takes the statements of each step,
    the client stays for it, and its execution is undisturbed. -/
def StepsUndisturbed (input : String) : List WorkflowStep → WorkflowContext → Moment → Prop
  | [], context, m => Takes env (opened.completion context.finalResult) m
  | step :: steps, context, m =>
    let stepInput := context.previousOutput step.stepOrder input
    let record := m.db.workflowRunSteps.freshKey
    Takes env (opened.starting step stepInput) m ∧
    env.closes m.sent = false ∧
    ExecutionUndisturbed env opened context step stepInput record
      (fun output m =>
        Takes env (opened.completing record step.stepOrder output) m ∧
        env.closes m.sent = false ∧
        StepsUndisturbed input steps (context.recordResult step.stepOrder output)
          (m.wroteAll (opened.completing record step.stepOrder output)).shown)
      (m.wroteAll (opened.starting step stepInput)).shown

/-- Nothing strikes a run that is committed as running before it is settled. -/
def RunUndisturbed (input : String) (m : Moment) : Prop :=
  env.closes m.sent = false ∧
  if opened.steps.isEmpty then
    Takes env (opened.failure "Workflow has no steps to execute") m.shown
  else
    StepsUndisturbed env opened input (WorkflowExecutor.ordered opened.steps) opened.context m.shown

end Condition

/-! ## The end of a run -/

section Ends

variable {env : Env} {opened : OpenRun} {input : String} {w : World}

/-- What the rest of a settled run asks for. -/
private def RunRest (env : Env) (opened : OpenRun) : Except String WorkflowContext → World → Prop
  | .error _, _ => True
  | .ok context, w =>
    Returns (completeRun env opened context.finalResult >>= fun _ => commit env) (fun _ _ => True) w

/-- A run is completed where the database takes its statements. -/
private theorem returns_completeRun (hw : w.failed = false) (result : String) :
    Returns (completeRun env opened result >>= fun _ => commit env) (fun _ _ => True) w ↔
      Takes env (opened.completion result) w.moment := by
  simp only [completeRun, WorkflowRunService.markCompleted, createMessage_eq_write,
    workflow_updateRun_eq_write, workflow_emitEvent_eq_write, returns_bind, returns_write,
    returns_commit, World.wrote_failed, hw, and_true, OpenRun.completion, OpenRun.ending, Takes]
  exact Iff.rfl

/-- The handler re-raises what is none of the engine's. -/
private theorem failRun_of_foreign (exc : PyError) (h : Foreign exc) :
    failRun env opened exc = Prog.raise exc := by
  rw [failRun, if_neg (by rw [h]; exact Bool.false_ne_true)]

/-- A run that fails is marked so where the database takes the statements. -/
private theorem returns_failRun (hw : w.failed = false) {e : PyError}
    (he : e.isRuntimeExecution = true) :
    Returns (failRun env opened e) (RunRest env opened) w ↔
      Takes env (opened.failure e.str) w.moment := by
  rw [failRun, if_pos he]
  simp only [WorkflowRunService.markFailed, workflow_updateRun_eq_write,
    workflow_emitEvent_eq_write, returns_bind, returns_write, returns_commit, returns_pure,
    World.wrote_failed, hw, RunRest, and_true, OpenRun.failure, OpenRun.ending, Takes]
  exact Iff.rfl

/-- A step that fails leads to the end of the run where nothing strikes it. -/
private theorem returns_failedStep {record : Uuid} {step : WorkflowStep} {exc : PyError}
    {x : Svc String} {f : String → Svc (Except String WorkflowContext)} {w' : World}
    (hx : x w = (.error exc, w')) (hw' : exc.isException = true → w'.failed = false) :
    Returns ((x.handleError (failStreamedStep env opened record step) >>= f).handleError
        (failRun env opened)) (RunRest env opened) w ↔
      FailureUndisturbed env opened record step exc w'.moment := by
  -- The step has failed, and its handler runs.
  have hfails : ((x.handleError (failStreamedStep env opened record step) >>= f).handleError
      (failRun env opened)) w =
        ((failStreamedStep env opened record step exc >>= f).handleError (failRun env opened)) w' :=
    handleError_apply_congr (bind_apply_congr (handleError_apply_error hx) f) _
  rw [Returns, hfails, FailureUndisturbed, failStreamedStep]
  cases hexc : exc.isException with
  | true =>
    have hworks := hw' hexc
    have hraise (w : World) : ((Prog.raise (WorkflowExecutor.stepFailed step exc) : Svc String) >>=
        f) w = (.error (WorkflowExecutor.stepFailed step exc), w) :=
      bind_apply_error (raise_apply _ w)
    -- The row is written and committed and the client told, and the run fails in turn.
    change Returns ((((write env (.setStepStatus record .failed) (·.withStep record .failed
      (fun s => { s with errorMessage := some exc.str }) fun _ => rfl)) >>= fun _ =>
        commit env >>= fun _ =>
          yieldItem env (opened.item "WorkflowStepFailed" (.stepFailed step.stepOrder exc.str)) >>=
            fun _ => (Prog.raise (WorkflowExecutor.stepFailed step exc) : Svc String)) >>=
              f).handleError (failRun env opened)) (RunRest env opened) w' ↔ _
    rw [bind_assoc, returns_handleError_bind_of_raisesOnly (foreign_write _ _) failRun_of_foreign,
      returns_write hworks, bind_assoc,
      returns_handleError_bind_of_raisesOnly foreign_commit failRun_of_foreign,
      returns_commit (w := w'.wrote _ _) hworks, bind_assoc,
      returns_handleError_bind_of_raisesOnly (foreign_yieldItem _) failRun_of_foreign,
      returns_yieldItem, returns_handleError_of_error (hraise _),
      returns_failRun (w := ((w'.wrote _ _).saved).shown _) hworks rfl]
    simp only [failing, Takes, and_true, true_and, and_assoc, moment_shown, moment_saved,
      moment_wrote]
    exact Iff.rfl
  | false =>
    -- An exception that is no `Exception` passes both handlers.
    have hraise : ((Prog.raise exc : Svc String) >>= f) w' = (.error exc, w') :=
      bind_apply_error (raise_apply exc w')
    have hforeign : Foreign exc := foreign_of_not_exception hexc
    simp only [Bool.false_eq_true, if_false, false_and, iff_false]
    change ¬Returns (((Prog.raise exc : Svc String) >>= f).handleError (failRun env opened)) _ w'
    rw [returns_handleError_of_error hraise, failRun_of_foreign exc hforeign]
    exact not_returns_of_error (raise_apply exc w')

/-- A step is started where the database takes its record and its event. -/
private theorem returns_startStep (hw : w.failed = false) (step : WorkflowStep)
    (stepInput : String) {Q : Uuid → World → Prop} :
    Returns (WorkflowRunService.startStep env opened.runId step stepInput) Q w ↔
      env.refuses w.ticks (.insert .workflowRunSteps)
          (w.working.withNewStep opened.runId step stepInput) = none ∧
      env.refuses (w.ticks + 1) (.insert .workflowEvents)
          ((w.working.withNewStep opened.runId step stepInput).withWorkflowEvent ⟨opened.runId,
            .workflowStepStarted, .stepStarted step.stepOrder step.stepType.value⟩) = none ∧
      Q w.working.workflowRunSteps.freshKey
        ((w.wrote (.insert .workflowRunSteps) (·.withNewStep opened.runId step stepInput)).wrote
          (.insert .workflowEvents) (·.withWorkflowEvent ⟨opened.runId, .workflowStepStarted,
            .stepStarted step.stepOrder step.stepType.value⟩)) := by
  rw [WorkflowRunService.startStep, returns_bind, returns_of_ok (read_apply w)]
  change Returns (write env (.insert .workflowRunSteps)
    (·.withNewStep opened.runId step stepInput) >>= _) Q w ↔ _
  rw [returns_bind, returns_write hw, returns_bind, workflow_emitEvent_eq_write,
    returns_write (w := w.wrote _ _) hw, returns_pure]
  exact Iff.rfl

private theorem foreign_startStep (step : WorkflowStep) (stepInput : String) :
    RaisesOnly Foreign (WorkflowRunService.startStep env opened.runId step stepInput) :=
  raisesOnly_bind (fun _ _ _ h => by cases congrArg Prod.fst h) fun _ =>
    raisesOnly_bind (foreign_write _ _) fun _ => raisesOnly_bind (foreign_write _ _) fun _ =>
      raisesOnly_pure _

/-- The execution of a step leads to what comes after it where nothing strikes it. -/
private theorem returns_execution (hw : w.failed = false) (context : WorkflowContext)
    (step : WorkflowStep) (stepInput : String) (record : Uuid)
    {f : String → Svc (Except String WorkflowContext)} (rest : String → Moment → Prop)
    (hf : ∀ output w', w'.failed = false →
      (Returns ((f output).handleError (failRun env opened)) (RunRest env opened) w' ↔
        rest output w'.moment)) :
    Returns (((forwardStep env opened context step stepInput).handleError
        (failStreamedStep env opened record step) >>= f).handleError (failRun env opened))
        (RunRest env opened) w ↔
      ExecutionUndisturbed env opened context step stepInput record rest w.moment := by
  rw [ExecutionUndisturbed]
  cases hresolve : WorkflowRunner.resolveStep env.hierarchyScan w.moment.db.metadata step with
  -- The agent or team is not found, and the stream of the step never begins.
  | error exc =>
    exact (returns_failedStep (forwardStep_unresolved hw hresolve) fun _ => hw).trans Iff.rfl
  | ok dispatch =>
    have hopen : WorkflowRunner.runStepStream env step stepInput context w =
        (.ok (streamOf env w.moment dispatch (WorkflowRunner.args stepInput context)),
          w.called ⟨dispatch, WorkflowRunner.args stepInput context⟩) :=
      runStepStream_apply_ok hw hresolve
    -- The stream of the step, as the engine answers.
    generalize hlive : streamOf env w.moment dispatch (WorkflowRunner.args stepInput context) =
      live at hopen
    dsimp only
    rw [hlive]
    -- The client is there for all events, or leaves at one of them.
    by_cases hattended : ∀ j < live.stream.events.length, env.closes (w.moment.sent + j) = false
    · cases hend : live.stream.error with
      | none =>
        have hstep : forwardStep env opened context step stepInput w =
            (.ok (answerOf live.stream.events), World.streamed opened step live
              -- The step has an answer, and the others follow.
              (w.called ⟨dispatch, WorkflowRunner.args stepInput context⟩)) :=
          forwardStep_completed hopen hattended hend
        have hrest := hf (answerOf live.stream.events) (World.streamed opened step live
          (w.called ⟨dispatch, WorkflowRunner.args stepInput context⟩))
            ((failed_streamed live).trans hw)
        rw [moment_streamed, moment_called] at hrest
        rw [Returns, handleError_apply_congr (bind_apply_ok (handleError_apply_ok hstep))]
        exact hrest.trans (and_iff_right hattended).symm
      | some exc =>
        -- The stream broke off.
        have hstep : forwardStep env opened context step stepInput w =
            (.error exc, (World.streamed opened step live
              (w.called ⟨dispatch, WorkflowRunner.args stepInput context⟩)).raised exc) :=
          forwardStep_failed hopen hattended hend
        refine (returns_failedStep hstep fun _ => (failed_streamed live).trans hw).trans ?_
        rw [moment_raised, moment_streamed, moment_called]
        exact (and_iff_right hattended).symm
    · obtain ⟨w', hleft⟩ : ∃ w', forwardStep env opened context step stepInput w =
          (.error .generatorExit, w') := forwardStep_left hopen hattended
      refine (returns_failedStep hleft fun hexc => by cases hexc).trans ?_
      exact iff_of_false (fun h => by cases h.1) fun h => hattended h.1

/-- The rest of the steps leads to the end of the run where nothing strikes it. -/
private theorem returns_streamSteps (hw : w.failed = false) (steps : List WorkflowStep)
    (context : WorkflowContext) :
    Returns ((streamSteps env opened input steps context >>= fun context =>
        return .ok context).handleError (failRun env opened)) (RunRest env opened) w ↔
      StepsUndisturbed env opened input steps context w.moment := by
  -- one round of the loop at a time; `hrest` is what follows a step that succeeded
  induction steps generalizing context w with
  | nil =>
    have hdone : (streamSteps env opened input [] context >>= fun context =>
        (return .ok context : Svc (Except String WorkflowContext))) w = (.ok (.ok context), w) := rfl
    rw [returns_of_ok (handleError_apply_ok hdone)]
    exact returns_completeRun hw context.finalResult
  | cons step steps ih =>
    have hrest (record : Uuid) (output : String) (w' : World) (hw' : w'.failed = false) :
        Returns ((WorkflowRunService.completeStep env opened.runId record step.stepOrder output >>=
          fun _ => commit env >>= fun _ =>
            yieldItem env (opened.item "WorkflowStepCompleted"
              (.stepCompleted step.stepOrder output)) >>= fun _ =>
                streamSteps env opened input steps (context.recordResult step.stepOrder output) >>=
                  fun context => return .ok context).handleError (failRun env opened))
            (RunRest env opened) w' ↔
          Takes env (opened.completing record step.stepOrder output) w'.moment ∧
          env.closes w'.moment.sent = false ∧
          StepsUndisturbed env opened input steps (context.recordResult step.stepOrder output)
            (w'.moment.wroteAll (opened.completing record step.stepOrder output)).shown := by
      -- the record and its event are written, saved and sent; the handler lets through what
      -- these raise
      rw [WorkflowRunService.completeStep, updateStep_eq_write, workflow_emitEvent_eq_write,
        bind_assoc, returns_handleError_bind_of_raisesOnly (foreign_write _ _) failRun_of_foreign,
        returns_write hw', returns_handleError_bind_of_raisesOnly (foreign_write _ _)
          failRun_of_foreign, returns_write (w := w'.wrote _ _) hw',
        returns_handleError_bind_of_raisesOnly foreign_commit failRun_of_foreign,
        returns_commit (w := (w'.wrote _ _).wrote _ _) hw',
        returns_handleError_bind_of_raisesOnly (foreign_yieldItem _) failRun_of_foreign,
        returns_yieldItem, ih (w := ((((w'.wrote _ _).wrote _ _).saved).shown _)) hw']
      simp only [OpenRun.completing, Takes, and_true, and_assoc, moment_shown, moment_saved,
        moment_wrote]
      exact Iff.rfl
    rw [streamSteps, streamStep, StepsUndisturbed]
    simp only [bind_assoc, pure_bind]
    rw [returns_handleError_bind_of_raisesOnly (foreign_startStep _ _) failRun_of_foreign,
      returns_startStep hw,
      returns_handleError_bind_of_raisesOnly foreign_commit failRun_of_foreign,
      returns_commit (w := (w.wrote _ _).wrote _ _) hw,
      returns_handleError_bind_of_raisesOnly (foreign_yieldItem _) failRun_of_foreign,
      returns_yieldItem, returns_execution (w := (((w.wrote _ _).wrote _ _).saved).shown _) hw
        context step _ _
        (fun output m =>
          Takes env (opened.completing w.working.workflowRunSteps.freshKey step.stepOrder output)
            m ∧
          env.closes m.sent = false ∧
          StepsUndisturbed env opened input steps (context.recordResult step.stepOrder output)
            (m.wroteAll (opened.completing w.working.workflowRunSteps.freshKey step.stepOrder
              output)).shown)
        (hrest _)]
    simp only [OpenRun.starting, Takes, and_true, and_assoc, moment_shown, moment_saved,
      moment_wrote]
    exact Iff.rfl

/-- A run that is committed as running is settled exactly where nothing strikes it before. -/
theorem returns_settleRun (hw : w.failed = false) :
    Returns (settleRun env opened input) (fun _ _ => True) w ↔
      RunUndisturbed env opened input w.moment := by
  -- The first item is sent, and the run goes on.
  rw [settleRun, returns_bind, returns_yieldItem]
  generalize opened.item "WorkflowStarted" (.input input) = item
  rw [RunUndisturbed, ← moment_shown w item, returns_bind]
  refine and_congr Iff.rfl ?_
  have hconclude : Returns (concludeRun env opened input) (RunRest env opened) (w.shown item) ↔
      if opened.steps.isEmpty then
        Takes env (opened.failure "Workflow has no steps to execute") (w.shown item).moment
      else
        StepsUndisturbed env opened input (WorkflowExecutor.ordered opened.steps) opened.context
          (w.shown item).moment := by
    rw [concludeRun, map_eq_pure_bind, executeStream]
    -- A run without steps fails; else its steps are executed.
    split
    · have hraise : ((Prog.raise (.runtimeExecution "Workflow has no steps to execute") :
          Svc WorkflowContext) >>= fun context =>
            (pure (.ok context) : Svc (Except String WorkflowContext))) (w.shown item) =
              (.error (.runtimeExecution "Workflow has no steps to execute"), w.shown item) := rfl
      rw [returns_handleError_of_error hraise]
      exact returns_failRun (w := w.shown item)
        (e := .runtimeExecution "Workflow has no steps to execute") hw rfl
    · exact returns_streamSteps (w := w.shown item) hw _ _
  refine (returns_congr fun conclusion w' _ => ?_).trans hconclude
  -- The end is sent, or was not reached.
  cases conclusion with
  | ok context => simp only [RunRest, returns_bind, returns_pure]
  | error message => exact returns_pure

end Ends

/-! ## The two streams -/

open ChatService

/-- A streamed run that was committed as running is over after its request exactly where nothing
    strikes it before it is settled: the client stays, Redis answers, the database takes every
    statement, and the engine raises only what the handlers are for. -/
theorem streamed_run_over_iff (env : Env) (store : Store) :
    (∀ (payload : ChatRequest) (turn : ChatTurn) (w : World),
      openStreamTurn env payload (World.start store) = (.ok turn, w) →
      (RunIs (·.isTerminal = true) turn.runId
          ((Request.chatStream payload).served env store).committed ↔
        TurnUndisturbed env turn w.moment)) ∧
    ∀ (workflowId : Uuid) (payload : WorkflowRunRequest) (opened : OpenRun) (w : World),
      WorkflowExecutionService.beginStream env workflowId payload (World.start store) =
        (.ok opened, w) →
      (WorkflowRunIs (·.isTerminal = true) opened.runId
          ((Request.runWorkflowStream workflowId payload).served env store).committed ↔
        RunUndisturbed env opened payload.input w.moment) := by
  constructor
  · intro payload turn w hopen
    rw [over_iff_settleTurn hopen, ← returns_settleTurn (running_of_openStreamTurn hopen).1]
    simp only [Returns, and_true]
  · intro workflowId payload opened w hopen
    rw [over_iff_settleRun hopen, ← returns_settleRun (running_of_beginStream hopen).1]
    simp only [Returns, and_true]

section Examples

open Deployment

/-- The deployment, with a client that is gone when the first item is sent. -/
def Deployment.deserted : Env :=
  { Deployment.env .trustClientUserId none (answering "Hi") with closes := fun n => n = 0 }

/-- Both streams are opened, and their runs are running when their requests are over. -/
private theorem deserted_streams :
    (∃ turn w, openStreamTurn deserted (hello (some "sales") none) (World.start store) =
        (.ok turn, w) ∧
      ((Request.chatStream (hello (some "sales") none)).served deserted
        store).committed.agentRuns.rows.all (·.status = .running) = true) ∧
    ∃ opened w, WorkflowExecutionService.beginStream deserted 1 ⟨"Hello", none, none⟩
        (World.start store) = (.ok opened, w) ∧
      ((Request.runWorkflowStream 1 ⟨"Hello", none, none⟩).served deserted
        store).committed.workflowRuns.rows.all (·.status = .running) = true := by
  constructor
  · have hopens : (openStreamTurn deserted (hello (some "sales") none)
        (World.start store)).1.isOk = true := by decide +kernel
    rcases hopen : openStreamTurn deserted (hello (some "sales") none) (World.start store) with
      ⟨exc | turn, w⟩
    · rw [hopen] at hopens
      cases hopens
    · exact ⟨turn, w, rfl, by decide +kernel⟩
  · have hopens : (WorkflowExecutionService.beginStream deserted 1 ⟨"Hello", none, none⟩
        (World.start store)).1.isOk = true := by decide +kernel
    rcases hopen : WorkflowExecutionService.beginStream deserted 1 ⟨"Hello", none, none⟩
        (World.start store) with ⟨exc | opened, w⟩
    · rw [hopen] at hopens
      cases hopens
    · exact ⟨opened, w, rfl, by decide +kernel⟩

/-- The theorem at the two streams of a client that is gone. -/
theorem streamed_run_over_iff_example :
    (∃ turn w, openStreamTurn deserted (hello (some "sales") none) (World.start store) =
        (.ok turn, w) ∧
      (RunIs (·.isTerminal = true) turn.runId
          ((Request.chatStream (hello (some "sales") none)).served deserted store).committed ↔
        TurnUndisturbed deserted turn w.moment)) ∧
    ∃ opened w, WorkflowExecutionService.beginStream deserted 1 ⟨"Hello", none, none⟩
        (World.start store) = (.ok opened, w) ∧
      (WorkflowRunIs (·.isTerminal = true) opened.runId
          ((Request.runWorkflowStream 1 ⟨"Hello", none, none⟩).served deserted store).committed ↔
        RunUndisturbed deserted opened "Hello" w.moment) := by
  obtain ⟨⟨turn, w, hturn, -⟩, opened, w', hopened, -⟩ := deserted_streams
  exact ⟨⟨turn, w, hturn, (streamed_run_over_iff deserted store).1 _ turn w hturn⟩, opened, w',
    hopened, (streamed_run_over_iff deserted store).2 _ _ opened w' hopened⟩

/-- A client that is gone when the first item is sent leaves both runs running. -/
theorem deserted_runs_stay_running :
    (∃ turn w, openStreamTurn deserted (hello (some "sales") none) (World.start store) =
        (.ok turn, w) ∧
      ¬RunIs (·.isTerminal = true) turn.runId
        ((Request.chatStream (hello (some "sales") none)).served deserted store).committed) ∧
    ∃ opened w, WorkflowExecutionService.beginStream deserted 1 ⟨"Hello", none, none⟩
        (World.start store) = (.ok opened, w) ∧
      ¬WorkflowRunIs (·.isTerminal = true) opened.runId
        ((Request.runWorkflowStream 1 ⟨"Hello", none, none⟩).served deserted store).committed := by
  obtain ⟨⟨turn, w, hturn, hruns⟩, opened, w', hopened, hruns'⟩ := deserted_streams
  refine ⟨⟨turn, w, hturn, fun hover => ?_⟩, opened, w', hopened, fun hover => ?_⟩
  · obtain ⟨run, hrun, -, hterminal⟩ := hover
    have hrunning := of_decide_eq_true (List.all_eq_true.mp hruns run hrun)
    rw [hrunning] at hterminal
    cases hterminal
  · obtain ⟨run, hrun, -, hterminal⟩ := hover
    have hrunning := of_decide_eq_true (List.all_eq_true.mp hruns' run hrun)
    rw [hrunning] at hterminal
    cases hterminal

end Examples

end AgnoRuntime
