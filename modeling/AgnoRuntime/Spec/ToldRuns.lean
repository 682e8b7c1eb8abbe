import AgnoRuntime.Spec.RequestHistories
import AgnoRuntime.Spec.RunStories
import AgnoRuntime.Spec.Stages
import AgnoRuntime.Spec.WorkflowRuns

/-!
# Workflow runs tell their story, whatever fails

A streamed run commits before each item it sends, so wherever it is cut off, its
client has been told exactly what the committed rows tell; a run that is not
streamed commits at its end only. Later requests do not change the story.
-/

namespace AgnoRuntime

open Svc Prog WorkflowExecutionService

/-! ## What is told -/

/-- What the client of a streamed step has been sent of the engine's stream, and what came of the
    step; its agent or team may not be found. -/
def StepStory.Streamed (env : Env) (m : Metadata) (context : WorkflowContext) (s : StepStory) :
    Prop :=
  (∃ exc, WorkflowRunner.resolveStep env.hierarchyScan m s.step = .error exc ∧ s.sent = [] ∧
      (s.phase = .running ∨ s.phase = .failed exc)) ∨
    ∃ dispatch stream, WorkflowRunner.resolveStep env.hierarchyScan m s.step = .ok dispatch ∧
      EngineAnswers env dispatch (WorkflowRunner.args s.input context) m stream ∧
      s.sent <+: stream.events ∧
      (s.phase = .running ∨ s.sent = stream.events ∧ s.phase = .ofStream stream)

/-- The rows of the tables tell the story of a run that was opened on `base`. -/
structure RunStory.Told (known : StepStory → Prop) (base db : Db) (story : RunStory) : Prop where
  opens : story.Opens base
  possible : story.Possible known
  rows : story.rows.In base db

/-- What a streamed run has left in the tables, and what its client has been sent: nothing, or a
    story that is told by the rows of a run. -/
def RunStreamTold (env : Env) (base : Db) (workflowId : Uuid) (request : WorkflowRunRequest)
    (items : List StreamItem) (db : Db) : Prop :=
  db = base ∧ items = [] ∨
    ∃ story : RunStory, story.workflowId = workflowId ∧ story.request = request ∧
      story.Told (fun s => s.Streamed env base.metadata story.opened.context) base db ∧
      items = story.items

/-- The story of a run that was just opened. -/
def RunStory.opening (opened : OpenRun) (workflowId : Uuid) (request : WorkflowRunRequest) :
    RunStory :=
  ⟨opened, workflowId, request, [], .pending⟩

variable {base : Db} {env : Env} {story : RunStory} {s : StepStory} {C : Db → Prop}
  {items : List StreamItem} {context : WorkflowContext} {rest : List WorkflowStep}

/-! ## Statements -/

section Statements

variable {rows : RunRows} {runId : Uuid}

theorem told_workflow_event (hid : rows.run.id = runId) (eventType : WorkflowEventType)
    (payload : WorkflowPayload) :
    Triple (Stage C (rows.In base) items)
      (WorkflowRunService.emitEvent env runId eventType payload)
      (fun _ => Stage C ((RunRows.mk rows.run rows.steps
        (rows.events ++ [⟨runId, eventType, payload⟩])).In base) items) (Declined C items) := by
  subst hid
  exact stage_write _ fun _ hdb => hdb.event _ _

theorem told_workflow_updateRun (hid : rows.run.id = runId) (status : WorkflowRunStatus)
    (f : WorkflowRun → WorkflowRun) (hf : ∀ r, (f r).id = r.id) :
    Triple (Stage C (rows.In base) items) (WorkflowRunService.updateRun env runId status f hf)
      (fun _ => Stage C ((RunRows.mk { f rows.run with status := status } rows.steps
        rows.events).In base) items) (Declined C items) := by
  subst hid
  exact stage_write _ fun _ hdb => hdb.changed status f hf

theorem told_updateStep {before : List WorkflowRunStep} {record : WorkflowRunStep}
    (hsteps : rows.steps = before ++ [record]) (status : WorkflowStepStatus)
    (f : WorkflowRunStep → WorkflowRunStep) (hf : ∀ s, (f s).id = s.id)
    (hrun : ∀ s, (f s).workflowRunId = s.workflowRunId) :
    Triple (Stage C (rows.In base) items)
      (WorkflowRunService.updateStep env record.id status f hf)
      (fun _ => Stage C ((RunRows.mk rows.run (before ++ [{ f record with status := status }])
        rows.events).In base) items) (Declined C items) :=
  stage_write _ fun _ hdb => hdb.lastStep hsteps status f hf hrun

/-- A message of a workflow run belongs to no turn. -/
theorem told_workflow_message (sessionId : Uuid) (role : MessageRole) (content : String) :
    Triple (Stage C (rows.In base) items) (createMessage env sessionId none role content)
      (fun _ => Stage C (rows.In base) items) (Declined C items) :=
  stage_write _ fun _ hdb => ⟨hdb.fresh, hdb.metadata, hdb.run, hdb.steps, hdb.events⟩

end Statements

/-! ## Opening a run -/

/-- A run is created under the next key of the table, with its first event. -/
theorem told_workflow_createRun (workflowId sessionId : Uuid) (input : String)
    (createdBy : Option String) :
    Triple (Stage C (SameWorkflowRuns base) items)
      (WorkflowRunService.createRun env workflowId sessionId input createdBy)
      (fun runId => Stage C ((RunRows.mk
        ⟨runId, workflowId, sessionId, .pending, input, none, none, createdBy⟩ []
          [⟨runId, .workflowStarted, .input input⟩]).In base) items) (Declined C items) := by
  intro w hw
  -- The row of the run is inserted, with the id that is free.
  have hinsert : Triple (Stage C (fun db => db = w.working) items)
      (write env (.insert .workflowRuns)
        (·.withNewWorkflowRun workflowId sessionId input createdBy))
      (fun _ => Stage C ((RunRows.mk ⟨w.working.workflowRuns.freshKey, workflowId, sessionId,
        .pending, input, none, none, createdBy⟩ [] []).In base) items) (Declined C items) :=
    stage_write _ fun db hdb => hdb ▸ .created hw.working workflowId sessionId input createdBy
  -- The event follows it.
  have hcreate : Triple (Stage C (fun db => db = w.working) items)
      (write env (.insert .workflowRuns)
          (·.withNewWorkflowRun workflowId sessionId input createdBy) >>= fun _ =>
        WorkflowRunService.emitEvent env w.working.workflowRuns.freshKey .workflowStarted
            (.input input) >>= fun _ =>
          (pure w.working.workflowRuns.freshKey : Svc Uuid))
      (fun runId => Stage C ((RunRows.mk
        ⟨runId, workflowId, sessionId, .pending, input, none, none, createdBy⟩ []
          [⟨runId, .workflowStarted, .input input⟩]).In base) items) (Declined C items) :=
    triple_bind hinsert fun _ => triple_bind (told_workflow_event rfl _ _) fun _ =>
      triple_pure fun _ hw => hw
  exact hcreate w hw.exact

/-- The workflow, the session, the run, its first event and the message of the user. -/
theorem told_openRun (workflowId : Uuid) (request : WorkflowRunRequest) :
    Triple (Stage C (fun db => db = base) items) (openRun env workflowId request)
      (fun opened w => (RunStory.opening opened workflowId request).Opens base ∧
        Stage C ((RunStory.opening opened workflowId request).rows.In base) items w)
      (Abandoned C items) := by
  refine triple_bind ((stage_fetch_found _).onError fun _ _ h => h.abandoned) fun found w hw => ?_
  obtain ⟨⟨db, rfl, hfound⟩, hw⟩ := hw
  have hsame : Stage C (SameWorkflowRuns db) items w :=
    hw.mono (fun _ h => h) fun _ h => h ▸ ⟨rfl, rfl, rfl, rfl⟩
  refine triple_bind (stage_getOrCreateSession
    (fun _ _ h => ⟨h.metadata, h.runs, h.steps, h.events⟩) _ _ _ _ _ _) (fun session => ?_) w hsame
  exact triple_bind (abandoning (told_workflow_createRun _ _ _ _)) fun runId =>
    triple_bind (abandoning (told_workflow_message _ _ _)) fun _ =>
      triple_pure fun _ hw => ⟨⟨hfound, rfl⟩, hw⟩

theorem told_workflow_markRunning (h : story.phase = .pending) :
    Triple (Stage C (story.rows.In base) items)
      (WorkflowRunService.markRunning env story.runId)
      (fun _ => Stage C ((story.inPhase .running).rows.In base) items) (Declined C items) := by
  have hrows := story.rows_running h
  exact hrows ▸ told_workflow_updateRun rfl .running (fun r => r) fun _ => rfl

/-! ## Steps -/

/-- The records of the steps before, and that of the step that runs. -/
theorem steps_withStep : (story.withStep s).rows.steps =
    story.rows.steps ++ [s.record story.runId] := by
  simp [RunStory.rows, RunStory.withStep, RunStory.runId]

section Steps

variable (hrunning : story.phase = .running)

include hrunning

/-- The record of a step is created under the next key of its table. -/
theorem told_startStep (step : WorkflowStep) (stepInput : String) :
    Triple (Stage C (story.rows.In base) items)
      (WorkflowRunService.startStep env story.runId step stepInput)
      (fun record => Stage C
        ((story.withStep ⟨record, step, stepInput, [], .running⟩).rows.In base) items)
      (Declined C items) := by
  intro w hw
  have hrows := story.rows_started hrunning
    (s := ⟨w.working.workflowRunSteps.freshKey, step, stepInput, [], .running⟩) rfl
  -- The row of the step is inserted, with the id that is free.
  have hinsert : Triple (Stage C (fun db => db = w.working) items)
      (write env (.insert .workflowRunSteps) (·.withNewStep story.runId step stepInput))
      (fun _ => Stage C ((RunRows.mk story.rows.run (story.rows.steps ++
        [startedStep story.runId step stepInput w.working.workflowRunSteps.freshKey])
          story.rows.events).In base) items) (Declined C items) :=
    stage_write _ fun db hdb => hdb ▸ hw.working.newStep step stepInput
  -- The event follows it.
  have hstart : Triple (Stage C (fun db => db = w.working) items)
      (write env (.insert .workflowRunSteps) (·.withNewStep story.runId step stepInput) >>=
        fun _ => WorkflowRunService.emitEvent env story.runId .workflowStepStarted
            (.stepStarted step.stepOrder step.stepType.value) >>= fun _ =>
          (pure w.working.workflowRunSteps.freshKey : Svc Uuid))
      (fun record => Stage C
        ((story.withStep ⟨record, step, stepInput, [], .running⟩).rows.In base) items)
      (Declined C items) :=
    triple_bind hinsert fun _ => triple_bind (told_workflow_event rfl _ _) fun _ =>
      triple_pure fun _ hw => hrows ▸ hw
  exact hstart w hw.exact

theorem told_completeStep (hs : s.phase = .running) (output : String) :
    Triple (Stage C ((story.withStep s).rows.In base) items)
      (WorkflowRunService.completeStep env story.runId s.recordId s.step.stepOrder output)
      (fun _ => Stage C
        ((story.withStep { s with phase := .completed output }).rows.In base) items)
      (Declined C items) := by
  have hrows := story.rows_completedStep hrunning hs output
  exact hrows ▸ triple_bind
    (told_updateStep steps_withStep .completed (fun r => { r with output := some output })
      (fun _ => rfl) fun _ => rfl)
    fun _ => told_workflow_event rfl _ _

theorem told_failStep (hs : s.phase = .running) (exc : PyError) :
    Triple (Stage C ((story.withStep s).rows.In base) items)
      (WorkflowRunService.failStep env s.recordId exc.str)
      (fun _ => Stage C ((story.withStep { s with phase := .failed exc }).rows.In base) items)
      (Declined C items) := by
  have hrows := story.rows_failedStep hrunning hs exc
  exact hrows ▸ told_updateStep steps_withStep .failed
    (fun r => { r with errorMessage := some exc.str }) (fun _ => rfl) fun _ => rfl

theorem told_workflow_markCompleted (result : String) :
    Triple (Stage C (story.rows.In base) items)
      (WorkflowRunService.markCompleted env story.runId result)
      (fun _ => Stage C ((story.inPhase (.completed result)).rows.In base) items)
      (Declined C items) := by
  have hrows := story.rows_completed hrunning result
  exact hrows ▸ triple_bind
    (told_workflow_updateRun rfl .completed (fun r => { r with result := some result }) fun _ => rfl)
    fun _ => told_workflow_event rfl _ _

theorem told_workflow_markFailed (error : String) :
    Triple (Stage C (story.rows.In base) items)
      (WorkflowRunService.markFailed env story.runId error)
      (fun _ => Stage C ((story.inPhase (.failed error)).rows.In base) items)
      (Declined C items) := by
  have hrows := story.rows_failed hrunning error
  exact hrows ▸ triple_bind
    (told_workflow_updateRun rfl .failed (fun r => { r with errorMessage := some error }) fun _ => rfl)
    fun _ => told_workflow_event rfl _ _

end Steps

/-! ## The position of a run -/

/-- A run that has been opened on these tables runs: some steps were executed, which has led to a
    context, and these are left. -/
structure RunAt (known : StepStory → Prop) (base : Db) (story : RunStory)
    (context : WorkflowContext) (rest : List WorkflowStep) : Prop where
  opens : story.Opens base
  phase : story.phase = .running
  executed : Executed known story.request.input story.opened.context story.steps context
  rest : WorkflowExecutor.ordered story.opened.steps = story.steps.map (·.step) ++ rest

section Position

variable {known : StepStory → Prop}

/-- A later context has the arguments of the first. -/
theorem Executed.args {input : String} {context₀ : WorkflowContext} {stories : List StepStory}
    (h : Executed known input context₀ stories context) (stepInput : String) :
    WorkflowRunner.args stepInput context = WorkflowRunner.args stepInput context₀ := by
  induction h with
  | start => rfl
  | next s output hstories hinput hphase hknown ih => exact ih

/-- Before the first step. -/
theorem RunAt.start {opened : OpenRun} {workflowId : Uuid} {request : WorkflowRunRequest}
    (hopens : (RunStory.opening opened workflowId request).Opens base) :
    RunAt known base ((RunStory.opening opened workflowId request).inPhase .running)
      opened.context (WorkflowExecutor.ordered opened.steps) :=
  ⟨⟨hopens.found, hopens.context⟩, rfl, .start _, rfl⟩

/-- One step further. -/
theorem RunAt.next {output : String} (h : RunAt known base story context (s.step :: rest))
    (hinput : s.input = context.previousOutput s.step.stepOrder story.request.input)
    (hknown : known s) (hphase : s.phase = .completed output) :
    RunAt known base (story.withStep s) (context.recordResult s.step.stepOrder output) rest where
  opens := ⟨h.opens.found, h.opens.context⟩
  phase := h.phase
  executed := .next s output h.executed hinput hphase hknown
  rest := by
    rw [RunStory.withStep, List.map_append, List.map_singleton, List.append_assoc]
    exact h.rest

/-- The results of a context are those of the steps executed. -/
theorem Executed.order_mem {input : String} {context₀ : WorkflowContext}
    {stories : List StepStory} (h : Executed known input context₀ stories context)
    (hnone : context₀.stepResults = []) :
    ∀ result ∈ context.stepResults, ∃ s ∈ stories, s.step.stepOrder = result.1 := by
  induction h with
  | start =>
    rw [hnone]
    exact fun result h => by cases h
  | next s output hstories hinput hphase hknown ih =>
    intro result hresult
    rcases List.mem_cons.mp hresult with rfl | hresult
    · exact ⟨s, List.mem_append_right _ (List.mem_singleton_self s), rfl⟩
    · obtain ⟨s', hs', horder⟩ := ih result hresult
      exact ⟨s', List.mem_append_left _ hs', horder⟩

/-- The steps are executed in their order, so the result of the next one is the final result. -/
theorem RunAt.finalResult {step : WorkflowStep}
    (h : RunAt known base story context (step :: rest)) (output : String) :
    (context.recordResult step.stepOrder output).finalResult = output := by
  have hnone : story.opened.context.stepResults = [] := by rw [h.opens.context]
  have hsorted : (WorkflowExecutor.ordered story.opened.steps).Pairwise
      (fun s s' => s.stepOrder ≤ s'.stepOrder) := List.pairwise_insertionSort _ _
  rw [h.rest, List.pairwise_append] at hsorted
  refine WorkflowContext.finalResult_recordResult (fun result hresult => ?_) output
  obtain ⟨s, hs, horder⟩ := h.executed.order_mem hnone result hresult
  rw [← horder]
  exact hsorted.2.2 _ (List.mem_map_of_mem hs) _ List.mem_cons_self

/-- The story of a run between two steps is told. -/
theorem RunAt.told (h : RunAt known base story context rest) {db : Db} (hin : story.rows.In base db) :
    story.Told known base db :=
  ⟨h.opens, .between context rest h.phase h.executed h.rest, hin⟩

/-- So is the story of a run that is completed after its last step. -/
theorem RunAt.told_completed (h : RunAt known base story context []) {db : Db}
    (hin : (story.inPhase (.completed context.finalResult)).rows.In base db) :
    (story.inPhase (.completed context.finalResult)).Told known base db :=
  ⟨⟨h.opens.found, h.opens.context⟩,
    .completed context h.executed (h.rest.trans (List.append_nil _)) rfl, hin⟩

end Position

/-! ## The position of a streamed run -/

/-- The position of a streamed run. -/
abbrev StreamAt (env : Env) (base : Db) (story : RunStory) (context : WorkflowContext)
    (rest : List WorkflowStep) : Prop :=
  RunAt (fun s => s.Streamed env base.metadata story.opened.context) base story context rest

/-- The step that runs is the next one, on the output of the one before. -/
structure StepAt (env : Env) (base : Db) (story : RunStory) (context : WorkflowContext)
    (rest : List WorkflowStep) (s : StepStory) : Prop where
  run : StreamAt env base story context (s.step :: rest)
  input : s.input = context.previousOutput s.step.stepOrder story.request.input
  streamed : s.Streamed env base.metadata story.opened.context

/-- One step of a streamed run further. -/
theorem StepAt.next {output : String} (h : StepAt env base story context rest s)
    (hphase : s.phase = .completed output) : StreamAt env base (story.withStep s)
      (context.recordResult s.step.stepOrder output) rest :=
  h.run.next h.input h.streamed hphase

/-- The story of a streamed run between two steps is told. -/
theorem streamTold_between (h : StreamAt env base story context rest) {db : Db}
    (hin : story.rows.In base db) (hitems : items = story.items) :
    RunStreamTold env base story.workflowId story.request items db :=
  .inr ⟨story, rfl, rfl, h.told hin, hitems⟩

/-- So is that of a run which is within a step, or has ended with it. -/
theorem StepAt.told (h : StepAt env base story context rest s) (hs : s.NotCompleted)
    {phase : RunPhase} (hphase : phase = .running ∨ ∃ exc, s.phase = .failed exc ∧
      phase = .failed (WorkflowExecutor.stepFailed s.step exc).str) {db : Db}
    (hin : ((story.withStep s).inPhase phase).rows.In base db)
    (hitems : items = ((story.withStep s).inPhase phase).items) :
    RunStreamTold env base story.workflowId story.request items db := by
  refine .inr ⟨(story.withStep s).inPhase phase, rfl, rfl,
    ⟨⟨h.run.opens.found, h.run.opens.context⟩, ?_, hin⟩, hitems⟩
  refine .within context story.steps s rest rfl h.run.executed ?_ h.input hs h.streamed hphase
  show _ = (story.steps ++ [s]).map (·.step) ++ rest
  rw [List.map_append, List.map_singleton, List.append_assoc]
  exact h.run.rest

/-- A run that is within a step runs. -/
theorem StepAt.told_within (h : StepAt env base story context rest s) (hs : s.NotCompleted)
    {db : Db} (hin : (story.withStep s).rows.In base db)
    (hitems : items = (story.withStep s).items) :
    RunStreamTold env base story.workflowId story.request items db := by
  have hself : (story.withStep s).inPhase .running = story.withStep s := by
    rw [RunStory.inPhase, ← h.run.phase]
    rfl
  exact h.told hs (.inl rfl) (hself.symm ▸ hin) (hself.symm ▸ hitems)

/-! ## A streamed step -/

/-- The run runs, and its client has been sent what its story tells. -/
abbrev RunStreaming (base : Db) (story : RunStory) : World → Prop :=
  Stage (story.rows.In base) (story.rows.In base) story.items

namespace StepStory.Streamed

variable {m : Metadata}

/-- A step that was just started. -/
theorem started (hs : s.phase = .running) (hsent : s.sent = []) : s.Streamed env m context := by
  cases hresolve : WorkflowRunner.resolveStep env.hierarchyScan m s.step with
  | error exc => exact .inl ⟨exc, hresolve, hsent, .inl hs⟩
  | ok dispatch =>
    exact .inr ⟨dispatch, _, hresolve, ⟨0, rfl⟩, hsent ▸ List.nil_prefix, .inl hs⟩

/-- A step whose client has been sent the first events of the stream. -/
theorem within {dispatch : Dispatch} {stream : EventStream}
    (hresolve : WorkflowRunner.resolveStep env.hierarchyScan m s.step = .ok dispatch)
    (hstream : EngineAnswers env dispatch (WorkflowRunner.args s.input context) m stream)
    {sent : List StreamEvent} (hinit : sent <+: stream.events) (hs : s.phase = .running) :
    ({ s with sent := sent } : StepStory).Streamed env m context :=
  .inr ⟨dispatch, stream, hresolve, hstream, hinit, .inl hs⟩

/-- A step that has ended as its stream. -/
theorem ended {dispatch : Dispatch} {stream : EventStream}
    (hresolve : WorkflowRunner.resolveStep env.hierarchyScan m s.step = .ok dispatch)
    (hstream : EngineAnswers env dispatch (WorkflowRunner.args s.input context) m stream)
    {phase : StepPhase} (hphase : phase = .ofStream stream) :
    ({ s with sent := stream.events, phase := phase } : StepStory).Streamed env m context :=
  .inr ⟨dispatch, stream, hresolve, hstream, List.prefix_refl _, .inr ⟨rfl, hphase⟩⟩

/-- Whether a step has ended need not be known. -/
theorem running (h : s.Streamed env m context) :
    ({ s with phase := .running } : StepStory).Streamed env m context := by
  rcases h with ⟨exc, hresolve, hsent, -⟩ | ⟨dispatch, stream, hresolve, hstream, hinit, -⟩
  · exact .inl ⟨exc, hresolve, hsent, .inl rfl⟩
  · exact .inr ⟨dispatch, stream, hresolve, hstream, hinit, .inl rfl⟩

end StepStory.Streamed

/-- The agent or team of a step is looked up. -/
theorem stage_resolve {V : Db → Prop} {m : Metadata} (hm : ∀ db, V db → db.metadata = m)
    (step : WorkflowStep) :
    Triple (Stage C V items) (WorkflowRunner.resolve env step)
      (fun dispatch w => WorkflowRunner.resolveStep env.hierarchyScan m step = .ok dispatch ∧
        Stage C V items w)
      fun exc w => WorkflowRunner.resolveStep env.hierarchyScan m step = .error exc ∧
        Stage C V items w := by
  intro w hw
  rw [WorkflowRunner.resolve, bind_apply_ok (query_apply hw.inOrder _), hm _ hw.working]
  exact stage_engineOutcome _ w hw

section Streams

variable (hrunning : story.phase = .running)

include hrunning

/-- The events of a step are sent one after the other; a client that leaves has got the last. -/
theorem told_forwardEvents (env : Env) (base : Db) (hs : s.phase = .running) {args : RunArgs}
    (live : LiveStream args)
    (events : List StreamEvent) (i : Nat) (hrest : live.stream.events = s.sent ++ events) :
    Triple (RunStreaming base (story.withStep s))
      (forwardEvents env story.opened s.step live events i (assistantContents s.sent))
      (fun collected w => collected = assistantContents live.stream.events ∧
        RunStreaming base (story.withStep { s with sent := live.stream.events }) w)
      fun exc w => exc = .generatorExit ∧ ∃ sent, sent <+: live.stream.events ∧
        Left ((story.withStep s).rows.In base)
          (story.withStep { s with sent := sent }).items exc w := by
  -- What has been sent grows by the events that are left.
  induction events generalizing i s with
  | nil =>
    rw [List.append_nil] at hrest
    rw [hrest]
    exact triple_pure fun _ hw => ⟨rfl, hw⟩
  | cons event events ih =>
    have hrows := story.rows_sent s (s.sent ++ [event])
    have hitems := story.items_sending hrunning hs event
    -- The collected texts are those of what has been sent.
    have hcollected : assistantContents s.sent ++ assistantContent event =
        assistantContents (s.sending event).sent := by
      simp [assistantContents, StepStory.sending]
    have hnext : live.stream.events = (s.sending event).sent ++ events := by
      simp [hrest, StepStory.sending]
    rw [forwardEvents_cons, hcollected]
    refine triple_bind (stage_useTools _ fun _ h => h.tools _) fun _ =>
      triple_bind ((stage_yieldItem_exit _).onError fun exc w h => ?_) fun _ => ?_
    -- The client leaves with this event.
    · exact ⟨h.1, (s.sending event).sent, ⟨events, hnext.symm⟩, hitems ▸ h.2⟩
    · rw [← hitems, ← hrows]
      exact ih (s := s.sending event) hs (i + 1) hnext

/-- What a streamed step is cut off with: its client is gone, or the engine has raised. -/
structure CutOff (env : Env) (base : Db) (story : RunStory) (s : StepStory) (exc : PyError)
    (w : World) : Prop where
  streamed : s.Streamed env base.metadata story.opened.context
  running : s.phase = .running
  left : exc = .generatorExit ∧
      Left ((story.withStep s).rows.In base) (story.withStep s).items exc w ∨
    ({ s with phase := .failed exc } : StepStory).Streamed env base.metadata
        story.opened.context ∧ RunStreaming base (story.withStep s) w

/-- The output of a streamed step is the content of the events its client has been sent. -/
theorem told_forwardStep (hs : s.phase = .running) (hsent : s.sent = [])
    (hargs : ∀ stepInput, WorkflowRunner.args stepInput context =
      WorkflowRunner.args stepInput story.opened.context) :
    Triple (RunStreaming base (story.withStep s))
      (forwardStep env story.opened context s.step s.input)
      (fun output w => ∃ sent,
        ({ s with sent := sent, phase := .completed output } : StepStory).Streamed env
          base.metadata story.opened.context ∧
        RunStreaming base (story.withStep { s with sent := sent }) w)
      fun exc w => ∃ sent, CutOff env base story { s with sent := sent } exc w := by
  -- Nothing has been sent of the step yet.
  have hself : { s with sent := [] } = s := by rw [← hsent]
  refine triple_bind (Q := fun live w => (∃ dispatch,
      WorkflowRunner.resolveStep env.hierarchyScan base.metadata s.step = .ok dispatch ∧
      EngineAnswers env dispatch (WorkflowRunner.args s.input story.opened.context)
        base.metadata live.stream) ∧ RunStreaming base (story.withStep s) w) ?_
    fun live => triple_given fun h => ?_
  -- The agent or team is looked up, and the stream of the engine opened.
  · refine triple_bind ((stage_resolve (fun _ h => h.metadata) _).onError fun exc w h => ?_)
      fun dispatch => triple_given fun hresolve => ?_
    -- It is not found, and the step ends before its stream.
    · refine ⟨[], .inl ⟨_, h.1, rfl, .inl hs⟩, hs, .inr ⟨.inl ⟨_, h.1, rfl, .inr rfl⟩, ?_⟩⟩
      rw [hself]
      exact h.2
    · rw [hargs]
      exact (stage_openStream dispatch _ fun _ h => h.metadata).mono (fun _ h => h)
        (fun _ _ h => ⟨⟨dispatch, hresolve, h.1⟩, h.2⟩) fun _ _ h => h
  · obtain ⟨dispatch, hresolve, hstream⟩ := h
    -- All events are sent, unless the client leaves.
    have hevents := told_forwardEvents hrunning env base hs live
      live.stream.events 0 (by rw [hsent]; rfl)
    rw [hsent] at hevents
    refine triple_bind (hevents.onError fun exc w h => ?_) fun collected =>
      triple_given fun hcollected => ?_
    -- The client has left, with the step still running.
    · obtain ⟨hexit, sent, hinit, hleft⟩ := h
      rw [← story.rows_sent s sent] at hleft
      exact ⟨sent, .within hresolve hstream hinit hs, hs, .inl ⟨hexit, hleft⟩⟩
    · refine triple_bind ((stage_endStream (fun _ _ h => h.tools _) live).onError
        fun exc w h => ?_) fun _ => triple_pure fun w h => ?_
      -- The stream broke off, and the step with it.
      · refine ⟨live.stream.events, .within hresolve hstream (List.prefix_refl _) hs, hs, .inr
          ⟨.ended hresolve hstream ?_, h.2⟩⟩
        rw [StepPhase.ofStream, h.1]
      -- The stream has ended, and the answer is what has been collected.
      · refine ⟨live.stream.events, .ended hresolve hstream ?_, h.2⟩
        rw [StepPhase.ofStream, h.1, hcollected]
        rfl

omit hrunning in
/-- A step that was cut off is told so. -/
theorem CutOff.told {exc : PyError} {w : World} (h : CutOff env base story s exc w)
    (hrun : StreamAt env base story context (s.step :: rest))
    (hinput : s.input = context.previousOutput s.step.stepOrder story.request.input) :
    RunStreamTold env base story.workflowId story.request w.yielded w.committed := by
  have hstep : StepAt env base story context rest s := ⟨hrun, hinput, h.streamed⟩
  have hs : s.NotCompleted := fun output heq => by rw [h.running] at heq; cases heq
  rcases h.left with ⟨-, hleft⟩ | ⟨-, hw⟩
  · exact hstep.told_within hs hleft.committed hleft.yielded
  · exact hstep.told_within hs hw.committed hw.yielded

end Streams

/-- What the steps of a streamed run end with: no handler sees the exception, or it is that of the
    step that failed. -/
def StreamBroke (env : Env) (base : Db) (opened : OpenRun) (workflowId : Uuid)
    (request : WorkflowRunRequest) (exc : PyError) (w : World) : Prop :=
  exc.isRuntimeExecution = false ∧
      RunStreamTold env base workflowId request w.yielded w.committed ∨
    ∃ story s context rest exc', StepAt env base story context rest s ∧
      (story.opened = opened ∧ story.workflowId = workflowId ∧ story.request = request) ∧
      s.phase = .failed exc' ∧ exc = WorkflowExecutor.stepFailed s.step exc' ∧
      RunStreaming base (story.withStep s) w

/-- A step that fails: its record, and what the client is sent. -/
theorem told_failStreamedStep {exc : PyError}
    (hrun : StreamAt env base story context (s.step :: rest))
    (hinput : s.input = context.previousOutput s.step.stepOrder story.request.input) :
    Triple (CutOff env base story s exc)
      (failStreamedStep env story.opened s.recordId s.step exc : Svc String) (fun _ _ => False)
      (StreamBroke env base story.opened story.workflowId story.request) := by
  have hrunning := hrun.phase
  rw [failStreamedStep]
  -- `except Exception`: the client has not left.
  split
  · next hexc =>
    intro w hcut
    have hstep : StepAt env base story context rest s := ⟨hrun, hinput, hcut.streamed⟩
    have hs := hcut.running
    have hnot : s.NotCompleted := fun output heq => by rw [hs] at heq; cases heq
    rcases hcut.left with ⟨hexit, -⟩ | ⟨hfailed, hw⟩
    · rw [hexit] at hexc
      cases hexc
    -- The stream broke off, or was never opened.
    · have hbroke (exc' : PyError) (w : World)
          (h : Declined ((story.withStep s).rows.In base) (story.withStep s).items exc' w) :
          StreamBroke env base story.opened story.workflowId story.request exc' w :=
        .inl ⟨h.uncaught, hstep.told_within hnot h.committed h.yielded⟩
      have hended : StepAt env base story context rest { s with phase := .failed exc } :=
        ⟨hstep.run, hstep.input, hfailed⟩
      -- The row is written and committed, the client told, and the error raised again.
      have hfail : Triple (RunStreaming base (story.withStep s))
          (WorkflowRunService.failStep env s.recordId exc.str >>= fun _ => commit env >>= fun _ =>
            yieldItem env (story.opened.item "WorkflowStepFailed"
              (.stepFailed s.step.stepOrder exc.str)) >>= fun _ =>
            (Prog.raise (WorkflowExecutor.stepFailed s.step exc) : Svc String)) (fun _ _ => False)
          (StreamBroke env base story.opened story.workflowId story.request) := by
        refine triple_bind ((told_failStep hrunning hs exc).onError hbroke) fun _ =>
          triple_bind (stage_commit.onError hbroke) fun _ =>
            triple_bind (Q := fun _ =>
              RunStreaming base (story.withStep { s with phase := .failed exc })) ?_
              fun _ => triple_raise fun w hw => ?_
        · rw [RunStreaming, story.items_failedStep hrunning hs exc]
          -- The client leaves with the item, which the rows tell by now.
          refine (stage_yieldItem _).onError fun _ w h => .inl ⟨h.uncaught, ?_⟩
          refine hended.told_within (fun output heq => (by cases heq)) h.committed ?_
          rw [story.items_failedStep hrunning hs exc]
          exact h.yielded
        -- The error reaches the handler of the run.
        · exact .inr ⟨story, _, context, rest, exc, hended, ⟨rfl, rfl, rfl⟩, rfl, rfl, hw⟩
      exact hfail w hw
  -- A `GeneratorExit` goes on to the end of the stream.
  · next hexc =>
    refine triple_raise fun w hcut => .inl ⟨?_, hcut.told hrun hinput⟩
    cases exc <;> first | rfl | exact absurd rfl hexc

/-- One round of the loop: the step is started, executed and completed, each time committed before
    its client is told. -/
theorem told_streamStep {step : WorkflowStep} (h : StreamAt env base story context (step :: rest)) :
    Triple (RunStreaming base story)
      (streamStep env story.opened story.request.input context step)
      (fun output w => ∃ s, s.step = step ∧ s.phase = .completed output ∧
        StepAt env base story context rest s ∧ RunStreaming base (story.withStep s) w)
      (StreamBroke env base story.opened story.workflowId story.request) := by
  have hrunning := h.phase
  have hbroke (exc : PyError) (w : World)
      (hw : Declined (story.rows.In base) story.items exc w) :
      StreamBroke env base story.opened story.workflowId story.request exc w :=
    .inl ⟨hw.uncaught, streamTold_between h hw.committed hw.yielded⟩
  refine triple_bind ((told_startStep hrunning step _).onError hbroke) fun record =>
    triple_bind (stage_commit.onError hbroke) fun _ => ?_
  -- the step that has just been started
  generalize hs : StepStory.mk record step
    (context.previousOutput step.stepOrder story.request.input) [] .running = s
  have hphase : s.phase = .running := by rw [← hs]
  have hsent : s.sent = [] := by rw [← hs]
  have hnot (sent : List StreamEvent) : ({ s with sent := sent } : StepStory).NotCompleted :=
    fun output heq => by rw [show s.phase = _ from heq] at hphase; cases hphase
  obtain rfl : s.step = step := by rw [← hs]
  obtain rfl : s.recordId = record := by rw [← hs]
  have hinput : context.previousOutput s.step.stepOrder story.request.input = s.input := by
    rw [← hs]
  have hstep : StepAt env base story context rest s :=
    ⟨h, hinput.symm, .started hphase hsent⟩
  have hbroken (sent : List StreamEvent)
      (hstreamed : ({ s with sent := sent } : StepStory).Streamed env base.metadata
        story.opened.context) (exc : PyError) (w : World)
      (hw : Left ((story.withStep { s with sent := sent }).rows.In base)
        (story.withStep { s with sent := sent }).items exc w) :
      StreamBroke env base story.opened story.workflowId story.request exc w :=
    .inl ⟨hw.uncaught, StepAt.told_within (s := { s with sent := sent })
      ⟨h, hinput.symm, hstreamed⟩ (hnot sent) hw.committed hw.yielded⟩
  have hitems := story.items_started hrunning hphase hsent
  rw [hinput]
  refine triple_bind (Q := fun _ => RunStreaming base (story.withStep s)) ?_ fun _ => ?_
  · rw [RunStreaming, hitems]
    refine (stage_yieldItem _).onError fun exc w hw => .inl ⟨hw.uncaught, ?_⟩
    exact hstep.told_within (hnot s.sent) hw.committed (hw.yielded.trans hitems.symm)
  · refine triple_bind (triple_handleError
      ((told_forwardStep hrunning hphase hsent h.executed.args).onError fun exc w hw => hw)
      fun exc => triple_exists fun sent => ?_) fun output => triple_exists fun sent =>
        triple_given fun hcompleted => ?_
    · exact (told_failStreamedStep (s := { s with sent := sent }) h hinput.symm).mono
        (fun _ hw => hw) (fun _ _ hw => hw.elim) fun _ _ hw => hw
    · have hsentPhase : ({ s with sent := sent } : StepStory).phase = .running := hphase
      have hrefused (exc : PyError) (w : World)
          (hw : Declined ((story.withStep { s with sent := sent }).rows.In base)
            (story.withStep { s with sent := sent }).items exc w) :
          StreamBroke env base story.opened story.workflowId story.request exc w :=
        hbroken sent (hphase ▸ hcompleted.running) exc w hw.toLeft
      have hdone : StepAt env base story context rest
          { s with sent := sent, phase := .completed output } := ⟨h, hinput.symm, hcompleted⟩
      refine triple_bind ((told_completeStep hrunning hsentPhase output).onError hrefused) fun _ =>
        triple_bind (stage_commit.onError hrefused) fun _ => triple_bind (Q := fun _ =>
          RunStreaming base (story.withStep { s with sent := sent, phase := .completed output })) ?_
            fun _ => triple_pure fun w hw =>
              ⟨{ s with sent := sent, phase := .completed output }, rfl, rfl, hdone, hw⟩
      have hcompletedItems := story.items_completedStep hrunning hsentPhase output
      rw [RunStreaming, hcompletedItems]
      refine (stage_yieldItem _).onError fun exc w hw => .inl ⟨hw.uncaught, ?_⟩
      exact streamTold_between (hdone.next rfl) hw.committed (hw.yielded.trans hcompletedItems.symm)

/-- The loop over the steps. -/
theorem told_streamSteps (steps : List WorkflowStep)
    (h : StreamAt env base story context steps) :
    Triple (RunStreaming base story)
      (streamSteps env story.opened story.request.input steps context)
      (fun context w => ∃ story', (story'.opened = story.opened ∧
          story'.workflowId = story.workflowId ∧ story'.request = story.request) ∧
        StreamAt env base story' context [] ∧ RunStreaming base story' w)
      (StreamBroke env base story.opened story.workflowId story.request) := by
  induction steps generalizing story context with
  | nil => exact triple_pure fun _ hw => ⟨story, ⟨rfl, rfl, rfl⟩, h, hw⟩
  | cons step steps ih =>
    refine triple_bind (told_streamStep h) fun output => triple_exists fun s =>
      triple_given fun hstep => triple_given fun hphase => triple_given fun hs => ?_
    subst hstep
    exact ih (hs.next hphase)

/-- A run whose step has failed is marked as failed, and its client is told. -/
theorem told_failStream (opened : OpenRun) (workflowId : Uuid) (request : WorkflowRunRequest)
    (exc : PyError) :
    Triple (StreamBroke env base opened workflowId request exc) (failStream env opened exc)
      (fun outcome w => outcome = none ∧
        RunStreamTold env base workflowId request w.yielded w.committed)
      fun _ w => RunStreamTold env base workflowId request w.yielded w.committed := by
  rw [failStream]
  -- `except RuntimeExecutionError`: a step has failed, in its row and for its client.
  split
  · next hcaught =>
    intro w hw
    rcases hw with ⟨huncaught, -⟩ | ⟨story, s, context, rest, exc', hstep, ⟨rfl, rfl, rfl⟩, hs, rfl, hw⟩
    · rw [huncaught] at hcaught
      cases hcaught
    · have hnot : s.NotCompleted := fun output heq => by rw [hs] at heq; cases heq
      have hrunning : (story.withStep s).phase = .running := hstep.run.phase
      have hitems := (story.withStep s).items_failed hrunning
        (WorkflowExecutor.stepFailed s.step exc').str
      -- Until the commit, the run is told as it was.
      have hbroke (exc : PyError) (w : World)
          (hw : Declined ((story.withStep s).rows.In base) (story.withStep s).items exc w) :
          RunStreamTold env base story.workflowId story.request w.yielded w.committed :=
        hstep.told_within hnot hw.committed hw.yielded
      -- From then on, it has failed, and the client is told.
      have htold (w : World) (hin : ((story.withStep s).inPhase
          (.failed (WorkflowExecutor.stepFailed s.step exc').str)).rows.In base w.committed)
          (hyielded : w.yielded = (story.withStep s).items ++ [story.opened.item "WorkflowFailed"
            (.error (WorkflowExecutor.stepFailed s.step exc').str)]) :
          RunStreamTold env base story.workflowId story.request w.yielded w.committed :=
        hstep.told hnot (.inr ⟨exc', hs, rfl⟩) hin (hyielded.trans hitems.symm)
      have hfail : Triple (RunStreaming base (story.withStep s))
          (WorkflowRunService.markFailed env story.runId
              (WorkflowExecutor.stepFailed s.step exc').str >>= fun _ => commit env >>= fun _ =>
            yieldItem env (story.opened.item "WorkflowFailed"
              (.error (WorkflowExecutor.stepFailed s.step exc').str)) >>= fun _ =>
            (pure none : Svc (Option WorkflowContext)))
          (fun outcome w => outcome = none ∧
            RunStreamTold env base story.workflowId story.request w.yielded w.committed)
          fun _ w => RunStreamTold env base story.workflowId story.request w.yielded w.committed :=
        triple_bind ((told_workflow_markFailed hrunning _).onError hbroke) fun _ =>
          triple_bind (stage_commit.onError hbroke) fun _ =>
            triple_bind ((stage_yieldItem _).onError fun _ w hw => htold w hw.committed hw.yielded)
              fun _ => triple_pure fun w hw => ⟨rfl, htold w hw.committed hw.yielded⟩
      exact hfail w hw
  -- The error goes on.
  · next huncaught =>
    refine triple_raise fun w hw => ?_
    rcases hw with ⟨-, htold⟩ | ⟨story, s, context, rest, exc', -, -, -, rfl, -⟩
    · exact htold
    · exact absurd rfl huncaught

/-- The run is completed, and its client is told the result. -/
theorem told_endStreamedRun (h : StreamAt env base story context []) :
    Triple (RunStreaming base story) (endStreamedRun env story.opened context.finalResult)
      (fun _ w => RunStreamTold env base story.workflowId story.request w.yielded w.committed)
      fun _ w => RunStreamTold env base story.workflowId story.request w.yielded w.committed := by
  -- The client is told what the row says.
  have hitems := story.items_completed h.phase context.finalResult
  -- Until the commit, the run is told as it was.
  have hbroke (exc : PyError) (w : World)
      (hw : Declined (story.rows.In base) story.items exc w) :
      RunStreamTold env base story.workflowId story.request w.yielded w.committed :=
    streamTold_between h hw.committed hw.yielded
  -- From then on, it is completed, also if the client leaves with the item.
  have htold (w : World)
      (hin : (story.inPhase (.completed context.finalResult)).rows.In base w.committed)
      (hyielded : w.yielded = story.items ++
        [story.opened.item "WorkflowCompleted" (.result context.finalResult)]) :
      RunStreamTold env base story.workflowId story.request w.yielded w.committed := by
    exact .inr ⟨story.inPhase (.completed context.finalResult), rfl, rfl, h.told_completed hin,
      hyielded.trans hitems.symm⟩
  refine triple_bind (Q := fun _ => Stage (story.rows.In base)
      ((story.inPhase (.completed context.finalResult)).rows.In base) story.items) ?_ fun _ =>
    triple_bind (stage_commit.onError hbroke) fun _ => (stage_yieldItem _).mono (fun _ hw => hw)
      (fun _ w hw => htold w hw.committed hw.yielded) fun _ w hw => htold w hw.committed hw.yielded
  exact triple_bind ((told_workflow_message _ _ _).onError hbroke) fun _ =>
    (told_workflow_markCompleted h.phase _).onError hbroke

/-- A run is opened and running, before its client is sent anything. -/
theorem told_workflow_beginStream (workflowId : Uuid) (request : WorkflowRunRequest) :
    Triple (Stage (fun db => db = base) (fun db => db = base) [])
      (beginStream env workflowId request)
      (fun opened w => (RunStory.opening opened workflowId request).Opens base ∧
        Stage (((RunStory.opening opened workflowId request).inPhase .running).rows.In base)
          (((RunStory.opening opened workflowId request).inPhase .running).rows.In base) [] w)
      fun _ w => RunStreamTold env base workflowId request w.yielded w.committed := by
  refine triple_bind ((told_openRun _ _).onError fun _ _ h => .inl h) fun opened =>
    triple_given fun hopens => ?_
  have hpending (exc : PyError) (w : World)
      (h : Declined ((RunStory.opening opened workflowId request).rows.In base) [] exc w) :
      RunStreamTold env base workflowId request w.yielded w.committed :=
    .inr ⟨_, rfl, rfl, ⟨hopens, .pending rfl rfl, h.committed⟩, h.yielded⟩
  exact triple_bind (stage_commit.onError fun _ w h => .inl ⟨h.committed, h.yielded⟩) fun _ =>
    triple_bind ((told_workflow_markRunning rfl).onError hpending) fun _ =>
      triple_bind (stage_commit.onError hpending) fun _ =>
        triple_pure fun _ hw => ⟨hopens, hw⟩

/-- The steps of a run, from the first one on. -/
theorem told_executeStream (h : StreamAt env base story story.opened.context
      (WorkflowExecutor.ordered story.opened.steps)) :
    Triple (RunStreaming base story)
      (WorkflowExecutionService.executeStream env story.opened story.request.input)
      (fun context w => ∃ story', (story'.opened = story.opened ∧
          story'.workflowId = story.workflowId ∧ story'.request = story.request) ∧
        StreamAt env base story' context [] ∧ RunStreaming base story' w)
      (StreamBroke env base story.opened story.workflowId story.request) := by
  have hsome : story.opened.steps.isEmpty = false := (findWorkflow_eq_ok h.opens.found).2
  rw [WorkflowExecutionService.executeStream, hsome]
  exact told_streamSteps _ h

/-- The rest of a streamed run, from its first event on. -/
theorem told_workflow_continueStream (opened : OpenRun) (workflowId : Uuid)
    (request : WorkflowRunRequest)
    (hopens : (RunStory.opening opened workflowId request).Opens base) :
    Triple (Stage (((RunStory.opening opened workflowId request).inPhase .running).rows.In base)
        (((RunStory.opening opened workflowId request).inPhase .running).rows.In base) [])
      (continueStream env opened request.input)
      (fun _ w => RunStreamTold env base workflowId request w.yielded w.committed)
      fun _ w => RunStreamTold env base workflowId request w.yielded w.committed := by
  -- The client is told of the run before its first step.
  have hstart : StreamAt env base ((RunStory.opening opened workflowId request).inPhase .running)
      opened.context (WorkflowExecutor.ordered opened.steps) := .start hopens
  refine triple_bind (Q := fun _ => RunStreaming base
      ((RunStory.opening opened workflowId request).inPhase .running))
    ((stage_yieldItem _).onError fun _ w h => streamTold_between hstart h.committed h.yielded)
    fun _ => ?_
  -- The steps are all executed, or the failure has been told.
  refine triple_bind (Q := fun outcome w =>
      (∃ context story, outcome = some context ∧ (story.opened = opened ∧
          story.workflowId = workflowId ∧ story.request = request) ∧
        StreamAt env base story context [] ∧ RunStreaming base story w) ∨
      outcome = none ∧ RunStreamTold env base workflowId request w.yielded w.committed)
    (triple_handleError ?_ fun exc => (told_failStream opened workflowId request exc).mono
      (fun _ hw => hw) (fun _ _ hw => .inr hw) fun _ _ hw => hw) fun outcome w hw => ?_
  · refine triple_bind (told_executeStream hstart) fun context => triple_pure fun w hw => ?_
    obtain ⟨story, hsame, hdone, hw⟩ := hw
    exact .inl ⟨context, story, rfl, hsame, hdone, hw⟩
  · rcases hw with ⟨context, story, rfl, ⟨rfl, rfl, rfl⟩, hdone, hw⟩ | ⟨rfl, htold⟩
    · exact told_endStreamedRun hdone w hw
    · exact htold

/-- A streamed run: what its client has been sent is what its rows tell. -/
theorem told_runWorkflowStream (workflowId : Uuid) (request : WorkflowRunRequest) :
    Triple (Stage (fun db => db = base) (fun db => db = base) [])
      (runWorkflowStream env workflowId request)
      (fun _ w => RunStreamTold env base workflowId request w.yielded w.committed)
      fun _ w => RunStreamTold env base workflowId request w.yielded w.committed :=
  triple_bind (told_workflow_beginStream _ _) fun opened => triple_given fun hopens =>
    told_workflow_continueStream opened workflowId request hopens

/-! ## Without streaming -/

/-- What the engine has answered for a step of a run that is not streamed. -/
def StepStory.Ran (env : Env) (m : Metadata) (context : WorkflowContext) (s : StepStory) : Prop :=
  s.sent = [] ∧ ∃ dispatch output,
    WorkflowRunner.resolveStep env.hierarchyScan m s.step = .ok dispatch ∧
    EngineReturns env dispatch (WorkflowRunner.args s.input context) m output ∧
    s.phase = .completed output

/-- The position of a run that is not streamed. -/
abbrev PlainAt (env : Env) (base : Db) (story : RunStory) (context : WorkflowContext)
    (rest : List WorkflowStep) : Prop :=
  RunAt (fun s => s.Ran env base.metadata story.opened.context) base story context rest

/-- The run runs, and nothing of it is committed. -/
abbrev RunningPlain (base : Db) (story : RunStory) : World → Prop :=
  Stage (fun db => db = base) (story.rows.In base) []

/-- Nothing of a run that is broken off is committed. -/
abbrev BrokenOff (base : Db) : PyError → World → Prop := Abandoned (fun db => db = base) []

/-- The step is executed. -/
theorem told_runStep (env : Env) (base : Db) (story : RunStory)
    (hargs : ∀ stepInput, WorkflowRunner.args stepInput context =
      WorkflowRunner.args stepInput story.opened.context) (s : StepStory) :
    Triple (RunningPlain base story) (WorkflowRunner.runStep env s.step s.input context)
      (fun output w => (∃ dispatch,
          WorkflowRunner.resolveStep env.hierarchyScan base.metadata s.step = .ok dispatch ∧
          EngineReturns env dispatch (WorkflowRunner.args s.input story.opened.context)
            base.metadata output) ∧ RunningPlain base story w)
      (BrokenOff base) := by
  refine triple_bind ((stage_resolve (fun _ h => h.metadata) _).onError
    fun _ _ h => h.2.abandoned) fun dispatch => triple_given fun hresolve => ?_
  rw [hargs]
  exact (stage_run (fun _ _ h => h.tools _) dispatch _ fun _ h => h.metadata).mono (fun _ h => h)
    (fun _ _ h => ⟨⟨dispatch, hresolve, h.1⟩, h.2⟩) fun _ _ h => h.abandoned

/-- One round of the loop. -/
theorem told_executeStep {step : WorkflowStep}
    (h : PlainAt env base story context (step :: rest)) :
    Triple (RunningPlain base story)
      (WorkflowExecutor.executeStep (WorkflowRunner.runStep env) (callbacks env story.runId)
        story.request.input context step)
      (fun output w => ∃ s : StepStory, PlainAt env base (story.withStep s)
          (context.recordResult step.stepOrder output) rest ∧
        RunningPlain base (story.withStep s) w)
      (BrokenOff base) := by
  refine triple_bind (abandoning (told_startStep h.phase step _)) fun record => ?_
  -- The step that has begun, as the story has it.
  generalize hs : StepStory.mk record step
    (context.previousOutput step.stepOrder story.request.input) [] .running = s
  have hphase : s.phase = .running := by rw [← hs]
  obtain rfl : s.step = step := by rw [← hs]
  obtain rfl : s.recordId = record := by rw [← hs]
  have hinput : context.previousOutput s.step.stepOrder story.request.input = s.input := by
    rw [← hs]
  have hsent : s.sent = [] := by rw [← hs]
  rw [hinput]
  have hrun := told_runStep env base (story.withStep s) h.executed.args s
  refine triple_bind (triple_handleError hrun fun exc => ?_) fun output =>
    triple_given fun hran => ?_
  -- A step that fails leaves the request, whose writes are lost.
  · rw [WorkflowExecutor.failStep]
    split
    · exact triple_bind (abandoned_writes (onlyWrites_failStep _ _) exc) fun _ =>
        triple_raise fun _ hw => hw
    · exact triple_raise fun _ hw => hw
  -- The engine has answered, and the step is completed.
  · obtain ⟨dispatch, hresolve, hreturns⟩ := hran
    refine triple_bind (abandoning (told_completeStep h.phase hphase output)) fun _ =>
      triple_pure fun w hw => ⟨{ s with phase := .completed output }, ?_, hw⟩
    exact h.next (s := { s with phase := .completed output }) hinput.symm
      ⟨hsent, dispatch, output, hresolve, hreturns, rfl⟩ rfl

/-- The loop over the steps, whose last output is the result of the run. -/
theorem told_executeSteps (steps : List WorkflowStep) (current : String)
    (h : PlainAt env base story context steps)
    (hcurrent : steps = [] → context.finalResult = current) :
    Triple (RunningPlain base story)
      (WorkflowExecutor.executeSteps (WorkflowRunner.runStep env) (callbacks env story.runId)
        story.request.input steps context current)
      (fun output w => ∃ story' context', (story'.opened = story.opened ∧
          story'.workflowId = story.workflowId ∧ story'.request = story.request) ∧
        context'.finalResult = output ∧ PlainAt env base story' context' [] ∧
        RunningPlain base story' w)
      (BrokenOff base) := by
  induction steps generalizing story context current with
  | nil =>
    exact triple_pure fun _ hw => ⟨story, context, ⟨rfl, rfl, rfl⟩, hcurrent rfl, h, hw⟩
  | cons step steps ih =>
    exact triple_bind (told_executeStep h) fun output => triple_exists fun s =>
      triple_given fun hnext => ih output hnext fun _ => h.finalResult output

/-- What a run that was answered has left. -/
def RunTold (env : Env) (base : Db) (workflowId : Uuid) (request : WorkflowRunRequest)
    (response : WorkflowRunResponse) (db : Db) : Prop :=
  ∃ story : RunStory, story.workflowId = workflowId ∧ story.request = request ∧
    story.phase = .completed response.result ∧
    response = ⟨story.runId, WorkflowRunStatus.completed.value, response.result⟩ ∧
    story.Told (fun s => s.Ran env base.metadata story.opened.context) base db

/-- The run is opened, executed to its end and completed, and nothing of it is committed yet. -/
theorem told_runWorkflow (workflowId : Uuid) (request : WorkflowRunRequest) :
    Triple (Stage (fun db => db = base) (fun db => db = base) [])
      (runWorkflow env workflowId request)
      (fun response => Stage (fun db => db = base) (RunTold env base workflowId request response) [])
      (BrokenOff base) := by
  refine triple_bind (told_openRun _ _) fun opened => triple_given fun hopens =>
    triple_bind (abandoning (told_workflow_markRunning rfl)) fun _ => ?_
  -- A workflow without steps is refused before it has a run.
  have hsome : opened.steps.isEmpty = false := (findWorkflow_eq_ok hopens.found).2
  have hexecute : Triple
      (RunningPlain base ((RunStory.opening opened workflowId request).inPhase .running))
      (executeRun env opened request.input)
      (fun output w => ∃ story context, (story.opened = opened ∧
          story.workflowId = workflowId ∧ story.request = request) ∧
        context.finalResult = output ∧ PlainAt env base story context [] ∧
        RunningPlain base story w)
      (BrokenOff base) := by
    refine triple_handleError (H := BrokenOff base) ?_ fun exc => ?_
    -- All steps are executed in their order.
    · rw [WorkflowExecutor.execute, hsome]
      refine told_executeSteps _ _ (.start hopens) fun hnone => ?_
      have hperm : (WorkflowExecutor.ordered opened.steps).Perm opened.steps :=
        List.perm_insertionSort _ _
      rw [hnone, List.nil_perm] at hperm
      rw [hperm] at hsome
      cases hsome
    -- The run is marked as failed, in a transaction that is rolled back.
    · rw [failAndRaise]
      split
      · exact triple_bind (abandoned_writes (onlyWrites_workflow_markFailed _ _) exc) fun _ =>
          triple_raise fun _ hw => hw
      · exact triple_raise fun _ hw => hw
  refine triple_bind hexecute fun result => triple_exists fun story => triple_exists fun context =>
    triple_given fun hsame => triple_given fun hresult => triple_given fun hdone => ?_
  -- The story is that of the request, with its steps.
  obtain ⟨rfl, rfl, rfl⟩ := hsame
  subst hresult
  refine triple_bind (Q := fun _ => RunningPlain base
    (story.inPhase (.completed context.finalResult))) ?_ fun _ => triple_pure fun w hw =>
      hw.mono (fun _ h => h) fun db hdb =>
        ⟨story.inPhase (.completed context.finalResult), rfl, rfl, rfl, rfl, hdone.told_completed hdb⟩
  exact triple_bind (abandoning (told_workflow_message _ _ _)) fun _ =>
    abandoning (told_workflow_markCompleted hdone.phase _)

/-! ## Requests -/

/-- What is not committed does not matter to it. -/
theorem stream_served (env : Env) (store : Store) (workflowId : Uuid)
    (request : WorkflowRunRequest) :
    RunStreamTold env store.db workflowId request
      ((Request.runWorkflowStream workflowId request).served env store).yielded
      ((Request.runWorkflowStream workflowId request).served env store).committed := by
  have hserved : Triple (Stage (fun db => db = store.db) (fun db => db = store.db) [])
      ((Request.runWorkflowStream workflowId request).handle env)
      (fun _ w => RunStreamTold env store.db workflowId request w.yielded w.committed)
      fun _ w => RunStreamTold env store.db workflowId request w.yielded w.committed := by
    refine triple_bind (triple_bind (triple_attempt
      (R := fun _ w => RunStreamTold env store.db workflowId request w.yielded w.committed)
      (told_runWorkflowStream workflowId request) (fun _ _ h => h) fun _ _ h => h)
        fun outcome => ?_) fun _ => triple_pure fun _ h => h
    exact triple_bind (triple_modify fun _ h => h) fun _ =>
      triple_lift (fun _ _ _ h => h) fun _ _ _ h => h
  exact hserved.state ⟨rfl, rfl, rfl, rfl, rfl⟩

/-- Whatever the surroundings do, a streamed run that was committed tells its story to its client
    and in its rows alike, item by item; and whatever chats, workflow runs and plans come later, the
    rows keep telling it. -/
theorem run_stream_told (env : Env) (store : Store) (workflowId : Uuid)
    (request : WorkflowRunRequest) (later : List (Env × Request)) :
    ((Request.runWorkflowStream workflowId request).served env store).committed = store.db ∧
        ((Request.runWorkflowStream workflowId request).served env store).yielded = [] ∨
      ∃ story : RunStory, story.workflowId = workflowId ∧ story.request = request ∧
        story.Told (fun s => s.Streamed env store.db.metadata story.opened.context) store.db
          (servedAll ((Request.runWorkflowStream workflowId request).served env store).store
            later).db ∧
        ((Request.runWorkflowStream workflowId request).served env store).yielded =
          story.items := by
  rcases stream_served env store workflowId request with hnone | ⟨story, hid, hrequest, htold, hitems⟩
  · exact .inl hnone
  · have hkept : HistoryKept ((Request.runWorkflowStream workflowId request).served env store).store.db
        (servedAll ((Request.runWorkflowStream workflowId request).served env store).store later).db :=
      earlier_requests_kept _ [] later
    exact .inr ⟨story, hid, hrequest, ⟨htold.opens, htold.possible, htold.rows.kept hkept⟩, hitems⟩

/-- The request commits the run when it is answered, and otherwise nothing of it. -/
theorem run_served (env : Env) (store : Store) (workflowId : Uuid) (request : WorkflowRunRequest) :
    Triple (Stage (fun db => db = store.db) (fun db => db = store.db) [])
      ((Request.runWorkflow workflowId request).handle env)
      (fun answer w => ∃ response, answer = .workflow response ∧
        RunTold env store.db workflowId request response w.committed)
      fun _ w => w.committed = store.db := by
  refine triple_handleError (H := BrokenOff store.db) ?_ fun exc => ?_
  · refine triple_bind (Q := fun answer w => ∃ response, answer = .workflow response ∧
        Stage (fun db => db = store.db) (RunTold env store.db workflowId request response) [] w) ?_
      fun answer => triple_exists fun response => triple_given fun hanswer => ?_
    · exact triple_bind (told_runWorkflow _ _) fun response => triple_pure fun _ hw =>
        ⟨response, rfl, hw⟩
    · exact triple_bind (stage_commit.onError fun _ _ h => h.toLeft.abandoned) fun _ =>
        triple_pure fun _ hw => ⟨response, hanswer, hw.committed⟩
  · exact triple_bind (triple_modify fun _ h => h.1) fun _ => triple_raise fun _ h => h

/-- A run that is not streamed is answered when all of its steps were executed, and its story is
    then told by its rows, also after any later chats, workflow runs and plans; a run that is not
    answered has left nothing. -/
theorem run_told (env : Env) (store : Store) (workflowId : Uuid) (request : WorkflowRunRequest)
    (later : List (Env × Request)) :
    (∃ exc, ((Request.runWorkflow workflowId request).handle env (World.start store)).1 =
          .error exc ∧
        ((Request.runWorkflow workflowId request).served env store).committed = store.db) ∨
      ∃ response, ((Request.runWorkflow workflowId request).handle env (World.start store)).1 =
          .ok (.workflow response) ∧
        RunTold env store.db workflowId request response
          (servedAll ((Request.runWorkflow workflowId request).served env store).store
            later).db := by
  have hstart : Stage (fun db => db = store.db) (fun db => db = store.db) [] (World.start store) :=
    ⟨rfl, rfl, rfl, rfl, rfl⟩
  rw [Request.served]
  rcases hrun : (Request.runWorkflow workflowId request).handle env (World.start store) with
    ⟨exc | answer, w⟩
  · exact .inl ⟨exc, rfl, (run_served env store workflowId request).error hstart hrun⟩
  · obtain ⟨response, rfl, story, hid, hrequest, hphase, hresponse, htold⟩ :=
      (run_served env store workflowId request).ok hstart hrun
    have hkept : HistoryKept w.store.db (servedAll w.store later).db :=
      earlier_requests_kept _ [] later
    exact .inr ⟨response, rfl, story, hid, hrequest, hphase, hresponse,
      ⟨htold.opens, htold.possible, htold.rows.kept hkept⟩⟩

end AgnoRuntime
