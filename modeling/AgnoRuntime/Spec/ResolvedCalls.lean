import AgnoRuntime.Spec.NamedAgents
import AgnoRuntime.Spec.RequestFrames

/-!
# What the engine is called for

Each entry point resolves what it executes from the metadata, and no request changes
the metadata. So every call of the engine, in whichever request, whatever fails in it
and whichever workflows its agents trigger, is for a dispatch that the stored metadata
resolve.
-/

namespace AgnoRuntime

open Except Svc Prog AgnoRuntimeEngine

/-! ## The resolvers of the entry points -/

section Resolvers

variable {scan : HierarchyScan} {m : Metadata} {dispatch : Dispatch}

/-- A chat turn. -/
theorem resolves_of_resolveDispatchContext {agentOsCode : String} {teamCode : Option String}
    (h : resolveDispatchContext scan m agentOsCode teamCode = .ok dispatch) :
    Resolves scan m dispatch := by
  rw [resolveDispatchContext.eq_def] at h
  split at h
  · split at h
    · obtain ⟨ctx, hctx, rfl⟩ := map_eq_ok.mp h
      exact .rootContext _ ctx hctx
    · obtain ⟨ctx, hctx, rfl⟩ := map_eq_ok.mp h
      exact .teamContextByCode _ _ ctx hctx
  · obtain ⟨ctx, hctx, rfl⟩ := map_eq_ok.mp h
    exact .rootContext _ ctx hctx

/-- A step of a workflow. -/
theorem resolves_of_resolveStep {step : WorkflowStep}
    (h : WorkflowRunner.resolveStep scan m step = .ok dispatch) : Resolves scan m dispatch := by
  rw [WorkflowRunner.resolveStep.eq_def] at h
  split at h
  · split at h
    · cases h
    · obtain ⟨ctx, hctx, rfl⟩ := map_eq_ok.mp h
      exact .contextById _ ctx hctx
  · split at h
    · cases h
    · obtain ⟨ctx, hctx, rfl⟩ := map_eq_ok.mp h
      exact .teamContextById _ ctx hctx

/-- A step of a plan. -/
theorem resolves_of_resolvePlanStep {step : PlanStep}
    (h : ExecutionEngineService.resolveStep scan m step = .ok dispatch) :
    Resolves scan m dispatch := by
  rw [ExecutionEngineService.resolveStep.eq_def] at h
  split at h
  · split at h
    · obtain ⟨ctx, hctx, rfl⟩ := map_eq_ok.mp h
      exact .teamContextByCode _ _ ctx hctx
    · obtain ⟨-, -, herror⟩ := bind_eq_ok.mp h
      cases herror
  · obtain ⟨ctx, hctx, rfl⟩ := map_eq_ok.mp h
    exact .context _ _ _ ctx hctx

end Resolvers

/-! ## Programs that call the engine for what is resolved -/

/-- The metadata resolve what is called. -/
def ResolvedBy (m : Metadata) (call : EngineCall) : Prop :=
  ∃ scan, Resolves scan m call.dispatch

/-- While the metadata are `m` they stay so, and the engine is called only for what they resolve,
    in triggered workflows too. -/
def CallsResolved (m : Metadata) (w w' : World) : Prop :=
  Throughout (fun db => db.metadata = m) w →
    Throughout (fun db => db.metadata = m) w' ∧
      ∀ call ∈ w'.allCalls, call ∈ w.allCalls ∨ ResolvedBy m call

variable {env : Env} {m : Metadata} {α : Type}

instance : Std.Refl (CallsResolved m) := ⟨fun _ hw => ⟨hw, fun _ hcall => .inl hcall⟩⟩

instance : IsTrans World (CallsResolved m) := by
  constructor
  intro w w' w'' h h' hw
  obtain ⟨hw', hcalls⟩ := h hw
  obtain ⟨hw'', hcalls'⟩ := h' hw'
  exact ⟨hw'', fun call hcall => (hcalls' call hcall).elim (hcalls call) .inr⟩

/-- Where nothing is called. -/
theorem callsResolved_of_eq {w w' : World} (hcalls : w'.allCalls = w.allCalls)
    (h : Throughout (fun db => db.metadata = m) w → Throughout (fun db => db.metadata = m) w') :
    CallsResolved m w w' :=
  fun hw => ⟨h hw, fun _ hcall => .inl (hcalls ▸ hcall)⟩

/-- Statements leave the metadata alone, and what triggered workflows call was resolved. -/
theorem entryFrame_callsResolved :
    EntryFrame (ResolvedBy m) (fun _ => True) (CallsResolved m) where
  onlyWrites w w' h := by
    refine callsResolved_of_eq ?_ fun hw => ⟨?_, ?_⟩
    · rw [World.allCalls, h.engineCalls, h.toolCalls, World.allCalls]
    · rw [h.committed]
      exact hw.committed
    · exact (congrArg Prod.fst h.setting).trans hw.working
  -- Calls of the turn or run itself.
  call w c hc hw := by
    refine ⟨⟨hw.committed, hw.working⟩, fun call hcall => ?_⟩
    obtain hold | rfl := (World.mem_allCalls_called c).mp hcall
    · exact .inl hold
    · exact .inr hc
  tools w dispatch args writes _ hw := by
    -- What the tools call was resolved in the tables that they found.
    refine ⟨⟨hw.committed, (writes.kept _).metadata.trans hw.working⟩, fun call hcall => ?_⟩
    refine ((World.mem_allCalls_tooled writes).mp hcall).imp_right fun hnested => ?_
    have hresolved := (writes.nested _ call hnested).resolved
    rw [hw.working] at hresolved
    exact hresolved
  -- The rest makes no calls, and writes no metadata.
  raised _ _ := callsResolved_of_eq rfl fun hw => ⟨hw.committed, hw.working⟩
  commit _ := callsResolved_of_eq rfl fun hw => ⟨hw.working, hw.working⟩
  rolledBack _ := callsResolved_of_eq rfl fun hw => ⟨hw.committed, hw.committed⟩
  redis _ _ _ := callsResolved_of_eq rfl fun hw => ⟨hw.committed, hw.working⟩
  yielded _ _ := callsResolved_of_eq rfl fun hw => ⟨hw.committed, hw.working⟩
  noted _ _ _ := callsResolved_of_eq rfl fun hw => ⟨hw.committed, hw.working⟩
  inserted _ _ _ _ _ := callsResolved_of_eq rfl fun hw => ⟨hw.committed, hw.working⟩

theorem callsResolved_writes {x : Svc α} (hx : Keeps OnlyWrites x) : Keeps (CallsResolved m) x :=
  entryFrame_callsResolved.toSessionFrame.writes hx

theorem callsResolved_commit : Keeps (CallsResolved m) (commit env) :=
  entryFrame_callsResolved.toSessionFrame.commits

theorem callsResolved_yieldItem (item : StreamItem) :
    Keeps (CallsResolved m) (yieldItem env item) :=
  entryFrame_callsResolved.toSessionFrame.yieldItem item

/-- What is resolved is executed. -/
theorem callsResolved_bind {resolve : Svc Dispatch} {f : Dispatch → Svc α}
    (hresolve : Keeps (CallsResolved m) resolve)
    (hresolved : ∀ w dispatch w', w.working.metadata = m → resolve w = (.ok dispatch, w') →
      Resolves env.hierarchyScan m dispatch)
    (hf : ∀ dispatch, Resolves env.hierarchyScan m dispatch →
      Keeps (CallsResolved m) (f dispatch)) :
    Keeps (CallsResolved m) (resolve >>= f) := by
  intro w hw
  have hstep (dispatch : Dispatch) (w' : World) (h : resolve w = (.ok dispatch, w')) :
      CallsResolved m w' (f dispatch w').2 :=
    hf dispatch (hresolved w dispatch w' hw.working h) w'
  exact rel_bind (hresolve w) hstep hw

theorem callsResolved_run {dispatch : Dispatch} (h : Resolves env.hierarchyScan m dispatch)
    (args : RunArgs) : Keeps (CallsResolved m) (Svc.run env dispatch args) :=
  entryFrame_callsResolved.toFrame.run ⟨_, h⟩

/-! ### Workflow runs -/

section Workflows

open WorkflowExecutionService

/-- The agent or the team of a step is looked up in the metadata as they are. -/
theorem callsResolved_step (step : WorkflowStep) {f : Dispatch → Svc α}
    (hf : ∀ dispatch, Resolves env.hierarchyScan m dispatch →
      Keeps (CallsResolved m) (f dispatch)) :
    Keeps (CallsResolved m) (WorkflowRunner.resolve env step >>= f) := by
  refine callsResolved_bind (entryFrame_callsResolved.toFrame.resolve step)
    (fun w dispatch w' hw h => ?_) hf
  obtain ⟨outcome, w₁, hquery, houtcome⟩ := bind_eq_ok.mp h
  obtain ⟨-, hresolve, -⟩ := query_eq_ok hquery
  rw [hw] at hresolve
  cases outcome with
  | error exc =>
    have hraised : (Except.error exc : Except PyError Dispatch) = .ok dispatch :=
      congrArg Prod.fst houtcome
    cases hraised
  | ok found =>
    obtain rfl : found = dispatch := Except.ok.inj (congrArg Prod.fst houtcome)
    exact resolves_of_resolveStep hresolve

theorem callsResolved_executeStep (runId : Uuid) (input : String) (context : WorkflowContext)
    (step : WorkflowStep) :
    Keeps (CallsResolved m) (WorkflowExecutor.executeStep
      (WorkflowRunner.runStep env) (callbacks env runId) input context step) := by
  refine keeps_bind (callsResolved_writes (onlyWrites_startStep _ _ _)) fun record =>
    keeps_bind (keeps_handleError ?_ fun exc => ?_) fun output => ?_
  · exact callsResolved_step step fun _ hdispatch => callsResolved_run hdispatch _
  · rw [WorkflowExecutor.failStep]
    split
    · exact keeps_bind (callsResolved_writes (onlyWrites_failStep _ _)) fun _ => keeps_raise _
    · exact keeps_raise _
  · exact keeps_bind (callsResolved_writes (onlyWrites_completeStep _ _ _ _)) fun _ =>
      keeps_pure _

theorem callsResolved_executeSteps (runId : Uuid) (input : String) (steps : List WorkflowStep)
    (context : WorkflowContext) (current : String) :
    Keeps (CallsResolved m) (WorkflowExecutor.executeSteps
      (WorkflowRunner.runStep env) (callbacks env runId) input steps context current) := by
  induction steps generalizing context current with
  | nil => exact keeps_pure _
  | cons step steps ih =>
    exact keeps_bind (callsResolved_executeStep _ _ _ _) fun output => ih _ output

theorem callsResolved_runWorkflow (workflowId : Uuid) (request : WorkflowRunRequest) :
    Keeps (CallsResolved m) (runWorkflow env workflowId request) := by
  refine keeps_bind (entryFrame_callsResolved.toOpenFrame.keeps_openRun _ _) fun opened =>
    keeps_bind (callsResolved_writes (onlyWrites_workflow_markRunning _)) fun _ =>
      keeps_bind (keeps_handleError ?_ fun exc => ?_) fun result =>
        keeps_bind (callsResolved_writes (onlyWrites_completeRun _ _)) fun _ => keeps_pure _
  · rw [WorkflowExecutor.execute]
    split
    · exact keeps_raise _
    · exact callsResolved_executeSteps _ _ _ _ _
  · rw [failAndRaise]
    split
    · exact keeps_bind (callsResolved_writes (onlyWrites_workflow_markFailed _ _)) fun _ =>
        keeps_raise _
    · exact keeps_raise _

/-! ### Streamed runs -/

variable {opened : OpenRun}

theorem callsResolved_forwardStep (context : WorkflowContext) (step : WorkflowStep)
    (stepInput : String) :
    Keeps (CallsResolved m) (forwardStep env opened context step stepInput) := by
  have hframe := (entryFrame_callsResolved (m := m)).toStreamFrame
  rw [forwardStep, WorkflowRunner.runStepStream, bind_assoc]
  refine callsResolved_step step fun dispatch hdispatch => ?_
  have hcall (args : RunArgs) : ResolvedBy m ⟨dispatch, args⟩ := ⟨_, hdispatch⟩
  exact keeps_bind (hframe.toFrame.openStream (hcall _)) fun live =>
    keeps_bind (hframe.forwardEvents _ _ (hcall _) live _ _ _) fun _ =>
      keeps_bind (hframe.toFrame.endStream (hcall _) live) fun _ => keeps_pure _

theorem callsResolved_streamStep (input : String) (context : WorkflowContext)
    (step : WorkflowStep) :
    Keeps (CallsResolved m) (streamStep env opened input context step) := by
  refine keeps_bind (callsResolved_writes (onlyWrites_startStep _ _ _)) fun record =>
    keeps_bind callsResolved_commit fun _ => keeps_bind (callsResolved_yieldItem _) fun _ =>
      keeps_bind (keeps_handleError (callsResolved_forwardStep _ _ _) fun exc => ?_) fun output =>
        keeps_bind (callsResolved_writes (onlyWrites_completeStep _ _ _ _)) fun _ =>
          keeps_bind callsResolved_commit fun _ =>
            keeps_bind (callsResolved_yieldItem _) fun _ => keeps_pure _
  rw [failStreamedStep]
  split
  · exact keeps_bind (callsResolved_writes (onlyWrites_failStep _ _)) fun _ =>
      keeps_bind callsResolved_commit fun _ => keeps_bind (callsResolved_yieldItem _) fun _ =>
        keeps_raise _
  · exact keeps_raise _

theorem callsResolved_streamSteps (input : String) (steps : List WorkflowStep)
    (context : WorkflowContext) :
    Keeps (CallsResolved m) (streamSteps env opened input steps context) := by
  induction steps generalizing context with
  | nil => exact keeps_pure _
  | cons step steps ih => exact keeps_bind (callsResolved_streamStep _ _ _) fun _ => ih _

theorem callsResolved_continueRun (input : String) :
    Keeps (CallsResolved m) (continueStream env opened input) := by
  refine keeps_bind (callsResolved_yieldItem _) fun _ =>
    keeps_bind (keeps_handleError (keeps_map _ ?_) fun exc => ?_) fun context => ?_
  · rw [WorkflowExecutionService.executeStream]
    split
    · exact keeps_raise _
    · exact callsResolved_streamSteps _ _ _
  · rw [failStream]
    split
    · exact keeps_bind (callsResolved_writes (onlyWrites_workflow_markFailed _ _)) fun _ =>
        keeps_bind callsResolved_commit fun _ => keeps_bind (callsResolved_yieldItem _) fun _ =>
          keeps_pure _
    · exact keeps_raise _
  · split
    · exact keeps_pure _
    · exact keeps_bind (callsResolved_writes (onlyWrites_completeRun _ _)) fun _ =>
        keeps_bind callsResolved_commit fun _ => callsResolved_yieldItem _

theorem callsResolved_runWorkflowStream (workflowId : Uuid) (request : WorkflowRunRequest) :
    Keeps (CallsResolved m) (runWorkflowStream env workflowId request) := by
  refine keeps_bind ?_ fun opened => callsResolved_continueRun _
  exact keeps_bind (entryFrame_callsResolved.toOpenFrame.keeps_openRun _ _) fun opened =>
    keeps_bind callsResolved_commit fun _ =>
      keeps_bind (callsResolved_writes (onlyWrites_workflow_markRunning _)) fun _ =>
        keeps_bind callsResolved_commit fun _ => keeps_pure _

end Workflows

/-! ### Execution plans -/

section Plans

open ExecutionEngineService

theorem callsResolved_attempt (context : PlanContext) (step : PlanStep) (stepInput : String)
    (stepRunId : Uuid) :
    Keeps (CallsResolved m) (attempt env context step stepInput stepRunId) := by
  refine keeps_bind (callsResolved_writes (onlyWrites_touch fun _ => rfl)) fun _ =>
    keeps_bind ?_ fun _ => callsResolved_bind (callsResolved_writes (onlyWrites_fetch _))
      (fun w dispatch w' hw h => ?_) fun _ hdispatch => callsResolved_run hdispatch _
  · refine keeps_bind keeps_read fun w => ?_
    split
    · exact callsResolved_writes (onlyWrites_updateStepRun _ _ _ _)
    · exact keeps_pure _
  · obtain ⟨-, hresolve, -⟩ := fetch_eq_ok h
    rw [hw] at hresolve
    exact resolves_of_resolvePlanStep hresolve

theorem callsResolved_executePlanStep (context : PlanContext) (current : String)
    (step : PlanStep) :
    Keeps (CallsResolved m) (ExecutionEngineService.executeStep env context current step) := by
  refine keeps_bind ?_ fun stepRunId => keeps_bind (keeps_handleError ?_ fun exc => ?_)
    fun output => keeps_bind (callsResolved_writes (onlyWrites_updateStepRun _ _ _ _)) fun _ =>
      keeps_pure _
  · exact keeps_bind keeps_read fun _ =>
      keeps_bind (callsResolved_writes (onlyWrites_write _ fun _ => rfl)) fun _ => keeps_pure _
  · exact keeps_retry (callsResolved_attempt _ _ _ _) _
  · exact entryFrame_callsResolved.toFrame.failPlanStep _ _ _ exc

theorem callsResolved_executePlanSteps (context : PlanContext) (steps : List PlanStep)
    (current : String) :
    Keeps (CallsResolved m) (executeSteps env context steps current) := by
  induction steps generalizing current with
  | nil => exact keeps_pure _
  | cons step steps ih => exact keeps_bind (callsResolved_executePlanStep _ _ _) fun _ => ih _

theorem callsResolved_runPlan (plan : ExecutionPlan) (sessionId : Uuid)
    (userId : Option String) :
    Keeps (CallsResolved m) (runPlan env plan sessionId userId) := by
  rw [ExecutionEngineService.runPlan]
  split
  · exact keeps_raise _
  · split
    · exact keeps_raise _
    · refine keeps_bind ?_ fun planRunId =>
        keeps_bind (callsResolved_executePlanSteps _ _ _) fun _ =>
          keeps_bind (callsResolved_writes (onlyWrites_updatePlanRun _ _ _ _)) fun _ =>
            keeps_pure _
      exact keeps_bind keeps_read fun _ =>
        keeps_bind (callsResolved_writes (onlyWrites_write _ fun _ => rfl)) fun _ => keeps_pure _

end Plans

/-! ## All entry points -/

/-- What a request starts from has the metadata of its store. -/
private theorem resolved_of_handle {store : Store} {w : World}
    (h : CallsResolved store.db.metadata (World.start store) w) :
    ∀ call ∈ w.allCalls, ResolvedBy store.db.metadata call :=
  fun call hcall => ((h ⟨rfl, rfl⟩).2 call hcall).elim (fun hold => by cases hold) id

/-- What is executed was resolved from the metadata that the request found, whoever executes it: the
    request itself, or a workflow that one of its agents triggers. -/
theorem calls_resolved (env : Env) (store : Store) (request : Request) :
    ∀ call ∈ (request.served env store).allCalls, ResolvedBy store.db.metadata call := by
  have hframe := entryFrame_callsResolved (m := store.db.metadata)
  -- Turns call the engine for the dispatch that was resolved.
  have hturns (payload : ChatRequest) :
      TurnsSatisfy env store.db payload (ResolvedBy store.db.metadata) := by
    have hdispatch : TurnsSatisfy env store.db payload fun call =>
        Resolves env.hierarchyScan store.db.metadata call.dispatch :=
      turnsSatisfy_of_dispatch fun dispatch => resolves_of_resolveDispatchContext
    exact fun w w₁ w₂ dispatch turn ui hw hresolve hopen =>
      ⟨_, hdispatch w w₁ w₂ dispatch turn ui hw hresolve hopen⟩
  refine resolved_of_handle ?_
  cases request with
  | chat payload => exact hframe.chat (decides_true _ _ _) (hturns payload)
  | chatStream payload => exact hframe.chatStream (decides_true _ _ _) (hturns payload)
  | runWorkflow workflowId payload =>
    exact hframe.toSessionFrame.getDb_rel
      (keeps_map _ (callsResolved_runWorkflow workflowId payload) _)
  | runWorkflowStream workflowId payload =>
    exact rel_bind (hframe.toSessionFrame.streamed_rel
      (callsResolved_runWorkflowStream workflowId payload _)) fun _ w _ => keeps_pure _ w
  | runExecutionPlan payload =>
    exact hframe.toSessionFrame.getDb_rel (keeps_map _ (keeps_bind (keeps_lift _) fun _ =>
      keeps_bind keeps_read fun _ => callsResolved_runPlan _ _ _) _)

end AgnoRuntime
