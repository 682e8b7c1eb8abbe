import AgnoRuntime.ForStd.Triples
import AgnoRuntime.Spec.RequestFrames
import AgnoRuntime.Spec.RunViews
import AgnoRuntime.Spec.TurnViews
import Mathlib.Logic.Relation

/-!
# What a request may do to the tables

Seen from the tables, a request is a sequence of steps: rows are inserted under new
keys, messages and events are appended, and rows that the request has inserted
itself are changed. `RequestStep` is that machine, one constructor for each kind of
statement, and `Request.served_reaches` shows that every request only takes such
steps, whatever fails in it and wherever it is cut off.
-/

namespace AgnoRuntime

open Svc Prog

/-- What a request runs. -/
inductive RequestKind where
  | chat | workflow | plan
deriving DecidableEq

/-- The kind of a request. -/
def Request.kind : Request → RequestKind
  | .chat _ | .chatStream _ => .chat
  | .runWorkflow _ _ | .runWorkflowStream _ _ => .workflow
  | .runExecutionPlan _ => .plan

/-- One change that a request of a kind makes, on tables that were `base` when it began: what was
    there then is left alone. -/
inductive RequestStep (base : Db) : RequestKind → Db → Db → Prop where
  | tools (kind : RequestKind) (args : RunArgs) (writes : ToolWrites args) (db : Db) :
    RequestStep base kind db (writes.apply db)
  | session (kind : RequestKind) (db : Db) (row : ChatSession) (table : KeyedTable ChatSession.id)
    (hinsert : db.chatSessions.insert? row = some table) :
    RequestStep base kind db (db.withSessions table)
  | message (kind : RequestKind) (db : Db) (m : ChatMessage)
    (hrun : ∀ id, m.runId = some id → kind = .chat ∧ base.agentRuns.Lacks id) :
    RequestStep base kind db (db.withMessage m)
  | newRun (db : Db) (sessionId agentId : Uuid) (inputText : String) :
    RequestStep base .chat db (db.withNewRun sessionId agentId inputText)
  | agentEvent (db : Db) (e : AgentEvent) (hrun : base.agentRuns.Lacks e.runId) :
    RequestStep base .chat db (db.withAgentEvent e)
  | run (db : Db) (id : Uuid) (status : RunStatus) (f : AgentRun → AgentRun)
    (hf : ∀ r, (f r).id = r.id) (hrun : base.agentRuns.Lacks id) :
    RequestStep base .chat db (db.withRun id status f hf)
  | usage (db : Db) (mk : Uuid → QuotaUsageEvent) (hmk : ∀ id, (mk id).id = id) :
    RequestStep base .chat db
      { db with quotaUsageEvents := db.quotaUsageEvents.insertFresh mk hmk }
  | newWorkflowRun (db : Db) (workflowId sessionId : Uuid) (inputText : String)
    (createdBy : Option String) : RequestStep base .workflow db
      (db.withNewWorkflowRun workflowId sessionId inputText createdBy)
  | workflowEvent (db : Db) (e : WorkflowEvent) (hrun : base.workflowRuns.Lacks e.workflowRunId) :
    RequestStep base .workflow db (db.withWorkflowEvent e)
  | workflowRun (db : Db) (id : Uuid) (status : WorkflowRunStatus) (f : WorkflowRun → WorkflowRun)
    (hf : ∀ r, (f r).id = r.id) (hrun : base.workflowRuns.Lacks id) :
    RequestStep base .workflow db (db.withWorkflowRun id status f hf)
  | newStep (db : Db) (runId : Uuid) (step : WorkflowStep) (stepInput : String)
    (hrun : base.workflowRuns.Lacks runId) :
    RequestStep base .workflow db (db.withNewStep runId step stepInput)
  | step (db : Db) (id : Uuid) (status : WorkflowStepStatus)
    (f : WorkflowRunStep → WorkflowRunStep) (hf : ∀ s, (f s).id = s.id)
    (hrun : ∀ s, (f s).workflowRunId = s.workflowRunId)
    (hstep : base.workflowRunSteps.Lacks id) :
    RequestStep base .workflow db (db.withStep id status f hf)
  | newPlanRun (db : Db) (mk : Uuid → ExecutionPlanRun) (hmk : ∀ id, (mk id).id = id) :
    RequestStep base .plan db
      { db with executionPlanRuns := db.executionPlanRuns.insertFresh mk hmk }
  | planRun (db : Db) (id : Uuid) (f : ExecutionPlanRun → ExecutionPlanRun)
    (hf : ∀ r, (f r).id = r.id) (hrun : base.executionPlanRuns.Lacks id) :
    RequestStep base .plan db { db with executionPlanRuns := db.executionPlanRuns.update id f hf }
  | newPlanStep (db : Db) (mk : Uuid → ExecutionPlanStepRun) (hmk : ∀ id, (mk id).id = id)
    (hrun : ∀ id, base.executionPlanRuns.Lacks (mk id).planRunId) : RequestStep base .plan db
      { db with executionPlanStepRuns := db.executionPlanStepRuns.insertFresh mk hmk }
  | planStep (db : Db) (id : Uuid) (f : ExecutionPlanStepRun → ExecutionPlanStepRun)
    (hf : ∀ s, (f s).id = s.id) (hrun : ∀ s, (f s).planRunId = s.planRunId)
    (hstep : base.executionPlanStepRuns.Lacks id) : RequestStep base .plan db
      { db with executionPlanStepRuns := db.executionPlanStepRuns.update id f hf }

/-! ## What every step keeps -/

/-- The events of a run. -/
def agentEventsOf (runId : Uuid) (db : Db) : List AgentEvent :=
  db.agentEvents.filter fun e => e.runId = runId

/-- The events of a workflow run. -/
def workflowEventsOf (runId : Uuid) (db : Db) : List WorkflowEvent :=
  db.workflowEvents.filter fun e => e.workflowRunId = runId

/-- The records of the steps of a plan. -/
def planStepsOf (planRunId : Uuid) (db : Db) : List ExecutionPlanStepRun :=
  db.executionPlanStepRuns.rows.filter fun s => s.planRunId = planRunId

/-- What was there is still there as it was, and nothing was added to the runs that were there. -/
structure HistoryKept (db db' : Db) : Prop where
  metadata : db'.metadata = db.metadata
  workflows : db'.workflows = db.workflows
  workflowSteps : db'.workflowSteps = db.workflowSteps
  quotaPolicies : db'.quotaPolicies = db.quotaPolicies
  quotaUsageEvents : ∀ u ∈ db.quotaUsageEvents.rows, u ∈ db'.quotaUsageEvents.rows
  chatSessions : ∀ s ∈ db.chatSessions.rows, s ∈ db'.chatSessions.rows
  chatMessages : db.chatMessages <+: db'.chatMessages
  agentRuns : ∀ r ∈ db.agentRuns.rows, r ∈ db'.agentRuns.rows
  agentEvents : db.agentEvents <+: db'.agentEvents
  workflowRuns : ∀ r ∈ db.workflowRuns.rows, r ∈ db'.workflowRuns.rows
  workflowRunSteps : ∀ s ∈ db.workflowRunSteps.rows, s ∈ db'.workflowRunSteps.rows
  workflowEvents : db.workflowEvents <+: db'.workflowEvents
  planRuns : ∀ r ∈ db.executionPlanRuns.rows, r ∈ db'.executionPlanRuns.rows
  planSteps : ∀ s ∈ db.executionPlanStepRuns.rows, s ∈ db'.executionPlanStepRuns.rows
  runMessages : ∀ r ∈ db.agentRuns.rows, messagesOf r.id db' = messagesOf r.id db
  runEvents : ∀ r ∈ db.agentRuns.rows, agentEventsOf r.id db' = agentEventsOf r.id db
  runSteps : ∀ r ∈ db.workflowRuns.rows, stepsOf r.id db' = stepsOf r.id db
  runLog : ∀ r ∈ db.workflowRuns.rows, workflowEventsOf r.id db' = workflowEventsOf r.id db
  planLog : ∀ r ∈ db.executionPlanRuns.rows, planStepsOf r.id db' = planStepsOf r.id db

/-- Rows that a query of what is listed does not select. -/
private theorem filter_append_singleton {α : Type} {l : List α} {a : α} {p : α → Bool}
    (h : p a = false) : (l ++ [a]).filter p = l.filter p := by
  rw [List.filter_append, List.filter_cons_of_neg (by simp [h]), List.filter_nil, List.append_nil]

/-- A query by a foreign key does not see a change of a row that it does not select. -/
private theorem filter_update {α : Type} {key : α → Uuid} (owner : α → Uuid)
    (t : KeyedTable key) {k id : Uuid} {f : α → α} (hf : ∀ r, key (f r) = key r)
    (howner : ∀ r, owner (f r) = owner r)
    (h : ∀ r ∈ t.rows.filter (fun r => owner r = id), key r ≠ k) :
    (t.update k f hf).rows.filter (fun r => owner r = id) =
      t.rows.filter (fun r => owner r = id) := by
  have hkept : ((fun r => decide (owner r = id)) ∘ fun r => if key r = k then f r else r) =
      fun r => decide (owner r = id) := by
    funext r
    rw [Function.comp_apply]
    split
    · rw [howner r]
    · rfl
  have hsame : (t.rows.filter (fun r => owner r = id)).map
      (fun r => if key r = k then f r else r) =
        (t.rows.filter (fun r => owner r = id)).map (fun r => r) :=
    List.map_congr_left fun r hr => if_neg (h r hr)
  show (t.rows.map fun r => if key r = k then f r else r).filter _ = _
  rw [List.filter_map, hkept, hsame, List.map_id']

namespace HistoryKept

variable {base db db' : Db}

theorem refl (db : Db) : HistoryKept db db where
  -- Nothing has changed.
  metadata := rfl
  workflows := rfl
  workflowSteps := rfl
  quotaPolicies := rfl
  quotaUsageEvents := fun _ h => h
  chatSessions := fun _ h => h
  chatMessages := List.prefix_refl _
  agentRuns := fun _ h => h
  agentEvents := List.prefix_refl _
  workflowRuns := fun _ h => h
  workflowRunSteps := fun _ h => h
  workflowEvents := List.prefix_refl _
  planRuns := fun _ h => h
  planSteps := fun _ h => h
  runMessages := fun _ _ => rfl
  runEvents := fun _ _ => rfl
  runSteps := fun _ _ => rfl
  runLog := fun _ _ => rfl
  planLog := fun _ _ => rfl

theorem trans (h : HistoryKept base db) (h' : HistoryKept db db') : HistoryKept base db' where
  -- What was kept of the base was there to be kept again.
  metadata := h'.metadata.trans h.metadata
  workflows := h'.workflows.trans h.workflows
  workflowSteps := h'.workflowSteps.trans h.workflowSteps
  quotaPolicies := h'.quotaPolicies.trans h.quotaPolicies
  quotaUsageEvents := fun u hu => h'.quotaUsageEvents u (h.quotaUsageEvents u hu)
  chatSessions := fun s hs => h'.chatSessions s (h.chatSessions s hs)
  chatMessages := h.chatMessages.trans h'.chatMessages
  agentRuns := fun r hr => h'.agentRuns r (h.agentRuns r hr)
  agentEvents := h.agentEvents.trans h'.agentEvents
  workflowRuns := fun r hr => h'.workflowRuns r (h.workflowRuns r hr)
  workflowRunSteps := fun s hs => h'.workflowRunSteps s (h.workflowRunSteps s hs)
  workflowEvents := h.workflowEvents.trans h'.workflowEvents
  planRuns := fun r hr => h'.planRuns r (h.planRuns r hr)
  planSteps := fun s hs => h'.planSteps s (h.planSteps s hs)
  runMessages := fun r hr => (h'.runMessages r (h.agentRuns r hr)).trans (h.runMessages r hr)
  runEvents := fun r hr => (h'.runEvents r (h.agentRuns r hr)).trans (h.runEvents r hr)
  runSteps := fun r hr => (h'.runSteps r (h.workflowRuns r hr)).trans (h.runSteps r hr)
  runLog := fun r hr => (h'.runLog r (h.workflowRuns r hr)).trans (h.runLog r hr)
  planLog := fun r hr => (h'.planLog r (h.planRuns r hr)).trans (h.planLog r hr)

/-- Tools keep what was there. -/
theorem of_tools (h : KeptByRuns db db') : HistoryKept db db' := by
  obtain ⟨messages, hmessages, hnoRun⟩ := h.chatMessages
  obtain ⟨steps, hsteps, hotherSteps⟩ := h.workflowRunSteps
  obtain ⟨events, hevents, hotherEvents⟩ := h.workflowEvents
  refine {
    metadata := h.metadata
    workflows := h.workflows
    workflowSteps := h.workflowSteps
    quotaPolicies := h.quotaPolicies
    quotaUsageEvents := fun u hu => by rwa [h.quotaUsageEvents]
    chatSessions := h.chatSessions
    chatMessages := ⟨messages, hmessages.symm⟩
    agentRuns := fun r hr => by rwa [h.agentRuns]
    agentEvents := by rw [h.agentEvents]
    workflowRuns := h.workflowRuns
    workflowRunSteps := fun s hs => by
      rw [hsteps]
      exact List.mem_append_left _ hs
    workflowEvents := ⟨events, hevents.symm⟩
    planRuns := fun r hr => by rwa [h.executionPlanRuns]
    planSteps := fun s hs => by rwa [h.executionPlanStepRuns]
    runMessages := fun r hr => ?_
    runEvents := fun r hr => by rw [agentEventsOf, agentEventsOf, h.agentEvents]
    runSteps := fun r hr => ?_
    runLog := fun r hr => ?_
    planLog := fun r hr => by rw [planStepsOf, planStepsOf, h.executionPlanStepRuns] }
  -- The messages that were added belong to no run, the steps and events to new ones.
  · have hnone : messages.filter (fun m => m.runId = some r.id) = [] :=
      List.filter_eq_nil_iff.mpr fun m hm => by simp [hnoRun m hm]
    rw [messagesOf, hmessages, List.filter_append, hnone, List.append_nil, messagesOf]
  · have hnone : steps.filter (fun s => s.workflowRunId = r.id) = [] :=
      List.filter_eq_nil_iff.mpr fun s hs => by simp [hotherSteps s hs r hr]
    rw [stepsOf, hsteps, List.filter_append, hnone, List.append_nil, stepsOf]
  · have hnone : events.filter (fun e => e.workflowRunId = r.id) = [] :=
      List.filter_eq_nil_iff.mpr fun e he => by simp [hotherEvents e he r hr]
    rw [workflowEventsOf, hevents, List.filter_append, hnone, List.append_nil, workflowEventsOf]

end HistoryKept

/-- One step of a request keeps what was there when the request began. -/
theorem RequestStep.kept {base db db' : Db} {kind : RequestKind}
    (hstep : RequestStep base kind db db') (h : HistoryKept base db) : HistoryKept base db' := by
  cases hstep with
  | tools kind args writes db => exact h.trans (.of_tools (writes.kept db).toKeptByRuns)
  | session kind db row table hinsert =>
    have hrows := (KeyedTable.rows_of_insert? hinsert).2
    exact { h with
      chatSessions := fun s hs => by
        show s ∈ table.rows
        rw [hrows]
        exact List.mem_append_left _ (h.chatSessions s hs) }
  | message kind db m hrun =>
    exact { h with
      chatMessages := h.chatMessages.trans (List.prefix_append _ _)
      runMessages := fun r hr => by
        rw [← h.runMessages r hr, messagesOf, Db.withMessage]
        exact filter_append_singleton (decide_eq_false fun heq => (hrun r.id heq).2 r hr rfl) }
  | newRun db sessionId agentId inputText =>
    exact { h with
      agentRuns := fun r hr => KeyedTable.mem_insertFresh_of_mem (h.agentRuns r hr) _ _ }
  | agentEvent db e hrun =>
    exact { h with
      agentEvents := h.agentEvents.trans (List.prefix_append _ _)
      runEvents := fun r hr => by
        rw [← h.runEvents r hr, agentEventsOf, Db.withAgentEvent]
        exact filter_append_singleton (decide_eq_false fun heq => hrun r hr heq.symm) }
  | run db id status f hf hrun =>
    exact { h with
      agentRuns := KeyedTable.mem_update_of_lacks hrun (fun r => { f r with status := status }) hf
        h.agentRuns }
  | usage db mk hmk =>
    exact { h with
      quotaUsageEvents := fun u hu =>
        KeyedTable.mem_insertFresh_of_mem (h.quotaUsageEvents u hu) mk hmk }
  | newWorkflowRun db workflowId sessionId inputText createdBy =>
    exact { h with
      workflowRuns := fun r hr => KeyedTable.mem_insertFresh_of_mem (h.workflowRuns r hr) _ _ }
  | workflowEvent db e hrun =>
    exact { h with
      workflowEvents := h.workflowEvents.trans (List.prefix_append _ _)
      runLog := fun r hr => by
        rw [← h.runLog r hr, workflowEventsOf, Db.withWorkflowEvent]
        exact filter_append_singleton (decide_eq_false fun heq => hrun r hr heq.symm) }
  | workflowRun db id status f hf hrun =>
    exact { h with
      workflowRuns := KeyedTable.mem_update_of_lacks hrun (fun r => { f r with status := status })
        hf h.workflowRuns }
  | newStep db runId step stepInput hrun =>
    exact { h with
      workflowRunSteps := fun s hs =>
        KeyedTable.mem_insertFresh_of_mem (h.workflowRunSteps s hs) _ _
      runSteps := fun r hr => by
        rw [← h.runSteps r hr, stepsOf, Db.withNewStep, KeyedTable.rows_insertFresh]
        exact filter_append_singleton (decide_eq_false fun heq => hrun r hr heq.symm) }
  | step db id status f hf hrun hlacks =>
    exact { h with
      workflowRunSteps := KeyedTable.mem_update_of_lacks hlacks
        (fun s => { f s with status := status }) hf h.workflowRunSteps
      runSteps := fun r hr => by
        -- the records of a run that was there are those that were there
        have hold : ∀ s ∈ stepsOf r.id db, s.id ≠ id := by
          rw [h.runSteps r hr]
          exact fun s hs => hlacks s (List.mem_filter.mp hs).1
        rw [← h.runSteps r hr]
        exact filter_update (f := fun s => { f s with status := status })
          WorkflowRunStep.workflowRunId db.workflowRunSteps hf hrun hold }
  | newPlanRun db mk hmk =>
    exact { h with
      planRuns := fun r hr => KeyedTable.mem_insertFresh_of_mem (h.planRuns r hr) mk hmk }
  | planRun db id f hf hrun =>
    exact { h with planRuns := KeyedTable.mem_update_of_lacks hrun f hf h.planRuns }
  | newPlanStep db mk hmk hrun =>
    exact { h with
      planSteps := fun s hs => KeyedTable.mem_insertFresh_of_mem (h.planSteps s hs) mk hmk
      planLog := fun r hr => by
        rw [← h.planLog r hr, planStepsOf, KeyedTable.rows_insertFresh]
        exact filter_append_singleton (decide_eq_false fun heq => hrun _ r hr heq.symm) }
  | planStep db id f hf hrun hlacks =>
    exact { h with
      planSteps := KeyedTable.mem_update_of_lacks hlacks f hf h.planSteps
      planLog := fun r hr => by
        have hold : ∀ s ∈ planStepsOf r.id db, s.id ≠ id := by
          rw [h.planLog r hr]
          exact fun s hs => hlacks s (List.mem_filter.mp hs).1
        rw [← h.planLog r hr]
        exact filter_update ExecutionPlanStepRun.planRunId db.executionPlanStepRuns hf hrun hold }

/-- The tables a request of a kind can lead to. -/
def RequestReaches (base : Db) (kind : RequestKind) : Db → Prop :=
  Relation.ReflTransGen (RequestStep base kind) base

/-- However many steps are taken. -/
theorem RequestReaches.kept {base db : Db} {kind : RequestKind}
    (h : RequestReaches base kind db) : HistoryKept base db := by
  induction h with
  | refl => exact .refl base
  | tail _ hstep ih => exact hstep.kept ih

/-! ## Programs of a request

A request keeps `RequestReaches` throughout. What it inserts has a key that was not there when it
began, which `Maintains` hands on with the key. -/

section Programs

variable {base : Db} {kind : RequestKind} {env : Env} {α : Type} {w : World}

/-- The tables have come from `base` by steps of a request. -/
abbrev Running (base : Db) (kind : RequestKind) : World → Prop :=
  Throughout (RequestReaches base kind)

/-- What keeps the tables so maintains it, and hands on nothing. -/
theorem maintains_running {x : Svc α} (h : Keeps (Keeping (RequestReaches base kind)) x) :
    Maintains (Running base kind) x fun _ => True :=
  Keeps.maintains h

/-- Where nothing is handed on, it keeps the tables so. -/
theorem keeping_running {x : Svc α} (h : Maintains (Running base kind) x fun _ => True) :
    Keeps (Keeping (RequestReaches base kind)) x :=
  Maintains.keeps h

theorem running_write (s : Statement) {f : Db → Db}
    (hf : ∀ db, RequestStep base kind db (f db)) :
    Keeps (Keeping (RequestReaches base kind)) (write env s f) :=
  keeping_write s fun db hdb => hdb.tail (hf db)

/-- A statement about the tables as they are. -/
theorem Running.write (hw : Running base kind w) (s : Statement) {f : Db → Db}
    (hf : RequestStep base kind w.working (f w.working)) :
    Running base kind (Svc.write env s f w).2 := by
  refine ⟨?_, ?_⟩
  · rw [committed_write]
    exact hw.committed
  · rw [working_write]
    exact hw.working.tail hf

theorem running_tools {args : RunArgs} (writes : ToolWrites args) :
    Keeps (Keeping (RequestReaches base kind)) (useTools writes) :=
  keeping_useTools (fun writes db hdb => hdb.tail (.tools kind _ writes db)) writes

theorem running_note (decision : SessionDecision) :
    Keeps (Keeping (RequestReaches base kind)) (note decision) :=
  keeps_modify fun _ hw => ⟨hw.committed, hw.working⟩

theorem running_createSession (id : Option Uuid) (agentOsId : Uuid) (teamId agentId : Option Uuid)
    (userId : Option String) (title : String) : Keeps (Keeping (RequestReaches base kind))
      (createSession env id agentOsId teamId agentId userId title) := by
  intro w hw
  rw [createSession, bind_apply_ok (read_apply w)]
  simp only
  generalize hinsert : w.working.chatSessions.insert? _ = inserted
  cases inserted with
  | none => exact keeping_violate _ w hw
  | some table =>
    have hwrite : Running base kind
        (write env (.insert .chatSessions) (fun db => db.withSessions table) w).2 :=
      Running.write hw _ (.session kind _ _ table hinsert)
    exact rel_bind_from (fun _ => keeps_bind (running_note _) fun _ => keeps_pure _) w hwrite

theorem running_getOrCreateSession (sessionId : Option Uuid) (agentOsId : Uuid)
    (teamId agentId : Option Uuid) (userId : Option String) (title : String) :
    Keeps (Keeping (RequestReaches base kind))
      (getOrCreateSession env sessionId agentOsId teamId agentId userId title) := by
  rw [getOrCreateSession.eq_def]
  split
  · exact running_createSession _ _ _ _ _ _
  · refine keeps_bind (keeping_query _) fun existing => ?_
    split
    · exact running_createSession _ _ _ _ _ _
    · split
      · exact keeps_bind (running_note _) fun _ => keeps_raise _
      · exact keeps_bind (running_note _) fun _ => keeps_pure _

theorem running_run (dispatch : Dispatch) (args : RunArgs) :
    Keeps (Keeping (RequestReaches base kind)) (Svc.run env dispatch args) :=
  keeping_run (fun writes db hdb => hdb.tail (.tools kind _ writes db)) dispatch args

/-- A message that belongs to no run. -/
theorem running_createMessage (sessionId : Uuid) (role : MessageRole) (content : String) :
    Keeps (Keeping (RequestReaches base kind)) (createMessage env sessionId none role content) :=
  running_write _ fun db => .message kind db _ fun _ h => by cases h

end Programs

/-! ### Chat turns -/

section Chat

open ChatService RunTrackingService

variable {base : Db} {env : Env} {turn : ChatTurn}

/-- The run of a turn is none of those that were there. -/
theorem running_createRun (sessionId agentId : Uuid) (inputText : String) :
    Maintains (Running base .chat) (createRun env sessionId agentId inputText)
      base.agentRuns.Lacks := by
  intro w hw
  have hnew : base.agentRuns.Lacks w.working.agentRuns.freshKey :=
    (KeyedTable.lacks_freshKey _).of_subset hw.working.kept.agentRuns
  have hrest : Maintains (Running base .chat)
      (write env (.insert .agentRuns) (·.withNewRun sessionId agentId inputText) >>= fun _ =>
        emitEvent env w.working.agentRuns.freshKey .agentStarted (.input inputText) >>= fun _ =>
          (pure w.working.agentRuns.freshKey : Svc Uuid)) base.agentRuns.Lacks :=
    (maintains_running (running_write _ fun db => .newRun db _ _ _)).bind fun _ _ =>
      (maintains_running (running_write _ fun db => .agentEvent db _ hnew)).bind fun _ _ =>
        maintains_pure hnew
  exact hrest w hw

/-- So it is in an open turn. -/
theorem running_openTurn (request : ChatRequest) (groups : List String) (dispatch : Dispatch) :
    Maintains (Running base .chat) (openTurn env request groups dispatch)
      fun turn => base.agentRuns.Lacks turn.runId := by
  have hquota (caller : QuotaService.Caller) : Keeps (Keeping (RequestReaches base .chat))
      (QuotaService.requireWithinQuota env caller) := by
    refine keeps_bind (keeping_query _) fun policies => ?_
    split
    · exact keeps_pure _
    · exact keeps_bind (keeps_bind keeps_read fun _ => keeps_pure _) fun _ =>
        keeps_bind (keeping_redisCommand _) fun _ => keeps_bind keeps_read fun _ => keeps_lift _
  refine (maintains_running (keeps_lift _)).bind fun found _ => ?_
  refine (maintains_running (hquota _)).bind fun _ _ => ?_
  refine (maintains_running (running_getOrCreateSession _ _ _ _ _ _)).bind fun session _ => ?_
  refine (running_createRun _ _ _).bind fun runId hnew => ?_
  refine (maintains_running ?_).bind fun _ _ => maintains_pure hnew
  exact running_write _ fun db => .message .chat db _ fun id h => by cases h; exact ⟨rfl, hnew⟩

variable (hnew : base.agentRuns.Lacks turn.runId)

include hnew

theorem running_markRun (status : RunStatus) (f : AgentRun → AgentRun)
    (hf : ∀ r, (f r).id = r.id) : Keeps (Keeping (RequestReaches base .chat))
      (updateRun env turn.runId status f hf) :=
  running_write _ fun db => .run db _ _ _ hf hnew

/-- The row of the run, and the event that goes with it. -/
theorem running_endRun (status : RunStatus) (f : AgentRun → AgentRun)
    (hf : ∀ r, (f r).id = r.id) (eventType : EventType) (payload : EventPayload) :
    Keeps (Keeping (RequestReaches base .chat))
      (updateRun env turn.runId status f hf >>= fun _ =>
        emitEvent env turn.runId eventType payload) :=
  keeps_bind (running_markRun hnew _ _ _) fun _ =>
    running_write _ fun db => .agentEvent db _ hnew

theorem running_turnMessage (role : MessageRole) (content : String) :
    Keeps (Keeping (RequestReaches base .chat))
      (createMessage env turn.sessionId (some turn.runId) role content) :=
  running_write _ fun db => .message .chat db _ fun id h => by cases h; exact ⟨rfl, hnew⟩

theorem running_streamTurnFrame :
    StreamTurnFrame env turn.runId (Keeping (RequestReaches base .chat)) where
  sameSession w w' h hw := by
    refine ⟨?_, ?_⟩
    · rw [h.committed]
      exact hw.committed
    · rw [h.working]
      exact hw.working
  tools writes := running_tools writes
  emitted _ _ := running_write _ fun db => .agentEvent db _ hnew
  committed := keeping_commit

theorem running_execute : Keeps (Keeping (RequestReaches base .chat)) (execute env turn) := by
  have hframe : StreamTurnFrame env turn.runId (Keeping (RequestReaches base .chat)) :=
    running_streamTurnFrame hnew
  have hconsume (uiContext : Option UIContextFields) :
      Keeps (Keeping (RequestReaches base .chat)) (consumeStream env turn uiContext) := by
    refine keeps_handleError (keeps_bind (hframe.openStream _ _) fun live =>
      keeps_bind (hframe.collectEvents live _ _ _) fun _ =>
        keeps_bind (hframe.endStream live) fun _ => keeps_pure _) fun exc => ?_
    rw [failAndRaise]
    split
    · exact keeps_bind (running_endRun hnew _ _ _ _ _) fun _ => keeps_raise _
    · exact keeps_raise _
  rw [ChatService.execute]
  split
  · exact hconsume _
  · exact keeps_bind (running_run _ _) fun _ => keeps_pure _
  · exact hconsume _

theorem running_completeTurn (result : TurnResult) :
    Keeps (Keeping (RequestReaches base .chat)) (completeTurn env turn result) :=
  keeps_bind (running_turnMessage hnew _ _) fun _ => running_endRun hnew _ _ _ _ _

omit hnew in
theorem running_recordTurn (result : TurnResult) :
    Keeps (Keeping (RequestReaches base .chat)) (recordTurn env turn result) :=
  keeping_recordTurn_of_insert (fun db mk hmk hdb => hdb.tail (.usage db mk hmk)) turn result

theorem running_handleCancellation (progress : Progress) :
    Keeps (Keeping (RequestReaches base .chat)) (handleCancellation env turn progress) := by
  refine keeps_bind ?_ fun _ => keeps_bind (running_endRun hnew _ _ _ _ _) fun _ =>
    keeps_bind keeping_commit fun _ => keeps_bind (keeping_redisCommand _) fun _ =>
      keeping_yieldItem _
  rw [savePartialOutput]
  split
  · exact keeps_pure _
  · exact running_turnMessage hnew _ _

theorem running_forwardStream :
    Keeps (Keeping (RequestReaches base .chat)) (forwardStream env turn) := by
  have hframe : StreamTurnFrame env turn.runId (Keeping (RequestReaches base .chat)) :=
    running_streamTurnFrame hnew
  refine keeps_handleError (keeps_bind (hframe.openStream _ _) fun live =>
    keeps_bind ?_ fun progress => ?_) fun exc => ?_
  · rw [streamEvents_eq]
    refine keeps_bind (hframe.processEvents live _ _ _) fun processed => ?_
    rw [concludeEvents]
    split
    · exact keeps_bind (running_handleCancellation hnew _) fun _ => keeps_pure _
    · exact keeps_pure _
  · split
    · exact keeps_pure _
    · exact keeps_bind (hframe.endStream live) fun _ => keeps_pure _
  · rw [failStream]
    split
    · exact keeps_bind (running_endRun hnew _ _ _ _ _) fun _ => keeps_bind keeping_commit fun _ =>
        keeps_bind (keeping_yieldItem _) fun _ => keeps_pure _
    · exact keeps_raise _

omit hnew in
theorem running_beginTurn (request : ChatRequest) (groups : List String) (dispatch : Dispatch) :
    Maintains (Running base .chat) (beginTurn env request groups dispatch)
      fun executed => base.agentRuns.Lacks executed.1.runId :=
  (running_openTurn _ _ _).bind fun _ hnew =>
    (maintains_running (running_markRun hnew _ _ _)).bind fun _ _ =>
      (maintains_running (running_execute hnew)).bind fun _ _ => maintains_pure hnew

omit hnew in
theorem running_handleChat (request : ChatRequest) :
    Keeps (Keeping (RequestReaches base .chat)) (handleChat env request) := by
  refine keeps_bind (keeping_fetch _) fun dispatch => ?_
  refine keeping_running ((running_beginTurn _ _ _).bind fun executed hnew => ?_)
  refine maintains_running (keeps_bind (running_completeTurn hnew _) fun _ => ?_)
  exact keeps_bind (running_recordTurn _) fun _ => keeps_bind keeps_attributes fun _ =>
    keeps_pure _

omit hnew in
theorem running_beginStream (request : ChatRequest) (groups : List String)
    (dispatch : Dispatch) : Maintains (Running base .chat)
      (beginStream env request groups dispatch) fun turn => base.agentRuns.Lacks turn.runId :=
  (running_openTurn _ _ _).bind fun _ hnew =>
    (maintains_running keeping_commit).bind fun _ _ =>
      (maintains_running (running_markRun hnew _ _ _)).bind fun _ _ =>
        (maintains_running keeping_commit).bind fun _ _ => maintains_pure hnew

theorem running_continueStream :
    Keeps (Keeping (RequestReaches base .chat)) (continueStream env turn) := by
  refine keeps_bind (keeping_yieldItem _) fun _ => keeps_bind (running_forwardStream hnew)
    fun progress => ?_
  split
  · exact keeps_pure _
  · exact keeps_bind (running_completeTurn hnew _) fun _ => keeps_bind keeping_commit fun _ =>
      keeps_bind (running_recordTurn _) fun _ => keeps_bind keeps_attributes fun _ =>
        keeping_yieldItem _

omit hnew in
theorem running_handleChatStream (request : ChatRequest) :
    Keeps (Keeping (RequestReaches base .chat)) (handleChatStream env request) := by
  refine keeps_bind (keeping_fetch _) fun dispatch => ?_
  exact keeping_running ((running_beginStream _ _ _).bind fun _ hnew =>
    maintains_running (running_continueStream hnew))

end Chat

/-! ### Workflow runs -/

section Workflows

open WorkflowExecutionService WorkflowRunService

variable {base : Db} {env : Env} {opened : OpenRun} {input : String}

theorem running_workflow_createRun (workflowId sessionId : Uuid) (inputText : String)
    (createdBy : Option String) : Maintains (Running base .workflow)
      (createRun env workflowId sessionId inputText createdBy) base.workflowRuns.Lacks := by
  intro w hw
  have hnew : base.workflowRuns.Lacks w.working.workflowRuns.freshKey :=
    (KeyedTable.lacks_freshKey _).of_subset hw.working.kept.workflowRuns
  have hrest : Maintains (Running base .workflow)
      (write env (.insert .workflowRuns)
          (·.withNewWorkflowRun workflowId sessionId inputText createdBy) >>= fun _ =>
        emitEvent env w.working.workflowRuns.freshKey .workflowStarted (.input inputText) >>=
          fun _ => (pure w.working.workflowRuns.freshKey : Svc Uuid)) base.workflowRuns.Lacks :=
    (maintains_running (running_write _ fun db => .newWorkflowRun db _ _ _ _)).bind fun _ _ =>
      (maintains_running (running_write _ fun db => .workflowEvent db _ hnew)).bind fun _ _ =>
        maintains_pure hnew
  exact hrest w hw

theorem running_openRun (workflowId : Uuid) (request : WorkflowRunRequest) :
    Maintains (Running base .workflow) (openRun env workflowId request)
      fun opened => base.workflowRuns.Lacks opened.context.workflowRunId :=
  (maintains_running (keeping_fetch _)).bind fun _ _ =>
    (maintains_running (running_getOrCreateSession _ _ _ _ _ _)).bind fun _ _ =>
      (running_workflow_createRun _ _ _ _).bind fun _ hnew =>
        (maintains_running (running_createMessage _ _ _)).bind fun _ _ => maintains_pure hnew

section Run

variable {runId : Uuid} (hnew : base.workflowRuns.Lacks runId)

include hnew

theorem running_workflow_markRun (status : WorkflowRunStatus) (f : WorkflowRun → WorkflowRun)
    (hf : ∀ r, (f r).id = r.id) :
    Keeps (Keeping (RequestReaches base .workflow)) (updateRun env runId status f hf) :=
  running_write _ fun db => .workflowRun db _ _ _ hf hnew

theorem running_workflow_emitEvent (eventType : WorkflowEventType) (payload : WorkflowPayload) :
    Keeps (Keeping (RequestReaches base .workflow)) (emitEvent env runId eventType payload) :=
  running_write _ fun db => .workflowEvent db _ hnew

theorem running_workflow_endRun (status : WorkflowRunStatus) (f : WorkflowRun → WorkflowRun)
    (hf : ∀ r, (f r).id = r.id) (eventType : WorkflowEventType) (payload : WorkflowPayload) :
    Keeps (Keeping (RequestReaches base .workflow))
      (updateRun env runId status f hf >>= fun _ => emitEvent env runId eventType payload) :=
  keeps_bind (running_workflow_markRun hnew _ _ _) fun _ => running_workflow_emitEvent hnew _ _

/-- The record of a step is none of those that were there. -/
theorem running_startStep (step : WorkflowStep) (stepInput : String) :
    Maintains (Running base .workflow) (startStep env runId step stepInput)
      base.workflowRunSteps.Lacks := by
  intro w hw
  have hrecord : base.workflowRunSteps.Lacks w.working.workflowRunSteps.freshKey :=
    (KeyedTable.lacks_freshKey _).of_subset hw.working.kept.workflowRunSteps
  have hrest : Maintains (Running base .workflow)
      (write env (.insert .workflowRunSteps) (·.withNewStep runId step stepInput) >>= fun _ =>
        emitEvent env runId .workflowStepStarted
            (.stepStarted step.stepOrder step.stepType.value) >>=
          fun _ => (pure w.working.workflowRunSteps.freshKey : Svc Uuid))
      base.workflowRunSteps.Lacks :=
    (maintains_running (running_write _ fun db => .newStep db _ _ _ hnew)).bind fun _ _ =>
      (maintains_running (running_workflow_emitEvent hnew _ _)).bind fun _ _ =>
        maintains_pure hrecord
  exact hrest w hw

omit hnew in
theorem running_updateStep {record : Uuid} (hrecord : base.workflowRunSteps.Lacks record)
    (status : WorkflowStepStatus) (f : WorkflowRunStep → WorkflowRunStep)
    (hf : ∀ s, (f s).id = s.id) (hrun : ∀ s, (f s).workflowRunId = s.workflowRunId) :
    Keeps (Keeping (RequestReaches base .workflow)) (updateStep env record status f hf) :=
  running_write _ fun db => .step db record status f hf hrun hrecord

omit hnew in
theorem running_failStep {record : Uuid} (hrecord : base.workflowRunSteps.Lacks record)
    (errorMessage : String) :
    Keeps (Keeping (RequestReaches base .workflow)) (failStep env record errorMessage) :=
  running_updateStep hrecord _ _ _ fun _ => rfl

theorem running_completeStep {record : Uuid} (hrecord : base.workflowRunSteps.Lacks record)
    (stepOrder : Int) (output : String) : Keeps (Keeping (RequestReaches base .workflow))
      (completeStep env runId record stepOrder output) :=
  keeps_bind (running_updateStep hrecord _ _ _ fun _ => rfl)
    fun _ => running_workflow_emitEvent hnew _ _

theorem running_executeStep (context : WorkflowContext) (step : WorkflowStep) :
    Keeps (Keeping (RequestReaches base .workflow)) (WorkflowExecutor.executeStep
      (WorkflowRunner.runStep env) (callbacks env runId) input context step) := by
  refine keeping_running ((running_startStep hnew step _).bind fun record hrecord =>
    maintains_running (keeps_bind (keeps_handleError ?_ fun exc => ?_) fun output => ?_))
  · exact keeps_bind (StepFrame.resolve step) fun dispatch => running_run _ _
  · rw [WorkflowExecutor.failStep]
    split
    · exact keeps_bind (running_failStep hrecord _) fun _ => keeps_raise _
    · exact keeps_raise _
  · exact keeps_bind (running_completeStep hnew hrecord _ _) fun _ => keeps_pure _

theorem running_execute_workflow (steps : List WorkflowStep) (context : WorkflowContext) :
    Keeps (Keeping (RequestReaches base .workflow)) (WorkflowExecutor.execute
      (WorkflowRunner.runStep env) (callbacks env runId) input steps context) := by
  have hsteps (steps : List WorkflowStep) (context : WorkflowContext) (current : String) :
      Keeps (Keeping (RequestReaches base .workflow)) (WorkflowExecutor.executeSteps
        (WorkflowRunner.runStep env) (callbacks env runId) input steps context current) := by
    induction steps generalizing context current with
    | nil => exact keeps_pure _
    | cons step steps ih => exact keeps_bind (running_executeStep hnew _ _) fun _ => ih _ _
  rw [WorkflowExecutor.execute]
  split
  · exact keeps_raise _
  · exact hsteps _ _ _

end Run

theorem running_runWorkflow (workflowId : Uuid) (request : WorkflowRunRequest) :
    Keeps (Keeping (RequestReaches base .workflow)) (runWorkflow env workflowId request) := by
  refine keeping_running ((running_openRun _ _).bind fun opened hnew => maintains_running ?_)
  refine keeps_bind (running_workflow_markRun hnew _ _ _) fun _ =>
    keeps_bind (keeps_handleError (running_execute_workflow hnew _ _) fun exc => ?_) fun result =>
      keeps_bind (keeps_bind (running_createMessage _ _ _) fun _ =>
        running_workflow_endRun hnew _ _ _ _ _) fun _ => keeps_pure _
  rw [failAndRaise]
  split
  · exact keeps_bind (running_workflow_endRun hnew _ _ _ _ _) fun _ => keeps_raise _
  · exact keeps_raise _

section Streamed

variable (hnew : base.workflowRuns.Lacks opened.context.workflowRunId)

omit hnew in
theorem running_forwardStep (context : WorkflowContext) (step : WorkflowStep)
    (stepInput : String) : Keeps (Keeping (RequestReaches base .workflow))
      (forwardStep env opened context step stepInput) := by
  have hevents {args : RunArgs} (live : LiveStream args) (events : List StreamEvent) (i : Nat)
      (collected : List String) : Keeps (Keeping (RequestReaches base .workflow))
        (forwardEvents env opened step live events i collected) := by
    induction events generalizing i collected with
    | nil => exact keeps_pure _
    | cons event events ih =>
      exact keeps_bind (running_tools _) fun _ => keeps_bind (keeping_yieldItem _) fun _ => ih _ _
  refine keeps_bind ?_ fun live => keeps_bind (hevents live _ _ _) fun _ =>
    keeps_bind (keeping_endStream (fun writes db hdb => hdb.tail (.tools _ _ writes db)) live)
      fun _ => keeps_pure _
  exact keeps_bind (StepFrame.resolve step) fun dispatch => keeping_openStream dispatch _

include hnew

theorem running_streamStep (context : WorkflowContext) (step : WorkflowStep) :
    Keeps (Keeping (RequestReaches base .workflow))
      (streamStep env opened input context step) := by
  refine keeping_running ((running_startStep hnew step _).bind fun record hrecord =>
    maintains_running ?_)
  refine keeps_bind keeping_commit fun _ => keeps_bind (keeping_yieldItem _) fun _ =>
    keeps_bind (keeps_handleError (running_forwardStep _ _ _) fun exc => ?_) fun output =>
      keeps_bind (running_completeStep hnew hrecord _ _) fun _ => keeps_bind keeping_commit
        fun _ => keeps_bind (keeping_yieldItem _) fun _ => keeps_pure _
  rw [failStreamedStep]
  split
  · exact keeps_bind (running_failStep hrecord _) fun _ => keeps_bind keeping_commit fun _ =>
      keeps_bind (keeping_yieldItem _) fun _ => keeps_raise _
  · exact keeps_raise _

theorem running_executeStream :
    Keeps (Keeping (RequestReaches base .workflow)) (executeStream env opened input) := by
  have hsteps (steps : List WorkflowStep) (context : WorkflowContext) :
      Keeps (Keeping (RequestReaches base .workflow))
        (streamSteps env opened input steps context) := by
    induction steps generalizing context with
    | nil => exact keeps_pure _
    | cons step steps ih => exact keeps_bind (running_streamStep hnew context step) fun _ => ih _
  rw [WorkflowExecutionService.executeStream]
  split
  · exact keeps_raise _
  · exact hsteps _ _

theorem running_workflow_continueStream :
    Keeps (Keeping (RequestReaches base .workflow)) (continueStream env opened input) := by
  refine keeps_bind (keeping_yieldItem _) fun _ =>
    keeps_bind (keeps_handleError (keeps_map _ (running_executeStream hnew)) fun exc => ?_)
      fun context => ?_
  · rw [failStream]
    split
    · exact keeps_bind (running_workflow_endRun hnew _ _ _ _ _) fun _ =>
        keeps_bind keeping_commit fun _ => keeps_bind (keeping_yieldItem _) fun _ => keeps_pure _
    · exact keeps_raise _
  · split
    · exact keeps_pure _
    · exact keeps_bind (keeps_bind (running_createMessage _ _ _) fun _ =>
        running_workflow_endRun hnew _ _ _ _ _) fun _ => keeps_bind keeping_commit fun _ =>
          keeping_yieldItem _

end Streamed

theorem running_workflow_beginStream (workflowId : Uuid) (request : WorkflowRunRequest) :
    Maintains (Running base .workflow) (beginStream env workflowId request)
      fun opened => base.workflowRuns.Lacks opened.context.workflowRunId :=
  (running_openRun _ _).bind fun _ hnew =>
    (maintains_running keeping_commit).bind fun _ _ =>
      (maintains_running (running_workflow_markRun hnew _ _ _)).bind fun _ _ =>
        (maintains_running keeping_commit).bind fun _ _ => maintains_pure hnew

theorem running_runWorkflowStream (workflowId : Uuid) (request : WorkflowRunRequest) :
    Keeps (Keeping (RequestReaches base .workflow)) (runWorkflowStream env workflowId request) :=
  keeping_running ((running_workflow_beginStream _ _).bind fun _ hnew =>
    maintains_running (running_workflow_continueStream hnew))

end Workflows

/-! ### Execution plans -/

section Plans

open ExecutionEngineService

variable {base : Db} {env : Env} {context : PlanContext} {step : PlanStep}

theorem running_createPlanRun (plan : ExecutionPlan) (sessionId : Uuid) :
    Maintains (Running base .plan) (createPlanRun env plan sessionId)
      base.executionPlanRuns.Lacks := by
  intro w hw
  have hnew : base.executionPlanRuns.Lacks w.working.executionPlanRuns.freshKey :=
    (KeyedTable.lacks_freshKey _).of_subset hw.working.kept.planRuns
  rw [createPlanRun, bind_apply_ok (read_apply w)]
  exact (maintains_running (running_write _ fun db => .newPlanRun db _ _)).bind
    (fun _ _ => maintains_pure hnew) w hw

theorem running_updatePlanRun {planRunId : Uuid} (hplan : base.executionPlanRuns.Lacks planRunId)
    (status : ExecutionPlanRunStatus) (f : ExecutionPlanRun → ExecutionPlanRun)
    (hf : ∀ r, (f r).id = r.id) :
    Keeps (Keeping (RequestReaches base .plan)) (updatePlanRun env planRunId status f hf) :=
  running_write _ fun db =>
    .planRun db planRunId (fun r => { f r with status := status }) hf hplan

theorem running_updateStepRun {stepRunId : Uuid}
    (hstep : base.executionPlanStepRuns.Lacks stepRunId) (status : ExecutionStepStatus)
    (f : ExecutionPlanStepRun → ExecutionPlanStepRun) (hf : ∀ s, (f s).id = s.id)
    (hrun : ∀ s, (f s).planRunId = s.planRunId) :
    Keeps (Keeping (RequestReaches base .plan)) (updateStepRun env stepRunId status f hf) :=
  running_write _ fun db =>
    .planStep db stepRunId (fun s => { f s with status := status }) hf hrun hstep

variable (hplan : base.executionPlanRuns.Lacks context.planRunId)

include hplan in
theorem running_createStepRun (step : PlanStep) (stepInput : String) :
    Maintains (Running base .plan) (createStepRun env context.planRunId step stepInput)
      base.executionPlanStepRuns.Lacks := by
  intro w hw
  have hnew : base.executionPlanStepRuns.Lacks w.working.executionPlanStepRuns.freshKey :=
    (KeyedTable.lacks_freshKey _).of_subset hw.working.kept.planSteps
  rw [createStepRun, bind_apply_ok (read_apply w)]
  exact (maintains_running (running_write _ fun db => .newPlanStep db _ _ fun _ => hplan)).bind
    (fun _ _ => maintains_pure hnew) w hw

theorem running_attempt {stepRunId : Uuid}
    (hstep : base.executionPlanStepRuns.Lacks stepRunId) (stepInput : String) :
    Keeps (Keeping (RequestReaches base .plan))
      (attempt env context step stepInput stepRunId) := by
  refine keeps_bind (keeping_touch fun db hdb =>
    hdb.tail (.planStep db stepRunId (fun s => { s with attemptCount := s.attemptCount + 1 })
      (fun _ => rfl) (fun _ => rfl) hstep)) fun _ =>
      keeps_bind ?_ fun _ => keeps_bind (keeping_fetch _) fun dispatch => running_run _ _
  refine keeps_bind keeps_read fun w => ?_
  split
  · exact running_updateStepRun hstep _ _ _ fun _ => rfl
  · exact keeps_pure _

include hplan in
theorem running_executePlanStep (current : String) (step : PlanStep) :
    Keeps (Keeping (RequestReaches base .plan)) (executeStep env context current step) := by
  refine keeping_running ((running_createStepRun hplan step _).bind fun stepRunId hstep =>
    maintains_running (keeps_bind (keeps_handleError (keeps_retry (running_attempt hstep _) _)
      fun exc => ?_) fun output => keeps_bind ?_ fun _ => keeps_pure _))
  · rw [ExecutionEngineService.failStep]
    split
    · exact keeps_bind (running_updateStepRun hstep _ _ _ fun _ => rfl) fun _ =>
        keeps_bind (running_updatePlanRun hplan _ _ _) fun _ => keeps_raise _
    · exact keeps_raise _
  · exact running_updateStepRun hstep _ _ _ fun _ => rfl

theorem running_runPlan (plan : ExecutionPlan) (sessionId : Uuid) (userId : Option String) :
    Keeps (Keeping (RequestReaches base .plan)) (runPlan env plan sessionId userId) := by
  have hsteps {context : PlanContext} (hplan : base.executionPlanRuns.Lacks context.planRunId)
      (steps : List PlanStep) (current : String) :
      Keeps (Keeping (RequestReaches base .plan)) (executeSteps env context steps current) := by
    induction steps generalizing current with
    | nil => exact keeps_pure _
    | cons step steps ih => exact keeps_bind (running_executePlanStep hplan _ _) fun _ => ih _
  rw [ExecutionEngineService.runPlan]
  split
  · exact keeps_raise _
  · split
    · exact keeps_raise _
    · refine keeping_running ((running_createPlanRun _ _).bind fun planRunId hnew =>
        maintains_running (keeps_bind (hsteps hnew _ _) fun _ => keeps_bind ?_ fun _ =>
          keeps_pure _))
      exact running_updatePlanRun hnew _ _ _

end Plans

/-! ## The refinement -/

/-- Whatever happens in a request, it takes steps of its kind. -/
theorem Request.served_reaches (env : Env) (store : Store) (request : Request) :
    RequestReaches store.db request.kind (request.served env store).store.db := by
  have hhandle : Keeps (Keeping (RequestReaches store.db request.kind)) (request.handle env) := by
    cases request with
    | chat payload => exact keeping_getDb (keeps_map _ (running_handleChat payload))
    | chatStream payload =>
      exact keeps_bind (keeping_streamed (running_handleChatStream payload)) fun _ => keeps_pure _
    | runWorkflow workflowId payload =>
      exact keeping_getDb (keeps_map _ (running_runWorkflow workflowId payload))
    | runWorkflowStream workflowId payload =>
      exact keeps_bind (keeping_streamed (running_runWorkflowStream workflowId payload))
        fun _ => keeps_pure _
    | runExecutionPlan payload =>
      exact keeping_getDb (keeps_map _ (keeps_bind (keeps_lift _) fun _ =>
        keeps_bind keeps_read fun _ => running_runPlan _ _ _))
  exact (hhandle (World.start store) ⟨.refl, .refl⟩).committed

end AgnoRuntime
