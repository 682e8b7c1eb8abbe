import AgnoRuntime.Model.Requests

/-!
# The outcome of a statement

A session that is in order takes a statement or is refused; a query of it returns.
Each operation of the session is given by the world it leads to.
-/

namespace AgnoRuntime

open Svc Prog

/-- The world after changes without a flush. -/
def World.touched (w : World) (f : Db → Db) : World := { w with working := f w.working }

/-- The world after a statement that leaves the tables at `f`. -/
def World.wrote (w : World) (s : Statement) (f : Db → Db) : World :=
  { w with working := f w.working, ticks := w.ticks + 1, statements := w.statements ++ [s] }

/-- The world after a statement that the database refuses. -/
def World.refused (w : World) (f : Db → Db) : World :=
  { w with working := f w.working, failed := true, ticks := w.ticks + 1 }

/-- The world after a commit. -/
def World.saved (w : World) : World :=
  { w with
    committed := w.working
    ticks := w.ticks + 1
    statements := w.statements ++ [.commit] }

/-- The world after a Redis command. -/
def World.commanded (w : World) (f : Redis → Redis) : World :=
  { w with redis := f w.redis, ticks := w.ticks + 1 }

/-- The world after an item has been sent to the client. -/
def World.shown (w : World) (item : StreamItem) : World :=
  { w with yielded := w.yielded ++ [item] }

/-- The world after a call of the engine. -/
def World.called (w : World) (call : EngineCall) : World :=
  { w with engineCalls := w.engineCalls ++ [call] }

section Touched

variable (w : World) (f : Db → Db)

@[simp] theorem World.touched_working : (w.touched f).working = f w.working := rfl

@[simp] theorem World.touched_committed : (w.touched f).committed = w.committed := rfl

@[simp] theorem World.touched_failed : (w.touched f).failed = w.failed := rfl

@[simp] theorem World.touched_ticks : (w.touched f).ticks = w.ticks := rfl

@[simp] theorem World.touched_yielded : (w.touched f).yielded = w.yielded := rfl

@[simp] theorem World.touched_statements : (w.touched f).statements = w.statements := rfl

@[simp] theorem World.touched_engineCalls : (w.touched f).engineCalls = w.engineCalls := rfl

@[simp] theorem World.touched_expired : (w.touched f).expired = w.expired := rfl

end Touched

section Tooled

variable (w : World) {args : RunArgs} (writes : ToolWrites args)

@[simp] theorem World.tooled_working : (w.tooled writes).working = writes.apply w.working := rfl

@[simp] theorem World.tooled_committed : (w.tooled writes).committed = w.committed := rfl

@[simp] theorem World.tooled_failed : (w.tooled writes).failed = w.failed := rfl

@[simp] theorem World.tooled_expired : (w.tooled writes).expired = w.expired := rfl

@[simp] theorem World.tooled_ticks : (w.tooled writes).ticks = w.ticks := rfl

@[simp] theorem World.tooled_yielded : (w.tooled writes).yielded = w.yielded := rfl

@[simp] theorem World.tooled_statements : (w.tooled writes).statements = w.statements := rfl

@[simp] theorem World.tooled_engineCalls : (w.tooled writes).engineCalls = w.engineCalls := rfl

end Tooled

section Wrote

variable (w : World) (s : Statement) (f : Db → Db)

@[simp] theorem World.wrote_working : (w.wrote s f).working = f w.working := rfl

@[simp] theorem World.wrote_committed : (w.wrote s f).committed = w.committed := rfl

@[simp] theorem World.wrote_failed : (w.wrote s f).failed = w.failed := rfl

@[simp] theorem World.wrote_expired : (w.wrote s f).expired = w.expired := rfl

@[simp] theorem World.wrote_ticks : (w.wrote s f).ticks = w.ticks + 1 := rfl

@[simp] theorem World.wrote_yielded : (w.wrote s f).yielded = w.yielded := rfl

@[simp] theorem World.wrote_statements : (w.wrote s f).statements = w.statements ++ [s] := rfl

@[simp] theorem World.wrote_decisions : (w.wrote s f).decisions = w.decisions := rfl

@[simp] theorem World.wrote_engineCalls : (w.wrote s f).engineCalls = w.engineCalls := rfl

end Wrote

section Commanded

variable (w : World) (f : Redis → Redis) (item : StreamItem)

@[simp] theorem World.commanded_committed : (w.commanded f).committed = w.committed := rfl

@[simp] theorem World.commanded_working : (w.commanded f).working = w.working := rfl

@[simp] theorem World.commanded_failed : (w.commanded f).failed = w.failed := rfl

@[simp] theorem World.commanded_expired : (w.commanded f).expired = w.expired := rfl

@[simp] theorem World.commanded_ticks : (w.commanded f).ticks = w.ticks + 1 := rfl

@[simp] theorem World.commanded_yielded : (w.commanded f).yielded = w.yielded := rfl

@[simp] theorem World.shown_committed : (w.shown item).committed = w.committed := rfl

@[simp] theorem World.shown_working : (w.shown item).working = w.working := rfl

@[simp] theorem World.shown_failed : (w.shown item).failed = w.failed := rfl

@[simp] theorem World.shown_expired : (w.shown item).expired = w.expired := rfl

@[simp] theorem World.shown_ticks : (w.shown item).ticks = w.ticks := rfl

@[simp] theorem World.shown_yielded : (w.shown item).yielded = w.yielded ++ [item] := rfl

end Commanded

section Saved

variable (w : World)

@[simp] theorem World.saved_working : w.saved.working = w.working := rfl

@[simp] theorem World.saved_committed : w.saved.committed = w.working := rfl

@[simp] theorem World.saved_failed : w.saved.failed = w.failed := rfl

@[simp] theorem World.saved_expired : w.saved.expired = w.expired := rfl

@[simp] theorem World.saved_ticks : w.saved.ticks = w.ticks + 1 := rfl

@[simp] theorem World.saved_yielded : w.saved.yielded = w.yielded := rfl

@[simp] theorem World.saved_statements : w.saved.statements = w.statements ++ [.commit] := rfl

@[simp] theorem World.saved_engineCalls : w.saved.engineCalls = w.engineCalls := rfl

end Saved

variable {env : Env} {α : Type} {w : World}

theorem touch_apply (f : Db → Db) (w : World) : touch f w = (.ok (), w.touched f) := rfl

theorem useTools_apply {args : RunArgs} (writes : ToolWrites args) (w : World) :
    useTools writes w = (.ok (), w.tooled writes) := rfl

/-- Reading attributes leaves the world alone. -/
theorem attributes_state (w : World) : (attributes w).2 = w := by
  rw [attributes]
  split <;> rfl

/-- So it keeps everything. -/
theorem keeps_attributes {R : World → World → Prop} [Std.Refl R] : Keeps R attributes := by
  intro w
  rw [attributes_state]
  exact Std.Refl.refl w

/-- Attributes are read as long as nothing has been rolled back. -/
theorem attributes_apply (hw : w.expired = false) : attributes w = (.ok (), w) := by
  rw [attributes, if_neg (by rw [hw]; exact Bool.false_ne_true)]

/-- A query of a session in order. -/
theorem query_apply (hw : w.failed = false) (f : Db → α) : query f w = (.ok (f w.working), w) := by
  rw [query, if_neg (by rw [hw]; exact Bool.false_ne_true)]

/-- A query of a session that is out of order. -/
theorem query_apply_failed (hw : w.failed = true) (f : Db → α) :
    query f w = (.error .pendingRollback, w) := by
  rw [query, if_pos hw]

/-- A query that can raise, on a session in order. -/
theorem fetch_apply (hw : w.failed = false) (f : Db → Except PyError α) :
    fetch f w = (f w.working, w) := by
  rw [fetch, bind_apply_ok (query_apply hw f), lift_apply]

/-- Only a session in order is queried. -/
theorem query_eq_ok {f : Db → α} {a : α} {w' : World} (h : query f w = (.ok a, w')) :
    w.failed = false ∧ f w.working = a ∧ w' = w := by
  cases hw : w.failed with
  | false =>
    rw [query_apply hw, Prod.mk.injEq, Except.ok.injEq] at h
    exact ⟨rfl, h.1, h.2.symm⟩
  | true =>
    rw [query_apply_failed hw] at h
    cases congrArg Prod.fst h

/-- And what it answers is the answer of its tables. -/
theorem fetch_eq_ok {f : Db → Except PyError α} {a : α} {w' : World}
    (h : fetch f w = (.ok a, w')) : w.failed = false ∧ f w.working = .ok a ∧ w' = w := by
  obtain ⟨outcome, w₁, hquery, hlift⟩ := bind_eq_ok.mp h
  obtain ⟨hw, rfl, rfl⟩ := query_eq_ok hquery
  rw [lift_apply, Prod.mk.injEq] at hlift
  exact ⟨hw, hlift.1, hlift.2.symm⟩

/-- A statement of a session in order, accepted. -/
theorem send_apply {s : Statement} (hw : w.failed = false)
    (h : env.refuses w.ticks s w.working = none) :
    send env s w =
      (.ok (), { w with ticks := w.ticks + 1, statements := w.statements ++ [s] }) := by
  rw [send, if_neg (by rw [hw]; exact Bool.false_ne_true)]
  simp only [h]

/-- A statement of a session in order, refused. -/
theorem send_apply_refused {s : Statement} {message : String} (hw : w.failed = false)
    (h : env.refuses w.ticks s w.working = some message) :
    send env s w = (.error (.other message), { w with failed := true, ticks := w.ticks + 1 }) := by
  rw [send, if_neg (by rw [hw]; exact Bool.false_ne_true)]
  simp only [h]

/-- A statement of a session that is out of order. -/
theorem send_apply_failed {s : Statement} (hw : w.failed = true) :
    send env s w = (.error .pendingRollback, w) := by
  rw [send, if_pos hw]

/-- A statement leaves the tables alone. -/
theorem working_send (s : Statement) (w : World) : (send env s w).2.working = w.working := by
  rw [send]
  split
  · rfl
  · split
    · rfl
    · rfl

/-- A statement commits nothing. -/
theorem committed_write (s : Statement) (f : Db → Db) (w : World) :
    (write env s f w).2.committed = w.committed := by
  rw [write, bind_apply_ok (touch_apply f w), send]
  split
  · rfl
  · split
    · rfl
    · rfl

/-- Changes are made, whether they are accepted or not. -/
theorem working_write (s : Statement) (f : Db → Db) (w : World) :
    (write env s f w).2.working = f w.working := by
  rw [write, bind_apply_ok (touch_apply f w), working_send, World.touched_working]

/-- Changes that the database takes. -/
theorem write_apply {s : Statement} {f : Db → Db} (hw : w.failed = false)
    (h : env.refuses w.ticks s (f w.working) = none) :
    write env s f w = (.ok (), w.wrote s f) := by
  have hsend : send env s (w.touched f) = (.ok (), _) := send_apply hw h
  rw [write, bind_apply_ok (touch_apply f w), hsend]
  rfl

/-- Changes that the database refuses. -/
theorem write_apply_refused {s : Statement} {f : Db → Db} {message : String}
    (hw : w.failed = false) (h : env.refuses w.ticks s (f w.working) = some message) :
    write env s f w = (.error (.other message), w.refused f) := by
  have hsend := send_apply_refused (w := w.touched f) hw h
  rw [write, bind_apply_ok (touch_apply f w), hsend]
  rfl

/-- Changes succeed on a session in order only. -/
theorem write_eq_ok {s : Statement} {f : Db → Db} {u : Unit} {w' : World}
    (h : write env s f w = (.ok u, w')) : w.failed = false ∧ w' = w.wrote s f := by
  cases hw : w.failed with
  | false =>
    cases hrefuses : env.refuses w.ticks s (f w.working) with
    | none =>
      rw [write_apply hw hrefuses, Prod.mk.injEq] at h
      exact ⟨rfl, h.2.symm⟩
    | some message =>
      rw [write_apply_refused hw hrefuses] at h
      cases congrArg Prod.fst h
  | true =>
    have hsend : send env s (w.touched f) = (.error .pendingRollback, w.touched f) :=
      send_apply_failed hw
    rw [write, bind_apply_ok (touch_apply f w), hsend] at h
    cases congrArg Prod.fst h

/-- A commit that the database takes. -/
theorem commit_apply (hw : w.failed = false)
    (h : env.refuses w.ticks .commit w.working = none) : commit env w = (.ok (), w.saved) := by
  rw [commit, bind_apply_ok (send_apply hw h)]
  rfl

/-- A commit succeeds on a session in order only. -/
theorem commit_eq_ok {u : Unit} {w' : World} (h : commit env w = (.ok u, w')) :
    w.failed = false ∧ w' = w.saved := by
  cases hw : w.failed with
  | false =>
    cases hrefuses : env.refuses w.ticks .commit w.working with
    | none =>
      rw [commit_apply hw hrefuses, Prod.mk.injEq] at h
      exact ⟨rfl, h.2.symm⟩
    | some message =>
      rw [commit, bind_apply_error (send_apply_refused hw hrefuses)] at h
      cases congrArg Prod.fst h
  | true =>
    rw [commit, bind_apply_error (send_apply_failed hw)] at h
    cases congrArg Prod.fst h

/-- A commit that is refused changes no table. -/
theorem commit_eq_error {exc : PyError} {w' : World} (h : commit env w = (.error exc, w')) :
    w'.committed = w.committed ∧ w'.working = w.working := by
  cases hw : w.failed with
  | false =>
    cases hrefuses : env.refuses w.ticks .commit w.working with
    | none =>
      rw [commit_apply hw hrefuses] at h
      cases congrArg Prod.fst h
    | some message =>
      rw [commit, bind_apply_error (send_apply_refused hw hrefuses), Prod.mk.injEq] at h
      rw [← h.2]
      exact ⟨rfl, rfl⟩
  | true =>
    rw [commit, bind_apply_error (send_apply_failed hw), Prod.mk.injEq] at h
    rw [← h.2]
    exact ⟨rfl, rfl⟩

/-! ## The session of a request -/

/-- The tables with other sessions. -/
def Db.withSessions (db : Db) (table : KeyedTable ChatSession.id) : Db :=
  { db with chatSessions := table }

/-- What shows neither sessions nor decisions about them, nor that an insert of one was taken or
    refused, does not show that a session is found or created. -/
theorem same_getOrCreateSession {β : Type} {f : World → β}
    (htouched : ∀ w table, f (w.touched (·.withSessions table)) = f w)
    (hwrote : ∀ w, f (w.wrote (.insert .chatSessions) id) = f w)
    (hrefused : ∀ w, f (w.refused id) = f w)
    (hviolated : ∀ w, f { w with failed := true } = f w)
    (hnoted : ∀ w decision, f { w with decisions := w.decisions ++ [decision] } = f w)
    (sessionId : Option Uuid) (agentOsId : Uuid) (teamId agentId : Option Uuid)
    (userId : Option String) (title : String) :
    Keeps (Same f) (getOrCreateSession env sessionId agentOsId teamId agentId userId title) := by
  -- The row is refused, or not.
  have hsend : Keeps (Same f) (send env (.insert .chatSessions)) := by
    intro w
    rw [send]
    split
    · rfl
    · split
      · exact hrefused w
      · exact hwrote w
  -- The id may be taken, which puts the session out of order.
  have hcreate (id : Option Uuid) : Keeps (Same f)
      (createSession env id agentOsId teamId agentId userId title) := by
    refine keeps_bind keeps_read fun w => ?_
    simp only
    split
    · intro w
      rw [violate]
      split
      · rfl
      · exact hviolated w
    · next table _ =>
      exact keeps_bind (keeps_bind (keeps_modify fun w => htouched w table) fun _ => hsend)
        fun _ => keeps_bind (keeps_modify fun w => hnoted w _) fun _ => keeps_pure _
  rw [getOrCreateSession.eq_def]
  split
  · exact hcreate none
  -- To look for the session changes nothing.
  · refine keeps_bind (fun w => ?_) fun existing => ?_
    · rw [query]
      split
      · rfl
      · rfl
    · split
      -- There is none; there is one, of another user or of this one.
      · exact hcreate _
      · split
        · exact keeps_bind (keeps_modify fun w => hnoted w _) fun _ => keeps_raise _
        · exact keeps_bind (keeps_modify fun w => hnoted w _) fun _ => keeps_pure _

/-! ## The rows of a turn -/

namespace Db

/-- The tables with one more message. -/
def withMessage (db : Db) (message : ChatMessage) : Db :=
  { db with chatMessages := db.chatMessages ++ [message] }

/-- The tables with one more event of an agent. -/
def withAgentEvent (db : Db) (event : AgentEvent) : Db :=
  { db with agentEvents := db.agentEvents ++ [event] }

/-- The tables with the row of a run changed. -/
def withRun (db : Db) (runId : Uuid) (status : RunStatus) (f : AgentRun → AgentRun)
    (hf : ∀ r, (f r).id = r.id) : Db :=
  { db with agentRuns := db.agentRuns.update runId (fun r => { f r with status := status }) hf }

end Db

/-! ## The rows of a workflow run -/

namespace Db

/-- The tables with one more event of a workflow run. -/
def withWorkflowEvent (db : Db) (event : WorkflowEvent) : Db :=
  { db with workflowEvents := db.workflowEvents ++ [event] }

/-- The tables with the row of a workflow run added. -/
def withNewWorkflowRun (db : Db) (workflowId sessionId : Uuid) (inputText : String)
    (createdBy : Option String) : Db :=
  { db with
    workflowRuns := db.workflowRuns.insertFresh
      (fun id => ⟨id, workflowId, sessionId, .pending, inputText, none, none, createdBy⟩)
      (fun id => Eq.refl id) }

/-- The tables with the record of a step added. -/
def withNewStep (db : Db) (runId : Uuid) (step : WorkflowStep) (stepInput : String) : Db :=
  { db with
    workflowRunSteps := db.workflowRunSteps.insertFresh
      (fun id => ⟨id, runId, step.id, step.stepOrder, .running, stepInput, none, none⟩)
      (fun id => Eq.refl id) }

/-- The tables with the record of a step changed. -/
def withStep (db : Db) (stepId : Uuid) (status : WorkflowStepStatus)
    (f : WorkflowRunStep → WorkflowRunStep) (hf : ∀ s, (f s).id = s.id) : Db :=
  { db with
    workflowRunSteps :=
      db.workflowRunSteps.update stepId (fun s => { f s with status := status }) hf }

/-- The tables with the row of a workflow run changed. -/
def withWorkflowRun (db : Db) (runId : Uuid) (status : WorkflowRunStatus)
    (f : WorkflowRun → WorkflowRun) (hf : ∀ r, (f r).id = r.id) : Db :=
  { db with
    workflowRuns := db.workflowRuns.update runId (fun r => { f r with status := status }) hf }

end Db

/-! ## Statements as changes of the tables -/

section Statements

variable (env : Env)

theorem createMessage_eq_write (sessionId : Uuid) (runId : Option Uuid) (role : MessageRole)
    (content : String) :
    createMessage env sessionId runId role content =
      write env (.insert .chatMessages) (·.withMessage ⟨sessionId, runId, role, content⟩) := rfl

theorem emitEvent_eq_write (runId : Uuid) (eventType : EventType) (payload : EventPayload) :
    RunTrackingService.emitEvent env runId eventType payload =
      write env (.insert .agentEvents) (·.withAgentEvent ⟨runId, eventType, payload⟩) := rfl

theorem updateRun_eq_write (runId : Uuid) (status : RunStatus) (f : AgentRun → AgentRun)
    (hf : ∀ r, (f r).id = r.id) :
    RunTrackingService.updateRun env runId status f hf =
      write env (.setRunStatus runId status) (·.withRun runId status f hf) := rfl

theorem workflow_emitEvent_eq_write (workflowRunId : Uuid) (eventType : WorkflowEventType)
    (payload : WorkflowPayload) :
    WorkflowRunService.emitEvent env workflowRunId eventType payload =
      write env (.insert .workflowEvents)
        (·.withWorkflowEvent ⟨workflowRunId, eventType, payload⟩) := rfl

theorem workflow_updateRun_eq_write (runId : Uuid) (status : WorkflowRunStatus)
    (f : WorkflowRun → WorkflowRun) (hf : ∀ r, (f r).id = r.id) :
    WorkflowRunService.updateRun env runId status f hf =
      write env (.setWorkflowRunStatus runId status) (·.withWorkflowRun runId status f hf) := rfl

theorem updateStep_eq_write (stepId : Uuid) (status : WorkflowStepStatus)
    (f : WorkflowRunStep → WorkflowRunStep) (hf : ∀ s, (f s).id = s.id) :
    WorkflowRunService.updateStep env stepId status f hf =
      write env (.setStepStatus stepId status) (·.withStep stepId status f hf) := rfl

end Statements

/-! ## A database that takes statements -/

/-- The database takes every statement, or every one but the audit insert. -/
def RefusesAuditOnly (env : Env) : Prop :=
  ∀ n s db, s ≠ .insert .quotaUsageEvents → env.refuses n s db = none

/-- A database that takes everything. -/
theorem Env.Healthy.refusesAuditOnly (h : env.Healthy) : RefusesAuditOnly env :=
  fun n s db _ => h.accepts n s db

section Accepted

variable (hother : RefusesAuditOnly env)

include hother

theorem commit_accepted (hw : w.failed = false) : commit env w = (.ok (), w.saved) :=
  commit_apply hw (hother _ _ _ (by decide))

theorem createMessage_accepted (hw : w.failed = false) (sessionId : Uuid) (runId : Option Uuid)
    (role : MessageRole) (content : String) :
    createMessage env sessionId runId role content w =
      (.ok (), w.wrote (.insert .chatMessages)
        (·.withMessage ⟨sessionId, runId, role, content⟩)) :=
  write_apply hw (hother _ _ _ (by decide))

theorem emitEvent_accepted (hw : w.failed = false) (runId : Uuid) (eventType : EventType)
    (payload : EventPayload) :
    RunTrackingService.emitEvent env runId eventType payload w =
      (.ok (), w.wrote (.insert .agentEvents) (·.withAgentEvent ⟨runId, eventType, payload⟩)) :=
  write_apply hw (hother _ _ _ (by decide))

theorem updateRun_accepted (hw : w.failed = false) (runId : Uuid) (status : RunStatus)
    (f : AgentRun → AgentRun) (hf : ∀ r, (f r).id = r.id) :
    RunTrackingService.updateRun env runId status f hf w =
      (.ok (), w.wrote (.setRunStatus runId status) (·.withRun runId status f hf)) :=
  write_apply hw (hother _ _ _ (by simp))

end Accepted

end AgnoRuntime
