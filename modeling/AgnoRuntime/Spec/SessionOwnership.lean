import AgnoRuntime.Spec.RequestSteps

/-!
# Who continues a chat session

The chat service only goes on with a session of the request's effective user. The
workflow service compares the session's owner with the `user_id` of the request as
it came in, and stores a new session for that user; an execution plan takes any
session id. Under a verified identity each lets a user into a session of somebody
else, or lets one create a session that somebody else will go on with.

The creator of a session is the effective user of the request that stored it. The
tables do not say who that was, so it is recorded along the history.

## Key results

- `invokes_owned_sessions`: in a history of requests that meet `ContinuesOwn`, nobody
  goes on with a session of another owner or of another creator
- `foreign_sessions_continued`: requests that do not meet it
-/

namespace AgnoRuntime

open Svc Prog

/-! ## Owners and creators -/

/-- Every call of the engine for a chat session that was there before the request is for a session
    of the request's effective user. -/
def InvokesOwned (env : Env) (store : Store) (request : Request) : Prop :=
  ∀ call ∈ (request.served env store).allCalls, ∀ s ∈ store.db.chatSessions.rows,
    s.id = call.args.sessionId → s.userId = request.effectiveUserId env

/-- For whom the sessions are stored. -/
def Store.owner (store : Store) (id : Uuid) : Option String :=
  (store.db.chatSessions.find? id).bind (·.userId)

/-- Who has created the sessions once the request is served: those that were not there before, its
    effective user. -/
def Request.creatorAfter (request : Request) (env : Env) (store : Store)
    (creator : Uuid → Option String) (id : Uuid) : Option String :=
  if (store.db.chatSessions.find? id).isSome then creator id else request.effectiveUserId env

/-- The request goes on with no session that another user has created: it neither calls the engine
    for one nor decides to continue it. -/
def ContinuesCreated (env : Env) (store : Store) (creator : Uuid → Option String)
    (request : Request) : Prop :=
  ∀ s ∈ store.db.chatSessions.rows, creator s.id ≠ request.effectiveUserId env →
    (∀ call ∈ (request.served env store).allCalls, call.args.sessionId ≠ s.id) ∧
      .continued s.id ∉ (request.served env store).allDecisions

/-- No request of a history goes on with a session of another user, or of another creator. -/
def ContinuesOwnSessions :
    Store → (Uuid → Option String) → List (Env × Request) → Prop
  | _, _, [] => True
  | store, creator, (env, request) :: history =>
    InvokesOwned env store request ∧ ContinuesCreated env store creator request ∧
      ContinuesOwnSessions (request.served env store).store
        (request.creatorAfter env store creator) history

/-- What a request must satisfy for that. A run of a workflow that can be run, and whose session is
    new or passes the ownership check, is for the effective user; an execution plan that is accepted
    names a session of the effective user, or comes from that user. -/
def ContinuesOwn (env : Env) (store : Store) (request : Request) : Prop :=
  match request with
  | .chat _ | .chatStream _ => True
  | .runWorkflow workflowId payload | .runWorkflowStream workflowId payload =>
    ∀ found, WorkflowExecutionService.findWorkflow store.db workflowId = .ok found →
      (∀ s ∈ store.db.chatSessions.rows, payload.sessionId = some s.id →
        isLive s = true ∧ s.userId = payload.userId) →
          payload.userId = request.effectiveUserId env
  | .runExecutionPlan payload =>
    ExecutionPlans.requireEnabled env.settings = .ok () →
      (∀ s ∈ store.db.chatSessions.rows, payload.sessionId = some s.id →
        s.userId = request.effectiveUserId env) ∧
      ((∀ s ∈ store.db.chatSessions.rows, payload.sessionId ≠ some s.id) →
        payload.userId = request.effectiveUserId env)

/-- A property of every request of a history, in the store it meets. -/
def AtEachRequest (P : Env → Store → Request → Prop) : Store → List (Env × Request) → Prop
  | _, [] => True
  | store, (env, request) :: history =>
    P env store request ∧ AtEachRequest P (request.served env store).store history

variable {env : Env}

/-! ## What a request may decide -/

/-- A decision that leaves the sessions of others alone: a session that was there is continued for
    its owner, and one that was not is created for the effective user. -/
def Own (base : Db) (effective : Option String) : SessionDecision → Prop
  | .continued id => ∀ s ∈ base.chatSessions.rows, s.id = id → s.userId = effective
  | .refused _ => True
  | .created id userId => base.chatSessions.Lacks id → userId = effective

/-- A call for a session of the effective user, or for a new one and the effective user. -/
theorem decidesCall_own {base : Db} {effective : Option String} {call : EngineCall}
    (howner : ∀ s ∈ base.chatSessions.rows, s.id = call.args.sessionId → s.userId = effective)
    (hnew : base.chatSessions.Lacks call.args.sessionId → call.args.userId = effective) :
    DecidesCall (Own base effective) call := by
  intro d hd
  rcases hd with rfl | rfl | rfl
  · exact howner
  · exact trivial
  · exact hnew

section Requests

variable {store : Store}

/-- A request decides, and calls the engine, for sessions of its effective user. -/
abbrev DecidesOwn (env : Env) (store : Store) (request : Request) : Prop :=
  Deciding store.db (Own store.db (request.effectiveUserId env)) (World.start store)
    (request.served env store)

/-- What a chat request decides about the session it names. -/
theorem decides_chat (env : Env) (db : Db) (payload : ChatRequest) :
    Decides (Own db ((Request.chat payload).effectiveUserId env)) db payload.sessionId
      ((Request.chat payload).effectiveUserId env) where
  continued s hs _ _ huser r hr hid := by
    obtain rfl := db.chatSessions.eq_of_key_eq hr hs hid
    exact huser
  refused _ _ := trivial
  created _ _ _ := rfl

/-- A chat request opens turns in sessions of its effective user. -/
theorem turnsSatisfy_own (env : Env) (db : Db) (payload : ChatRequest) :
    TurnsSatisfy env db payload
      (DecidesCall (Own db ((Request.chat payload).effectiveUserId env))) := by
  intro w w₁ w₂ dispatch turn uiContext hw hresolve hopen
  obtain ⟨-, rfl⟩ := resolveDispatch_eq_ok hresolve
  have huser : turn.request.userId = (Request.chat payload).effectiveUserId env := by
    obtain ⟨agentOs, team, agent, session, runId, w₃, w₄, w₅, rfl, -⟩ := openTurn_eq_ok hopen
    rfl
  exact decidesCall_own (fun s hs hid => openTurn_owner hopen s (hw ▸ hs) hid) fun _ => huser

/-- What the condition says about a workflow run whose session is looked for. -/
theorem decides_workflow {workflowId : Uuid} {payload : WorkflowRunRequest}
    {effective : Option String}
    (hown : ∀ found, WorkflowExecutionService.findWorkflow store.db workflowId = .ok found →
      (∀ s ∈ store.db.chatSessions.rows, payload.sessionId = some s.id →
        isLive s = true ∧ s.userId = payload.userId) → payload.userId = effective)
    (found : Workflow × List WorkflowStep)
    (hfound : WorkflowExecutionService.findWorkflow store.db workflowId = .ok found) :
    Decides (Own store.db effective) store.db payload.sessionId payload.userId where
  continued s hs hnamed hlive huser r hr hid := by
    obtain rfl := store.db.chatSessions.eq_of_key_eq hr hs hid
    rw [huser]
    refine hown found hfound fun s' hs' hnamed' => ?_
    obtain rfl := store.db.chatSessions.eq_of_key_eq hs' hr
      (Option.some.inj (hnamed'.symm.trans hnamed))
    exact ⟨hlive, huser⟩
  refused _ _ := trivial
  created id hid hlacks := by
    refine hown found hfound fun s hs hnamed => ?_
    exact absurd (hid s.id hnamed).symm (hlacks s hs)

/-- And about the runs that are opened. -/
theorem runsSatisfy_own {workflowId : Uuid} {payload : WorkflowRunRequest}
    {effective : Option String}
    (hown : ∀ found, WorkflowExecutionService.findWorkflow store.db workflowId = .ok found →
      (∀ s ∈ store.db.chatSessions.rows, payload.sessionId = some s.id →
        isLive s = true ∧ s.userId = payload.userId) → payload.userId = effective) :
    RunsSatisfy env store.db workflowId payload (DecidesCall (Own store.db effective)) := by
  intro w w₁ opened hw hopen dispatch stepInput
  obtain ⟨⟨found, hfound⟩, huser, hid, howner⟩ := openRun_owner hopen
  rw [hw] at hfound howner
  have hdecides := decides_workflow hown found hfound
  refine decidesCall_own (fun s hs hsame => ?_) fun hlacks => ?_
  · obtain ⟨hnamed, hlive, hpayload⟩ := howner s hs hsame
    exact hdecides.continued s hs hnamed hlive hpayload s hs rfl
  · rw [huser]
    -- the session was not there, so it is none of those that were
    refine hown found hfound fun s hs hnamed => ?_
    exact absurd (hid s.id hnamed).symm (hlacks s hs)

/-- What the condition says about the calls of an execution plan. -/
theorem callsOf_own {sessionId : Option Uuid} {userId effective : Option String}
    (hown : ∀ s ∈ store.db.chatSessions.rows, sessionId = some s.id → s.userId = effective)
    (huser : (∀ s ∈ store.db.chatSessions.rows, sessionId ≠ some s.id) → userId = effective) :
    CallsOf (DecidesCall (Own store.db effective))
      (sessionId.getD store.db.chatSessions.freshKey) userId := by
  intro dispatch stepInput
  refine decidesCall_own (fun s hs hid => ?_) fun hlacks => huser fun s hs hnamed => ?_
  · cases hnamed : sessionId with
    | none =>
      rw [hnamed, Option.getD_none] at hid
      exact absurd hid (Nat.ne_of_lt (KeyedTable.key_lt_freshKey hs))
    | some id =>
      rw [hnamed, Option.getD_some] at hid
      exact hown s hs (hnamed.trans (congrArg some hid.symm))
  · rw [hnamed, Option.getD_some] at hlacks
    exact hlacks s hs rfl

/-- A request that meets the condition decides and calls for sessions of its effective user. -/
theorem decidesOwn_of_continuesOwn (env : Env) (store : Store) (request : Request)
    (h : ContinuesOwn env store request) : DecidesOwn env store request := by
  have hframe : EntryFrame _ _ (Deciding store.db (Own store.db (request.effectiveUserId env))) :=
    entryFrame_deciding
  cases request with
  | chat payload => exact hframe.chat (decides_chat env _ payload) (turnsSatisfy_own env _ payload)
  | chatStream payload =>
    exact hframe.chatStream (decides_chat env _ payload) (turnsSatisfy_own env _ payload)
  | runWorkflow workflowId payload =>
    exact hframe.runWorkflow (decides_workflow h) (runsSatisfy_own h)
  | runWorkflowStream workflowId payload =>
    exact hframe.runWorkflowStream (decides_workflow h) (runsSatisfy_own h)
  | runExecutionPlan payload =>
    exact hframe.runExecutionPlan fun henabled => callsOf_own (h henabled).1 (h henabled).2

/-! ## From one request to the next -/

/-- Every session is stored for its creator. -/
def StoredForCreators (store : Store) (creator : Uuid → Option String) : Prop :=
  ∀ s ∈ store.db.chatSessions.rows, creator s.id = s.userId

/-- At first the owners are taken for the creators. -/
theorem storedForCreators_owner (store : Store) : StoredForCreators store store.owner := by
  intro s hs
  rw [Store.owner, KeyedTable.find?_of_mem hs]
  rfl

/-- A request that decides for its effective user stores new sessions for their creator. -/
theorem storedForCreators_served {creator : Uuid → Option String} {request : Request}
    (hdecides : DecidesOwn env store request) (h : StoredForCreators store creator) :
    StoredForCreators (request.served env store).store (request.creatorAfter env store creator) := by
  intro s hs
  have hkept := (Request.served_reaches env store request).kept.chatSessions
  rw [Request.creatorAfter]
  split
  · rename_i hfound
    obtain ⟨row, hrow⟩ := Option.isSome_iff_exists.mp hfound
    obtain ⟨hmem, hid⟩ := KeyedTable.mem_of_find? hrow
    -- the row that was there still is, and no other has its key
    obtain rfl := KeyedTable.eq_of_key_eq _ (hkept row hmem) hs hid
    exact h row hmem
  · rename_i hfound
    have hlacks : store.db.chatSessions.Lacks s.id :=
      KeyedTable.find?_eq_none_iff.mp (Option.not_isSome_iff_eq_none.mp hfound)
    have hbase : SessionsBy store.db (Own store.db (request.effectiveUserId env)) store.db :=
      fun _ hr => .inl hr
    rcases (hdecides.sessions ⟨hbase, hbase⟩).1 s hs with hold | hnew
    · exact absurd rfl (hlacks s hold)
    · exact (hnew hlacks).symm

/-- What a request decides and calls for, it does as its effective user. -/
theorem continuesCreated_of_decidesOwn {creator : Uuid → Option String} {request : Request}
    (hdecides : DecidesOwn env store request) (h : StoredForCreators store creator) :
    InvokesOwned env store request ∧ ContinuesCreated env store creator request := by
  have hcalls : ∀ call ∈ (request.served env store).allCalls, ∀ s ∈ store.db.chatSessions.rows,
      s.id = call.args.sessionId → s.userId = request.effectiveUserId env := by
    intro call hcall
    rcases hdecides.calls call hcall with hold | hown
    · cases hold
    · exact hown (.continued call.args.sessionId) (.inl rfl)
  refine ⟨hcalls, fun s hs hforeign => ⟨fun call hcall hid => ?_, fun hcontinued => ?_⟩⟩
  · exact hforeign ((h s hs).trans (hcalls call hcall s hs hid.symm))
  · rcases hdecides.decisions _ hcontinued with hold | hown
    · cases hold
    · exact hforeign ((h s hs).trans (hown s hs rfl))

end Requests

/-- In a history whose requests all meet the condition, no request goes on with the session of
    another user, or with one that another user has created. -/
theorem continuesOwnSessions_of_stored {store : Store} {creator : Uuid → Option String}
    (hcreator : StoredForCreators store creator) (history : List (Env × Request))
    (h : AtEachRequest ContinuesOwn store history) :
    ContinuesOwnSessions store creator history := by
  induction history generalizing store creator with
  | nil => exact trivial
  | cons served history ih =>
    obtain ⟨env, request⟩ := served
    have hdecides := decidesOwn_of_continuesOwn env store request h.1
    obtain ⟨hinvokes, hcontinues⟩ := continuesCreated_of_decidesOwn hdecides hcreator
    exact ⟨hinvokes, hcontinues, ih (storedForCreators_served hdecides hcreator) h.2⟩

/-- So it is from any store on, where the sessions that are there were created by their owners. -/
theorem invokes_owned_sessions (store : Store) (history : List (Env × Request))
    (h : AtEachRequest ContinuesOwn store history) :
    ContinuesOwnSessions store store.owner history :=
  continuesOwnSessions_of_stored (storedForCreators_owner store) history h

section Examples

open Deployment

/-- The theorem at a history of two users: `alice` opens session 1 by a chat, continues it by a
    workflow run, and `bob` runs an execution plan of his own. -/
theorem invokes_owned_sessions_example :
    ContinuesOwnSessions store store.owner
      [(Deployment.env .trustClientUserId none (answering "Hi"),
        .chat (hello (some "sales") (some "alice"))),
       (Deployment.env .trustClientUserId none (answering "Hi"),
        .runWorkflow 1 ⟨"Hello", some 1, some "alice"⟩),
       (Deployment.env .trustClientUserId none (answering "Hi"),
        .runExecutionPlan ⟨"enterprise", "Hello", [], none, some "bob"⟩)] := by
  refine invokes_owned_sessions _ _ ⟨trivial, ?_, ?_, trivial⟩
  · intro _ _ _
    rfl
  · intro _
    exact ⟨fun s _ hnamed => (by cases hnamed), fun _ => rfl⟩

theorem bob_given : "bob" ≠ "" := by decide
theorem alice_given : "alice" ≠ "" := by decide

/-- The verified users of the next histories. -/
def bobs : Env := Deployment.env .keycloakRequired (some ⟨"bob", [], bob_given⟩) (answering "Hi")

@[inherit_doc bobs]
def alices : Env :=
  Deployment.env .keycloakRequired (some ⟨"alice", [], alice_given⟩) (answering "Hi")

/-- A session of `alice`'s is there. -/
def storeOfAlice : Store := ⟨dbWithSession 7 (some "alice"), .empty⟩

/-- `bob` names it in an execution plan. -/
def planInSession : Request :=
  .runExecutionPlan ⟨"enterprise", "Hello", [⟨some "sales", none, none, 0⟩], some 7, some "bob"⟩

/-- `bob` runs a workflow as `alice`, in a new session. -/
def workflowAsAlice : Request := .runWorkflow 1 ⟨"Hello", none, some "alice"⟩

/-- `alice` chats in that session. -/
def chatInSession : Request := .chat { hello (some "sales") none with sessionId := some 1 }

/-- An execution plan goes on with a session of another owner; and `alice` goes on with a session of
    her own that `bob` has created. -/
theorem foreign_sessions_continued :
    ¬ContinuesOwnSessions storeOfAlice storeOfAlice.owner [(bobs, planInSession)] ∧
    ¬ContinuesOwnSessions store store.owner
      [(bobs, workflowAsAlice), (alices, chatInSession)] := by
  refine ⟨fun h => ?_, fun h => ?_⟩
  · have hcalls : (planInSession.served bobs storeOfAlice).allCalls.map (·.args.sessionId) =
        [7] := by
      decide +kernel
    obtain ⟨call, hcall, hid⟩ := List.mem_map.mp (hcalls ▸ List.mem_singleton_self 7)
    have howner := h.1 call hcall _ (List.mem_singleton_self _) hid.symm
    exact absurd howner (by decide)
  · -- the session of the workflow run is there when `alice` chats, and `bob` has created it
    have hrows : (workflowAsAlice.served bobs store).store.db.chatSessions.rows.map (·.id) =
        [1] := by
      decide +kernel
    have hcalls : (chatInSession.served alices
        (workflowAsAlice.served bobs store).store).allCalls.map (·.args.sessionId) = [1] := by
      decide +kernel
    obtain ⟨s, hs, hsession⟩ := List.mem_map.mp (hrows ▸ List.mem_singleton_self 1)
    obtain ⟨call, hcall, hid⟩ := List.mem_map.mp (hcalls ▸ List.mem_singleton_self 1)
    have hcreator : workflowAsAlice.creatorAfter bobs store store.owner s.id ≠
        chatInSession.effectiveUserId alices := by
      rw [hsession]
      decide +kernel
    exact (h.2.2.2.1 s hs hcreator).1 call hcall (hid.trans hsession.symm)

end Examples

end AgnoRuntime
