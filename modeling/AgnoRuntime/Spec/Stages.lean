import AgnoRuntime.ForStd.Triples
import AgnoRuntime.Spec.Throughout

/-!
# Stages of a request

At a stage the session works, and it is known what is committed, what the session
has written and what the client has been sent. Every operation of a service leads
from one stage to another; where it fails, `Left` says what is left behind. None of
these failures is a `RuntimeExecutionError`, so only the engine can bring a service
into its handlers of those.
-/

namespace AgnoRuntime

open Svc Prog

/-- `C` holds of what is committed and `V` of what the session sees, and these items were sent;
    whether the objects of the session have expired. -/
structure StageOf (expired : Bool) (C V : Db → Prop) (items : List StreamItem) (w : World) :
    Prop where
  inOrder : w.failed = false
  committed : C w.committed
  working : V w.working
  yielded : w.yielded = items
  expired : w.expired = expired

/-- A stage before any rollback. -/
abbrev Stage : (C V : Db → Prop) → List StreamItem → World → Prop := StageOf false

/-- What is left by a refused statement, a Redis that fails or a client that is gone. -/
structure Left (C : Db → Prop) (items : List StreamItem) (exc : PyError) (w : World) : Prop where
  uncaught : exc.isRuntimeExecution = false
  committed : C w.committed
  yielded : w.yielded = items

/-- What is left by a refused statement. -/
structure Declined (C : Db → Prop) (items : List StreamItem) (exc : PyError) (w : World) : Prop
    extends Left C items exc w where
  isException : exc.isException = true

/-- What is left by any exception. -/
def Abandoned (C : Db → Prop) (items : List StreamItem) (_exc : PyError) (w : World) : Prop :=
  C w.committed ∧ w.yielded = items

variable {C V V' : Db → Prop} {items : List StreamItem} {expired : Bool} {env : Env} {α : Type}
  {w : World}

/-- A stage at which the tables of the session are known. -/
theorem StageOf.exact (h : StageOf expired C V items w) :
    StageOf expired C (fun db => db = w.working) items w :=
  ⟨h.inOrder, h.committed, rfl, h.yielded, h.expired⟩

theorem StageOf.mono {C' : Db → Prop} (h : StageOf expired C V items w) (hC : ∀ db, C db → C' db)
    (hV : ∀ db, V db → V' db) : StageOf expired C' V' items w :=
  ⟨h.inOrder, hC _ h.committed, hV _ h.working, h.yielded, h.expired⟩

theorem StageOf.left (h : StageOf expired C V items w) {exc : PyError}
    (hexc : exc.isRuntimeExecution = false) :
    Left C items exc w :=
  ⟨hexc, h.committed, h.yielded⟩

theorem StageOf.abandoned (h : StageOf expired C V items w) {exc : PyError} : Abandoned C items exc w :=
  ⟨h.committed, h.yielded⟩

theorem Left.abandoned {exc : PyError} (h : Left C items exc w) : Abandoned C items exc w :=
  ⟨h.committed, h.yielded⟩

/-- A program that is refused a statement abandons its stage. -/
theorem abandoning {P : World → Prop} {Q : α → World → Prop} {x : Svc α}
    (h : Triple P x Q (Declined C items)) : Triple P x Q (Abandoned C items) :=
  h.onError fun _ _ h => h.toLeft.abandoned

/-! ## The session -/

theorem stage_touch {f : Db → Db} (hf : ∀ db, V db → V' (f db)) {E : PyError → World → Prop} :
    Triple (StageOf expired C V items) (touch f) (fun _ => StageOf expired C V' items) E :=
  triple_modify fun _ hw => ⟨hw.inOrder, hw.committed, hf _ hw.working, hw.yielded, hw.expired⟩

/-- The database refuses such a statement at some time. -/
def Refuses (env : Env) (s : Statement) : Prop :=
  ∃ n db message, env.refuses n s db = some message

/-- A statement that fails has been refused. -/
theorem stage_send_refused (s : Statement) :
    Triple (StageOf expired C V items) (send env s) (fun _ => StageOf expired C V items)
      fun exc w => Declined C items exc w ∧ Refuses env s := by
  intro w hw
  cases hrefuses : env.refuses w.ticks s w.working with
  | none =>
    rw [send_apply hw.inOrder hrefuses]
    exact ⟨hw.inOrder, hw.committed, hw.working, hw.yielded, hw.expired⟩
  | some message =>
    rw [send_apply_refused hw.inOrder hrefuses]
    exact ⟨⟨⟨rfl, hw.committed, hw.yielded⟩, rfl⟩, _, _, _, hrefuses⟩

theorem stage_send (s : Statement) :
    Triple (StageOf expired C V items) (send env s) (fun _ => StageOf expired C V items)
      (Declined C items) :=
  (stage_send_refused s).onError fun _ _ h => h.1

/-- A statement takes the tables of the session on. -/
theorem stage_write (s : Statement) {f : Db → Db} (hf : ∀ db, V db → V' (f db)) :
    Triple (StageOf expired C V items) (write env s f) (fun _ => StageOf expired C V' items)
      (Declined C items) :=
  triple_bind (stage_touch hf) fun _ => stage_send s

/-- What the session has written is committed. -/
theorem stage_commit :
    Triple (StageOf expired C V items) (commit env) (fun _ => StageOf expired V V items)
      (Declined C items) :=
  triple_bind (stage_send _) fun _ =>
    triple_modify fun _ hw => ⟨hw.inOrder, hw.working, hw.working, hw.yielded, hw.expired⟩

/-- A handler that only writes leaves what was abandoned, also where it raises itself. -/
theorem abandoned_writes {x : Svc α} (hx : Keeps OnlyWrites x) (exc : PyError) :
    Triple (Abandoned C items exc) x (fun _ => Abandoned C items exc) (Abandoned C items) :=
  hx.triple (fun _ _ _ hw h => ⟨h.committed ▸ hw.1, h.yielded.trans hw.2⟩)
    fun _ _ _ hw h => ⟨h.committed ▸ hw.1, h.yielded.trans hw.2⟩

theorem stage_query (f : Db → α) {E : PyError → World → Prop} :
    Triple (StageOf expired C V items) (query f) (fun _ => StageOf expired C V items) E := by
  intro w hw
  rw [query_apply hw.inOrder]
  exact hw

/-- A query that can raise leaves the stage as it is. -/
theorem stage_fetch_found (f : Db → Except PyError α) :
    Triple (StageOf expired C V items) (fetch f)
      (fun a w => (∃ db, V db ∧ f db = .ok a) ∧ StageOf expired C V items w)
      fun _ => StageOf expired C V items := by
  intro w hw
  rw [fetch, bind_apply_ok (query_apply hw.inOrder f), lift_apply]
  cases hf : f w.working with
  | error exc => exact hw
  | ok a => exact ⟨⟨w.working, hw.working, hf⟩, hw⟩

theorem stage_fetch (f : Db → Except PyError α) :
    Triple (StageOf expired C V items) (fetch f) (fun _ => StageOf expired C V items)
      fun _ => StageOf expired C V items :=
  (stage_fetch_found f).mono (fun _ hw => hw) (fun _ _ h => h.2) fun _ _ hw => hw

/-! ## Redis and the client -/

/-- The session does not see whether Redis fails. -/
theorem stage_redisCommand (f : Redis → Redis) :
    Triple (StageOf expired C V items) (redisCommand env f) (fun _ => StageOf expired C V items)
      fun exc w => Declined C items exc w ∧ StageOf expired C V items w := by
  intro w hw
  rw [redisCommand]
  cases env.redisFails w.ticks with
  | some message =>
    exact ⟨⟨⟨rfl, hw.committed, hw.yielded⟩, rfl⟩,
      hw.inOrder, hw.committed, hw.working, hw.yielded, hw.expired⟩
  | none => exact ⟨hw.inOrder, hw.committed, hw.working, hw.yielded, hw.expired⟩

theorem stage_isCancelled (runId : Uuid) :
    Triple (StageOf expired C V items) (isCancelled env runId) (fun _ => StageOf expired C V items)
      (Declined C items) := by
  intro w hw
  have hcheck : Triple (StageOf expired C V items)
      (redisCommand env id >>= fun _ => (pure (env.cancelRequested w.ticks runId) : Svc Bool))
      (fun _ => StageOf expired C V items) (Declined C items) :=
    triple_bind ((stage_redisCommand id).onError fun _ _ h => h.1) fun _ =>
      triple_pure fun _ hw => hw
  rw [isCancelled, bind_apply_ok (read_apply w)]
  exact hcheck w hw

/-- The client is sent the item, also where it is gone afterwards. -/
theorem stage_yieldItem_exit (item : StreamItem) :
    Triple (StageOf expired C V items) (yieldItem env item)
      (fun _ => StageOf expired C V (items ++ [item]))
      fun exc w => exc = .generatorExit ∧ Left C (items ++ [item]) exc w := by
  intro w hw
  have hshown : w.yielded ++ [item] = items ++ [item] := by rw [hw.yielded]
  rw [yieldItem, bind_apply_ok (read_apply w), bind_apply_ok (modify_apply _ w)]
  cases env.closes w.yielded.length with
  | true => exact ⟨rfl, rfl, hw.committed, hshown⟩
  | false => exact ⟨hw.inOrder, hw.committed, hw.working, hshown, hw.expired⟩

theorem stage_yieldItem (item : StreamItem) :
    Triple (StageOf expired C V items) (yieldItem env item)
      (fun _ => StageOf expired C V (items ++ [item]))
      (Left C (items ++ [item])) :=
  (stage_yieldItem_exit item).onError fun _ _ h => h.2

/-! ## What opens a turn or a run -/

theorem stage_requireWithinQuota (caller : QuotaService.Caller) :
    Triple (StageOf expired C V items) (QuotaService.requireWithinQuota env caller)
      (fun _ => StageOf expired C V items) (Abandoned C items) := by
  refine triple_bind (stage_query _) fun policies => ?_
  split
  · exact triple_pure fun _ hw => hw
  · refine triple_bind (Q := fun _ => StageOf expired C V items) ?_ fun now => ?_
    · exact triple_bind (Q := fun _ => StageOf expired C V items) (fun w hw => hw) fun _ =>
        triple_pure fun _ hw => hw
    · exact triple_bind (abandoning ((stage_redisCommand _).onError fun _ _ h => h.1)) fun _ =>
        triple_bind (Q := fun _ => StageOf expired C V items) (fun w hw => hw) fun _ =>
          triple_lift (fun _ _ _ hw => hw) fun _ _ _ hw => hw.abandoned

/-- A session is found, created or refused; `V` does not depend on the sessions. -/
theorem stage_getOrCreateSession (hV : ∀ db table, V db → V (db.withSessions table))
    (sessionId : Option Uuid) (agentOsId : Uuid) (teamId agentId : Option Uuid)
    (userId : Option String) (title : String) :
    Triple (StageOf expired C V items)
      (getOrCreateSession env sessionId agentOsId teamId agentId userId title)
      (fun _ => StageOf expired C V items) (Abandoned C items) := by
  -- The decision is only noted.
  have hnote (decision : SessionDecision) {E : PyError → World → Prop} :
      Triple (StageOf expired C V items) (note decision) (fun _ => StageOf expired C V items) E :=
    triple_modify fun _ hw => ⟨hw.inOrder, hw.committed, hw.working, hw.yielded, hw.expired⟩
  -- The id may be taken, which abandons the request.
  have hcreate (id : Option Uuid) : Triple (StageOf expired C V items)
      (createSession env id agentOsId teamId agentId userId title)
      (fun _ => StageOf expired C V items) (Abandoned C items) := by
    refine triple_bind (Q := fun _ => StageOf expired C V items) (fun w hw => hw) fun w => ?_
    simp only
    split
    · intro w hw
      rw [violate, if_neg (by simp [hw.inOrder])]
      exact ⟨hw.committed, hw.yielded⟩
    · exact triple_bind (abandoning (stage_write _ fun db => hV db _)) fun _ =>
        triple_bind (hnote _) fun _ => triple_pure fun _ hw => hw
  rw [getOrCreateSession.eq_def]
  split
  · exact hcreate _
  · refine triple_bind (stage_query _) fun existing => ?_
    -- There is no such session; it is another user's, or this one's.
    split
    · exact hcreate _
    · split
      · exact triple_bind (hnote _) fun _ => triple_raise fun _ hw => hw.abandoned
      · exact triple_bind (hnote _) fun _ => triple_pure fun _ hw => hw

/-! ## The engine -/

theorem stage_engineOutcome (outcome : Except PyError α) :
    Triple (StageOf expired C V items) (engineOutcome outcome)
      (fun a w => outcome = .ok a ∧ StageOf expired C V items w)
      fun exc w => outcome = .error exc ∧ StageOf expired C V items w := by
  cases outcome with
  | ok a => exact triple_pure fun _ hw => ⟨rfl, hw⟩
  | error exc =>
    exact triple_bind
      (triple_modify (Q := fun _ => StageOf expired C V items) fun _ hw =>
        ⟨hw.inOrder, hw.committed, hw.working, hw.yielded, hw.expired⟩)
      fun _ => triple_raise fun _ hw => ⟨rfl, hw⟩

/-- The text that a call of the engine answers with. -/
def EngineReturns (env : Env) (dispatch : Dispatch) (args : RunArgs) (m : Metadata)
    (output : String) : Prop :=
  ∃ n, runOutcome dispatch args (env.call n) m = .ok output

/-- Tools write to what the session sees. -/
theorem stage_useTools {args : RunArgs} (writes : ToolWrites args)
    (htools : ∀ db, V db → V (writes.apply db)) {E : PyError → World → Prop} :
    Triple (StageOf expired C V items) (useTools writes) (fun _ => StageOf expired C V items) E :=
  triple_modify fun _ hw => ⟨hw.inOrder, hw.committed, htools _ hw.working, hw.yielded, hw.expired⟩

/-- A call of the engine, whose tools keep `V`. -/
theorem stage_run
    (htools : ∀ {args : RunArgs} (writes : ToolWrites args) db, V db → V (writes.apply db))
    (dispatch : Dispatch) (args : RunArgs) {m : Metadata} (hm : ∀ db, V db → db.metadata = m) :
    Triple (StageOf expired C V items) (Svc.run env dispatch args)
      (fun output w => EngineReturns env dispatch args m output ∧ StageOf expired C V items w)
      fun _ => StageOf expired C V items := by
  intro w hw
  have hnote : noteCall dispatch args w = (.ok w.engineCalls.length, w.called ⟨dispatch, args⟩) :=
    rfl
  rw [Svc.run, bind_apply_ok (read_apply w), bind_apply_ok hnote, hm _ hw.working]
  have hcalled : StageOf expired C V items (w.called ⟨dispatch, args⟩) :=
    ⟨hw.inOrder, hw.committed, hw.working, hw.yielded, hw.expired⟩
  exact triple_bind (Q := fun _ => StageOf expired C V items) (stage_useTools _ (htools _))
    (fun _ => (stage_engineOutcome _).mono (fun _ h => h) (fun _ _ h => ⟨⟨_, h.1⟩, h.2⟩)
      fun _ _ h => h.2) _ hcalled

/-- The stream that a call of the engine answers with. -/
def EngineAnswers (env : Env) (dispatch : Dispatch) (args : RunArgs) (m : Metadata)
    (stream : EventStream) : Prop :=
  ∃ n, stream = streamOutcome dispatch args (env.call n) m

theorem stage_openStream (dispatch : Dispatch) (args : RunArgs) {m : Metadata}
    (hm : ∀ db, V db → db.metadata = m) {E : PyError → World → Prop} :
    Triple (StageOf expired C V items) (openStream env dispatch args)
      (fun live w => EngineAnswers env dispatch args m live.stream ∧ StageOf expired C V items w) E := by
  intro w hw
  refine ⟨⟨w.engineCalls.length, ?_⟩, hw.inOrder, hw.committed, hw.working, hw.yielded, hw.expired⟩
  rw [← hm _ hw.working]

/-- The exception that ends a stream comes from the engine. -/
theorem stage_endStream
    (htools : ∀ {args : RunArgs} (writes : ToolWrites args) db, V db → V (writes.apply db))
    {args : RunArgs} (live : LiveStream args) :
    Triple (StageOf expired C V items) (endStream live)
      (fun _ w => live.stream.error = none ∧ StageOf expired C V items w)
      fun exc w => live.stream.error = some exc ∧ StageOf expired C V items w := by
  refine triple_bind (stage_useTools _ (htools _)) fun _ => ?_
  cases live.stream.error with
  | none => exact triple_pure fun _ hw => ⟨rfl, hw⟩
  | some exc =>
    exact (stage_engineOutcome (Except.error exc : Except PyError Unit)).mono (fun _ h => h)
      (fun _ _ h => by cases h.1) fun _ _ h => ⟨by cases h.1; rfl, h.2⟩

/-! ## Usage -/

/-- The database refuses the row of the usage of a tracked caller, or its commit. -/
def UsageRefused (env : Env) (caller : QuotaService.Caller) : Prop :=
  QuotaService.tracks env caller = true ∧
    (Refuses env (.insert .quotaUsageEvents) ∨ Refuses env .commit)

/-- The stage after the usage of a turn was recorded, or was refused and rolled back. -/
def Recorded (env : Env) (caller : QuotaService.Caller) (C : Db → Prop) (items : List StreamItem)
    (w : World) : Prop :=
  ∃ expired, (expired = true → UsageRefused env caller) ∧ StageOf expired C C items w

/-- The row of the usage has a commit of its own. Where it is refused the session is rolled back,
    which expires what it has loaded. -/
private theorem stage_usageRow (hC : ∀ db usage, C db → C { db with quotaUsageEvents := usage })
    {runId : Uuid} {caller : QuotaService.Caller} {usage : QuotaService.Usage}
    (htracks : QuotaService.tracks env caller = true) :
    Triple (Stage C C items)
      (handleError
        (QuotaService.createUsageEvent env runId caller usage >>= fun _ => commit env)
        fun exc => if exc.isException then rollback else raise exc)
      (fun _ => Recorded env caller C items) fun _ _ => False := by
  refine triple_handleError (H := fun exc w => Declined C items exc w ∧ UsageRefused env caller)
    ?_ fun exc => ?_
  · have hrow : Triple (Stage C C items) (QuotaService.createUsageEvent env runId caller usage)
        (fun _ => Stage C C items)
        fun exc w => Declined C items exc w ∧ UsageRefused env caller :=
      triple_bind (stage_touch fun db => hC db _) fun _ =>
        (stage_send_refused _).onError fun _ _ h => ⟨h.1, htracks, .inl h.2⟩
    refine triple_bind hrow fun _ => triple_bind ((stage_send_refused _).onError
      fun _ _ h => ⟨h.1, htracks, .inr h.2⟩) fun _ => triple_modify fun w hw => ?_
    exact ⟨false, nofun, hw.inOrder, hw.working, hw.working, hw.yielded, hw.expired⟩
  · split
    · intro w hw
      exact ⟨true, fun _ => hw.2, rfl, hw.1.committed, hw.1.committed, hw.1.yielded, rfl⟩
    · next hexc => exact triple_raise fun _ hw => hexc hw.1.isException

/-- Counting the usage writes to Redis alone, and gives up where that fails. -/
private theorem stage_countUsage {caller : QuotaService.Caller} {usage : QuotaService.Usage} :
    Triple (Recorded env caller C items)
      (handleError
        (QuotaService.callerPolicies env caller >>= fun policies =>
          Svc.now env >>= fun now => forEach (QuotaService.recordCounter env now usage) policies)
        fun exc => if exc.isException then pure () else raise exc)
      (fun _ => Recorded env caller C items) fun _ _ => False := by
  refine triple_exists fun expired => triple_given fun hrefused => ?_
  -- The counters are Redis', so the session stays as it is.
  have hkept : Triple (StageOf expired C C items)
      (handleError
        (QuotaService.callerPolicies env caller >>= fun policies =>
          Svc.now env >>= fun now => forEach (QuotaService.recordCounter env now usage) policies)
        fun exc => if exc.isException then pure () else raise exc)
      (fun _ => StageOf expired C C items) fun _ _ => False := by
    refine triple_handleError
      (H := fun exc w => Declined C items exc w ∧ StageOf expired C C items w) ?_ fun exc => ?_
    · refine triple_bind (stage_query _) fun policies =>
        triple_bind (Q := fun _ => StageOf expired C C items) ?_ fun now =>
          triple_forEach (fun p => ?_) _
      · exact triple_bind (Q := fun _ => StageOf expired C C items) (fun w hw => hw) fun _ =>
          triple_pure fun _ hw => hw
      -- A counter is incremented, and then expires.
      · rw [QuotaService.recordCounter]
        split
        · exact triple_pure fun _ hw => hw
        · exact triple_bind (stage_redisCommand _) fun _ => stage_redisCommand _
    -- Whatever fails is logged.
    · split
      · exact triple_pure fun _ hw => hw.2
      · next hexc => exact triple_raise fun _ hw => hexc hw.1.isException
  exact hkept.mono (fun _ hw => hw) (fun _ _ hw => ⟨expired, hrefused, hw⟩) fun _ _ h => h

/-- Recording the usage of a turn never fails, and does not lose what is committed. -/
theorem stage_recordTurn (hC : ∀ db usage, C db → C { db with quotaUsageEvents := usage })
    (turn : ChatService.ChatTurn) (result : ChatService.TurnResult) :
    Triple (Stage C C items) (ChatService.recordTurn env turn result)
      (fun _ => Recorded env turn.caller C items) fun _ _ => False := by
  refine triple_bind (Q := fun _ => Stage C C items) ?_ fun costUsd => ?_
  · rw [ChatService.computeCostUsd.eq_def]
    split
    · exact triple_pure fun _ hw => hw
    · refine triple_bind (triple_attempt (R := fun _ => Stage C C items)
        (stage_query (E := fun _ _ => False) _) (fun _ _ hw => hw) fun _ _ h => h.elim)
          fun outcome => ?_
      split
      · exact triple_pure fun _ hw => hw
      · exact triple_pure fun _ hw => hw
  · rw [QuotaService.recordUsage]
    split
    · next htracks => exact triple_bind (stage_usageRow hC htracks) fun _ => stage_countUsage
    · exact triple_pure fun _ hw => ⟨false, (fun h => Bool.noConfusion h), hw⟩

/-- Attributes are read after the usage was recorded, unless it was refused. -/
theorem stage_recorded_attributes {caller : QuotaService.Caller} :
    Triple (Recorded env caller C items) attributes (fun _ => Stage C C items)
      fun exc w => exc = missingGreenlet ∧ UsageRefused env caller ∧ C w.committed ∧
        w.yielded = items := by
  intro w hw
  obtain ⟨expired, hrefused, hw⟩ := hw
  rw [attributes, hw.expired]
  cases expired with
  | false => exact hw
  | true => exact ⟨rfl, hrefused rfl, hw.committed, hw.yielded⟩

end AgnoRuntime
