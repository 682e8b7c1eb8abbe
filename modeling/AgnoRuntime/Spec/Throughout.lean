import AgnoRuntime.Spec.Frames
import AgnoRuntime.Spec.RequestCalls

/-!
# What holds of the tables throughout

A property that holds of the committed tables and of those the session sees survives
commits and rollbacks, whatever fails. What keeps it is asked of the changes to the
tables alone.
-/

namespace AgnoRuntime

open Svc Prog

/-- `P` holds of the committed tables and of those of the session. -/
structure Throughout (P : Db → Prop) (w : World) : Prop where
  committed : P w.committed
  working : P w.working

/-- What held throughout still does. -/
def Keeping (P : Db → Prop) (w w' : World) : Prop := Throughout P w → Throughout P w'

variable {P : Db → Prop} {env : Env} {α : Type}

instance : Std.Refl (Keeping P) := ⟨fun _ h => h⟩

instance : IsTrans World (Keeping P) := ⟨fun _ _ _ h h' hw => h' (h hw)⟩

/-! ## The session -/

/-- Changes that keep `P` keep it throughout. -/
theorem keeping_touch {f : Db → Db} (hf : ∀ db, P db → P (f db)) : Keeps (Keeping P) (touch f) :=
  fun _ hw => ⟨hw.committed, hf _ hw.working⟩

theorem keeping_send (s : Statement) : Keeps (Keeping P) (send env s) := by
  intro w hw
  rw [send]
  split
  · exact hw
  · split
    · exact ⟨hw.committed, hw.working⟩
    · exact ⟨hw.committed, hw.working⟩

theorem keeping_write {f : Db → Db} (s : Statement) (hf : ∀ db, P db → P (f db)) :
    Keeps (Keeping P) (write env s f) :=
  keeps_bind (keeping_touch hf) fun _ => keeping_send s

theorem keeping_commit : Keeps (Keeping P) (commit env) :=
  keeps_bind (keeping_send _) fun _ => keeps_modify fun _ hw => ⟨hw.working, hw.working⟩

theorem keeping_rollback : Keeps (Keeping P) rollback :=
  fun _ hw => ⟨hw.committed, hw.committed⟩

theorem keeping_query (f : Db → α) : Keeps (Keeping P) (query f) := by
  intro w
  rw [query_state]
  exact fun hw => hw

/-! ## Redis, the client and the engine -/

theorem keeping_redisCommand (f : Redis → Redis) : Keeps (Keeping P) (redisCommand env f) := by
  intro w hw
  rw [redisCommand]
  split
  · exact ⟨hw.committed, hw.working⟩
  · exact ⟨hw.committed, hw.working⟩

theorem keeping_yieldItem (item : StreamItem) : Keeps (Keeping P) (yieldItem env item) := by
  refine keeps_bind keeps_read fun w => keeps_bind (keeps_modify fun _ hw => ?_) fun _ => ?_
  · exact ⟨hw.committed, hw.working⟩
  · split
    · exact keeps_raise _
    · exact keeps_pure _

theorem keeping_engineOutcome (outcome : Except PyError α) :
    Keeps (Keeping P) (engineOutcome outcome) := by
  cases outcome with
  | ok a => exact keeps_pure a
  | error exc =>
    exact keeps_bind (keeps_modify fun _ hw => ⟨hw.committed, hw.working⟩) fun _ => keeps_raise exc

theorem keeping_openStream (dispatch : Dispatch) (args : RunArgs) :
    Keeps (Keeping P) (openStream env dispatch args) :=
  keeps_bind keeps_read fun _ =>
    keeps_bind (keeps_bind keeps_read fun _ =>
      keeps_bind (keeps_modify fun _ hw => ⟨hw.committed, hw.working⟩) fun _ => keeps_pure _)
        fun _ => keeps_pure _

/-- What tools write, where it keeps `P`. -/
theorem keeping_useTools
    (htools : ∀ {args : RunArgs} (writes : ToolWrites args) db, P db → P (writes.apply db))
    {args : RunArgs} (writes : ToolWrites args) : Keeps (Keeping P) (useTools writes) :=
  fun _ hw => ⟨hw.committed, htools writes _ hw.working⟩

/-- A call of the engine. -/
theorem keeping_run
    (htools : ∀ {args : RunArgs} (writes : ToolWrites args) db, P db → P (writes.apply db))
    (dispatch : Dispatch) (args : RunArgs) : Keeps (Keeping P) (Svc.run env dispatch args) :=
  keeps_bind keeps_read fun _ =>
    keeps_bind (keeps_bind keeps_read fun _ =>
      keeps_bind (keeps_modify fun _ hw => ⟨hw.committed, hw.working⟩) fun _ => keeps_pure _)
        fun _ => keeps_bind (keeping_useTools htools _) fun _ => keeping_engineOutcome _

theorem keeping_endStream
    (htools : ∀ {args : RunArgs} (writes : ToolWrites args) db, P db → P (writes.apply db))
    {args : RunArgs} (live : LiveStream args) : Keeps (Keeping P) (endStream live) := by
  refine keeps_bind (keeping_useTools htools _) fun _ => ?_
  split
  · exact keeps_pure _
  · exact keeping_engineOutcome _

/-! ## Usage -/

/-- The Redis half of `record_usage` keeps what Redis commands keep. -/
theorem keeps_counters {R : World → World → Prop} [Std.Refl R] [IsTrans World R]
    (hredis : ∀ f, Keeps R (redisCommand env f)) (caller : QuotaService.Caller)
    (usage : QuotaService.Usage) :
    Keeps R (Prog.handleError
      (do
        let policies ← QuotaService.callerPolicies env caller
        let now ← Svc.now env
        Prog.forEach (QuotaService.recordCounter env now usage) policies)
      (fun exc => if exc.isException then pure () else Prog.raise exc)) := by
  refine keeps_handleError ?_ fun exc => ?_
  · refine keeps_bind (fun w => ?_) fun policies => ?_
    · rw [QuotaService.callerPolicies, query_state]
      exact Std.Refl.refl w
    · refine keeps_bind (keeps_bind keeps_read fun _ => keeps_pure _) fun now => ?_
      refine keeps_forEach fun p _ => ?_
      rw [QuotaService.recordCounter]
      split
      · exact keeps_pure _
      · exact keeps_bind (hredis _) fun _ => hredis _
  · split
    · exact keeps_pure _
    · exact keeps_raise _

/-- Recording the usage of a turn keeps what an audit row more does not change. -/
theorem keeping_recordTurn_of_insert
    (hP : ∀ db mk hmk, P db →
      P { db with quotaUsageEvents := db.quotaUsageEvents.insertFresh mk hmk })
    (turn : ChatService.ChatTurn) (result : ChatService.TurnResult) :
    Keeps (Keeping P) (ChatService.recordTurn env turn result) := by
  refine keeps_bind ?_ fun costUsd => ?_
  · rw [ChatService.computeCostUsd.eq_def]
    split
    · exact keeps_pure _
    · refine keeps_bind (keeps_attempt (keeping_query _)) fun outcome => ?_
      split
      · exact keeps_pure _
      · exact keeps_pure _
  · rw [QuotaService.recordUsage]
    split
    · refine keeps_bind (keeps_handleError ?_ fun exc => ?_) fun _ =>
        keeps_counters keeping_redisCommand _ _
      · exact keeps_bind (keeping_write _ fun db => hP db _ _) fun _ => keeping_commit
      · split
        · exact keeping_rollback
        · exact keeps_raise _
    · exact keeps_pure _

/-- Recording the usage of a turn keeps what does not depend on the audit rows. -/
theorem keeping_recordTurn
    (hP : ∀ db usage, P db → P { db with quotaUsageEvents := usage })
    (turn : ChatService.ChatTurn) (result : ChatService.TurnResult) :
    Keeps (Keeping P) (ChatService.recordTurn env turn result) :=
  keeping_recordTurn_of_insert (fun db _ _ => hP db _) turn result

end AgnoRuntime
