import AgnoRuntime.Spec.Throughout
import AgnoRuntime.Spec.QuotaCounters

/-!
# A run recorded twice

`record_usage` never looks at the audit rows it has written. A second call for a
run adds a row and increments every counter once more; it changes nothing only
where both of its halves come to nothing.

## Key results

- `forEach_recordCounter_redis_eq_iff`: when the loop over the policies leaves Redis alone
- `recordUsage_again_iff`: when a second call leaves audit rows and counters alone
- `not_usageKept_of_healthy`: where nothing fails, it is always counted again
-/

namespace AgnoRuntime

open Civil Svc Prog

/-! ## One counter -/

namespace Redis

variable {redis redis' : Redis} {clock : DateTime} {key : String} {delta : ℚ}

/-- What `GET` returns is decided by the entry of its key. -/
theorem get_congr (h : redis' key = redis key) : redis'.get clock key = redis.get clock key := by
  rw [Redis.get, Redis.get, Redis.alive, Redis.alive, h]

/-- `GET` after `INCRBYFLOAT`. -/
theorem get_incrByFloat (redis : Redis) (clock : DateTime) (key : String) (delta : ℚ) :
    (redis.incrByFloat clock key delta).get clock key =
      some ((redis.get clock key).getD 0 + delta) := by
  rw [Redis.get, Redis.get, Redis.alive]
  cases halive : redis.alive clock key with
  | none =>
    rw [incrByFloat_of_not_alive delta halive, Option.map_none, Option.getD_none, zero_add]
    rfl
  | some c =>
    -- the expiry is kept, so the counter is as alive as before
    have hlive := (Option.filter_eq_some_iff.mp halive).2
    rw [incrByFloat_of_alive delta halive]
    simp only [Option.filter_some, hlive, if_true, Option.map_some, Option.getD_some]

/-- A counter that reads more or less than it did is another entry. -/
theorem ne_of_get_eq_add (clock : DateTime) (hdelta : delta ≠ 0)
    (h : redis'.get clock key = some ((redis.get clock key).getD 0 + delta)) :
    redis' key ≠ redis key := by
  intro hsame
  rw [get_congr hsame] at h
  rw [h, Option.getD_some, Option.some.injEq] at h
  exact hdelta (left_eq_add.mp h)

end Redis

/-- A time to live is positive. -/
theorem QuotaPolicy.ttl_pos (p : QuotaPolicy) (now : DateTime) : 0 < p.ttl now := by
  have huntil : ∀ e, 0 < secondsUntil now e := fun e => lt_max_of_lt_right (by decide)
  rw [ttl]
  cases p.period with
  | daily => exact huntil _
  | monthly => exact huntil _
  | fixedWindow => exact Int.add_pos_of_nonneg_of_pos (Int.natCast_nonneg _) (by decide)

namespace QuotaService

/-! ## The loop over the policies -/

section Loop

variable {env : Env} {now : DateTime} {usage : Usage} {p q : QuotaPolicy} {w : World}

/-- A policy without an amount is skipped. -/
theorem recordCounter_of_zero (hzero : metricValue usage p.metric = 0) :
    recordCounter env now usage p = pure () := if_pos hzero

/-- Where Redis does not take the increment, nothing is changed. -/
theorem recordCounter_refused (hdelta : metricValue usage p.metric ≠ 0) {message : String}
    (hfails : env.redisFails w.ticks = some message) :
    recordCounter env now usage p w =
      (.error (.other message), { w with ticks := w.ticks + 1 }) := by
  have hcommand : redisCommand env (fun redis =>
      redis.incrByFloat now (p.counterKey now) (metricValue usage p.metric)) w =
        (.error (.other message), { w with ticks := w.ticks + 1 }) := by
    rw [redisCommand]
    simp only [hfails]
  rw [recordCounter, if_neg hdelta, bind_apply_error hcommand]

/-- Where Redis takes it, the counter is another one, whatever becomes of the expiry. -/
theorem recordCounter_changes (now : DateTime) (hdelta : metricValue usage p.metric ≠ 0)
    (hanswers : env.redisFails w.ticks = none) :
    (recordCounter env now usage p w).2.redis (p.counterKey now) ≠
      w.redis (p.counterKey now) := by
  have hcommand : redisCommand env (fun redis =>
      redis.incrByFloat now (p.counterKey now) (metricValue usage p.metric)) w =
        (.ok (), w.commanded fun redis =>
          redis.incrByFloat now (p.counterKey now) (metricValue usage p.metric)) := by
    rw [redisCommand]
    simp only [hanswers]
    rfl
  have hget := Redis.get_incrByFloat w.redis now (p.counterKey now) (metricValue usage p.metric)
  rw [recordCounter, if_neg hdelta, bind_apply_ok hcommand, redisCommand]
  split
  · exact Redis.ne_of_get_eq_add now hdelta hget
  · refine Redis.ne_of_get_eq_add now hdelta ?_
    rw [← hget]
    refine Redis.get_expire _ _ ?_
    have httl := p.ttl_pos now
    omega

/-- Policies of different kinds have different counters. -/
theorem counterKey_ne (now : DateTime) (h : q.kind ≠ p.kind) :
    q.counterKey now ≠ p.counterKey now := by
  intro hkey
  exact h ((QuotaPolicy.counterKey_eq_iff q p now now).mp hkey).1.kind_eq

/-- A round leaves the counters of the other kinds alone. -/
theorem recordCounter_others (h : q.kind ≠ p.kind) :
    Keeps (Same fun w : World => w.redis (p.counterKey now)) (recordCounter env now usage q) := by
  have hcommand : ∀ f : Redis → Redis, (∀ redis, f redis (p.counterKey now) =
      redis (p.counterKey now)) →
        Keeps (Same fun w : World => w.redis (p.counterKey now)) (redisCommand env f) := by
    intro f hf w
    rw [redisCommand]
    split
    · rfl
    · exact hf w.redis
  have hkey := counterKey_ne now (Ne.symm h)
  rw [recordCounter]
  split
  · exact keeps_pure ()
  · refine keeps_bind (hcommand _ fun redis => ?_) fun _ => hcommand _ fun redis => ?_
    · exact Redis.incrByFloat_of_ne redis now _ hkey
    · exact Redis.expire_of_ne redis now _ hkey

/-- The loop leaves Redis as it was when there is no amount to add, or the first increment
    fails. -/
theorem forEach_recordCounter_redis_eq_iff {ps : List QuotaPolicy}
    (hkinds : (ps.map QuotaPolicy.kind).Nodup) :
    (forEach (recordCounter env now usage) ps w).2.redis = w.redis ↔
      (∀ p ∈ ps, metricValue usage p.metric = 0) ∨ (env.redisFails w.ticks).isSome := by
  induction ps with
  | nil => exact iff_of_true rfl (.inl fun p hp => by cases hp)
  | cons p ps ih =>
    rw [List.map_cons, List.nodup_cons] at hkinds
    rw [forEach, List.forall_mem_cons]
    by_cases hdelta : metricValue usage p.metric = 0
    · rw [recordCounter_of_zero hdelta, pure_bind, ih hkinds.2]
      simp only [hdelta, true_and]
    · cases hfails : env.redisFails w.ticks with
      | some message =>
        rw [bind_apply_error (recordCounter_refused hdelta hfails)]
        exact iff_of_true rfl (.inr rfl)
      | none =>
        refine iff_of_false (fun hsame => ?_) (fun h => ?_)
        · -- the rest of the loop does not undo the increment
          have hothers : Keeps (Same fun w : World => w.redis (p.counterKey now))
              (forEach (recordCounter env now usage) ps) :=
            keeps_forEach fun q hq => recordCounter_others fun hkind =>
              hkinds.1 (hkind ▸ List.mem_map_of_mem hq)
          have hrest : _ = (recordCounter env now usage p w).2.redis (p.counterKey now) :=
            rel_bind_from (fun _ => hothers) w
          exact recordCounter_changes now hdelta hfails (hrest.symm.trans (congrFun hsame _))
        · rcases h with h | h
          · exact hdelta h.1
          · cases h

end Loop

/-! ## The halves of `record_usage` -/

section Halves

variable (env : Env)

/-- The audit row, with a commit of its own. -/
def recordAudit (runId : Uuid) (caller : Caller) (usage : Usage) : Svc Unit :=
  Prog.handleError
    (do
      createUsageEvent env runId caller usage
      commit env)
    (fun exc => if exc.isException then rollback else Prog.raise exc)

/-- The counters of the effective policies. -/
def recordEffective (caller : Caller) (usage : Usage) : Svc Unit :=
  Prog.handleError
    (do
      let policies ← callerPolicies env caller
      let now ← Svc.now env
      Prog.forEach (recordCounter env now usage) policies)
    (fun exc => if exc.isException then pure () else Prog.raise exc)

/-- For a caller who is tracked, `record_usage` is one half after the other. -/
theorem recordUsage_eq {runId : Uuid} {caller : Caller} {usage : Usage}
    (htracks : tracks env caller = true) : recordUsage env runId caller usage =
      recordAudit env runId caller usage >>= fun _ => recordEffective env caller usage :=
  if_pos htracks

/-- For another one it does nothing. -/
theorem recordUsage_of_not_tracks {runId : Uuid} {caller : Caller} {usage : Usage}
    (htracks : tracks env caller = false) : recordUsage env runId caller usage = pure () :=
  if_neg (by rw [htracks]; exact Bool.false_ne_true)

/-- The audit row of a call. -/
def auditRow (runId : Uuid) (caller : Caller) (usage : Usage) (id : Uuid) : QuotaUsageEvent :=
  ⟨id, some runId, caller.userId.getD "", caller.groups, caller.modelId, usage.inputTokens,
    usage.outputTokens, usage.costUsd⟩

theorem auditRow_id (runId : Uuid) (caller : Caller) (usage : Usage) (id : Uuid) :
    (auditRow runId caller usage id).id = id := rfl

/-- The tables with the audit row of a call. -/
def withAuditRow (runId : Uuid) (caller : Caller) (usage : Usage) (db : Db) : Db :=
  { db with
    quotaUsageEvents := db.quotaUsageEvents.insertFresh (auditRow runId caller usage)
      (auditRow_id runId caller usage) }

/-- With the row there is one more. -/
theorem withAuditRow_ne (runId : Uuid) (caller : Caller) (usage : Usage) (db : Db) :
    (withAuditRow runId caller usage db).quotaUsageEvents ≠ db.quotaUsageEvents := by
  intro h
  have hrows : (withAuditRow runId caller usage db).quotaUsageEvents.rows =
    db.quotaUsageEvents.rows ++ [_] := rfl
  rw [h] at hrows
  exact List.cons_ne_nil _ _ (List.self_eq_append_right.mp hrows)

/-- Where the database refuses the audit row or its commit: the number of statements until then. -/
def auditRefusedAfter (w : World) (runId : Uuid) (caller : Caller) (usage : Usage) : Option Nat :=
  let db := withAuditRow runId caller usage w.working
  if (env.refuses w.ticks (.insert .quotaUsageEvents) db).isSome then some 1
  else if (env.refuses (w.ticks + 1) .commit db).isSome then some 2
  else none

end Halves

/-! ### The audit row -/

/-- The session is in order, and what it sees is committed. -/
structure Flushed (w : World) : Prop where
  inOrder : w.failed = false
  working : w.working = w.committed

/-- The session was rolled back after `n` statements. -/
structure RolledBack (w : World) (n : Nat) (w' : World) : Prop extends Flushed w' where
  committed : w'.committed = w.committed
  redis : w'.redis = w.redis
  ticks : w'.ticks = w.ticks + n

section Audit

variable {env : Env} {w : World} {runId : Uuid} {caller : Caller} {usage : Usage}

/-- The audit row and its commit, accepted. -/
theorem recordAudit_accepted (hw : w.failed = false)
    (haccepted : auditRefusedAfter env w runId caller usage = none) :
    recordAudit env runId caller usage w =
      (.ok (), (w.wrote (.insert .quotaUsageEvents) (withAuditRow runId caller usage)).saved) := by
  rw [auditRefusedAfter] at haccepted
  split at haccepted
  · cases haccepted
  · rename_i hinsert
    split at haccepted
    · cases haccepted
    · rename_i hcommit
      have hrow : createUsageEvent env runId caller usage w =
          (.ok (), w.wrote (.insert .quotaUsageEvents) (withAuditRow runId caller usage)) :=
        write_apply hw (Option.not_isSome_iff_eq_none.mp hinsert)
      refine handleError_apply_ok ?_
      rw [bind_apply_ok hrow]
      exact commit_apply hw (Option.not_isSome_iff_eq_none.mp hcommit)

/-- The handler rolls the session back after an exception of the database. -/
private theorem recordAudit_of_error {exc : PyError} {w' : World} (hexc : exc.isException = true)
    (h : (createUsageEvent env runId caller usage >>= fun _ => commit env) w = (.error exc, w')) :
    recordAudit env runId caller usage w =
      (.ok (), { w' with working := w'.committed, failed := false, expired := true }) := by
  refine (handleError_apply_error h).trans ?_
  rw [if_pos hexc]
  rfl

/-- The audit row or its commit, refused. -/
theorem recordAudit_refused {n : Nat} (hw : w.failed = false)
    (hrefused : auditRefusedAfter env w runId caller usage = some n) :
    ∃ w', recordAudit env runId caller usage w = (.ok (), w') ∧ RolledBack w n w' := by
  rw [auditRefusedAfter] at hrefused
  split at hrefused
  -- The row itself is refused.
  · rename_i hinsert
    obtain ⟨message, hinsert⟩ := Option.isSome_iff_exists.mp hinsert
    obtain rfl := Option.some.inj hrefused
    have hrow : createUsageEvent env runId caller usage w =
        (.error (.other message), w.refused (withAuditRow runId caller usage)) :=
      write_apply_refused hw hinsert
    exact ⟨_, recordAudit_of_error rfl (bind_apply_error hrow), ⟨rfl, rfl⟩, rfl, rfl, rfl⟩
  · rename_i hinsert
    split at hrefused
    -- The row is accepted, and the commit refused.
    · rename_i hcommit
      obtain ⟨message, hcommit⟩ := Option.isSome_iff_exists.mp hcommit
      obtain rfl := Option.some.inj hrefused
      have hrow : createUsageEvent env runId caller usage w =
          (.ok (), w.wrote (.insert .quotaUsageEvents) (withAuditRow runId caller usage)) :=
        write_apply hw (Option.not_isSome_iff_eq_none.mp hinsert)
      have hsave : commit env
          (w.wrote (.insert .quotaUsageEvents) (withAuditRow runId caller usage)) =
            (.error (.other message), _) := bind_apply_error (send_apply_refused hw hcommit)
      have hboth := (bind_apply_ok (f := fun _ => commit env) hrow).trans hsave
      exact ⟨_, recordAudit_of_error rfl hboth, ⟨rfl, rfl⟩, rfl, rfl, rfl⟩
    · cases hrefused

/-- However it ends, the session is in order and holds nothing that is not committed. -/
theorem recordAudit_flushes (env : Env) (runId : Uuid) (caller : Caller) (usage : Usage)
    (w : World) :
    ∃ w', recordAudit env runId caller usage w = (.ok (), w') ∧ Flushed w' := by
  cases hw : w.failed with
  | true =>
    have hrow : createUsageEvent env runId caller usage w =
        (.error .pendingRollback, w.touched (withAuditRow runId caller usage)) := by
      have hsend : send env (.insert .quotaUsageEvents)
          (w.touched (withAuditRow runId caller usage)) = (.error .pendingRollback, _) :=
        send_apply_failed hw
      rw [createUsageEvent, write, bind_apply_ok (touch_apply _ w)]
      exact hsend
    exact ⟨_, recordAudit_of_error rfl (bind_apply_error hrow), rfl, rfl⟩
  | false =>
    cases haudit : auditRefusedAfter env w runId caller usage with
    | none => exact ⟨_, recordAudit_accepted hw haudit, hw, rfl⟩
    | some n =>
      obtain ⟨w', hw', hback⟩ := recordAudit_refused hw haudit
      exact ⟨w', hw', hback.toFlushed⟩

end Audit

/-! ### The counters -/

section Counters

variable {env : Env} {w : World} {caller : Caller} {usage : Usage}

/-- No counter is incremented: no effective policy has an amount to add, or Redis fails. -/
def NoIncrement (env : Env) (policies : KeyedTable QuotaPolicy.id) (tick : Nat) (caller : Caller)
    (usage : Usage) : Prop :=
  (∀ p ∈ effectivePolicies env.settings.featureQuotaManagement env.policyScan policies caller,
    metricValue usage p.metric = 0) ∨ (env.redisFails tick).isSome

/-- The second half leaves the session alone. -/
theorem recordEffective_session (env : Env) (caller : Caller) (usage : Usage) (w : World) :
    (recordEffective env caller usage w).2.committed = w.committed ∧
      (recordEffective env caller usage w).2.working = w.working ∧
      (recordEffective env caller usage w).2.failed = w.failed := by
  have hkept : Keeps (Same fun w : World => (w.committed, w.working, w.failed))
      (recordEffective env caller usage) := by
    refine keeps_counters (fun f w => ?_) caller usage
    rw [redisCommand]
    split
    · rfl
    · rfl
  have hsame := hkept w
  rw [Same, Prod.mk.injEq, Prod.mk.injEq] at hsame
  exact hsame

/-- When the second half leaves Redis alone. -/
theorem recordEffective_redis_eq_iff (hw : w.failed = false) :
    (recordEffective env caller usage w).2.redis = w.redis ↔
      NoIncrement env w.working.quotaPolicies w.ticks caller usage := by
  -- whatever the loop raises, the handler only logs it
  have hloop : (recordEffective env caller usage w).2.redis =
      (forEach (recordCounter env (env.now w.ticks) usage)
        (effectivePolicies env.settings.featureQuotaManagement env.policyScan
          w.working.quotaPolicies caller) w).2.redis := by
    have hhandled := rel_handleError_from (R := Same World.redis)
      (x := do
        let policies ← callerPolicies env caller
        let now ← Svc.now env
        Prog.forEach (recordCounter env now usage) policies)
      (h := fun exc => if exc.isException then pure () else Prog.raise exc) (fun exc => by
        split
        · exact keeps_pure ()
        · exact keeps_raise exc) w
    refine Eq.trans hhandled ?_
    rw [callerPolicies, bind_apply_ok (query_apply hw _)]
    rfl
  rw [hloop, forEach_recordCounter_redis_eq_iff (nodup_kinds_effective _ _ _ _), NoIncrement]

end Counters

/-! ## The second call -/

/-- The audit rows and the counters are as they were. -/
structure UsageKept (w w' : World) : Prop where
  events : w'.committed.quotaUsageEvents = w.committed.quotaUsageEvents
  counters : w'.redis = w.redis

/-- A call that comes to nothing: its caller is not tracked, or its audit row is refused and no
    counter is incremented after that. -/
def RecordsNothing (env : Env) (w : World) (runId : Uuid) (caller : Caller) (usage : Usage) :
    Prop :=
  tracks env caller = false ∨ ∃ n, auditRefusedAfter env w runId caller usage = some n ∧
    NoIncrement env w.committed.quotaPolicies (w.ticks + n) caller usage

section Again

variable {env : Env} {w : World} {runId : Uuid} {caller : Caller} {usage : Usage}

/-- A call on a session without uncommitted work. -/
theorem usageKept_recordUsage_iff (hw : Flushed w) :
    UsageKept w (recordUsage env runId caller usage w).2 ↔
      RecordsNothing env w runId caller usage := by
  cases htracks : tracks env caller with
  | false =>
    rw [recordUsage_of_not_tracks env htracks]
    exact iff_of_true ⟨rfl, rfl⟩ (.inl htracks)
  | true =>
    rw [recordUsage_eq env htracks, RecordsNothing, htracks]
    cases haudit : auditRefusedAfter env w runId caller usage with
    | none =>
      rw [bind_apply_ok (recordAudit_accepted hw.inOrder haudit)]
      refine iff_of_false (fun hkept => ?_) (fun h => ?_)
      · -- there is one row more
        have hevents := hkept.events
        rw [(recordEffective_session _ _ _ _).1, World.saved_committed, World.wrote_working,
          hw.working] at hevents
        exact withAuditRow_ne runId caller usage w.committed hevents
      · rcases h with h | h
        · cases h
        · obtain ⟨n, hn, -⟩ := h
          cases hn
    | some n =>
      obtain ⟨w', hw', hback⟩ := recordAudit_refused hw.inOrder haudit
      have hcounters : (recordEffective env caller usage w').2.redis = w'.redis ↔ _ :=
        recordEffective_redis_eq_iff hback.inOrder
      rw [hback.working, hback.committed, hback.redis, hback.ticks] at hcounters
      rw [bind_apply_ok hw']
      constructor
      · intro hkept
        exact .inr ⟨n, rfl, hcounters.mp hkept.counters⟩
      · intro h
        rcases h with h | h
        · cases h
        · obtain ⟨n', hn, hnone⟩ := h
          obtain rfl := Option.some.inj hn
          refine ⟨?_, hcounters.mpr hnone⟩
          rw [(recordEffective_session _ _ _ _).1, hback.committed]

/-- A call for a tracked caller leaves a session without uncommitted work. -/
theorem recordUsage_flushes (htracks : tracks env caller = true) (w : World) :
    Flushed (recordUsage env runId caller usage w).2 := by
  obtain ⟨w', hw', hflushed⟩ := recordAudit_flushes env runId caller usage w
  rw [recordUsage_eq env htracks, bind_apply_ok hw']
  obtain ⟨hcommitted, hworking, hfailed⟩ := recordEffective_session env caller usage w'
  constructor
  · exact hfailed.trans hflushed.inOrder
  · rw [hworking, hcommitted, hflushed.working]

/-- A second call for a run leaves the audit rows and the counters as they were after the first
    one exactly when it comes to nothing itself. -/
theorem recordUsage_again_iff {w first : World} {caller' : Caller} {usage' : Usage}
    (htracks : tracks env caller = true)
    (hfirst : (recordUsage env runId caller usage w).2 = first) :
    UsageKept first (recordUsage env runId caller' usage' first).2 ↔
      RecordsNothing env first runId caller' usage' := by
  refine usageKept_recordUsage_iff ?_
  rw [← hfirst]
  exact recordUsage_flushes htracks w

/-- Where nothing fails, a second call for a caller who is tracked is always counted. -/
theorem not_usageKept_of_healthy (henv : env.Healthy) (htracks : tracks env caller = true)
    (hw : Flushed w) : ¬UsageKept w (recordUsage env runId caller usage w).2 := by
  rw [usageKept_recordUsage_iff hw]
  intro h
  rcases h with h | h
  · rw [htracks] at h
    cases h
  · obtain ⟨n, hn, -⟩ := h
    rw [auditRefusedAfter] at hn
    simp only [henv.accepts, Option.isSome_none] at hn
    cases hn

end Again

end QuotaService

section Examples

open Deployment QuotaService

theorem Deployment.alice_given : QuotaScopeType.user = .global ∨ "alice" ≠ "" := by decide

/-- A hundred requests a day for `alice`. -/
def Deployment.aliceDaily : QuotaPolicy where
  id := 1
  scopeType := .user
  scopeValue := "alice"
  modelId := none
  metric := .requests
  period := .daily
  windowSeconds := none
  limitValue := 100
  priority := 0
  enabled := true
  deletedAt := none
  scopeValueGiven := alice_given

/-- The deployment with quotas. -/
def Deployment.metered : Env :=
  { Deployment.env .trustClientUserId none (answering "Hi") with
    settings := ⟨.trustClientUserId, true, true, true⟩ }

/-- The world of a request where `alice` has a policy and nothing is recorded yet. -/
def Deployment.unrecorded : World :=
  World.start ⟨{ db with quotaPolicies := .singleton aliceDaily }, .empty⟩

/-- `alice`, in no group. -/
def Deployment.alice : Caller := ⟨some "alice", [], none⟩

/-- After one record of run 7, and after another one. -/
def Deployment.afterRecords (times : Nat) : World :=
  times.repeat (fun w => (recordUsage metered 7 alice ⟨10, 10, none⟩ w).2) unrecorded

/-- The theorem at a second record of run 7. -/
theorem recordUsage_again_example :
    UsageKept (afterRecords 1) (recordUsage metered 7 alice ⟨10, 10, none⟩ (afterRecords 1)).2 ↔
      RecordsNothing metered (afterRecords 1) 7 alice ⟨10, 10, none⟩ :=
  recordUsage_again_iff (by decide +kernel) rfl

/-- The run has an audit row, and then another one; it is one request, and then two. -/
theorem run_recorded_twice :
    ((afterRecords 1).committed.quotaUsageEvents.rows.map (·.runId) = [some 7] ∧
      current (afterRecords 1).redis morning aliceDaily = 1) ∧
    ((afterRecords 2).committed.quotaUsageEvents.rows.map (·.runId) = [some 7, some 7] ∧
      current (afterRecords 2).redis morning aliceDaily = 2) ∧
    ¬UsageKept (afterRecords 1) (afterRecords 2) := by
  refine ⟨by decide +kernel, by decide +kernel, fun hkept => ?_⟩
  have hrows := congrArg (fun t => t.rows.length) hkept.events
  exact absurd hrows (by decide +kernel)

end Examples

end AgnoRuntime
