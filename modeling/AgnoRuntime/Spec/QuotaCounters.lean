import AgnoRuntime.Spec.QuotaSelection
import AgnoRuntime.Spec.QuotaKeys
import Mathlib.Algebra.BigOperators.Group.List.Basic
import Mathlib.Algebra.Order.Ring.Rat

/-!
# What the quota counters count

A policy's counter, read at any instant of a bucket, holds the sum of what was
recorded under that policy in the bucket: the label tells buckets apart, the key
tells counters apart, and no counter expires before its bucket ends.

## Key results

- `Holds.recordAll`: what a counter holds after a sequence of calls
- `current_recordAll`: the value read is the sum recorded
-/

namespace AgnoRuntime

open Civil

namespace QuotaPolicy

/-- Windows, where the period has any, are of one length. -/
def SameWindows (q p : QuotaPolicy) : Prop := p.period = .fixedWindow → q.window = p.window

instance (q p : QuotaPolicy) : Decidable (q.SameWindows p) :=
  inferInstanceAs (Decidable (_ → _))

/-- With windows of one length, policies that share a counter have the same labels and keep their
    counter equally long. -/
theorem SharesCounter.periodBucket_eq {q p : QuotaPolicy} (h : q.SharesCounter p)
    (hwindow : q.SameWindows p) (t : DateTime) :
    periodBucket q.period q.windowSeconds t = periodBucket p.period p.windowSeconds t := by
  rw [h.period]
  cases hperiod : p.period with
  | daily => rfl
  | monthly => rfl
  | fixedWindow =>
    have hw : windowOf q.windowSeconds = windowOf p.windowSeconds := hwindow hperiod
    simp only [periodBucket, hw]

/-- With windows of one length, policies that share a counter have the same labels. -/
theorem SharesCounter.bucket_eq {q p : QuotaPolicy} (h : q.SharesCounter p)
    (hwindow : q.SameWindows p) (t : DateTime) : q.bucket t = p.bucket t :=
  congrArg Prod.fst (h.periodBucket_eq hwindow t)

/-- With windows of one length, policies that share a counter keep it equally long. -/
theorem SharesCounter.ttl_eq {q p : QuotaPolicy} (h : q.SharesCounter p)
    (hwindow : q.SameWindows p) (t : DateTime) : q.ttl t = p.ttl t :=
  congrArg Prod.snd (h.periodBucket_eq hwindow t)

end QuotaPolicy

/-! ## One counter during a bucket -/

namespace Redis

/-- `INCRBYFLOAT` leaves the other counters alone. -/
theorem incrByFloat_of_ne (redis : Redis) (clock : DateTime) {key key' : String} (delta : ℚ)
    (h : key' ≠ key) : redis.incrByFloat clock key delta key' = redis key' := if_neg h

/-- `INCRBYFLOAT` of a counter that is there. -/
theorem incrByFloat_of_alive {redis : Redis} {clock : DateTime} {key : String} {c : RedisCounter}
    (delta : ℚ) (h : redis.alive clock key = some c) :
    redis.incrByFloat clock key delta key = some { c with value := c.value + delta } := by
  simp only [Redis.incrByFloat, if_true, h]

/-- `INCRBYFLOAT` of a counter that is not. -/
theorem incrByFloat_of_not_alive {redis : Redis} {clock : DateTime} {key : String} (delta : ℚ)
    (h : redis.alive clock key = none) :
    redis.incrByFloat clock key delta key = some ⟨delta, none⟩ := by
  simp only [Redis.incrByFloat, if_true, h]

/-- `EXPIRE` leaves the other counters alone. -/
theorem expire_of_ne (redis : Redis) (clock : DateTime) {key key' : String} (ttl : Int)
    (h : key' ≠ key) : redis.expire clock key ttl key' = redis key' := if_neg h

end Redis

namespace QuotaService

/-- The bucket of `b` has passed. -/
def BucketOver (p : QuotaPolicy) (b clock : DateTime) : Prop :=
  ∀ t, p.SameBucket b t → t.micros < clock.micros

/-- A bucket is not over at an instant of its own. -/
theorem not_bucketOver {p : QuotaPolicy} {b clock : DateTime} (h : p.SameBucket b clock) :
    ¬ BucketOver p b clock := fun hover => lt_irrefl _ (hover clock h)

/-- The counter of `p` holds `v` and, if it expires at all, does so after the bucket of `b`. -/
structure Holds (redis : Redis) (p : QuotaPolicy) (b : DateTime) (v : ℚ) : Prop where
  absent : redis (p.counterKey b) = none → v = 0
  present : ∀ c, redis (p.counterKey b) = some c → c.value = v ∧
    ∀ e, c.expiresAt = some e → ∀ t, p.SameBucket b t → t.micros < e

/-- Without counters every policy's counter holds 0. -/
theorem holds_empty (p : QuotaPolicy) (b : DateTime) : Holds Redis.empty p b 0 where
  absent := fun _ => rfl
  present := fun _ hc => by cases hc

/-- What a counter found under the key holds. -/
private theorem holds_of_some {redis : Redis} {p : QuotaPolicy} {b : DateTime} {v : ℚ}
    {c : RedisCounter} (h : redis (p.counterKey b) = some c) (hvalue : c.value = v)
    (hlive : ∀ e, c.expiresAt = some e → ∀ t, p.SameBucket b t → t.micros < e) :
    Holds redis p b v where
  absent := fun hnone => by cases hnone.symm.trans h
  present := by
    intro c' hc'
    have heq : c = c' := Option.some.inj (h.symm.trans hc')
    exact heq ▸ ⟨hvalue, hlive⟩

section Holds

variable {redis : Redis} {p : QuotaPolicy} {b clock : DateTime} {v : ℚ}

/-- A command on another key. -/
theorem Holds.of_same {redis' : Redis} (h : Holds redis p b v)
    (hsame : redis' (p.counterKey b) = redis (p.counterKey b)) : Holds redis' p b v where
  absent := fun hnone => h.absent (hsame ▸ hnone)
  present := fun c hc => h.present c (hsame ▸ hc)

/-- A counter is gone only when there was none or the bucket is over. -/
private theorem Holds.of_not_alive (h : Holds redis p b v)
    (hgone : redis.alive clock (p.counterKey b) = none) : BucketOver p b clock ∨ v = 0 := by
  cases hc : redis (p.counterKey b) with
  | none => exact Or.inr (h.absent hc)
  | some c =>
    left
    intro t ht
    rw [Redis.alive, hc, Option.filter_eq_none_iff] at hgone
    cases he : c.expiresAt with
    | none => exact absurd (by rw [he]; rfl) (hgone c rfl)
    | some e =>
      have hexpired : ¬ clock.micros < e := by
        intro hlt
        apply hgone c rfl
        rw [he]
        exact decide_eq_true hlt
      have hafter := (h.present c hc).2 e he t ht
      omega

/-- A counter that is there. -/
private theorem Holds.of_alive {c : RedisCounter} (h : Holds redis p b v)
    (halive : redis.alive clock (p.counterKey b) = some c) : c.value = v ∧
      ∀ e, c.expiresAt = some e → ∀ t, p.SameBucket b t → t.micros < e :=
  h.present c (Option.filter_eq_some_iff.mp halive).1

/-- What is read in the bucket is what the counter holds. -/
theorem Holds.get (h : Holds redis p b v) (hclock : p.SameBucket b clock) :
    (redis.get clock (p.counterKey b)).getD 0 = v := by
  cases halive : redis.alive clock (p.counterKey b) with
  | none =>
    rcases h.of_not_alive halive with hover | hzero
    · exact absurd hover (not_bucketOver hclock)
    · rw [Redis.get, halive, hzero]
      rfl
  | some c =>
    rw [Redis.get, halive]
    exact (h.of_alive halive).1

/-- The loop variable `current` is what the counter holds. -/
theorem Holds.current {now : DateTime} (h : Holds redis p now v) : current redis now p = v :=
  h.get (QuotaPolicy.SameBucket.refl p now)

/-- `INCRBYFLOAT`. -/
theorem Holds.incr (h : Holds redis p b v) (clock : DateTime) (delta : ℚ) :
    BucketOver p b clock ∨
      Holds (redis.incrByFloat clock (p.counterKey b) delta) p b (v + delta) := by
  cases halive : redis.alive clock (p.counterKey b) with
  | none =>
    rcases h.of_not_alive halive with hover | hzero
    · exact Or.inl hover
    · right
      exact holds_of_some (Redis.incrByFloat_of_not_alive delta halive) (by rw [hzero, zero_add])
        (fun e he => by cases he)
  | some c =>
    obtain ⟨hvalue, hlive⟩ := h.of_alive halive
    right
    exact holds_of_some (Redis.incrByFloat_of_alive delta halive) (by rw [hvalue]) hlive

/-- `EXPIRE` with the time to live computed in the bucket. -/
theorem Holds.expire {now : DateTime} (h : Holds redis p b v) (hnow : p.SameBucket now b)
    (hle : now.micros ≤ clock.micros) :
    BucketOver p b clock ∨ Holds (redis.expire clock (p.counterKey b) (p.ttl now)) p b v := by
  -- `EXPIRE` finds no key: its bucket is over, or nothing was recorded in it.
  cases halive : redis.alive clock (p.counterKey b) with
  | none =>
    rcases h.of_not_alive halive with hover | hzero
    · exact Or.inl hover
    · right
      have hafter : redis.expire clock (p.counterKey b) (p.ttl now) (p.counterKey b) = none := by
        simp only [Redis.expire, if_true, halive, Option.map_none]
      exact ⟨fun _ => hzero, fun c hc => by cases hafter.symm.trans hc⟩
  | some c =>
    obtain ⟨hvalue, _⟩ := h.of_alive halive
    right
    have hafter : (redis.expire clock (p.counterKey b) (p.ttl now)) (p.counterKey b) =
        some { c with expiresAt := some (clock.micros + p.ttl now * 1000000) } := by
      simp only [Redis.expire, if_true, halive, Option.map_some]
    -- The key outlives every instant of the bucket.
    refine holds_of_some hafter hvalue ?_
    intro e he t ht
    have hexpiry := QuotaPolicy.lt_expiry_of_sameBucket (hnow.trans ht)
    simp only [Option.some.injEq] at he
    omega

end Holds

/-- What one policy's increment adds to the counter of `p` in the bucket of `now`. -/
def increment (p : QuotaPolicy) (now t : DateTime) (usage : Usage) (q : QuotaPolicy) : ℚ :=
  if q.SharesCounter p ∧ p.SameBucket t now then metricValue usage p.metric else 0

/-- One policy's increment. -/
theorem Holds.recordPolicy {redis : Redis} {p q : QuotaPolicy} {now t : DateTime} {v : ℚ}
    (usage : Usage) (h : Holds redis p now v) (hwindow : q.SharesCounter p → q.SameWindows p) :
    Holds (recordPolicy t usage redis q) p now (v + increment p now t usage q) := by
  unfold QuotaService.recordPolicy increment
  by_cases hkey : q.counterKey t = p.counterKey now
  · -- The same counter: it is incremented in the bucket, and then kept as long as that lasts.
    obtain ⟨hshare, hbucket⟩ := (QuotaPolicy.counterKey_eq_iff q p t now).mp hkey
    have hw := hwindow hshare
    have hadd : (if q.SharesCounter p ∧ p.SameBucket t now then metricValue usage p.metric else 0) =
        metricValue usage p.metric := by
      rw [hshare.bucket_eq hw, QuotaPolicy.bucket_eq_iff] at hbucket
      exact if_pos ⟨hshare, hbucket⟩
    rw [hshare.bucket_eq hw, QuotaPolicy.bucket_eq_iff] at hbucket
    rw [hadd, hshare.metric]
    split
    · rename_i hzero
      rw [hzero, add_zero]
      exact h
    · have hincr := (h.incr t (metricValue usage p.metric)).resolve_left
        (not_bucketOver hbucket.symm)
      have hexpire := (hincr.expire hbucket (Int.le_refl t.micros)).resolve_left
        (not_bucketOver hbucket.symm)
      rw [hkey, hshare.ttl_eq hw]
      exact hexpire
  · have hadd : (if q.SharesCounter p ∧ p.SameBucket t now then metricValue usage p.metric else 0) =
        0 := by
      apply if_neg
      intro hboth
      apply hkey
      rw [QuotaPolicy.counterKey_eq_iff, hboth.1.bucket_eq (hwindow hboth.1),
        QuotaPolicy.bucket_eq_iff]
      exact hboth
    rw [hadd, add_zero]
    split
    · exact h
    · apply h.of_same
      rw [Redis.expire_of_ne _ _ _ (Ne.symm hkey), Redis.incrByFloat_of_ne _ _ _ (Ne.symm hkey)]

/-! ## One call of `record_usage` -/

/-- A run of increments. -/
theorem Holds.recordPolicies {redis : Redis} {p : QuotaPolicy} {now t : DateTime} {v : ℚ}
    (usage : Usage) {qs : List QuotaPolicy} (h : Holds redis p now v)
    (hwindow : ∀ q ∈ qs, q.SharesCounter p → q.SameWindows p) :
    Holds (qs.foldl (QuotaService.recordPolicy t usage) redis) p now
      (v + (qs.map (increment p now t usage)).sum) := by
  induction qs generalizing redis v with
  | nil =>
    rw [List.map_nil, List.sum_nil, add_zero]
    exact h
  | cons q qs ih =>
    have hq := h.recordPolicy (t := t) usage (hwindow q List.mem_cons_self)
    have hqs := ih hq fun q' hq' => hwindow q' (List.mem_cons_of_mem q hq')
    rw [List.map_cons, List.sum_cons, ← add_assoc]
    exact hqs

/-- Policies of different kinds contain at most one that moves the counter of `p`. -/
theorem sum_increment (p : QuotaPolicy) (now t : DateTime) (usage : Usage) {qs : List QuotaPolicy}
    (hkinds : (qs.map QuotaPolicy.kind).Nodup) :
    (qs.map (increment p now t usage)).sum =
      if p.SameBucket t now ∧ ∃ q ∈ qs, q.SharesCounter p then metricValue usage p.metric
      else 0 := by
  induction qs with
  | nil => simp
  | cons q qs ih =>
    rw [List.map_cons, List.nodup_cons] at hkinds
    rw [List.map_cons, List.sum_cons, ih hkinds.2]
    by_cases hsame : p.SameBucket t now
    · by_cases hshare : q.SharesCounter p
      · -- The others are of other kinds, so none of them shares the counter.
        have hothers : ¬ ∃ q' ∈ qs, q'.SharesCounter p := by
          intro hex
          obtain ⟨q', hq', hshare'⟩ := hex
          apply hkinds.1
          rw [hshare.kind_eq, ← hshare'.kind_eq]
          exact List.mem_map_of_mem hq'
        simp [increment, hsame, hshare, hothers]
      · simp [increment, hsame, hshare]
    · simp [increment, hsame]

/-- One call of `record_usage`: when, for whom and what; `policies` are the policies stored at
    that time and `scan` the order in which the database returned the candidates. -/
structure RecordCall where
  policies : KeyedTable QuotaPolicy.id
  scan : ScanOrder QuotaPolicy
  now : DateTime
  caller : Caller
  usage : Usage

section Calls

variable (featureEnabled : Bool)

/-- The policies a call records against. -/
def RecordCall.effective (call : RecordCall) : List QuotaPolicy :=
  effectivePolicies featureEnabled call.scan call.policies call.caller

/-- The call counts for `p` in the bucket of `now`: it falls in that bucket and is metered by
    the counter of `p`. -/
def RecordCall.CountsFor (p : QuotaPolicy) (now : DateTime) (call : RecordCall) : Prop :=
  p.SameBucket call.now now ∧ ∃ q ∈ call.effective featureEnabled, q.SharesCounter p

instance (p : QuotaPolicy) (now : DateTime) (call : RecordCall) :
    Decidable (call.CountsFor featureEnabled p now) :=
  inferInstanceAs (Decidable (_ ∧ _))

/-- The counters after a sequence of calls. -/
def recordAll (redis : Redis) (calls : List RecordCall) : Redis :=
  calls.foldl (fun redis call =>
    recordCounters featureEnabled call.scan call.policies redis call.now call.caller call.usage) redis

/-- What the calls recorded against `p` in the bucket of `now`. -/
def recorded (p : QuotaPolicy) (now : DateTime) (calls : List RecordCall) : ℚ :=
  ((calls.filter (·.CountsFor featureEnabled p now)).map
    fun call => metricValue call.usage p.metric).sum

variable {featureEnabled}

/-- One more call. -/
theorem recorded_cons (p : QuotaPolicy) (now : DateTime) (call : RecordCall)
    (calls : List RecordCall) :
    recorded featureEnabled p now (call :: calls) =
      (if call.CountsFor featureEnabled p now then metricValue call.usage p.metric else 0) +
        recorded featureEnabled p now calls := by
  unfold recorded
  by_cases hcounts : call.CountsFor featureEnabled p now
  · simp [hcounts]
  · simp [hcounts]

/-- One call of `record_usage`. -/
theorem Holds.recordCounters {redis : Redis} {p : QuotaPolicy} {now : DateTime} {v : ℚ}
    (call : RecordCall) (h : Holds redis p now v)
    (hwindow : ∀ q ∈ call.effective featureEnabled, q.SharesCounter p →
      q.SameWindows p) :
    Holds (QuotaService.recordCounters featureEnabled call.scan call.policies redis call.now call.caller
        call.usage) p now
      (v + if call.CountsFor featureEnabled p now then metricValue call.usage p.metric
        else 0) := by
  have hsum := sum_increment p now call.now call.usage
    (nodup_kinds_effective featureEnabled call.scan call.policies call.caller)
  have hfold := h.recordPolicies (t := call.now) call.usage hwindow
  rw [RecordCall.effective, hsum] at hfold
  exact hfold

/-- A sequence of calls. -/
theorem Holds.recordAll {redis : Redis} {p : QuotaPolicy} {now : DateTime} {v : ℚ}
    (calls : List RecordCall) (h : Holds redis p now v)
    (hwindow : ∀ call ∈ calls, ∀ q ∈ call.effective featureEnabled, q.SharesCounter p →
      q.SameWindows p) :
    Holds (QuotaService.recordAll featureEnabled redis calls) p now
      (v + recorded featureEnabled p now calls) := by
  induction calls generalizing redis v with
  | nil =>
    show Holds redis p now (v + 0)
    rw [add_zero]
    exact h
  | cons call calls ih =>
    have hcall := h.recordCounters call (hwindow call List.mem_cons_self)
    have hcalls := ih hcall fun call' hcall' => hwindow call' (List.mem_cons_of_mem call hcall')
    rw [recorded_cons, ← add_assoc]
    exact hcalls

/-- The value read for a policy is the sum recorded against it in the current bucket. -/
theorem current_recordAll {p : QuotaPolicy} {now : DateTime} (calls : List RecordCall)
    (hwindow : ∀ call ∈ calls, ∀ q ∈ call.effective featureEnabled, q.SharesCounter p →
      q.SameWindows p) :
    current (QuotaService.recordAll featureEnabled Redis.empty calls) now p =
      recorded featureEnabled p now calls := by
  have hholds := (holds_empty p now).recordAll calls hwindow
  rw [zero_add] at hholds
  exact hholds.current

end Calls

/-! ## The check -/

/-- The check passes when no policy is exceeded. -/
theorem checkPolicies_eq_ok_iff (redis : Redis) (now : DateTime) (ps : List QuotaPolicy) :
    checkPolicies redis now ps = .ok () ↔ ∀ p ∈ ps, exceeded redis now p = false := by
  induction ps with
  | nil => simp [checkPolicies]
  | cons p ps ih =>
    rw [checkPolicies, List.forall_mem_cons]
    cases hp : exceeded redis now p with
    | true => simp
    | false =>
      rw [if_neg (by simp), ih]
      exact ⟨fun h => ⟨rfl, h⟩, fun h => h.2⟩

/-- The details of the error tell which kind of policy raised it. -/
theorem kind_eq_of_details_eq {redis : Redis} {now : DateTime} {p q : QuotaPolicy}
    (h : exceededDetails redis now p = exceededDetails redis now q) : p.kind = q.kind := by
  simp only [exceededDetails, QuotaDetails.mk.injEq] at h
  rw [QuotaPolicy.kind, QuotaPolicy.kind, QuotaMetric.value_inj h.2.2.1,
    QuotaPeriod.value_inj h.2.2.2.1]

/-- The check raises because of a policy when that policy is the first exceeded one. -/
theorem checkPolicies_eq_error_iff (redis : Redis) (now : DateTime) {ps : List QuotaPolicy}
    {p : QuotaPolicy} (hp : p ∈ ps) (hkinds : (ps.map QuotaPolicy.kind).Nodup) :
    checkPolicies redis now ps = .error (.quotaExceeded (exceededDetails redis now p)) ↔
      (∀ q ∈ ps.takeWhile (· ≠ p), exceeded redis now q = false) ∧
        exceeded redis now p = true := by
  induction ps with
  | nil => cases hp
  | cons a ps ih =>
    rw [List.map_cons, List.nodup_cons] at hkinds
    rw [checkPolicies]
    by_cases hap : a = p
    · subst hap
      cases ha : exceeded redis now a with
      | true => simp
      | false =>
        -- Past `a`, only policies of other kinds are left to raise.
        have hrest : checkPolicies redis now ps ≠
            .error (.quotaExceeded (exceededDetails redis now a)) := by
          intro hraise
          have hmem : ∃ q ∈ ps, q.kind = a.kind := by
            clear ih hp hkinds
            induction ps with
            | nil => cases hraise
            | cons b ps ihb =>
              rw [checkPolicies] at hraise
              split at hraise
              · simp only [Except.error.injEq, PyError.quotaExceeded.injEq] at hraise
                exact ⟨b, List.mem_cons_self, kind_eq_of_details_eq hraise⟩
              · obtain ⟨q, hq, hkind⟩ := ihb hraise
                exact ⟨q, List.mem_cons_of_mem b hq, hkind⟩
          obtain ⟨q, hq, hkind⟩ := hmem
          exact hkinds.1 (hkind ▸ List.mem_map_of_mem hq)
        rw [if_neg (by simp)]
        simp [hrest]
    · have hmem : p ∈ ps := (List.mem_cons.mp hp).resolve_left (Ne.symm hap)
      have hkind : a.kind ≠ p.kind := fun h => hkinds.1 (h ▸ List.mem_map_of_mem hmem)
      rw [List.takeWhile_cons_of_pos (by simpa using hap), List.forall_mem_cons]
      cases ha : exceeded redis now a with
      | true =>
        rw [if_pos rfl]
        constructor
        · intro h
          simp only [Except.error.injEq, PyError.quotaExceeded.injEq] at h
          exact absurd (kind_eq_of_details_eq h) hkind
        · intro h
          cases h.1.1
      | false =>
        rw [if_neg (by simp), ih hmem hkinds.2]
        simp

end QuotaService

end AgnoRuntime
