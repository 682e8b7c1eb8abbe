import AgnoRuntime.Model.Quota
import Mathlib.Algebra.Order.Floor.Semifield
import Mathlib.Data.Rat.Floor

/-!
# Labels and keys of the quota counters

`_period_bucket` gives two instants one label when they fall in one bucket, and a
time to live that outlasts it. `_policy_key` joins its arguments with colons; as a
label has none, the key can be read back from both ends, whatever the scope value.

## Key results

- `periodBucket_label_eq_iff`: equal labels are equal buckets
- `lt_expiry_of_sameBucket`: a counter outlives the bucket it was incremented in
- `policyKey_fields_inj`: a key determines what it is made of
- `QuotaPolicy.counterKey_eq_iff`: equal keys are the same counter in the same bucket
-/

namespace AgnoRuntime

open Civil Separated

/-! ## Labels -/

private theorem digitChar_ne (c : Char) (hc : c = ':' ∨ c = '-') :
    ∀ n, n < 10 → Nat.digitChar n ≠ c := by
  rcases hc with rfl | rfl <;> decide

private theorem digitChar_inj : ∀ m, m < 10 → ∀ n, n < 10 →
    Nat.digitChar m = Nat.digitChar n → m = n := by
  decide

/-- A number of two digits has neither colon nor dash. -/
theorem free_twoDigits {c : Char} (hc : c = ':' ∨ c = '-') {n : Nat} (hn : n < 100) :
    Free c (twoDigits n) := by
  rw [Free, twoDigits, String.toList_ofList]
  intro hmem
  rcases List.mem_cons.mp hmem with htens | hunits
  · exact digitChar_ne c hc _ (by omega) htens.symm
  · exact digitChar_ne c hc _ (by omega) (List.mem_singleton.mp hunits).symm

/-- Two digits determine the number. -/
theorem twoDigits_inj {m n : Nat} (hm : m < 100) (hn : n < 100)
    (h : twoDigits m = twoDigits n) : m = n := by
  have hlist := congrArg String.toList h
  simp only [twoDigits, String.toList_ofList, List.cons.injEq, and_true] at hlist
  have htens := digitChar_inj _ (by omega) _ (by omega) hlist.1
  have hunits := digitChar_inj _ (by omega) _ (by omega) hlist.2
  omega

private theorem month_lt (d : Date) : d.month < 100 := by
  have := d.monthMem
  omega

private theorem day_lt (d : Date) : d.day < 100 := by
  have hday := d.dayMem.2
  have hlen : daysInMonth d.year d.month ≤ 31 := by
    unfold daysInMonth
    split
    · split <;> omega
    all_goals omega
  omega

private theorem yearMonth_inj {d d' : Date}
    (h : toString d.year ++ "-" ++ twoDigits d.month = toString d'.year ++ "-" ++ twoDigits d'.month) :
    d.year = d'.year ∧ d.month = d'.month := by
  obtain ⟨hyear, hmonth⟩ := join_inj_last (c := '-') rfl (free_twoDigits (Or.inr rfl) (month_lt d))
    (free_twoDigits (Or.inr rfl) (month_lt d')) h
  exact ⟨Nat.repr_inj.mp hyear, twoDigits_inj (month_lt d) (month_lt d') hmonth⟩

/-! ## Buckets -/

/-- Two instants fall in one bucket of a period: the same day, the same month or the same
    window. -/
def QuotaPeriod.SameBucket (window : Nat) (t t' : DateTime) : QuotaPeriod → Prop
  | .daily => t.date = t'.date
  | .monthly => t.date.year = t'.date.year ∧ t.date.month = t'.date.month
  | .fixedWindow => t.timestamp / window = t'.timestamp / window

instance (window : Nat) (t t' : DateTime) :
    (period : QuotaPeriod) → Decidable (period.SameBucket window t t')
  | .daily => inferInstanceAs (Decidable (t.date = t'.date))
  | .monthly =>
    inferInstanceAs (Decidable (t.date.year = t'.date.year ∧ t.date.month = t'.date.month))
  | .fixedWindow => inferInstanceAs (Decidable (t.timestamp / window = t'.timestamp / window))

section Buckets

variable {period : QuotaPeriod} {windowSeconds : Option Nat}

/-- Equal labels are equal buckets. -/
theorem periodBucket_label_eq_iff (period : QuotaPeriod) (windowSeconds : Option Nat)
    (t t' : DateTime) :
    (periodBucket period windowSeconds t).1 = (periodBucket period windowSeconds t').1 ↔
      period.SameBucket (windowOf windowSeconds) t t' := by
  cases period with
  | daily =>
    constructor
    · intro h
      -- the text splits at its last dash, so both parts can be read back
      obtain ⟨hmonth, hday⟩ := join_inj_last (c := '-') rfl
        (free_twoDigits (Or.inr rfl) (day_lt t.date)) (free_twoDigits (Or.inr rfl) (day_lt t'.date)) h
      obtain ⟨hyear, hmonth⟩ := yearMonth_inj hmonth
      have hday := twoDigits_inj (day_lt t.date) (day_lt t'.date) hday
      exact Date.eq_of_fields hyear hmonth hday
    · intro h
      have hdate : t.date = t'.date := h
      simp only [periodBucket, hdate]
  | monthly =>
    constructor
    · intro h
      exact yearMonth_inj h
    · intro h
      obtain ⟨hyear, hmonth⟩ : t.date.year = t'.date.year ∧ t.date.month = t'.date.month := h
      simp only [periodBucket, hyear, hmonth]
  | fixedWindow =>
    constructor
    · intro h
      exact Int.repr_inj.mp h
    · intro h
      have hindex : t.timestamp / windowOf windowSeconds = t'.timestamp / windowOf windowSeconds := h
      simp only [periodBucket, hindex]

/-- A label has no colon. -/
theorem free_periodBucket_label (period : QuotaPeriod) (windowSeconds : Option Nat)
    (t : DateTime) : Free ':' (periodBucket period windowSeconds t).1 := by
  have hyear : Free ':' (toString t.date.year) := free_natRepr (by decide) _
  have hmonth := free_twoDigits (c := ':') (Or.inl rfl) (month_lt t.date)
  have hday := free_twoDigits (c := ':') (Or.inl rfl) (day_lt t.date)
  have hdash : Free ':' "-" := by decide
  cases period with
  | daily => exact (((hyear.append hdash).append hmonth).append hdash).append hday
  | monthly => exact (hyear.append hdash).append hmonth
  | fixedWindow => exact free_intRepr (by decide) (by decide) _

private theorem windowOf_pos (windowSeconds : Option Nat) : 0 < windowOf windowSeconds := by
  unfold windowOf
  split
  · split <;> omega
  · omega

private theorem secondsUntil_lt {now t e : DateTime} (h : t.micros < e.micros) :
    t.micros < now.micros + secondsUntil now e * 1000000 := by
  simp only [secondsUntil]
  omega

/-- Two instants of one window are less than its length apart. -/
private theorem timestamp_lt_of_sameWindow {now t : DateTime} {window : Int} (hpos : 0 < window)
    (h : now.timestamp / window = t.timestamp / window) :
    t.timestamp < now.timestamp + window := by
  have hnow := Int.emod_nonneg now.timestamp (Int.ne_of_gt hpos)
  have ht := Int.emod_lt_of_pos t.timestamp hpos
  have hsplit := Int.mul_ediv_add_emod now.timestamp window
  have hsplit' := Int.mul_ediv_add_emod t.timestamp window
  rw [h] at hsplit
  omega

/-- The time to live given at one instant of a bucket lasts beyond every instant of it. -/
theorem lt_expiry_of_sameBucket {now t : DateTime}
    (h : period.SameBucket (windowOf windowSeconds) now t) :
    t.micros < now.micros + (periodBucket period windowSeconds now).2 * 1000000 := by
  -- The key expires at the end of the day or month, or a minute after the window.
  cases period with
  | daily =>
    have hdate : now.date = t.date := h
    have hday := Date.toOrdinal_nextDay now.date
    exact secondsUntil_lt (DateTime.micros_lt_midnight (by rw [hday, hdate]; omega))
  | monthly =>
    obtain ⟨hyear, hmonth⟩ := h
    exact secondsUntil_lt (DateTime.micros_lt_midnight
      (Date.toOrdinal_lt_of_sameMonth hyear.symm hmonth.symm))
  | fixedWindow =>
    have hpos : 0 < (windowOf windowSeconds : Int) :=
      Int.natCast_pos.mpr (windowOf_pos windowSeconds)
    have hlt := timestamp_lt_of_sameWindow hpos h
    have hnow := DateTime.timestamp_le_micros now
    have ht := DateTime.timestamp_le_micros t
    have httl : (periodBucket .fixedWindow windowSeconds now).2 =
      (windowOf windowSeconds : Int) + 60 := rfl
    rw [httl]
    omega

/-- Seconds since the epoch, fractions included. -/
def epochSeconds (t : DateTime) : ℚ := t.micros / 1000000

/-- The fraction of a second does not move an instant to another window. -/
theorem floor_epochSeconds_div (t : DateTime) (window : Nat) :
    ⌊epochSeconds t / window⌋ = t.timestamp / window := by
  have hwhole : t.micros / 1000000 = t.timestamp := by
    have := DateTime.timestamp_le_micros t
    omega
  have hscale : epochSeconds t / window = (t.micros : ℚ) / ((1000000 * window : Nat) : ℚ) := by
    rw [epochSeconds, div_div]
    push_cast
    rfl
  have hsplit : t.micros / 1000000 / window = t.micros / (1000000 * window) :=
    Int.ediv_ediv_of_nonneg (by decide)
  rw [hscale, Rat.floor_intCast_div_natCast, Nat.cast_mul, ← hwhole, hsplit]
  rfl

/-- Two instants fall in the same UTC day, in the same UTC month, or their epoch seconds over
    the window have the same floor. -/
def QuotaPeriod.SamePeriod (window : Nat) (t t' : DateTime) : QuotaPeriod → Prop
  | .daily => t.date = t'.date
  | .monthly => t.date.year = t'.date.year ∧ t.date.month = t'.date.month
  | .fixedWindow => ⌊epochSeconds t / window⌋ = ⌊epochSeconds t' / window⌋

/-- The buckets are the periods of the exact instants. -/
theorem QuotaPeriod.samePeriod_iff (period : QuotaPeriod) (window : Nat) (t t' : DateTime) :
    period.SamePeriod window t t' ↔ period.SameBucket window t t' := by
  cases period with
  | daily => exact Iff.rfl
  | monthly => exact Iff.rfl
  | fixedWindow =>
    rw [SamePeriod, floor_epochSeconds_div, floor_epochSeconds_div]
    exact Iff.rfl

/-- A counter reads the same until the time to live it was given is over. -/
theorem Redis.get_expire (redis : Redis) {clock t : DateTime} (key : String) {ttl : Int}
    (h : t.micros < clock.micros + ttl * 1000000) :
    (redis.expire clock key ttl).get t key = redis.get clock key := by
  have hset : redis.expire clock key ttl key = (redis.alive clock key).map fun c =>
    { c with expiresAt := some (clock.micros + ttl * 1000000) } := if_pos rfl
  rw [Redis.get, Redis.get, Redis.alive, hset]
  cases redis.alive clock key with
  | none => rfl
  | some c =>
    simp only [Option.map_some, Option.filter_some, Option.all_some, h, decide_true, if_true]

/-- The label tells the periods apart, and the time to live outlasts the period: a counter whose
    expiry is set with it is there at every instant of the period, as it was. -/
theorem periodBucket_label_and_ttl (period : QuotaPeriod) (windowSeconds : Option Nat)
    (now t : DateTime) :
    ((periodBucket period windowSeconds now).1 = (periodBucket period windowSeconds t).1 ↔
      period.SamePeriod (windowOf windowSeconds) now t) ∧
    ((periodBucket period windowSeconds now).1 = (periodBucket period windowSeconds t).1 →
      t.micros < now.micros + (periodBucket period windowSeconds now).2 * 1000000 ∧
      -- the command runs at `clock`, after `now` was read
      ∀ (redis : Redis) (key : String) (clock : DateTime), now.micros ≤ clock.micros →
        (redis.expire clock key (periodBucket period windowSeconds now).2).get t key =
          redis.get clock key) := by
  constructor
  · rw [periodBucket_label_eq_iff, QuotaPeriod.samePeriod_iff]
  · intro hlabel
    have hlast := lt_expiry_of_sameBucket ((periodBucket_label_eq_iff period windowSeconds now t).mp
      hlabel)
    refine ⟨hlast, ?_⟩
    intro redis key clock hclock
    exact redis.get_expire key (by omega)

example : periodBucket .monthly none .startOfMarch2026 = ("2026-03", 31 * 86400 + 60) := by
  decide +kernel

end Buckets

namespace QuotaPolicy

/-- Two instants fall in one bucket of a policy. -/
def SameBucket (p : QuotaPolicy) (t t' : DateTime) : Prop := p.period.SameBucket p.window t t'

instance (p : QuotaPolicy) (t t' : DateTime) : Decidable (p.SameBucket t t') :=
  inferInstanceAs (Decidable (p.period.SameBucket p.window t t'))

/-- Equal labels are equal buckets. -/
theorem bucket_eq_iff (p : QuotaPolicy) (t t' : DateTime) :
    p.bucket t = p.bucket t' ↔ p.SameBucket t t' :=
  periodBucket_label_eq_iff p.period p.windowSeconds t t'

/-- An instant is in its own bucket. -/
theorem SameBucket.refl (p : QuotaPolicy) (t : DateTime) : p.SameBucket t t :=
  (bucket_eq_iff p t t).mp rfl

/-- Being in one bucket is symmetric. -/
theorem SameBucket.symm {p : QuotaPolicy} {t t' : DateTime} (h : p.SameBucket t t') :
    p.SameBucket t' t := by
  rw [← bucket_eq_iff] at h ⊢
  exact h.symm

/-- Being in one bucket is transitive. -/
theorem SameBucket.trans {p : QuotaPolicy} {t t' t'' : DateTime} (h : p.SameBucket t t')
    (h' : p.SameBucket t' t'') : p.SameBucket t t'' := by
  rw [← bucket_eq_iff] at h h' ⊢
  exact Eq.trans h h'

/-- A label has no colon. -/
theorem free_bucket (p : QuotaPolicy) (t : DateTime) : Free ':' (p.bucket t) :=
  free_periodBucket_label p.period p.windowSeconds t

/-- A counter outlives the bucket it was incremented in. -/
theorem lt_expiry_of_sameBucket {p : QuotaPolicy} {now t : DateTime} (h : p.SameBucket now t) :
    t.micros < now.micros + p.ttl now * 1000000 :=
  AgnoRuntime.lt_expiry_of_sameBucket h

/-! ## Keys -/

/-- The policies that are metered by one counter. -/
structure SharesCounter (q p : QuotaPolicy) : Prop where
  scopeType : q.scopeType = p.scopeType
  scopeValue : q.scopeValue = p.scopeValue
  modelId : q.modelId = p.modelId
  metric : q.metric = p.metric
  period : q.period = p.period

instance (q p : QuotaPolicy) : Decidable (q.SharesCounter p) :=
  decidable_of_iff (q.scopeType = p.scopeType ∧ q.scopeValue = p.scopeValue ∧
      q.modelId = p.modelId ∧ q.metric = p.metric ∧ q.period = p.period)
    ⟨fun h => ⟨h.1, h.2.1, h.2.2.1, h.2.2.2.1, h.2.2.2.2⟩,
      fun h => ⟨h.scopeType, h.scopeValue, h.modelId, h.metric, h.period⟩⟩

/-- A policy is metered by its own counter. -/
theorem SharesCounter.refl (p : QuotaPolicy) : p.SharesCounter p := ⟨rfl, rfl, rfl, rfl, rfl⟩

/-- Sharing a counter with one of two policies that share theirs is sharing it with both. -/
theorem SharesCounter.trans {r q p : QuotaPolicy} (hrq : r.SharesCounter q)
    (hqp : q.SharesCounter p) : r.SharesCounter p :=
  ⟨hrq.scopeType.trans hqp.scopeType, hrq.scopeValue.trans hqp.scopeValue,
    hrq.modelId.trans hqp.modelId, hrq.metric.trans hqp.metric, hrq.period.trans hqp.period⟩

/-- `SharesCounter.symm`: the two policies may change places. -/
theorem SharesCounter.symm {q p : QuotaPolicy} (h : q.SharesCounter p) : p.SharesCounter q :=
  ⟨h.scopeType.symm, h.scopeValue.symm, h.modelId.symm, h.metric.symm, h.period.symm⟩

/-- Policies of one counter are of one kind. -/
theorem SharesCounter.kind_eq {q p : QuotaPolicy} (h : q.SharesCounter p) : q.kind = p.kind := by
  rw [kind, kind, h.metric, h.period]

end QuotaPolicy

private theorem scopeTypeValue_inj {s s' : QuotaScopeType} (h : s.value = s'.value) : s = s' := by
  revert h
  cases s <;> cases s' <;> decide

/-- A metric is determined by its text. -/
theorem QuotaMetric.value_inj {m m' : QuotaMetric} (h : m.value = m'.value) : m = m' := by
  revert h
  cases m <;> cases m' <;> decide

/-- A period is determined by its text. -/
theorem QuotaPeriod.value_inj {p p' : QuotaPeriod} (h : p.value = p'.value) : p = p' := by
  revert h
  cases p <;> cases p' <;> decide

private theorem free_modelPart (modelId : Option Uuid) : Free ':' (modelPart modelId) := by
  cases modelId with
  | none => decide
  | some id => exact UuidText.free_text (by decide) (by decide) id

/-- The model part tells all models from one, and one from another. -/
private theorem modelPart_inj {m m' : Option Uuid} (h : modelPart m = modelPart m') : m = m' := by
  have hany : ∀ id : Nat, UuidText.text id ≠ "any" := by
    intro id heq
    -- the text of a UUID has no `n`
    have hfree : Free 'n' (UuidText.text id) := UuidText.free_text (by decide) (by decide) id
    rw [heq] at hfree
    exact absurd hfree (by decide)
  cases m with
  | none =>
    cases m' with
    | none => rfl
    | some id => exact absurd h.symm (hany id)
  | some id =>
    cases m' with
    | none => exact absurd h (hany id)
    | some id' => exact congrArg some (UuidText.text_inj h)

/-- A counter's key determines everything it is made of, as long as the labels have no colon;
    the scope value may have some. -/
theorem policyKey_fields_inj {s s' : QuotaScopeType} {v v' : String} {m m' : Option Uuid}
    {metric metric' : QuotaMetric} {period period' : QuotaPeriod} {b b' : String}
    (hb : Free ':' b) (hb' : Free ':' b')
    (h : policyKey s v m metric period b = policyKey s' v' m' metric' period' b') :
    s = s' ∧ v = v' ∧ m = m' ∧ metric = metric' ∧ period = period' ∧ b = b' := by
  have hmetric : ∀ x : QuotaMetric, Free ':' x.value := by
    intro x
    cases x <;> decide
  have hperiod : ∀ x : QuotaPeriod, Free ':' x.value := by
    intro x
    cases x <;> decide
  have hscope : ∀ x : QuotaScopeType, Free ':' x.value := by
    intro x
    cases x <;> decide
  -- The last four fields come off from the right, the scope type from the left.
  obtain ⟨h₁, hbucket⟩ := join_inj_last rfl hb hb' h
  obtain ⟨h₂, hp⟩ := join_inj_last rfl (hperiod period) (hperiod period') h₁
  obtain ⟨h₃, hm⟩ := join_inj_last rfl (hmetric metric) (hmetric metric') h₂
  obtain ⟨h₄, hmodel⟩ := join_inj_last rfl (free_modelPart m) (free_modelPart m') h₃
  have h₅ : s.value ++ ":" ++ v = s'.value ++ ":" ++ v' := by
    apply (String.append_right_inj "quota:usage:").mp
    rw [← String.append_assoc, ← String.append_assoc, ← String.append_assoc, ← String.append_assoc]
    exact h₄
  obtain ⟨hs, hv⟩ := join_inj_first rfl (hscope s) (hscope s') h₅
  exact ⟨scopeTypeValue_inj hs, hv, modelPart_inj hmodel, QuotaMetric.value_inj hm,
    QuotaPeriod.value_inj hp, hbucket⟩

/-- A label that `_period_bucket` gives. -/
def BucketLabel : Type :=
  { label : String // ∃ period windowSeconds now,
    (periodBucket period windowSeconds now).1 = label }

/-- A label has no colon. -/
theorem BucketLabel.free (b : BucketLabel) : Free ':' b.val := by
  obtain ⟨period, windowSeconds, now, hlabel⟩ := b.property
  rw [← hlabel]
  exact free_periodBucket_label period windowSeconds now

/-- What `_policy_key` is called with. -/
structure CounterName where
  scopeType : QuotaScopeType
  scopeValue : String
  modelId : Option Uuid
  metric : QuotaMetric
  period : QuotaPeriod
  bucket : BucketLabel

/-- The key of the counter with this name. -/
def CounterName.key (n : CounterName) : String :=
  policyKey n.scopeType n.scopeValue n.modelId n.metric n.period n.bucket.val

/-- A key determines the name. -/
theorem CounterName.eq_of_key_eq {n n' : CounterName} (h : n.key = n'.key) : n = n' := by
  obtain ⟨hscope, hvalue, hmodel, hmetric, hperiod, hbucket⟩ :=
    policyKey_fields_inj n.bucket.free n'.bucket.free h
  cases n
  cases n'
  simp only at hscope hvalue hmodel hmetric hperiod hbucket
  obtain rfl := Subtype.ext hbucket
  subst hscope hvalue hmodel hmetric hperiod
  rfl

namespace QuotaPolicy

/-- Equal keys are the same counter with the same label. -/
theorem counterKey_eq_iff (q p : QuotaPolicy) (t t' : DateTime) :
    q.counterKey t = p.counterKey t' ↔ q.SharesCounter p ∧ q.bucket t = p.bucket t' := by
  constructor
  · intro h
    obtain ⟨h1, h2, h3, h4, h5, h6⟩ := policyKey_fields_inj (free_bucket q t) (free_bucket p t') h
    exact ⟨⟨h1, h2, h3, h4, h5⟩, h6⟩
  · intro h
    obtain ⟨hshare, hbucket⟩ := h
    rw [counterKey, counterKey, hshare.scopeType, hshare.scopeValue, hshare.modelId, hshare.metric,
      hshare.period, hbucket]

/-- The name of the policy's counter at an instant. -/
def counterName (p : QuotaPolicy) (now : DateTime) : CounterName where
  scopeType := p.scopeType
  scopeValue := p.scopeValue
  modelId := p.modelId
  metric := p.metric
  period := p.period
  bucket := ⟨p.bucket now, p.period, p.windowSeconds, now, rfl⟩

end QuotaPolicy

/-- `_policy_key` is injective, so two policies meet in one counter only when they agree in scope,
    model, metric, period and label. -/
theorem policyKey_injective : Function.Injective CounterName.key ∧
    ∀ (q p : QuotaPolicy) (t t' : DateTime), q.counterKey t = p.counterKey t' →
      q.counterName t = p.counterName t' := by
  constructor
  · intro n n' h
    exact CounterName.eq_of_key_eq h
  · intro q p t t' h
    exact CounterName.eq_of_key_eq h

end AgnoRuntime
