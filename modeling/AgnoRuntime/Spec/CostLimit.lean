import AgnoRuntime.Spec.QuotaCounters
import Mathlib.Tactic.Linarith

/-!
# Cost limits

A COST_USD policy's `limit_value` is documented as an amount in cents, and
`assert_within_quota` compares it with a counter that `record_usage` feeds with
US dollars. So the policy raises a hundred times too late, unless what was
recorded is over the limit or under it in both units.
-/

namespace AgnoRuntime

open Civil

namespace QuotaService

/-- `assert_within_quota` raises because of the policy. -/
def RaisesBecauseOf (featureEnabled : Bool) (scan : ScanOrder QuotaPolicy)
    (policies : KeyedTable QuotaPolicy.id) (redis : Redis) (now : DateTime) (caller : Caller)
    (p : QuotaPolicy) : Prop :=
  assertWithinQuota featureEnabled scan policies redis now caller =
    .error (.quotaExceeded (exceededDetails redis now p))

instance (featureEnabled : Bool) (scan : ScanOrder QuotaPolicy)
    (policies : KeyedTable QuotaPolicy.id) (redis : Redis) (now : DateTime) (caller : Caller)
    (p : QuotaPolicy) :
    Decidable (RaisesBecauseOf featureEnabled scan policies redis now caller p) :=
  inferInstanceAs (Decidable (_ = _))

/-- The effective policies that are checked before `p`. -/
def checkedBefore (featureEnabled : Bool) (scan : ScanOrder QuotaPolicy)
    (policies : KeyedTable QuotaPolicy.id) (caller : Caller) (p : QuotaPolicy) :
    List QuotaPolicy :=
  (effectivePolicies featureEnabled scan policies caller).takeWhile (· ≠ p)

/-- Every counter the calls moved that the caller's policies read was kept in windows of the
    length they read it with. -/
def OneWindowLength (featureEnabled : Bool) (calls : List RecordCall)
    (effective : List QuotaPolicy) : Prop :=
  ∀ p ∈ effective, ∀ call ∈ calls, ∀ q ∈ call.effective featureEnabled,
    q.SharesCounter p → q.SameWindows p

instance (featureEnabled : Bool) (calls : List RecordCall) (effective : List QuotaPolicy) :
    Decidable (OneWindowLength featureEnabled calls effective) :=
  inferInstanceAs (Decidable (∀ p ∈ effective, ∀ call ∈ calls,
    ∀ q ∈ call.effective featureEnabled, q.SharesCounter p → q.SameWindows p))

/-- An amount in dollars that reaches the limit reaches it in cents as well. -/
private theorem cents_of_dollars {limit : Nat} {sum : ℚ} (h : (limit : ℚ) ≤ sum) :
    (limit : ℚ) ≤ 100 * sum := by
  have hlimit : (0 : ℚ) ≤ limit := Nat.cast_nonneg limit
  linarith

/-- A policy is exceeded when the sum recorded against it has reached the limit. -/
theorem exceeded_iff_recorded {featureEnabled : Bool} {calls : List RecordCall}
    {effective : List QuotaPolicy} (hwindow : OneWindowLength featureEnabled calls effective)
    (now : DateTime) {p : QuotaPolicy} (hp : p ∈ effective) :
    exceeded (recordAll featureEnabled Redis.empty calls) now p = true ↔
      (p.limitValue : ℚ) ≤ recorded featureEnabled p now calls := by
  rw [exceeded, decide_eq_true_iff, current_recordAll calls (hwindow p hp)]

/-- The dollars the calls recorded against `p` in the bucket of `now`. -/
def recordedCost (featureEnabled : Bool) (p : QuotaPolicy) (now : DateTime)
    (calls : List RecordCall) : ℚ :=
  ((calls.filter (·.CountsFor featureEnabled p now)).map (·.usage.costUsd.getD 0)).sum

/-- What is recorded against a COST_USD policy are dollars. -/
theorem recorded_eq_recordedCost {featureEnabled : Bool} {p : QuotaPolicy}
    (hcost : p.metric = .costUsd) (now : DateTime) (calls : List RecordCall) :
    recorded featureEnabled p now calls = recordedCost featureEnabled p now calls := by
  rw [recorded, hcost]
  rfl

/-- When `assert_within_quota` treats a COST_USD policy as the documented amount in cents: with
    an exceeded policy before it, while less than the limit was recorded in cents; otherwise,
    unless the limit was reached in cents but not in dollars. -/
theorem raises_at_cents_iff {featureEnabled : Bool} {scan : ScanOrder QuotaPolicy}
    {policies : KeyedTable QuotaPolicy.id} {calls : List RecordCall} {now : DateTime}
    {caller : Caller} {p : QuotaPolicy} (hcost : p.metric = .costUsd)
    (hp : p ∈ effectivePolicies featureEnabled scan policies caller)
    (hwindow : OneWindowLength featureEnabled calls
      (effectivePolicies featureEnabled scan policies caller)) :
    (RaisesBecauseOf featureEnabled scan policies (recordAll featureEnabled Redis.empty calls) now
        caller p ↔ (p.limitValue : ℚ) ≤ 100 * recordedCost featureEnabled p now calls) ↔
      if ∃ q ∈ checkedBefore featureEnabled scan policies caller p,
          (q.limitValue : ℚ) ≤ recorded featureEnabled q now calls then
        100 * recordedCost featureEnabled p now calls < p.limitValue
      else ¬ ((p.limitValue : ℚ) ≤ 100 * recordedCost featureEnabled p now calls ∧
        recordedCost featureEnabled p now calls < p.limitValue) := by
  rw [← recorded_eq_recordedCost hcost]
  have hraise := checkPolicies_eq_error_iff (recordAll featureEnabled Redis.empty calls) now hp
    (nodup_kinds_effective featureEnabled scan policies caller)
  have hbefore : (∀ q ∈ (effectivePolicies featureEnabled scan policies caller).takeWhile (· ≠ p),
      exceeded (recordAll featureEnabled Redis.empty calls) now q = false) ↔
      ¬ ∃ q ∈ checkedBefore featureEnabled scan policies caller p,
        (q.limitValue : ℚ) ≤ recorded featureEnabled q now calls := by
    rw [not_exists]
    refine forall_congr' fun q => ?_
    rw [not_and]
    refine imp_congr_right fun hq => ?_
    have hmem := (List.takeWhile_sublist _).subset hq
    rw [← exceeded_iff_recorded hwindow now hmem, Bool.not_eq_true]
  rw [RaisesBecauseOf, assertWithinQuota, hraise, hbefore, exceeded_iff_recorded hwindow now hp]
  by_cases hearlier : ∃ q ∈ checkedBefore featureEnabled scan policies caller p,
      (q.limitValue : ℚ) ≤ recorded featureEnabled q now calls
  · -- Another policy raises first.
    rw [if_pos hearlier]
    simp only [hearlier, not_true, false_and, false_iff, not_le]
  · rw [if_neg hearlier]
    simp only [hearlier, not_false_eq_true, true_and]
    constructor
    · intro hiff hboth
      exact absurd (hiff.mpr hboth.1) (not_le.mpr hboth.2)
    · intro hnot
      constructor
      · exact cents_of_dollars
      · intro hcents
        by_contra hdollars
        exact hnot ⟨hcents, not_le.mp hdollars⟩

/-! ## A dollar's worth of quota -/

namespace DollarLimit

/-- The instant of the example. -/
def morning : DateTime := .startOfMarch2026

/-- The scope of the example names its user. -/
private theorem dollarLimit_given : QuotaScopeType.user = .global ∨ "alice" ≠ "" := by decide

/-- A limit of 100 cents a day for `alice`. -/
def policy : QuotaPolicy where
  id := 1
  scopeType := .user
  scopeValue := "alice"
  modelId := none
  metric := .costUsd
  period := .daily
  windowSeconds := none
  limitValue := 100
  priority := 0
  enabled := true
  deletedAt := none
  scopeValueGiven := dollarLimit_given

/-- The policies stored. -/
def policies : KeyedTable QuotaPolicy.id := ⟨[policy], by decide⟩

/-- The caller. -/
def alice : Caller := ⟨some "alice", [], none⟩

/-- A turn of alice's that cost so many dollars. -/
def turn (dollars : ℚ) : RecordCall := ⟨policies, .stored, morning, alice, ⟨0, 0, some dollars⟩⟩

end DollarLimit

open DollarLimit in
/-- Half a dollar is under the limit in both units. -/
theorem raises_at_cents_iff_example :
    RaisesBecauseOf true .stored policies (recordAll true Redis.empty [turn (1 / 2)]) morning alice
        policy ↔ (policy.limitValue : ℚ) ≤ 100 * recordedCost true policy morning [turn (1 / 2)] :=
  (raises_at_cents_iff (by decide) (by decide) (by decide)).mpr (by decide +kernel)

open DollarLimit in
/-- After a turn of two dollars, 200 cents, the limit of 100 cents does not raise. -/
theorem cost_limit_not_in_cents :
    policy ∈ effectivePolicies true .stored policies alice ∧
      ¬ (RaisesBecauseOf true .stored policies (recordAll true Redis.empty [turn 2]) morning alice
        policy ↔ (policy.limitValue : ℚ) ≤ 100 * recordedCost true policy morning [turn 2]) := by
  decide +kernel

end QuotaService

end AgnoRuntime
