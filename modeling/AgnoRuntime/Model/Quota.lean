import AgnoRuntime.Model.Base
import AgnoRuntime.ForStd.UuidText
import Mathlib.Data.Rat.Defs

/-!
# Quota policies and counters

`app/models/quota.py`, `app/repositories/quota_repository.py` and the metering
half of `app/services/quota_service.py`: which policies match a caller, which of
them are effective, the Redis counter of each, the check before a turn and the
increments after it.

Counters hold exact rationals. A Redis entry carries the instant it expires at,
in microseconds since the epoch.
-/

namespace AgnoRuntime

open Civil

/-- `QuotaScopeType`. -/
inductive QuotaScopeType where
  | global | group | user
deriving DecidableEq

/-- `QuotaScopeType.value`. -/
def QuotaScopeType.value : QuotaScopeType → String
  | .global => "GLOBAL"
  | .group => "GROUP"
  | .user => "USER"

/-- `QuotaPeriod`. -/
inductive QuotaPeriod where
  | daily | monthly | fixedWindow
deriving DecidableEq

/-- `QuotaPeriod.value`. -/
def QuotaPeriod.value : QuotaPeriod → String
  | .daily => "DAILY"
  | .monthly => "MONTHLY"
  | .fixedWindow => "FIXED_WINDOW"

/-- `QuotaMetric`. -/
inductive QuotaMetric where
  | requests | tokens | costUsd
deriving DecidableEq

/-- `QuotaMetric.value`. -/
def QuotaMetric.value : QuotaMetric → String
  | .requests => "REQUESTS"
  | .tokens => "TOKENS"
  | .costUsd => "COST_USD"

/-- `QuotaPolicy`. The schema admits only limits and windows that are not negative, and its
    `_validate_scope_value` wants a scope value unless the scope is GLOBAL. -/
structure QuotaPolicy where
  id : Uuid
  scopeType : QuotaScopeType
  scopeValue : String
  modelId : Option Uuid
  metric : QuotaMetric
  period : QuotaPeriod
  windowSeconds : Option Nat
  limitValue : Nat
  priority : Int
  enabled : Bool
  deletedAt : Option DateTime
  scopeValueGiven : scopeType = .global ∨ scopeValue ≠ ""
deriving DecidableEq

instance : SoftDelete QuotaPolicy := ⟨QuotaPolicy.deletedAt⟩

/-- `QuotaUsageEvent`, the audit row of one run. -/
structure QuotaUsageEvent where
  id : Uuid
  runId : Option Uuid
  userId : String
  groups : List String
  modelId : Option Uuid
  inputTokens : Int
  outputTokens : Int
  costUsd : Option ℚ
deriving DecidableEq

/-! ## Periods -/

/-- A number below 100 in two digits. -/
def twoDigits (n : Nat) : String := String.ofList [Nat.digitChar (n / 10), Nat.digitChar (n % 10)]

/-- `window_seconds or 3600`. -/
def windowOf (windowSeconds : Option Nat) : Nat :=
  match windowSeconds with
  | some w => if w = 0 then 3600 else w
  | none => 3600

/-- `int((end - now).total_seconds()) + 60`, at least 60. -/
def secondsUntil (now endOfPeriod : DateTime) : Int :=
  max ((endOfPeriod.micros - now.micros) / 1000000 + 60) 60

/-- `_period_bucket`: the label of the current bucket and the seconds its counter is kept. -/
def periodBucket (period : QuotaPeriod) (windowSeconds : Option Nat) (now : DateTime) :
    String × Int :=
  match period with
  | .daily =>
    (toString now.date.year ++ "-" ++ twoDigits now.date.month ++ "-" ++ twoDigits now.date.day,
      secondsUntil now (.midnight now.date.nextDay))
  | .monthly =>
    (toString now.date.year ++ "-" ++ twoDigits now.date.month,
      secondsUntil now (.midnight now.date.startOfNextMonth))
  | .fixedWindow =>
    let window := windowOf windowSeconds
    -- windows are counted from the epoch, whatever their policy
    (toString (now.timestamp / window), window + 60)

/-! ## Counters -/

/-- A counter in Redis; without an expiry it is kept. -/
structure RedisCounter where
  value : ℚ
  expiresAt : Option Int
deriving DecidableEq

/-- The counters by key. -/
abbrev Redis := String → Option RedisCounter

namespace Redis

/-- No counters. -/
def empty : Redis := fun _ => none

/-- The counter of a key that has not expired. -/
def alive (redis : Redis) (now : DateTime) (key : String) : Option RedisCounter :=
  (redis key).filter (fun c => c.expiresAt.all (fun t => now.micros < t))

/-- `GET`. -/
def get (redis : Redis) (now : DateTime) (key : String) : Option ℚ :=
  (redis.alive now key).map (·.value)

/-- `INCRBYFLOAT`: an absent counter starts at 0, without an expiry. -/
def incrByFloat (redis : Redis) (now : DateTime) (key : String) (delta : ℚ) : Redis := fun k =>
  if k = key then
    match redis.alive now key with
    | some c => some { c with value := c.value + delta }
    | none => some { value := delta, expiresAt := none }
  else redis k

/-- `EXPIRE`. -/
def expire (redis : Redis) (now : DateTime) (key : String) (ttl : Int) : Redis := fun k =>
  if k = key then
    (redis.alive now key).map fun c => { c with expiresAt := some (now.micros + ttl * 1000000) }
  else redis k

end Redis

/-- `str(model_id) if model_id else "any"`. -/
def modelPart (modelId : Option Uuid) : String :=
  match modelId with
  | some id => UuidText.text id
  | none => "any"

/-- `_policy_key`. -/
def policyKey (scopeType : QuotaScopeType) (scopeValue : String) (modelId : Option Uuid)
    (metric : QuotaMetric) (period : QuotaPeriod) (bucket : String) : String :=
  "quota:usage:" ++ scopeType.value ++ ":" ++ scopeValue ++ ":" ++ modelPart modelId ++ ":" ++
    metric.value ++ ":" ++ period.value ++ ":" ++ bucket

namespace QuotaPolicy

/-- The bucket label of the policy at an instant. -/
def bucket (p : QuotaPolicy) (now : DateTime) : String :=
  (periodBucket p.period p.windowSeconds now).1

/-- The seconds the policy's counter is kept after an increment. -/
def ttl (p : QuotaPolicy) (now : DateTime) : Int :=
  (periodBucket p.period p.windowSeconds now).2

/-- The key of the policy's counter at an instant. -/
def counterKey (p : QuotaPolicy) (now : DateTime) : String :=
  policyKey p.scopeType p.scopeValue p.modelId p.metric p.period (p.bucket now)

/-- The length of the policy's windows, in seconds. -/
def window (p : QuotaPolicy) : Nat := windowOf p.windowSeconds

/-- `(policy.metric, policy.period)`. -/
def kind (p : QuotaPolicy) : QuotaMetric × QuotaPeriod := (p.metric, p.period)

end QuotaPolicy

/-! ## Matching and effective policies -/

/-- `QuotaPolicyRepository.list_matching`. -/
def QuotaPolicyRepository.listMatching (scan : ScanOrder QuotaPolicy)
    (policies : KeyedTable QuotaPolicy.id) (userId : String) (groups : List String)
    (modelId : Option Uuid) : List QuotaPolicy :=
  scan.order (policies.rows.filter fun p =>
    isLive p && p.enabled &&
      (match p.scopeType with
        | .user => p.scopeValue = userId
        | .global => true
        | .group => p.scopeValue ∈ groups) &&
      -- a policy without a model is for all of them
      (p.modelId = none || (modelId.isSome && p.modelId = modelId)))

namespace QuotaService

/-- `scope_rank`. -/
def scopeRank : QuotaScopeType → Nat
  | .user => 0
  | .group => 1
  | .global => 2

/-- The new policy replaces the current one. -/
def beats (new current : QuotaPolicy) : Bool :=
  scopeRank new.scopeType < scopeRank current.scopeType ||
    (scopeRank new.scopeType = scopeRank current.scopeType &&
      (current.priority < new.priority ||
        (new.priority = current.priority && new.limitValue < current.limitValue)))

/-- One round of the selection loop over the dict `best`. -/
def consider (best : List ((QuotaMetric × QuotaPeriod) × QuotaPolicy)) (policy : QuotaPolicy) :
    List ((QuotaMetric × QuotaPeriod) × QuotaPolicy) :=
  match best.lookup policy.kind with
  -- a dict keeps the place of a key that is assigned again
  | none => best ++ [(policy.kind, policy)]
  | some current =>
    if beats policy current then
      best.map fun entry => if entry.1 = policy.kind then (entry.1, policy) else entry
    else best

/-- The selection among the candidates of `_select_effective_policies`. -/
def selectAmong (candidates : List QuotaPolicy) : List QuotaPolicy :=
  (candidates.foldl consider []).map (·.2)

/-- `_select_effective_policies`. -/
def selectEffectivePolicies (scan : ScanOrder QuotaPolicy) (policies : KeyedTable QuotaPolicy.id)
    (userId : String) (groups : List String) (modelId : Option Uuid) : List QuotaPolicy :=
  selectAmong (QuotaPolicyRepository.listMatching scan policies userId groups modelId)

/-! ## Checking and recording -/

/-- `current`: the counter of the policy, 0 when there is none. -/
def current (redis : Redis) (now : DateTime) (p : QuotaPolicy) : ℚ :=
  (redis.get now (p.counterKey now)).getD 0

/-- `current >= policy.limit_value`. -/
def exceeded (redis : Redis) (now : DateTime) (p : QuotaPolicy) : Bool :=
  (p.limitValue : ℚ) ≤ current redis now p

/-- The details of the error a policy raises. -/
def exceededDetails (redis : Redis) (now : DateTime) (p : QuotaPolicy) : QuotaDetails where
  scopeType := p.scopeType.value
  scopeValue := p.scopeValue
  metric := p.metric.value
  period := p.period.value
  used := current redis now p
  limit := p.limitValue

/-- The loop of `assert_within_quota`: the first exceeded policy raises. -/
def checkPolicies (redis : Redis) (now : DateTime) : List QuotaPolicy → Except PyError Unit
  | [] => .ok ()
  | p :: ps =>
    if exceeded redis now p then .error (.quotaExceeded (exceededDetails redis now p))
    else checkPolicies redis now ps

/-- A caller of the quota service. -/
structure Caller where
  userId : Option String
  groups : List String
  modelId : Option Uuid
deriving DecidableEq

/-- The policies that are effective for a caller; anonymous callers have none, and nobody has
    any while the feature is off. -/
def effectivePolicies (featureEnabled : Bool) (scan : ScanOrder QuotaPolicy)
    (policies : KeyedTable QuotaPolicy.id) (caller : Caller) : List QuotaPolicy :=
  match caller.userId with
  | some userId =>
    if featureEnabled && userId ≠ "" then
      selectEffectivePolicies scan policies userId caller.groups caller.modelId
    else []
  | none => []

/-- `assert_within_quota`. -/
def assertWithinQuota (featureEnabled : Bool) (scan : ScanOrder QuotaPolicy)
    (policies : KeyedTable QuotaPolicy.id) (redis : Redis) (now : DateTime) (caller : Caller) :
    Except PyError Unit :=
  checkPolicies redis now (effectivePolicies featureEnabled scan policies caller)

/-- What a turn consumed. -/
structure Usage where
  inputTokens : Int
  outputTokens : Int
  costUsd : Option ℚ
deriving DecidableEq

/-- `metric_values`. -/
def metricValue (usage : Usage) : QuotaMetric → ℚ
  | .requests => 1
  | .tokens => ((usage.inputTokens + usage.outputTokens : Int) : ℚ)
  | .costUsd => usage.costUsd.getD 0

/-- The increment of one policy's counter; a zero value touches nothing. -/
def recordPolicy (now : DateTime) (usage : Usage) (redis : Redis) (p : QuotaPolicy) : Redis :=
  if metricValue usage p.metric = 0 then redis
  else (redis.incrByFloat now (p.counterKey now) (metricValue usage p.metric)).expire now
    (p.counterKey now) (p.ttl now)

/-- The Redis half of `record_usage`. -/
def recordCounters (featureEnabled : Bool) (scan : ScanOrder QuotaPolicy)
    (policies : KeyedTable QuotaPolicy.id) (redis : Redis) (now : DateTime) (caller : Caller)
    (usage : Usage) : Redis :=
  (effectivePolicies featureEnabled scan policies caller).foldl (recordPolicy now usage) redis

end QuotaService

end AgnoRuntime
