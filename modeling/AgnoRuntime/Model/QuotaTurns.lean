import AgnoRuntime.Model.Quota
import AgnoRuntime.ForStd.Runs

/-!
# Chat turns running side by side

Any number of chat turns share the Redis counters. The loop of
`assert_within_quota` is one `GET` per step, the loop of `record_usage` one
`INCRBYFLOAT` or `EXPIRE` per step, and the steps of different turns interleave
in any order. Each loop takes its `now` before its first command; Redis decides
by its own clock which counters have expired.

A turn that fails or is cancelled, at any point, stops and never records.
-/

namespace AgnoRuntime

open Civil

namespace QuotaService

/-- Where a turn stands. -/
inductive TurnPhase where
  | waiting
  | checking (now : DateTime) (left : List QuotaPolicy)
  | running
  | recording (now : DateTime) (usage : Usage) (left : List QuotaPolicy)
  | expiring (now : DateTime) (usage : Usage) (policy : QuotaPolicy) (left : List QuotaPolicy)
  | ended
deriving DecidableEq

/-- A turn: its phase, the policies it was let through by (with the `now` of its check and Redis'
    clock at the `GET`), whether its whole check has passed, and the counters it incremented
    (with the `now` of its recording). -/
structure TurnState where
  phase : TurnPhase
  below : List (QuotaPolicy × DateTime × DateTime)
  passed : Bool
  incremented : List (QuotaPolicy × DateTime)
deriving DecidableEq

/-- Not begun. -/
def TurnState.initial : TurnState := ⟨.waiting, [], false, []⟩

/-- What the turns share, and the turns. -/
structure TurnSystem (ι : Type) where
  clock : DateTime
  redis : Redis
  turn : ι → TurnState

/-- One step of the system. -/
inductive TurnEvent (ι : Type) where
  | tick (clock : DateTime)
  | begin (i : ι) (scan : ScanOrder QuotaPolicy)
  | check (i : ι)
  | complete (i : ι) (scan : ScanOrder QuotaPolicy) (usage : Usage)
  | increment (i : ι)
  | expire (i : ι)
  | stop (i : ι)

/-- `current >= policy.limit_value`, read from Redis at `clock` for the bucket of `now`. -/
def exceededAt (redis : Redis) (clock now : DateTime) (p : QuotaPolicy) : Bool :=
  (p.limitValue : ℚ) ≤ (redis.get clock (p.counterKey now)).getD 0

section Step

variable {ι : Type} [DecidableEq ι]

/-- Change one turn. -/
def TurnSystem.setTurn (s : TurnSystem ι) (i : ι) (t : TurnState) : TurnSystem ι :=
  { s with turn := fun j => if j = i then t else s.turn j }

/-- A policy let the turn through. -/
def TurnSystem.letThrough (s : TurnSystem ι) (i : ι) (now : DateTime) (p : QuotaPolicy)
    (ps : List QuotaPolicy) : TurnSystem ι :=
  s.setTurn i { s.turn i with
    phase := .checking now ps, below := (p, now, s.clock) :: (s.turn i).below }

/-- The next round of the loop of `assert_within_quota`; past the last policy the check has
    passed. -/
def TurnSystem.check (s : TurnSystem ι) (i : ι) (now : DateTime) : List QuotaPolicy → TurnSystem ι
  | [] => s.setTurn i { s.turn i with phase := .running, passed := true }
  | p :: ps =>
    -- the first policy that is exceeded ends the turn
    if exceededAt s.redis s.clock now p then s.setTurn i { s.turn i with phase := .ended }
    else s.letThrough i now p ps

/-- `INCRBYFLOAT` for a policy. -/
def TurnSystem.sendIncr (s : TurnSystem ι) (i : ι) (now : DateTime) (usage : Usage)
    (p : QuotaPolicy) (ps : List QuotaPolicy) : TurnSystem ι :=
  { s.setTurn i { s.turn i with
      phase := .expiring now usage p ps, incremented := (p, now) :: (s.turn i).incremented } with
    redis := s.redis.incrByFloat s.clock (p.counterKey now) (metricValue usage p.metric) }

/-- `EXPIRE` for a policy. -/
def TurnSystem.sendExpire (s : TurnSystem ι) (i : ι) (now : DateTime) (usage : Usage)
    (p : QuotaPolicy) (ps : List QuotaPolicy) : TurnSystem ι :=
  { s.setTurn i { s.turn i with phase := .recording now usage ps } with
    redis := s.redis.expire s.clock (p.counterKey now) (p.ttl now) }

/-- The next round of the loop of `record_usage`, up to its `EXPIRE`. -/
def TurnSystem.increment (s : TurnSystem ι) (i : ι) (now : DateTime) (usage : Usage) :
    List QuotaPolicy → TurnSystem ι
  | [] => s.setTurn i { s.turn i with phase := .ended }
  | p :: ps =>
    if metricValue usage p.metric = 0 then
      s.setTurn i { s.turn i with phase := .recording now usage ps }
    else s.sendIncr i now usage p ps

variable (policies : KeyedTable QuotaPolicy.id) (caller : ι → Caller)

/-- A step of the system. `complete` is the run of the turn coming to its end. -/
def TurnSystem.step (s : TurnSystem ι) : TurnEvent ι → Option (TurnSystem ι)
  | .tick clock => if s.clock.micros ≤ clock.micros then some { s with clock } else none
  | .begin i scan =>
    if (s.turn i).phase = .waiting then
      some (s.setTurn i { s.turn i with
        -- the `now` of all buckets is the one before the first `GET`
        phase := .checking s.clock (effectivePolicies true scan policies (caller i)) })
    else none
  | .check i =>
    match (s.turn i).phase with
    | .checking now ps => some (s.check i now ps)
    | _ => none
  | .complete i scan usage =>
    if (s.turn i).phase = .running then
      some (s.setTurn i { s.turn i with
        phase := .recording s.clock usage (effectivePolicies true scan policies (caller i)) })
    else none
  | .increment i =>
    match (s.turn i).phase with
    | .recording now usage ps => some (s.increment i now usage ps)
    | _ => none
  | .expire i =>
    match (s.turn i).phase with
    | .expiring now usage p ps => some (s.sendExpire i now usage p ps)
    | _ => none
  | .stop i => some (s.setTurn i { s.turn i with phase := .ended })

/-- No turn has begun, there are no counters. -/
def TurnSystem.start (clock : DateTime) : TurnSystem ι := ⟨clock, Redis.empty, fun _ => .initial⟩

end Step

end QuotaService

end AgnoRuntime
