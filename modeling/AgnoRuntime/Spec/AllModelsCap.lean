import AgnoRuntime.Spec.QuotaCounters
import Mathlib.Tactic.Linarith

/-!
# Policies for all models

A USER policy without a model is documented to cap its user's total over all
models. It does where the policy that `_select_effective_policies` puts in
effect for its metric and period is always metered by the same counter: a
per-model policy that is selected instead moves its own counter only.

## Key results

- `winner_harmless`: what is selected when every harmful candidate is beaten
- `allModels_capped`: the cap, for every history of turns
-/

namespace AgnoRuntime

open Civil

namespace QuotaService

/-! ## Chat turns -/

/-- A chat turn: the check before it and the recording after it. `policies` are stored throughout;
    the database may return them in another order each time. -/
structure Turn where
  caller : Caller
  checkScan : ScanOrder QuotaPolicy
  checkedAt : DateTime
  recordScan : ScanOrder QuotaPolicy
  recordedAt : DateTime
  usage : Usage

section Turns

variable (policies : KeyedTable QuotaPolicy.id)

/-- The call of `record_usage` at the end of a turn. -/
def Turn.record (turn : Turn) : RecordCall where
  policies := policies
  scan := turn.recordScan
  now := turn.recordedAt
  caller := turn.caller
  usage := turn.usage

/-- The counters, and the calls of `record_usage` of the turns admitted so far. -/
structure ChatHistory where
  redis : Redis
  admitted : List RecordCall

/-- Nothing has happened yet. -/
def ChatHistory.start : ChatHistory := ⟨Redis.empty, []⟩

/-- `assert_within_quota` passes for a turn. -/
def ChatHistory.Admits (history : ChatHistory) (turn : Turn) : Prop :=
  assertWithinQuota true turn.checkScan policies history.redis turn.checkedAt turn.caller = .ok ()

instance (history : ChatHistory) (turn : Turn) : Decidable (history.Admits policies turn) :=
  inferInstanceAs (Decidable (_ = _))

/-- One turn, with the quota feature on: `assert_within_quota`, and `record_usage` if it passed. -/
def ChatHistory.turn (history : ChatHistory) (turn : Turn) : ChatHistory :=
  if history.Admits policies turn then
    { redis := recordCounters true turn.recordScan policies history.redis turn.recordedAt
        turn.caller turn.usage
      admitted := history.admitted ++ [turn.record policies] }
  else history

/-- A sequence of turns. -/
def ChatHistory.run (turns : List Turn) : ChatHistory :=
  turns.foldl (ChatHistory.turn policies) .start

variable {policies}

/-- The counters are those the admitted turns left. -/
theorem redis_run (turns : List Turn) :
    (ChatHistory.run policies turns).redis =
      recordAll true Redis.empty (ChatHistory.run policies turns).admitted := by
  suffices h : ∀ history : ChatHistory,
      history.redis = recordAll true Redis.empty history.admitted →
      (turns.foldl (ChatHistory.turn policies) history).redis =
        recordAll true Redis.empty (turns.foldl (ChatHistory.turn policies) history).admitted by
    exact h .start rfl
  induction turns with
  | nil => exact fun _ h => h
  | cons turn turns ih =>
    intro history h
    refine ih _ ?_
    unfold ChatHistory.turn
    split
    · simp only [recordAll, List.foldl_append, List.foldl_cons, List.foldl_nil]
      rw [h]
      rfl
    · exact h

/-- What is recorded comes from a turn of the run. -/
theorem exists_turn_of_admitted {turns : List Turn} {call : RecordCall}
    (h : call ∈ (ChatHistory.run policies turns).admitted) :
    ∃ turn ∈ turns, call = turn.record policies := by
  -- The induction starts from any history, as `foldl` goes on from the one it has.
  suffices hgen : ∀ history : ChatHistory,
      call ∈ (turns.foldl (ChatHistory.turn policies) history).admitted →
      call ∈ history.admitted ∨ ∃ turn ∈ turns, call = turn.record policies by
    rcases hgen .start h with hstart | hturn
    · cases hstart
    · exact hturn
  clear h
  induction turns with
  | nil => exact fun _ h => Or.inl h
  | cons turn turns ih =>
    intro history h
    -- The call was admitted later, in this turn or before.
    rcases ih _ h with hstep | ⟨turn', hturn', heq⟩
    · unfold ChatHistory.turn at hstep
      split at hstep
      · rcases List.mem_append.mp hstep with hold | hnew
        · exact Or.inl hold
        · exact Or.inr ⟨turn, List.mem_cons_self, List.mem_singleton.mp hnew⟩
      · exact Or.inl hstep
    · exact Or.inr ⟨turn', List.mem_cons_of_mem turn hturn', heq⟩

end Turns

/-! ## Which policy is in effect -/

/-- A policy for all models of the same scope, metric, period and window as `p`, and no laxer. -/
structure Harmless (p q : QuotaPolicy) : Prop where
  shares : q.SharesCounter p
  windows : q.SameWindows p
  limit : q.limitValue ≤ p.limitValue

instance (p q : QuotaPolicy) : Decidable (Harmless p q) :=
  decidable_of_iff (q.SharesCounter p ∧ q.SameWindows p ∧ q.limitValue ≤ p.limitValue)
    ⟨fun h => ⟨h.1, h.2.1, h.2.2⟩, fun h => ⟨h.shares, h.windows, h.limit⟩⟩

section Selection

variable {policies : KeyedTable QuotaPolicy.id}

/-- The candidates for a caller of the policy's user, in the order they are stored. -/
def candidates (policies : KeyedTable QuotaPolicy.id) (p : QuotaPolicy) (caller : Caller) :
    List QuotaPolicy :=
  QuotaPolicyRepository.listMatching .stored policies p.scopeValue caller.groups caller.modelId

/-- Every candidate of the kind of `p` that is not harmless loses against a harmless one. -/
def Governs (policies : KeyedTable QuotaPolicy.id) (p : QuotaPolicy) (caller : Caller) : Prop :=
  ∀ q ∈ candidates policies p caller, q.kind = p.kind → Harmless p q ∨
    ∃ winner ∈ candidates policies p caller, Harmless p winner ∧ beats winner q = true

instance (p : QuotaPolicy) (caller : Caller) : Decidable (Governs policies p caller) :=
  inferInstanceAs (Decidable (∀ q ∈ candidates policies p caller, q.kind = p.kind →
    Harmless p q ∨ ∃ winner ∈ candidates policies p caller,
      Harmless p winner ∧ beats winner q = true))

/-- An enabled policy of a user for all models. -/
structure AllModelsPolicy (policies : KeyedTable QuotaPolicy.id) (p : QuotaPolicy) : Prop where
  stored : p ∈ policies.rows
  live : isLive p = true
  enabled : p.enabled = true
  user : p.scopeType = .user
  allModels : p.modelId = none

/-- Such a policy is a candidate whatever the model and whatever the order of the scan. -/
theorem AllModelsPolicy.mem_listMatching {p : QuotaPolicy} (h : AllModelsPolicy policies p)
    (scan : ScanOrder QuotaPolicy) (groups : List String) (modelId : Option Uuid) :
    p ∈ QuotaPolicyRepository.listMatching scan policies p.scopeValue groups modelId := by
  rw [QuotaService.mem_listMatching]
  refine ⟨h.stored, h.live, h.enabled, ?_, Or.inl h.allModels⟩
  rw [Covers, h.user]

/-- A policy of a user is effective for that user's turns only. -/
theorem userId_of_effective {featureEnabled : Bool} {scan : ScanOrder QuotaPolicy}
    {caller : Caller} {q : QuotaPolicy}
    (h : q ∈ effectivePolicies featureEnabled scan policies caller) (huser : q.scopeType = .user) :
    caller.userId = some q.scopeValue := by
  obtain ⟨userId, hcaller, hmatch⟩ := mem_listMatching_of_effective h
  have hcovers := (QuotaService.mem_listMatching.mp hmatch).2.2.2.1
  rw [Covers, huser] at hcovers
  have hvalue : q.scopeValue = userId := hcovers
  rw [hcaller, hvalue]

/-- What is in effect for the kind of `p` is harmless. -/
theorem winner_harmless {p : QuotaPolicy} (hp : AllModelsPolicy policies p)
    {caller : Caller} (hcaller : caller.userId = some p.scopeValue)
    (hgoverns : Governs policies p caller) (scan : ScanOrder QuotaPolicy) :
    ∃ q ∈ effectivePolicies true scan policies caller, Harmless p q := by
  have hne : p.scopeValue ≠ "" := by
    rcases p.scopeValueGiven with hglobal | hne
    · rw [hp.user] at hglobal
      cases hglobal
    · exact hne
  have heff : effectivePolicies true scan policies caller = selectAmong
      (QuotaPolicyRepository.listMatching scan policies p.scopeValue caller.groups
        caller.modelId) := by
    simp only [effectivePolicies, hcaller]
    simp [hne, selectEffectivePolicies]
  have hmem_iff : ∀ q, q ∈ candidates policies p caller ↔
      q ∈ QuotaPolicyRepository.listMatching scan policies p.scopeValue caller.groups
        caller.modelId := by
    intro q
    rw [candidates, QuotaService.mem_listMatching, QuotaService.mem_listMatching]
  obtain ⟨winner, hwinner, hkind, _⟩ :=
    exists_unbeaten_of_mem (hp.mem_listMatching scan caller.groups caller.modelId)
  have hcandidate := mem_candidates_of_mem_selectAmong hwinner
  refine ⟨winner, heff ▸ hwinner, ?_⟩
  rcases hgoverns winner ((hmem_iff winner).mpr hcandidate) hkind with hharmless | hbeaten
  · exact hharmless
  · -- A selected policy is beaten by no candidate of its kind.
    obtain ⟨q, hq, hharmless, hbeats⟩ := hbeaten
    have hnot := not_beats_selected hwinner ((hmem_iff q).mp hq)
      (hharmless.shares.kind_eq.trans hkind.symm)
    rw [hnot] at hbeats
    cases hbeats

end Selection

/-! ## The cap -/

section Cap

variable {policies : KeyedTable QuotaPolicy.id} {p : QuotaPolicy}

/-- In the turns of the policy's user, `p` governs. -/
def GovernsTurns (policies : KeyedTable QuotaPolicy.id) (p : QuotaPolicy) (turns : List Turn) :
    Prop :=
  ∀ turn ∈ turns, turn.caller.userId = some p.scopeValue → Governs policies p turn.caller

instance (turns : List Turn) : Decidable (GovernsTurns policies p turns) :=
  inferInstanceAs (Decidable (∀ turn ∈ turns,
    turn.caller.userId = some p.scopeValue → Governs policies p turn.caller))

/-- What the user's turns recorded in the bucket of `now`, whatever their model. -/
def userTotal (p : QuotaPolicy) (now : DateTime) (calls : List RecordCall) : ℚ :=
  ((calls.filter fun call =>
      call.caller.userId = some p.scopeValue ∧ p.SameBucket call.now now).map
    fun call => metricValue call.usage p.metric).sum

/-- A turn moves the counter of `p` exactly when it is one of the user's. -/
theorem countsFor_iff (hp : AllModelsPolicy policies p) {turn : Turn}
    (hgoverns : turn.caller.userId = some p.scopeValue → Governs policies p turn.caller)
    (now : DateTime) : (turn.record policies).CountsFor true p now ↔
      turn.caller.userId = some p.scopeValue ∧ p.SameBucket turn.recordedAt now := by
  constructor
  · intro hcounts
    obtain ⟨hsame, q, hq, hshares⟩ := hcounts
    have huser := userId_of_effective hq (hshares.scopeType.trans hp.user)
    rw [hshares.scopeValue] at huser
    exact ⟨huser, hsame⟩
  · intro hcounts
    obtain ⟨hcaller, hsame⟩ := hcounts
    obtain ⟨q, hq, hharmless⟩ := winner_harmless hp hcaller (hgoverns hcaller) turn.recordScan
    exact ⟨hsame, q, hq, hharmless.shares⟩

/-- The counter of `p` is only moved in windows of the length of `p`. -/
theorem sameWindows_of_effective (hp : AllModelsPolicy policies p) {turn : Turn}
    (hgoverns : turn.caller.userId = some p.scopeValue → Governs policies p turn.caller)
    {q : QuotaPolicy} (hq : q ∈ (turn.record policies).effective true)
    (hshares : q.SharesCounter p) : q.SameWindows p := by
  have huser := userId_of_effective hq (hshares.scopeType.trans hp.user)
  rw [hshares.scopeValue] at huser
  obtain ⟨winner, hwinner, hharmless⟩ :=
    winner_harmless hp huser (hgoverns huser) turn.recordScan
  -- Only one policy of this kind is in effect.
  have heq : q = winner := List.inj_on_of_nodup_map
    (nodup_kinds_effective true turn.recordScan policies turn.caller) hq hwinner
    (hshares.kind_eq.trans hharmless.shares.kind_eq.symm)
  rw [heq]
  exact hharmless.windows

/-- After turns in which `p` governs, its counter holds the user's total. -/
theorem current_run (hp : AllModelsPolicy policies p) {turns : List Turn}
    (hgoverns : GovernsTurns policies p turns) (now : DateTime) :
    current (ChatHistory.run policies turns).redis now p =
      userTotal p now (ChatHistory.run policies turns).admitted := by
  have hturn : ∀ call ∈ (ChatHistory.run policies turns).admitted, ∃ turn ∈ turns,
      call = turn.record policies := fun call hcall => exists_turn_of_admitted hcall
  rw [redis_run, current_recordAll]
  · rw [recorded, userTotal]
    congr 2
    apply List.filter_congr
    intro call hcall
    obtain ⟨turn, hmem, rfl⟩ := hturn call hcall
    rw [decide_eq_decide]
    exact countsFor_iff hp (hgoverns turn hmem) now
  · intro call hcall q hq hshares
    obtain ⟨turn, hmem, rfl⟩ := hturn call hcall
    exact sameWindows_of_effective hp (hgoverns turn hmem) hq hshares

/-- A turn of the user that is admitted finds the counter of `p` below the limit. -/
theorem current_lt_of_admits (hp : AllModelsPolicy policies p) {history : ChatHistory}
    {turn : Turn} (hcaller : turn.caller.userId = some p.scopeValue)
    (hgoverns : Governs policies p turn.caller) (hadmits : history.Admits policies turn) :
    current history.redis turn.checkedAt p < p.limitValue := by
  obtain ⟨winner, hwinner, hharmless⟩ :=
    winner_harmless hp hcaller hgoverns turn.checkScan
  have hbelow := (checkPolicies_eq_ok_iff _ _ _).mp hadmits winner hwinner
  have hkey : winner.counterKey turn.checkedAt = p.counterKey turn.checkedAt := by
    rw [QuotaPolicy.counterKey_eq_iff, hharmless.shares.bucket_eq hharmless.windows]
    exact ⟨hharmless.shares, rfl⟩
  rw [exceeded, decide_eq_false_iff_not, not_le, current, hkey] at hbelow
  have hlimit : (winner.limitValue : ℚ) ≤ p.limitValue := Nat.cast_le.mpr hharmless.limit
  exact lt_of_lt_of_le hbelow hlimit

/-- In every history of turns in which `p` governs its user's turns, each of that user's turns
    that is admitted finds the total of the earlier ones, over all models, below the limit. -/
theorem allModels_capped (hp : AllModelsPolicy policies p) {turns : List Turn}
    (hgoverns : GovernsTurns policies p turns) {before after : List Turn} {turn : Turn}
    (hturns : turns = before ++ turn :: after) (hcaller : turn.caller.userId = some p.scopeValue)
    (hadmits : (ChatHistory.run policies before).Admits policies turn) :
    userTotal p turn.checkedAt (ChatHistory.run policies before).admitted < p.limitValue := by
  have hmem : turn ∈ turns := by
    rw [hturns]
    exact List.mem_append_right _ List.mem_cons_self
  have hbefore : GovernsTurns policies p before := by
    intro turn' hturn'
    apply hgoverns turn'
    rw [hturns]
    exact List.mem_append_left _ hturn'
  rw [← current_run hp hbefore]
  exact current_lt_of_admits hp hcaller (hgoverns turn hmem hcaller) hadmits

end Cap

/-! ## A policy for one model beside it -/

namespace TwoPolicies

/-- The instant of the example. -/
def morning : DateTime := .startOfMarch2026

/-- One request a day for `alice`, over all models. -/
def allModels : QuotaPolicy where
  id := 1
  scopeType := .user
  scopeValue := "alice"
  modelId := none
  metric := .requests
  period := .daily
  windowSeconds := none
  limitValue := 1
  priority := 0
  enabled := true
  deletedAt := none
  scopeValueGiven := by decide

/-- A hundred requests a day for `alice` with model 7, of a priority of choice. -/
def oneModel (priority : Int) : QuotaPolicy :=
  { allModels with id := 2, modelId := some 7, limitValue := 100, priority := priority,
                   scopeValueGiven := by decide }

/-- The policies stored. -/
def policies (priority : Int) : KeyedTable QuotaPolicy.id :=
  ⟨[allModels, oneModel priority], by simp [allModels, oneModel]⟩

/-- A turn of alice's. -/
def turnWith (modelId : Uuid) : Turn where
  caller := ⟨some "alice", [], some modelId⟩
  checkScan := .stored
  checkedAt := morning
  recordScan := .stored
  recordedAt := morning
  usage := ⟨10, 10, none⟩

/-- A turn of alice's with model 7. -/
def turn : Turn := turnWith 7

/-- The policy is one for all models. -/
theorem allModels_allModelsPolicy (priority : Int) :
    AllModelsPolicy (policies priority) allModels where
  stored := List.mem_cons_self
  live := rfl
  enabled := rfl
  user := rfl
  allModels := rfl

/-- Three requests a day for `alice`, over all models. -/
def threeRequests : QuotaPolicy :=
  { allModels with limitValue := 3, scopeValueGiven := by decide }

/-- It is stored beside the policy for model 7, which has the same priority. -/
def laxPolicies : KeyedTable QuotaPolicy.id :=
  ⟨[threeRequests, oneModel 0], by simp [threeRequests, allModels, oneModel]⟩

/-- This policy is one for all models, too. -/
theorem threeRequests_allModelsPolicy : AllModelsPolicy laxPolicies threeRequests where
  stored := List.mem_cons_self
  live := rfl
  enabled := rfl
  user := rfl
  allModels := rfl

end TwoPolicies

open TwoPolicies in
/-- With the smaller limit and no smaller a priority, the policy for all models governs: the third
    turn of the day is let through when two were recorded, each with a model of its own. -/
theorem allModels_capped_example :
    userTotal threeRequests morning
        (ChatHistory.run laxPolicies [turnWith 7, turnWith 8]).admitted = 2 ∧
      userTotal threeRequests morning
        (ChatHistory.run laxPolicies [turnWith 7, turnWith 8]).admitted <
          threeRequests.limitValue := by
  have hgoverns : GovernsTurns laxPolicies threeRequests [turnWith 7, turnWith 8, turnWith 7] := by
    decide
  have hturns : [turnWith 7, turnWith 8, turnWith 7] =
      [turnWith 7, turnWith 8] ++ turnWith 7 :: [] := rfl
  have hcap := allModels_capped threeRequests_allModelsPolicy hgoverns hturns rfl
    (by decide +kernel)
  exact ⟨by decide +kernel, hcap⟩

open TwoPolicies in
/-- With a per-model policy of a higher priority beside it, a second request is admitted. -/
theorem second_request_admitted :
    AllModelsPolicy (policies 1) allModels ∧
      turn.caller.userId = some allModels.scopeValue ∧
      (ChatHistory.run (policies 1) [turn]).Admits (policies 1) turn ∧
      ¬ userTotal allModels turn.checkedAt (ChatHistory.run (policies 1) [turn]).admitted <
        allModels.limitValue :=
  ⟨allModels_allModelsPolicy 1, rfl, by decide +kernel, by decide +kernel⟩

end QuotaService

end AgnoRuntime
