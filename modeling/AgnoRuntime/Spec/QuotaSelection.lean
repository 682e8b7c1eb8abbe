import AgnoRuntime.ForStd.LeastOfKinds
import AgnoRuntime.Model.Quota
import Mathlib.Data.Prod.Lex

/-!
# The selection of the effective policies

What the selection loop of `_select_effective_policies` returns: candidates
only, one for each (metric, period) a candidate has, and each of them beaten by
no candidate of its kind.

## Key results

- `nodup_kinds_selectAmong`: at most one effective policy per kind
- `exists_unbeaten_of_mem`: every candidate's kind has a winner it does not beat
- `selectAmong_least`: the winners are those of the lexicographically least precedence
- `mem_listMatching`: which policies are candidates
-/

namespace AgnoRuntime

namespace QuotaService

/-! ## The order of the candidates -/

/-- No policy replaces itself. -/
theorem beats_irrefl (p : QuotaPolicy) : beats p p = false := by
  simp [beats]

/-- A policy replaces whatever the policy it replaces would have replaced. -/
theorem beats_trans {p q r : QuotaPolicy} (hpq : beats p q = true) (hqr : beats q r = true) :
    beats p r = true := by
  simp only [beats, Bool.or_eq_true, Bool.and_eq_true, decide_eq_true_eq] at hpq hqr ⊢
  omega

/-! ## One round of the loop -/

/-- What the dict `best` holds once the candidates `seen` have been through the loop. -/
structure Best (seen : List QuotaPolicy)
    (best : List ((QuotaMetric × QuotaPeriod) × QuotaPolicy)) : Prop where
  keyed : ∀ entry ∈ best, entry.1 = entry.2.kind
  nodup : (best.map (·.1)).Nodup
  chosen : ∀ entry ∈ best, entry.2 ∈ seen
  unbeaten : ∀ p ∈ seen, ∃ entry ∈ best, entry.1 = p.kind ∧ beats p entry.2 = false

/-- The loop starts with an empty dict. -/
theorem best_nil : Best [] [] where
  keyed := fun _ h => by cases h
  nodup := List.nodup_nil
  chosen := fun _ h => by cases h
  unbeaten := fun _ h => by cases h

private theorem lookup_eq_none {best : List ((QuotaMetric × QuotaPeriod) × QuotaPolicy)}
    {kind : QuotaMetric × QuotaPeriod} (h : best.lookup kind = none) :
    kind ∉ best.map (·.1) := by
  rw [List.lookup_eq_none_iff] at h
  intro hmem
  obtain ⟨entry, hentry, hkey⟩ := List.mem_map.mp hmem
  exact absurd (h entry hentry) (by simp [hkey])

private theorem mem_of_lookup {best : List ((QuotaMetric × QuotaPeriod) × QuotaPolicy)}
    {kind : QuotaMetric × QuotaPeriod} {p : QuotaPolicy} (h : best.lookup kind = some p) :
    (kind, p) ∈ best := by
  obtain ⟨front, back, hbest, _⟩ := List.lookup_eq_some_iff.mp h
  rw [hbest]
  exact List.mem_append_right _ List.mem_cons_self

/-- A first policy of its kind enters the dict. -/
private theorem Best.add {seen : List QuotaPolicy}
    {best : List ((QuotaMetric × QuotaPeriod) × QuotaPolicy)} {p : QuotaPolicy}
    (h : Best seen best) (hnew : p.kind ∉ best.map (·.1)) :
    Best (seen ++ [p]) (best ++ [(p.kind, p)]) where
  keyed := by
    intro entry hentry
    rcases List.mem_append.mp hentry with hold | hlast
    · exact h.keyed entry hold
    · rw [List.mem_singleton.mp hlast]
  nodup := by
    rw [List.map_append, List.nodup_append]
    refine ⟨h.nodup, List.nodup_singleton _, ?_⟩
    intro kind hkind kind' hkind' heq
    rw [List.map_singleton, List.mem_singleton] at hkind'
    -- The kind is a new one.
    rw [heq, hkind'] at hkind
    exact hnew hkind
  chosen := by
    intro entry hentry
    rcases List.mem_append.mp hentry with hold | hlast
    · exact List.mem_append_left _ (h.chosen entry hold)
    · rw [List.mem_singleton.mp hlast]
      exact List.mem_append_right _ (List.mem_singleton_self p)
  unbeaten := by
    intro q hq
    -- No policy of the new kind has been seen before.
    rcases List.mem_append.mp hq with hold | hlast
    · obtain ⟨entry, hentry, hkind, hbeats⟩ := h.unbeaten q hold
      exact ⟨entry, List.mem_append_left _ hentry, hkind, hbeats⟩
    · rw [List.mem_singleton.mp hlast]
      exact ⟨(p.kind, p), List.mem_append_right _ (List.mem_singleton_self _), rfl, beats_irrefl p⟩

/-- A policy that beats the current one of its kind takes its place. -/
private theorem Best.replace {seen : List QuotaPolicy}
    {best : List ((QuotaMetric × QuotaPeriod) × QuotaPolicy)} {p current : QuotaPolicy}
    (h : Best seen best) (hcurrent : (p.kind, current) ∈ best) (hbeats : beats p current = true) :
    Best (seen ++ [p])
      (best.map fun entry => if entry.1 = p.kind then (entry.1, p) else entry) where
  keyed := by
    intro entry hentry
    obtain ⟨old, hold, rfl⟩ := List.mem_map.mp hentry
    split
    · assumption
    · exact h.keyed old hold
  nodup := by
    rw [List.map_map]
    have hkeys : ((·.1) ∘ fun entry : (QuotaMetric × QuotaPeriod) × QuotaPolicy =>
        if entry.1 = p.kind then (entry.1, p) else entry) = (·.1) := by
      funext entry
      simp only [Function.comp_apply]
      split <;> rfl
    rw [hkeys]
    exact h.nodup
  chosen := by
    intro entry hentry
    obtain ⟨old, hold, rfl⟩ := List.mem_map.mp hentry
    split
    · exact List.mem_append_right _ (List.mem_singleton_self p)
    · exact List.mem_append_left _ (h.chosen old hold)
  unbeaten := by
    have hwinner : (p.kind, p) ∈
        best.map fun entry => if entry.1 = p.kind then (entry.1, p) else entry :=
      List.mem_map.mpr ⟨(p.kind, current), hcurrent, if_pos rfl⟩
    intro q hq
    rcases List.mem_append.mp hq with hold | hlast
    · obtain ⟨entry, hentry, hkind, hnot⟩ := h.unbeaten q hold
      by_cases hsame : entry.1 = p.kind
      · -- The dict has one entry of this kind, so `q` did not beat the policy replaced now.
        have hentry_eq : entry = (p.kind, current) :=
          List.inj_on_of_nodup_map h.nodup hentry hcurrent hsame
        refine ⟨_, hwinner, hkind ▸ hsame.symm, ?_⟩
        rw [hentry_eq] at hnot
        cases hqp : beats q p with
        | false => rfl
        | true => exact absurd (beats_trans hqp hbeats) (by simp [hnot])
      · refine ⟨entry, List.mem_map.mpr ⟨entry, hentry, if_neg hsame⟩, hkind, hnot⟩
    · rw [List.mem_singleton.mp hlast]
      exact ⟨_, hwinner, rfl, beats_irrefl p⟩

/-- A policy that does not beat the current one of its kind changes nothing. -/
private theorem Best.skip {seen : List QuotaPolicy}
    {best : List ((QuotaMetric × QuotaPeriod) × QuotaPolicy)} {p current : QuotaPolicy}
    (h : Best seen best) (hcurrent : (p.kind, current) ∈ best)
    (hbeats : beats p current = false) : Best (seen ++ [p]) best where
  keyed := h.keyed
  nodup := h.nodup
  chosen := fun entry hentry => List.mem_append_left _ (h.chosen entry hentry)
  unbeaten := by
    intro q hq
    rcases List.mem_append.mp hq with hold | hlast
    · exact h.unbeaten q hold
    · rw [List.mem_singleton.mp hlast]
      exact ⟨_, hcurrent, rfl, hbeats⟩

/-- One round of the loop. -/
theorem best_consider {seen : List QuotaPolicy}
    {best : List ((QuotaMetric × QuotaPeriod) × QuotaPolicy)} (p : QuotaPolicy)
    (h : Best seen best) : Best (seen ++ [p]) (consider best p) := by
  rw [consider]
  cases hlookup : best.lookup p.kind with
  | none => exact h.add (lookup_eq_none hlookup)
  | some current =>
    have hcurrent := mem_of_lookup hlookup
    show Best _ (if beats p current = true then _ else best)
    cases hbeats : beats p current with
    | true => exact h.replace hcurrent hbeats
    | false => exact h.skip hcurrent hbeats

/-- The whole loop. -/
theorem best_foldl (candidates : List QuotaPolicy) :
    Best candidates (candidates.foldl consider []) := by
  suffices h : ∀ seen best, Best seen best →
      Best (seen ++ candidates) (candidates.foldl consider best) by
    exact h [] [] best_nil
  induction candidates with
  | nil =>
    intro seen best h
    rw [List.append_nil]
    exact h
  | cons p candidates ih =>
    intro seen best h
    have hround := ih _ _ (best_consider p h)
    rw [List.append_assoc, List.singleton_append] at hround
    exact hround

/-! ## The policies selected -/

/-- The policies selected are of different kinds. -/
theorem nodup_kinds_selectAmong (candidates : List QuotaPolicy) :
    ((selectAmong candidates).map QuotaPolicy.kind).Nodup := by
  have h := best_foldl candidates
  have hkinds : (selectAmong candidates).map QuotaPolicy.kind =
      (candidates.foldl consider []).map (·.1) := by
    rw [selectAmong, List.map_map]
    exact List.map_congr_left fun entry hentry => (h.keyed entry hentry).symm
  rw [hkinds]
  exact h.nodup

/-- Only candidates are selected. -/
theorem mem_candidates_of_mem_selectAmong {candidates : List QuotaPolicy} {p : QuotaPolicy}
    (h : p ∈ selectAmong candidates) : p ∈ candidates := by
  obtain ⟨entry, hentry, rfl⟩ := List.mem_map.mp h
  exact (best_foldl candidates).chosen entry hentry

/-- A candidate's kind is selected, by a policy the candidate does not beat. -/
theorem exists_unbeaten_of_mem {candidates : List QuotaPolicy} {p : QuotaPolicy}
    (h : p ∈ candidates) :
    ∃ winner ∈ selectAmong candidates, winner.kind = p.kind ∧ beats p winner = false := by
  have hbest := best_foldl candidates
  obtain ⟨entry, hentry, hkind, hbeats⟩ := hbest.unbeaten p h
  exact ⟨entry.2, List.mem_map_of_mem hentry, (hbest.keyed entry hentry).symm.trans hkind, hbeats⟩

/-- Two selected policies of one kind are the same policy. -/
theorem eq_of_kind_eq {candidates : List QuotaPolicy} {p q : QuotaPolicy}
    (hp : p ∈ selectAmong candidates) (hq : q ∈ selectAmong candidates) (h : p.kind = q.kind) :
    p = q :=
  List.inj_on_of_nodup_map (nodup_kinds_selectAmong candidates) hp hq h

/-- No candidate beats the selected policy of its kind. -/
theorem not_beats_selected {candidates : List QuotaPolicy} {p winner : QuotaPolicy}
    (hwinner : winner ∈ selectAmong candidates) (hp : p ∈ candidates)
    (h : p.kind = winner.kind) : beats p winner = false := by
  obtain ⟨winner', hmem, hkind, hbeats⟩ := exists_unbeaten_of_mem hp
  rw [eq_of_kind_eq hwinner hmem (h.symm.trans hkind.symm)]
  exact hbeats

/-! ## The order of precedence -/

/-- Scope rank, minus the priority, and the limit: the least one takes precedence. -/
def precedence (p : QuotaPolicy) : Nat ×ₗ Int ×ₗ Nat :=
  toLex (scopeRank p.scopeType, toLex (-p.priority, p.limitValue))

/-- A policy replaces those it comes before in the order of precedence. -/
theorem beats_iff_precedence_lt (p q : QuotaPolicy) :
    beats p q = true ↔ precedence p < precedence q := by
  simp only [beats, precedence, Prod.Lex.toLex_lt_toLex, Bool.or_eq_true, Bool.and_eq_true,
    decide_eq_true_eq]
  omega

/-- The loop chooses the least of each kind. -/
theorem leastOfKinds_selectAmong (candidates : List QuotaPolicy) :
    candidates.LeastOfKinds QuotaPolicy.kind precedence (selectAmong candidates) where
  nodup := nodup_kinds_selectAmong candidates
  mem := fun _ hp => mem_candidates_of_mem_selectAmong hp
  covered := by
    intro p hp
    obtain ⟨winner, hwinner, hkind, hbeats⟩ := exists_unbeaten_of_mem hp
    refine ⟨winner, hwinner, hkind, not_lt.mp fun hlt => ?_⟩
    rw [(beats_iff_precedence_lt p winner).mpr hlt] at hbeats
    cases hbeats

/-- Each kind a candidate has is selected once and no other kind is; the winner's precedence is the
    least one among the candidates of its kind. In whatever order the candidates come, and in
    whatever order the database returns the rows, kinds and precedences selected are the same. -/
theorem selectAmong_least (candidates : List QuotaPolicy) :
    (∀ kind, (selectAmong candidates).countP (fun p => p.kind = kind) =
      if ∃ p ∈ candidates, p.kind = kind then 1 else 0) ∧
    (∀ winner ∈ selectAmong candidates, winner ∈ candidates ∧
      IsLeast {k | ∃ p ∈ candidates, p.kind = winner.kind ∧ precedence p = k}
        (precedence winner)) ∧
    (∀ candidates', candidates.Perm candidates' →
      ((selectAmong candidates).map fun p => (p.kind, precedence p)).Perm
        ((selectAmong candidates').map fun p => (p.kind, precedence p))) ∧
    ∀ (scan scan' : ScanOrder QuotaPolicy) (policies : KeyedTable QuotaPolicy.id)
      (userId : String) (groups : List String) (modelId : Option Uuid),
      ((selectEffectivePolicies scan policies userId groups modelId).map
          fun p => (p.kind, precedence p)).Perm
        ((selectEffectivePolicies scan' policies userId groups modelId).map
          fun p => (p.kind, precedence p)) := by
  have hleast := leastOfKinds_selectAmong candidates
  refine ⟨hleast.countP_kind, fun winner hwinner => ?_, fun candidates' hperm => ?_, ?_⟩
  · exact ⟨hleast.mem winner hwinner, hleast.isLeast hwinner⟩
  · exact hleast.perm_keys (leastOfKinds_selectAmong candidates') fun p => hperm.mem_iff
  · intro scan scan' policies userId groups modelId
    refine (leastOfKinds_selectAmong _).perm_keys (leastOfKinds_selectAmong _) fun p => ?_
    simp only [QuotaPolicyRepository.listMatching, ScanOrder.mem_order]

/-! ## Candidates and effective policies -/

/-- The scope of a policy covers a caller. -/
def Covers (p : QuotaPolicy) (userId : String) (groups : List String) : Prop :=
  match p.scopeType with
  | .user => p.scopeValue = userId
  | .global => True
  | .group => p.scopeValue ∈ groups

/-- The candidates are the enabled live policies whose scope covers the caller and whose model,
    if any, is the caller's. -/
theorem mem_listMatching {scan : ScanOrder QuotaPolicy} {policies : KeyedTable QuotaPolicy.id}
    {userId : String} {groups : List String} {modelId : Option Uuid} {p : QuotaPolicy} :
    p ∈ QuotaPolicyRepository.listMatching scan policies userId groups modelId ↔
      p ∈ policies.rows ∧ isLive p = true ∧ p.enabled = true ∧ Covers p userId groups ∧
        (p.modelId = none ∨ modelId.isSome = true ∧ p.modelId = modelId) := by
  rw [QuotaPolicyRepository.listMatching, ScanOrder.mem_order, List.mem_filter, Covers]
  cases p.scopeType with
  | user =>
    simp only [Bool.and_eq_true, Bool.or_eq_true, decide_eq_true_eq, and_assoc]
  | global =>
    simp only [Bool.and_eq_true, Bool.or_eq_true, decide_eq_true_eq, and_assoc]
  | group =>
    simp only [Bool.and_eq_true, Bool.or_eq_true, decide_eq_true_eq, and_assoc]

/-- What is effective for a caller was selected among the caller's candidates. -/
theorem effectivePolicies_eq_select {featureEnabled : Bool} {scan : ScanOrder QuotaPolicy}
    {policies : KeyedTable QuotaPolicy.id} {caller : Caller} {p : QuotaPolicy}
    (h : p ∈ effectivePolicies featureEnabled scan policies caller) :
    ∃ userId, caller.userId = some userId ∧
      effectivePolicies featureEnabled scan policies caller = selectAmong
        (QuotaPolicyRepository.listMatching scan policies userId caller.groups caller.modelId) := by
  cases hcaller : caller.userId with
  | none => simp [effectivePolicies, hcaller] at h
  | some userId =>
    refine ⟨userId, rfl, ?_⟩
    simp only [effectivePolicies, hcaller] at h ⊢
    split at h
    · rename_i hon
      rw [if_pos hon]
      rfl
    · cases h

/-- The effective policies of a caller are of different kinds. -/
theorem nodup_kinds_effective (featureEnabled : Bool) (scan : ScanOrder QuotaPolicy)
    (policies : KeyedTable QuotaPolicy.id) (caller : Caller) :
    ((effectivePolicies featureEnabled scan policies caller).map QuotaPolicy.kind).Nodup := by
  cases heff : effectivePolicies featureEnabled scan policies caller with
  | nil => exact List.nodup_nil
  | cons p ps =>
    obtain ⟨userId, _, hselect⟩ := effectivePolicies_eq_select (heff ▸ List.mem_cons_self : p ∈ _)
    rw [← heff, hselect]
    exact nodup_kinds_selectAmong _

/-- An effective policy is a candidate of the caller. -/
theorem mem_listMatching_of_effective {featureEnabled : Bool} {scan : ScanOrder QuotaPolicy}
    {policies : KeyedTable QuotaPolicy.id} {caller : Caller} {p : QuotaPolicy}
    (h : p ∈ effectivePolicies featureEnabled scan policies caller) :
    ∃ userId, caller.userId = some userId ∧
      p ∈ QuotaPolicyRepository.listMatching scan policies userId caller.groups
        caller.modelId := by
  obtain ⟨userId, hcaller, hselect⟩ := effectivePolicies_eq_select h
  rw [hselect] at h
  exact ⟨userId, hcaller, mem_candidates_of_mem_selectAmong h⟩

end QuotaService

end AgnoRuntime
