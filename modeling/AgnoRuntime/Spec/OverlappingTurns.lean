import AgnoRuntime.Model.QuotaTurns
import AgnoRuntime.Spec.QuotaCounters
import Mathlib.Data.Fintype.Card
import Mathlib.Data.Finset.Card

/-!
# Overlapping turns and a limit on requests

The counter of a REQUESTS policy is read before a turn and incremented after it,
so turns that overlap do not see each other. What the check does ensure, in any
interleaving: when a turn is let through, fewer than `limit_value` turns have been
recorded in the bucket. So the turns let through in a bucket exceed the limit by
at most the number of those that, when another one was let through, had been let
through as well but not been recorded.

## Key results

- `inv_step`, `inv_run`: the counter holds the number of turns recorded
- `recordedIn_lt_of_clears`: whoever is let through found that number below the limit
- `passedIn_le`: the bound on the turns let through
-/

namespace AgnoRuntime

open Civil

namespace QuotaService

section Turns

variable {ι : Type} [DecidableEq ι]

/-! ## A turn by itself -/

@[simp] theorem TurnSystem.setTurn_clock (s : TurnSystem ι) (i : ι) (t : TurnState) :
    (s.setTurn i t).clock = s.clock := rfl

@[simp] theorem TurnSystem.setTurn_redis (s : TurnSystem ι) (i : ι) (t : TurnState) :
    (s.setTurn i t).redis = s.redis := rfl

@[simp] theorem TurnSystem.setTurn_turn_self (s : TurnSystem ι) (i : ι) (t : TurnState) :
    (s.setTurn i t).turn i = t := if_pos rfl

theorem TurnSystem.setTurn_turn_of_ne (s : TurnSystem ι) {i j : ι} (t : TurnState) (h : j ≠ i) :
    (s.setTurn i t).turn j = s.turn j := if_neg h

theorem sendIncr_redis (s : TurnSystem ι) (i : ι) (now : DateTime) (usage : Usage)
    (p : QuotaPolicy) (ps : List QuotaPolicy) : (s.sendIncr i now usage p ps).redis =
      s.redis.incrByFloat s.clock (p.counterKey now) (metricValue usage p.metric) := rfl

theorem sendExpire_redis (s : TurnSystem ι) (i : ι) (now : DateTime) (usage : Usage)
    (p : QuotaPolicy) (ps : List QuotaPolicy) : (s.sendExpire i now usage p ps).redis =
      s.redis.expire s.clock (p.counterKey now) (p.ttl now) := rfl

variable (policies : KeyedTable QuotaPolicy.id) (caller : ι → Caller)

/-- Undisturbed, the rounds of a turn's check that would pass end with the turn let through, and
    leave the counters alone. -/
theorem run_check_of_ok (s : TurnSystem ι) (i : ι) {now : DateTime} (hnow : s.clock = now)
    {ps : List QuotaPolicy} (hphase : (s.turn i).phase = .checking now ps)
    (hok : checkPolicies s.redis now ps = .ok ()) :
    ∃ s', Runs.run (TurnSystem.step policies caller) s
        (List.replicate (ps.length + 1) (.check i)) = some s' ∧
      (s'.turn i).phase = .running ∧ (s'.turn i).passed = true ∧ s'.redis = s.redis := by
  induction ps generalizing s with
  | nil =>
    -- All policies are checked.
    refine ⟨s.setTurn i { s.turn i with phase := .running, passed := true }, ?_, ?_⟩
    · rw [List.length_nil, List.replicate_one, Runs.run_cons]
      refine ⟨_, ?_, rfl⟩
      simp only [TurnSystem.step, hphase, TurnSystem.check]
    · simp
  | cons p ps ih =>
    rw [checkPolicies] at hok
    split at hok
    · cases hok
    · rename_i hbelow
      -- The clock stands still, so the counter is the one that `check` reads.
      have hat : exceededAt s.redis s.clock now p = exceeded s.redis now p := by
        rw [hnow]
        rfl
      have hstep : TurnSystem.step policies caller s (.check i) = some (s.letThrough i now p ps) := by
        simp only [TurnSystem.step, hphase, TurnSystem.check, hat, hbelow]
        rfl
      obtain ⟨s', hrun, hrest⟩ := ih (s.letThrough i now p ps) hnow
        (by simp [TurnSystem.letThrough]) hok
      refine ⟨s', ?_, hrest⟩
      rw [List.length_cons, List.replicate_succ, Runs.run_cons]
      exact ⟨_, hstep, hrun⟩

/-- Undisturbed, the rounds of a turn's recording do what `record_usage` does to the counters. -/
theorem run_record (s : TurnSystem ι) (i : ι) {now : DateTime} {usage : Usage}
    (hnow : s.clock = now) {ps : List QuotaPolicy}
    (hphase : (s.turn i).phase = .recording now usage ps) :
    ∃ evs s', Runs.run (TurnSystem.step policies caller) s evs = some s' ∧
      (s'.turn i).phase = .ended ∧ s'.redis = ps.foldl (recordPolicy now usage) s.redis := by
  induction ps generalizing s with
  | nil =>
    refine ⟨[.increment i], s.setTurn i { s.turn i with phase := .ended }, ?_, by simp, rfl⟩
    rw [Runs.run_cons]
    refine ⟨_, ?_, rfl⟩
    simp only [TurnSystem.step, hphase, TurnSystem.increment]
  | cons p ps ih =>
    by_cases hzero : metricValue usage p.metric = 0
    · -- Nothing to add: the policy is skipped.
      obtain ⟨evs, s', hrun, hended, hredis⟩ :=
        ih (s.setTurn i { s.turn i with phase := .recording now usage ps }) hnow (by simp)
      refine ⟨.increment i :: evs, s', ?_, hended, ?_⟩
      · rw [Runs.run_cons]
        refine ⟨_, ?_, hrun⟩
        simp only [TurnSystem.step, hphase, TurnSystem.increment, if_pos hzero]
      · rw [hredis, List.foldl_cons, recordPolicy, if_pos hzero]
        rfl
    · -- `INCRBYFLOAT`, then `EXPIRE`, at one instant.
      have hphase₁ : ((s.sendIncr i now usage p ps).turn i).phase = .expiring now usage p ps :=
        congrArg TurnState.phase (s.setTurn_turn_self i _)
      have hphase₂ : (((s.sendIncr i now usage p ps).sendExpire i now usage p ps).turn i).phase =
          .recording now usage ps :=
        congrArg TurnState.phase ((s.sendIncr i now usage p ps).setTurn_turn_self i _)
      obtain ⟨evs, s', hrun, hended, hredis⟩ :=
        ih ((s.sendIncr i now usage p ps).sendExpire i now usage p ps) hnow hphase₂
      refine ⟨.increment i :: .expire i :: evs, s', ?_, hended, ?_⟩
      · rw [Runs.run_cons]
        refine ⟨s.sendIncr i now usage p ps, ?_, ?_⟩
        · simp only [TurnSystem.step, hphase, TurnSystem.increment, if_neg hzero]
        · rw [Runs.run_cons]
          refine ⟨_, ?_, hrun⟩
          simp only [TurnSystem.step, hphase₁]
      · have hone : ((s.sendIncr i now usage p ps).sendExpire i now usage p ps).redis =
            recordPolicy now usage s.redis p := by
          rw [recordPolicy, if_neg hzero, ← hnow]
          rfl
        rw [hredis, hone, List.foldl_cons]

/-! ## What a step can do -/

variable {policies caller}

/-- The steps of one turn; everything else about the other turns stays as it is. -/
inductive Steps (policies : KeyedTable QuotaPolicy.id) (caller : ι → Caller) (s : TurnSystem ι) :
    TurnEvent ι → TurnSystem ι → Prop where
  | tick {clock : DateTime} (h : s.clock.micros ≤ clock.micros) :
      Steps policies caller s (.tick clock) { s with clock }
  | begin {i : ι} {scan : ScanOrder QuotaPolicy} (h : (s.turn i).phase = .waiting) :
      Steps policies caller s (.begin i scan) (s.setTurn i { s.turn i with
        phase := .checking s.clock (effectivePolicies true scan policies (caller i)) })
  | pass {i : ι} {now : DateTime} (h : (s.turn i).phase = .checking now []) :
      Steps policies caller s (.check i)
        (s.setTurn i { s.turn i with phase := .running, passed := true })
  | refuse {i : ι} {now : DateTime} {p : QuotaPolicy} {ps : List QuotaPolicy}
      (h : (s.turn i).phase = .checking now (p :: ps))
      (hover : exceededAt s.redis s.clock now p = true) :
      Steps policies caller s (.check i) (s.setTurn i { s.turn i with phase := .ended })
  | letThrough {i : ι} {now : DateTime} {p : QuotaPolicy} {ps : List QuotaPolicy}
      (h : (s.turn i).phase = .checking now (p :: ps))
      (hbelow : exceededAt s.redis s.clock now p = false) :
      Steps policies caller s (.check i) (s.letThrough i now p ps)
  | complete {i : ι} {scan : ScanOrder QuotaPolicy} {usage : Usage}
      (h : (s.turn i).phase = .running) :
      Steps policies caller s (.complete i scan usage) (s.setTurn i { s.turn i with
        phase := .recording s.clock usage (effectivePolicies true scan policies (caller i)) })
  | recorded {i : ι} {now : DateTime} {usage : Usage}
      (h : (s.turn i).phase = .recording now usage []) :
      Steps policies caller s (.increment i) (s.setTurn i { s.turn i with phase := .ended })
  | skip {i : ι} {now : DateTime} {usage : Usage} {p : QuotaPolicy} {ps : List QuotaPolicy}
      (h : (s.turn i).phase = .recording now usage (p :: ps))
      (hzero : metricValue usage p.metric = 0) :
      Steps policies caller s (.increment i)
        (s.setTurn i { s.turn i with phase := .recording now usage ps })
  | incr {i : ι} {now : DateTime} {usage : Usage} {p : QuotaPolicy} {ps : List QuotaPolicy}
      (h : (s.turn i).phase = .recording now usage (p :: ps))
      (hzero : metricValue usage p.metric ≠ 0) :
      Steps policies caller s (.increment i) (s.sendIncr i now usage p ps)
  | expire {i : ι} {now : DateTime} {usage : Usage} {p : QuotaPolicy} {ps : List QuotaPolicy}
      (h : (s.turn i).phase = .expiring now usage p ps) :
      Steps policies caller s (.expire i) (s.sendExpire i now usage p ps)
  | stop {i : ι} :
      Steps policies caller s (.stop i) (s.setTurn i { s.turn i with phase := .ended })

/-- Every step of the system is one of these. -/
theorem steps_of_step {s s' : TurnSystem ι} {ev : TurnEvent ι}
    (h : s.step policies caller ev = some s') : Steps policies caller s ev s' := by
  cases ev with
  | tick clock =>
    simp only [TurnSystem.step] at h
    split at h
    · rename_i hle
      cases h
      exact .tick hle
    · cases h
  | begin i scan =>
    simp only [TurnSystem.step] at h
    split at h
    · rename_i hphase
      cases h
      exact .begin hphase
    · cases h
  | check i =>
    simp only [TurnSystem.step] at h
    split at h
    · rename_i now ps hphase
      -- the next policy of the check decides: none left passes, one over its limit refuses
      cases ps with
      | nil =>
        cases h
        exact .pass hphase
      | cons p ps =>
        rw [TurnSystem.check] at h
        split at h
        · rename_i hover
          cases h
          exact .refuse hphase hover
        · rename_i hbelow
          cases h
          exact .letThrough hphase (Bool.not_eq_true _ ▸ hbelow)
    · cases h
  | complete i scan usage =>
    simp only [TurnSystem.step] at h
    split at h
    · rename_i hphase
      cases h
      exact .complete hphase
    · cases h
  | increment i =>
    simp only [TurnSystem.step] at h
    split at h
    · rename_i now usage ps hphase
      -- none left ends the recording; a policy that nothing of the usage counts for is skipped
      cases ps with
      | nil =>
        cases h
        exact .recorded hphase
      | cons p ps =>
        rw [TurnSystem.increment] at h
        split at h
        · rename_i hzero
          cases h
          exact .skip hphase hzero
        · rename_i hzero
          cases h
          exact .incr hphase hzero
    · cases h
  | expire i =>
    simp only [TurnSystem.step] at h
    split at h
    · rename_i now usage p ps hphase
      cases h
      exact .expire hphase
    · cases h
  | stop i =>
    simp only [TurnSystem.step, Option.some.injEq] at h
    exact h ▸ .stop

/-! ## The invariant -/

/-- What a turn that is recording has left to do for `p`: no other policy of its counter, and
    the increment at most once. -/
structure Owes (p : QuotaPolicy) (incremented : List (QuotaPolicy × DateTime))
    (left : List QuotaPolicy) : Prop where
  own : ∀ q ∈ left, q.SharesCounter p → q = p
  nodup : left.Nodup
  fresh : p ∈ left → ∀ e ∈ incremented, e.1 ≠ p

/-- A phase agrees with what the turn has incremented. -/
def PhaseOk (p : QuotaPolicy) (clock : DateTime) (incremented : List (QuotaPolicy × DateTime)) :
    TurnPhase → Prop
  | .waiting | .checking _ _ | .running => incremented = []
  | .recording now _ left => now.micros ≤ clock.micros ∧ Owes p incremented left
  | .expiring now _ q left =>
    now.micros ≤ clock.micros ∧ (q.SharesCounter p → q = p) ∧ Owes p incremented left
  | .ended => True

/-- Time passes. -/
theorem PhaseOk.tick {p : QuotaPolicy} {clock clock' : DateTime}
    {incremented : List (QuotaPolicy × DateTime)} {phase : TurnPhase}
    (h : PhaseOk p clock incremented phase) (hle : clock.micros ≤ clock'.micros) :
    PhaseOk p clock' incremented phase := by
  cases phase with
  | waiting => exact h
  | checking now left => exact h
  | running => exact h
  | recording now usage left => exact ⟨Int.le_trans h.1 hle, h.2⟩
  | expiring now usage q left => exact ⟨Int.le_trans h.1 hle, h.2⟩
  | ended => exact h

/-- The first of what is owed is done. -/
theorem Owes.tail {p q : QuotaPolicy} {incremented : List (QuotaPolicy × DateTime)}
    {left : List QuotaPolicy} (h : Owes p incremented (q :: left)) : Owes p incremented left where
  own := fun q' hq' => h.own q' (List.mem_cons_of_mem q hq')
  nodup := (List.nodup_cons.mp h.nodup).2
  fresh := fun hp => h.fresh (List.mem_cons_of_mem q hp)

/-- The first of what is owed is incremented. -/
theorem Owes.incr {p q : QuotaPolicy} {incremented : List (QuotaPolicy × DateTime)}
    {left : List QuotaPolicy} (h : Owes p incremented (q :: left)) (now : DateTime) :
    Owes p ((q, now) :: incremented) left where
  own := h.tail.own
  nodup := h.tail.nodup
  fresh := by
    intro hp e he heq
    rcases List.mem_cons.mp he with hnew | hold
    · have hq : q = p := by
        rw [hnew] at heq
        exact heq
      exact (List.nodup_cons.mp h.nodup).1 (hq ▸ hp)
    · exact h.tail.fresh hp e hold heq

/-- A turn that has recorded nothing owes each of its effective policies once. -/
theorem owes_effective {policies : KeyedTable QuotaPolicy.id} {p : QuotaPolicy}
    {scan : ScanOrder QuotaPolicy} {who : Caller}
    (heff : p ∈ effectivePolicies true scan policies who) :
    Owes p [] (effectivePolicies true scan policies who) where
  own := by
    intro q hq hshares
    exact List.inj_on_of_nodup_map (nodup_kinds_effective true scan policies who) hq heff
      hshares.kind_eq
  nodup := List.Nodup.of_map _ (nodup_kinds_effective true scan policies who)
  fresh := fun _ _ he => by cases he

variable [Fintype ι]

/-- The turns that incremented the counter of `p` in the bucket of `b`. -/
def recordedIn (s : TurnSystem ι) (p : QuotaPolicy) (b : DateTime) : Finset ι :=
  Finset.univ.filter fun i => ∃ e ∈ (s.turn i).incremented, e.1 = p ∧ p.SameBucket e.2 b

/-- The invariant: the turns are consistent, and as long as the bucket lasts the counter holds
    the number of turns recorded in it. -/
structure Inv (p : QuotaPolicy) (b : DateTime) (s : TurnSystem ι) : Prop where
  turns : ∀ i, PhaseOk p s.clock (s.turn i).incremented (s.turn i).phase
  counter : BucketOver p b s.clock ∨ Holds s.redis p b (recordedIn s p b).card

theorem recordedIn_setTurn (s : TurnSystem ι) (p : QuotaPolicy) (b : DateTime) {i : ι}
    {t : TurnState} (h : t.incremented = (s.turn i).incremented) :
    recordedIn (s.setTurn i t) p b = recordedIn s p b := by
  apply Finset.filter_congr
  intro j _
  by_cases hj : j = i
  · rw [hj, TurnSystem.setTurn_turn_self, h]
  · rw [s.setTurn_turn_of_ne t hj]

private theorem turns_setTurn {p : QuotaPolicy} {b : DateTime} {s : TurnSystem ι} (h : Inv p b s)
    {i : ι} {t : TurnState} (hok : PhaseOk p s.clock t.incremented t.phase) (j : ι) :
    PhaseOk p s.clock ((s.setTurn i t).turn j).incremented ((s.setTurn i t).turn j).phase := by
  by_cases hj : j = i
  · rw [hj, TurnSystem.setTurn_turn_self]
    exact hok
  · rw [s.setTurn_turn_of_ne t hj]
    exact h.turns j

/-- A turn changes its phase and increments nothing. -/
theorem Inv.setPhase {p : QuotaPolicy} {b : DateTime} {s : TurnSystem ι} (h : Inv p b s) {i : ι}
    {t : TurnState} (hincr : t.incremented = (s.turn i).incremented)
    (hok : PhaseOk p s.clock (s.turn i).incremented t.phase) : Inv p b (s.setTurn i t) where
  turns := turns_setTurn h (hincr ▸ hok)
  counter := by
    rw [recordedIn_setTurn s p b hincr]
    exact h.counter

omit [DecidableEq ι] in
/-- Time passes. -/
theorem Inv.tick {p : QuotaPolicy} {b clock : DateTime} {s : TurnSystem ι} (h : Inv p b s)
    (hle : s.clock.micros ≤ clock.micros) : Inv p b { s with clock } where
  turns := fun i => (h.turns i).tick hle
  counter := by
    rcases h.counter with hover | hholds
    · exact Or.inl fun t ht => Int.lt_of_lt_of_le (hover t ht) hle
    · exact Or.inr hholds

/-- `INCRBYFLOAT`: the first owed policy is `p` in the bucket, or another counter moves. -/
theorem Inv.incr {p : QuotaPolicy} {b : DateTime} {s : TurnSystem ι} (h : Inv p b s)
    (hrequests : p.metric = .requests) {i : ι} {now : DateTime} {usage : Usage} {q : QuotaPolicy}
    {ps : List QuotaPolicy} (hphase : (s.turn i).phase = .recording now usage (q :: ps)) :
    Inv p b (s.sendIncr i now usage q ps) := by
  have hturn := h.turns i
  rw [hphase] at hturn
  obtain ⟨hle, howes⟩ := hturn
  have hown := howes.own q List.mem_cons_self
  refine ⟨turns_setTurn h ⟨hle, hown, howes.incr now⟩, ?_⟩
  by_cases hcounts : q = p ∧ p.SameBucket now b
  · -- One more turn is recorded in the bucket, and the counter goes up by 1.
    obtain ⟨rfl, hnow⟩ := hcounts
    have hkey : q.counterKey now = q.counterKey b := by
      rw [QuotaPolicy.counterKey_eq_iff, QuotaPolicy.bucket_eq_iff]
      exact ⟨.refl q, hnow⟩
    have hnew : i ∉ recordedIn s q b := by
      intro hmem
      obtain ⟨e, he, hq, _⟩ := (Finset.mem_filter.mp hmem).2
      exact howes.fresh List.mem_cons_self e he hq
    have hrec : recordedIn (s.sendIncr i now usage q ps) q b = insert i (recordedIn s q b) := by
      ext j
      rw [Finset.mem_insert, recordedIn, recordedIn, Finset.mem_filter, Finset.mem_filter]
      by_cases hj : j = i
      · simp only [hj, TurnSystem.sendIncr, TurnSystem.setTurn_turn_self, true_or, iff_true,
          Finset.mem_univ, true_and]
        exact ⟨(q, now), List.mem_cons_self, rfl, hnow⟩
      · simp only [TurnSystem.sendIncr, s.setTurn_turn_of_ne _ hj, hj, false_or]
    rw [hrec, Finset.card_insert_of_notMem hnew, Nat.cast_add, Nat.cast_one]
    rcases h.counter with hover | hholds
    · exact Or.inl hover
    · have hone : metricValue usage q.metric = 1 := by
        rw [hrequests]
        rfl
      rw [sendIncr_redis, hkey, hone]
      exact hholds.incr s.clock 1
  · have hkey : q.counterKey now ≠ p.counterKey b := by
      intro hkey
      obtain ⟨hshares, hbucket⟩ := (QuotaPolicy.counterKey_eq_iff q p now b).mp hkey
      have hq := hown hshares
      rw [hq, QuotaPolicy.bucket_eq_iff] at hbucket
      exact hcounts ⟨hq, hbucket⟩
    have hrec : recordedIn (s.sendIncr i now usage q ps) p b = recordedIn s p b := by
      apply Finset.filter_congr
      intro j _
      by_cases hj : j = i
      · simp only [hj, TurnSystem.sendIncr, TurnSystem.setTurn_turn_self, List.mem_cons,
          exists_eq_or_imp]
        exact or_iff_right hcounts
      · simp only [TurnSystem.sendIncr, s.setTurn_turn_of_ne _ hj]
    rw [hrec]
    rcases h.counter with hover | hholds
    · exact Or.inl hover
    · right
      apply hholds.of_same
      rw [sendIncr_redis, Redis.incrByFloat_of_ne _ _ _ (Ne.symm hkey)]

/-- `EXPIRE`. -/
theorem Inv.expire {p : QuotaPolicy} {b : DateTime} {s : TurnSystem ι} (h : Inv p b s) {i : ι}
    {now : DateTime} {usage : Usage} {q : QuotaPolicy} {ps : List QuotaPolicy}
    (hphase : (s.turn i).phase = .expiring now usage q ps) :
    Inv p b (s.sendExpire i now usage q ps) := by
  have hturn := h.turns i
  rw [hphase] at hturn
  obtain ⟨hle, hown, howes⟩ := hturn
  -- The phase of the turn knows less than before.
  refine ⟨turns_setTurn h ⟨hle, howes⟩, ?_⟩
  -- No turn has recorded anything.
  have hrec : recordedIn (s.sendExpire i now usage q ps) p b = recordedIn s p b :=
    recordedIn_setTurn s p b rfl
  rw [hrec]
  -- The counter of `p` is over, or it is another key, or it lives on to the end of its bucket.
  rcases h.counter with hover | hholds
  · exact Or.inl hover
  · by_cases hkey : q.counterKey now = p.counterKey b
    · obtain ⟨hshares, hbucket⟩ := (QuotaPolicy.counterKey_eq_iff q p now b).mp hkey
      have hq := hown hshares
      rw [hq, QuotaPolicy.bucket_eq_iff] at hbucket
      rw [sendExpire_redis, hkey, hq]
      exact hholds.expire hbucket hle
    · right
      apply hholds.of_same
      rw [sendExpire_redis, Redis.expire_of_ne _ _ _ (Ne.symm hkey)]

/-- Every step keeps the invariant. -/
theorem inv_step {p : QuotaPolicy} {b : DateTime} (hrequests : p.metric = .requests)
    (heff : ∀ i scan, p ∈ effectivePolicies true scan policies (caller i)) {s s' : TurnSystem ι}
    {ev : TurnEvent ι} (h : Inv p b s) (hstep : s.step policies caller ev = some s') :
    Inv p b s' := by
  cases steps_of_step hstep with
  | tick hle => exact h.tick hle
  | @begin i scan hphase =>
    have hturn := h.turns i
    rw [hphase] at hturn
    exact h.setPhase rfl hturn
  | @pass i now hphase =>
    have hturn := h.turns i
    rw [hphase] at hturn
    exact h.setPhase rfl hturn
  -- a refused turn owes nothing: the guard stopped it before the engine ran
  | refuse hphase hover => exact h.setPhase rfl trivial
  | @letThrough i now q ps hphase hbelow =>
    have hturn := h.turns i
    rw [hphase] at hturn
    exact h.setPhase rfl hturn
  | @complete i scan usage hphase =>
    have hturn := h.turns i
    rw [hphase] at hturn
    have hnone : (s.turn i).incremented = [] := hturn
    refine h.setPhase rfl ⟨Int.le_refl _, ?_⟩
    -- from here on the turn owes an increment for every effective policy
    rw [hnone]
    exact owes_effective (heff i scan)
  | recorded hphase => exact h.setPhase rfl trivial
  | @skip i now usage q ps hphase hzero =>
    have hturn := h.turns i
    rw [hphase] at hturn
    exact h.setPhase rfl ⟨hturn.1, hturn.2.tail⟩
  | incr hphase hzero => exact h.incr hrequests hphase
  | expire hphase => exact h.expire hphase
  | stop => exact h.setPhase rfl trivial

omit [DecidableEq ι] in
/-- The invariant holds before any turn begins. -/
theorem inv_start (p : QuotaPolicy) (b clock : DateTime) :
    Inv p b (TurnSystem.start clock : TurnSystem ι) where
  turns := fun _ => rfl
  counter := by
    right
    have hnone : recordedIn (TurnSystem.start clock : TurnSystem ι) p b = ∅ := by
      apply Finset.filter_eq_empty_iff.mpr
      intro i _ hex
      obtain ⟨e, he, _⟩ := hex
      cases he
    rw [hnone, Finset.card_empty, Nat.cast_zero]
    exact holds_empty p b

/-! ## Who is let through -/

/-- The turns that `p` let through in the bucket of `b`: the check's `now` and its `GET` both fall
    in the bucket. -/
def clearedIn (s : TurnSystem ι) (p : QuotaPolicy) (b : DateTime) : Finset ι :=
  Finset.univ.filter fun i => ∃ e ∈ (s.turn i).below,
    e.1 = p ∧ p.SameBucket e.2.1 b ∧ p.SameBucket e.2.2 b

/-- The turns whose whole check has passed, in the bucket of `b`. -/
def passedIn (s : TurnSystem ι) (p : QuotaPolicy) (b : DateTime) : Finset ι :=
  (clearedIn s p b).filter fun i => (s.turn i).passed = true

/-- The turns let through in the bucket of `b` that are not recorded in it: still running, failed,
    cancelled, or recorded in another bucket. -/
def unrecorded (s : TurnSystem ι) (p : QuotaPolicy) (b : DateTime) : Finset ι :=
  clearedIn s p b \ recordedIn s p b

/-- With this step `p` lets a turn through in the bucket of `b`. -/
def clears (p : QuotaPolicy) (b : DateTime) (s : TurnSystem ι) : TurnEvent ι → Bool
  | .check i =>
    match (s.turn i).phase with
    | .checking now (q :: _) =>
      q = p && !exceededAt s.redis s.clock now p && p.SameBucket now b && p.SameBucket s.clock b
    | _ => false
  | _ => false

omit [DecidableEq ι] [Fintype ι] in
/-- A turn let through by its next `GET`. -/
theorem clears_check {p : QuotaPolicy} {b : DateTime} {s : TurnSystem ι} {i : ι} {now : DateTime}
    {q : QuotaPolicy} {ps : List QuotaPolicy} (hphase : (s.turn i).phase = .checking now (q :: ps)) :
    clears p b s (.check i) = true ↔ q = p ∧ exceededAt s.redis s.clock now p = false ∧
      p.SameBucket now b ∧ p.SameBucket s.clock b := by
  simp only [clears, hphase, Bool.and_eq_true, decide_eq_true_eq, Bool.not_eq_true', and_assoc]

omit [DecidableEq ι] in
/-- Whoever is let through finds fewer recorded turns than the limit. -/
theorem recordedIn_lt_of_clears {p : QuotaPolicy} {b : DateTime} {s : TurnSystem ι}
    {ev : TurnEvent ι} (h : Inv p b s) (hclears : clears p b s ev = true) :
    (recordedIn s p b).card < p.limitValue := by
  cases ev with
  -- Only a check lets a turn through.
  | check i =>
    cases hphase : (s.turn i).phase with
    | checking now left =>
      cases left with
      | nil => simp [clears, hphase] at hclears
      | cons q ps =>
        obtain ⟨_, hbelow, hnow, hclock⟩ := (clears_check hphase).mp hclears
        -- The bucket is not over, so the counter holds what was recorded.
        rcases h.counter with hover | hholds
        · exact absurd hover (not_bucketOver hclock.symm)
        · have hkey : p.counterKey now = p.counterKey b := by
            rw [QuotaPolicy.counterKey_eq_iff, QuotaPolicy.bucket_eq_iff]
            exact ⟨.refl p, hnow⟩
          rw [exceededAt, hkey, hholds.get hclock.symm, decide_eq_false_iff_not, not_le] at hbelow
          exact_mod_cast hbelow
    | waiting => simp [clears, hphase] at hclears
    | running => simp [clears, hphase] at hclears
    | recording now usage left => simp [clears, hphase] at hclears
    | expiring now usage q left => simp [clears, hphase] at hclears
    | ended => simp [clears, hphase] at hclears
  -- The other steps let nothing through.
  | tick clock => cases hclears
  | begin i scan => cases hclears
  | complete i scan usage => cases hclears
  | increment i => cases hclears
  | expire i => cases hclears
  | stop i => cases hclears

theorem clearedIn_setTurn (s : TurnSystem ι) (p : QuotaPolicy) (b : DateTime) {i : ι}
    {t : TurnState} (h : t.below = (s.turn i).below) :
    clearedIn (s.setTurn i t) p b = clearedIn s p b := by
  apply Finset.filter_congr
  intro j _
  by_cases hj : j = i
  · rw [hj, TurnSystem.setTurn_turn_self, h]
  · rw [s.setTurn_turn_of_ne t hj]

/-- A step lets at most one more turn through. -/
theorem clearedIn_step {p : QuotaPolicy} {b : DateTime} {s s' : TurnSystem ι} {ev : TurnEvent ι}
    (hstep : s.step policies caller ev = some s') :
    clearedIn s' p b = clearedIn s p b ∨
      clears p b s ev = true ∧ (clearedIn s' p b).card ≤ (clearedIn s p b).card + 1 := by
  cases steps_of_step hstep with
  | tick hle => exact Or.inl rfl
  | begin hphase => exact Or.inl (clearedIn_setTurn s p b rfl)
  | pass hphase => exact Or.inl (clearedIn_setTurn s p b rfl)
  | refuse hphase hover => exact Or.inl (clearedIn_setTurn s p b rfl)
  | @letThrough i now q ps hphase hbelow =>
    -- only a policy let through can clear a turn, and only in the bucket it was read in
    by_cases hcounts : q = p ∧ p.SameBucket now b ∧ p.SameBucket s.clock b
    · obtain ⟨rfl, hnow, hclock⟩ := hcounts
      refine Or.inr ⟨(clears_check hphase).mpr ⟨rfl, hbelow, hnow, hclock⟩, ?_⟩
      -- the turn that was let through is the only one the set can gain
      have hsub : clearedIn (s.letThrough i now q ps) q b ⊆ insert i (clearedIn s q b) := by
        intro j hj
        by_cases hji : j = i
        · exact hji ▸ Finset.mem_insert_self j _
        · apply Finset.mem_insert_of_mem
          have hturn : (s.letThrough i now q ps).turn j = s.turn j := s.setTurn_turn_of_ne _ hji
          have hmem := (Finset.mem_filter.mp hj).2
          rw [hturn] at hmem
          exact Finset.mem_filter.mpr ⟨Finset.mem_univ j, hmem⟩
      exact Nat.le_trans (Finset.card_le_card hsub) (Finset.card_insert_le i _)
    · left
      -- another policy or another bucket: the set of cleared turns is the one before
      apply Finset.filter_congr
      intro j _
      by_cases hj : j = i
      · simp only [hj, TurnSystem.letThrough, TurnSystem.setTurn_turn_self, List.mem_cons,
          exists_eq_or_imp]
        exact or_iff_right hcounts
      · simp only [TurnSystem.letThrough, s.setTurn_turn_of_ne _ hj]
  | complete hphase => exact Or.inl (clearedIn_setTurn s p b rfl)
  | recorded hphase => exact Or.inl (clearedIn_setTurn s p b rfl)
  | skip hphase hzero => exact Or.inl (clearedIn_setTurn s p b rfl)
  | incr hphase hzero => exact Or.inl (clearedIn_setTurn s p b rfl)
  | expire hphase => exact Or.inl (clearedIn_setTurn s p b rfl)
  | stop => exact Or.inl (clearedIn_setTurn s p b rfl)

/-- One step renews the bound, if it finds at most `k` unrecorded turns when it lets one
    through. -/
theorem card_clearedIn_step {p : QuotaPolicy} (hrequests : p.metric = .requests)
    (heff : ∀ i scan, p ∈ effectivePolicies true scan policies (caller i)) {b : DateTime}
    {s s' : TurnSystem ι} {ev : TurnEvent ι} {k : Nat} (hinv : Inv p b s)
    (hbound : (clearedIn s p b).card ≤ p.limitValue + k)
    (hoverlap : clears p b s ev = true → (unrecorded s p b).card ≤ k)
    (hstep : s.step policies caller ev = some s') :
    Inv p b s' ∧ (clearedIn s' p b).card ≤ p.limitValue + k := by
  refine ⟨inv_step hrequests heff hinv hstep, ?_⟩
  rcases clearedIn_step (p := p) (b := b) hstep with hsame | ⟨hclears, hone⟩
  · rw [hsame]
    exact hbound
  · -- Those let through before are unrecorded, at most `k`, or recorded, fewer than the limit.
    have hfew := recordedIn_lt_of_clears hinv hclears
    have hpending := hoverlap hclears
    have hsplit : (clearedIn s p b).card ≤ (unrecorded s p b).card + (recordedIn s p b).card :=
      Finset.card_le_card_sdiff_add_card
    omega

/-- Whenever the run lets a turn through, at most `k` of those let through before are
    unrecorded. -/
def overlapAtMost (k : Nat) (policies : KeyedTable QuotaPolicy.id) (caller : ι → Caller)
    (p : QuotaPolicy) (b : DateTime) (s : TurnSystem ι) : List (TurnEvent ι) → Bool
  | [] => true
  | ev :: evs =>
    (!clears p b s ev || (unrecorded s p b).card ≤ k) &&
      match s.step policies caller ev with
      | some s' => overlapAtMost k policies caller p b s' evs
      | none => true

private theorem card_clearedIn_run {p : QuotaPolicy} (hrequests : p.metric = .requests)
    (heff : ∀ i scan, p ∈ effectivePolicies true scan policies (caller i)) {b : DateTime}
    {evs : List (TurnEvent ι)} {s s' : TurnSystem ι} {k : Nat} (hinv : Inv p b s)
    (hbound : (clearedIn s p b).card ≤ p.limitValue + k)
    (hoverlap : overlapAtMost k policies caller p b s evs = true)
    (hrun : Runs.run (TurnSystem.step policies caller) s evs = some s') :
    (clearedIn s' p b).card ≤ p.limitValue + k := by
  induction evs generalizing s with
  | nil =>
    rw [Runs.run_nil, Option.some.injEq] at hrun
    exact hrun ▸ hbound
  | cons ev evs ih =>
    obtain ⟨s₁, hstep, hrest⟩ := Runs.run_cons.mp hrun
    simp only [overlapAtMost, hstep, Bool.and_eq_true, Bool.or_eq_true, Bool.not_eq_true',
      decide_eq_true_eq] at hoverlap
    have hnow : clears p b s ev = true → (unrecorded s p b).card ≤ k := by
      intro hclears
      rcases hoverlap.1 with hnot | hle
      · rw [hclears] at hnot
        cases hnot
      · exact hle
    obtain ⟨hinv₁, hbound₁⟩ := card_clearedIn_step hrequests heff hinv hbound hnow hstep
    exact ih hinv₁ hbound₁ hoverlap.2 hrest

/-- The invariant holds in every state of a run. -/
theorem inv_run {p : QuotaPolicy} {b clock : DateTime} (hrequests : p.metric = .requests)
    (heff : ∀ i scan, p ∈ effectivePolicies true scan policies (caller i))
    {evs : List (TurnEvent ι)} {s : TurnSystem ι}
    (hrun : Runs.run (TurnSystem.step policies caller) (.start clock) evs = some s) : Inv p b s :=
  Runs.invariant (fun _ _ _ h hstep => inv_step hrequests heff h hstep) (inv_start p b clock) hrun

/-- In any interleaving of turns for all of which a REQUESTS policy is effective: whenever the
    policy lets a turn through in a bucket, fewer turns have been recorded in it than the limit;
    so the turns that pass in the bucket exceed the limit by at most the number of unrecorded
    ones that a turn let through may find. -/
theorem passedIn_le {p : QuotaPolicy} (hrequests : p.metric = .requests)
    (heff : ∀ i scan, p ∈ effectivePolicies true scan policies (caller i)) (b : DateTime)
    {clock : DateTime} {evs : List (TurnEvent ι)} {s : TurnSystem ι}
    (hrun : Runs.run (TurnSystem.step policies caller) (.start clock) evs = some s) :
    (∀ earlier ev s₁, earlier ++ [ev] <+: evs →
      Runs.run (TurnSystem.step policies caller) (.start clock) earlier = some s₁ →
        clears p b s₁ ev = true → (recordedIn s₁ p b).card < p.limitValue) ∧
    ∀ k, overlapAtMost k policies caller p b (.start clock) evs = true →
      (passedIn s p b).card ≤ p.limitValue + k := by
  constructor
  · intro earlier ev s₁ _ hearlier hclears
    exact recordedIn_lt_of_clears (inv_run hrequests heff hearlier) hclears
  · intro k hoverlap
    have hnone : clearedIn (TurnSystem.start clock : TurnSystem ι) p b = ∅ := by
      apply Finset.filter_eq_empty_iff.mpr
      intro i _ hex
      obtain ⟨e, he, _⟩ := hex
      cases he
    have hstart : (clearedIn (TurnSystem.start clock : TurnSystem ι) p b).card ≤
        p.limitValue + k := by
      rw [hnone]
      exact Nat.zero_le _
    exact Nat.le_trans (Finset.card_filter_le _ _)
      (card_clearedIn_run hrequests heff (inv_start p b clock) hstart hoverlap hrun)

end Turns

/-! ## Two turns at once -/

namespace TwoTurns

/-- The instant of the example. -/
def morning : DateTime := .startOfMarch2026

/-- The scope of the example names its user. -/
private theorem twoTurns_given : QuotaScopeType.user = .global ∨ "alice" ≠ "" := by decide

/-- One request a day for `alice`. -/
def policy : QuotaPolicy where
  id := 1
  scopeType := .user
  scopeValue := "alice"
  modelId := none
  metric := .requests
  period := .daily
  windowSeconds := none
  limitValue := 1
  priority := 0
  enabled := true
  deletedAt := none
  scopeValueGiven := twoTurns_given

/-- The policies stored. -/
def policies : KeyedTable QuotaPolicy.id := ⟨[policy], by decide⟩

/-- Both turns are alice's. -/
def caller : Bool → Caller := fun _ => ⟨some "alice", [], none⟩

/-- The second turn is checked before the first is recorded. -/
def overlapping : List (TurnEvent Bool) :=
  [.begin false .stored, .begin true .stored, .check false, .check true, .check false, .check true]

/-- A single row comes back in one order only. -/
theorem policy_effective (i : Bool) (scan : ScanOrder QuotaPolicy) :
    policy ∈ effectivePolicies true scan policies (caller i) := by
  have horder : scan.order [policy] = [policy] := List.perm_singleton.mp (scan.perm [policy])
  have hmatch : QuotaPolicyRepository.listMatching scan policies "alice" [] none = [policy] := horder
  have heff : effectivePolicies true scan policies (caller i) = selectAmong
      (QuotaPolicyRepository.listMatching scan policies "alice" [] none) := rfl
  rw [heff, hmatch]
  decide

/-- One turn, then the other. -/
def serial : List (TurnEvent Bool) :=
  [.begin false .stored, .check false, .check false, .complete false .stored ⟨10, 10, none⟩,
    .increment false, .expire false, .increment false, .begin true .stored, .check true]

end TwoTurns

open TwoTurns in
/-- The first turn finds nothing recorded; once it is recorded, the second one does not pass. -/
theorem passedIn_le_example :
    ∃ s₁ s, Runs.run (TurnSystem.step policies caller) (.start morning) (serial.take 1) = some s₁ ∧
      Runs.run (TurnSystem.step policies caller) (.start morning) serial = some s ∧
      (recordedIn s₁ policy morning).card < policy.limitValue ∧
      (passedIn s policy morning).card ≤ policy.limitValue + 0 := by
  have hfirst : (Runs.run (TurnSystem.step policies caller) (.start morning)
      (serial.take 1)).any (clears policy morning · (.check false)) = true := by
    decide +kernel
  obtain ⟨s₁, hs₁, hclears⟩ := (Option.any_eq_true _ _).mp hfirst
  have hsome : (Runs.run (TurnSystem.step policies caller) (.start morning) serial).isSome = true :=
    by decide +kernel
  obtain ⟨s, hrun⟩ := Option.isSome_iff_exists.mp hsome
  have hbounds := passedIn_le rfl policy_effective morning hrun
  have hinit : serial.take 1 ++ [.check false] <+: serial := ⟨serial.drop 2, rfl⟩
  exact ⟨s₁, s, hs₁, hrun, hbounds.1 _ _ s₁ hinit hs₁ hclears, hbounds.2 0 (by decide +kernel)⟩

open TwoTurns in
/-- A limit of one request lets two overlapping turns pass. -/
theorem overlapping_turns_exceed_limit :
    policy.metric = .requests ∧
      (∀ i scan, policy ∈ effectivePolicies true scan policies (caller i)) ∧
      ∃ s, Runs.run (TurnSystem.step policies caller) (.start morning) overlapping = some s ∧
        ¬ (passedIn s policy morning).card ≤ policy.limitValue := by
  have hcount : (Runs.run (TurnSystem.step policies caller) (.start morning) overlapping).map
      (fun s => (passedIn s policy morning).card) = some 2 := by
    decide +kernel
  obtain ⟨s, hrun, hcard⟩ := Option.map_eq_some_iff.mp hcount
  refine ⟨rfl, policy_effective, s, hrun, ?_⟩
  rw [hcard]
  decide

end QuotaService

end AgnoRuntime
