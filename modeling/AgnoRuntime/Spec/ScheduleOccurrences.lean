import AgnoRuntime.Model.Schedule
import AgnoRuntime.ForStd.Except

/-!
# One run per due occurrence

The ticker is documented as safe to run on any number of replicas. The lock that
is to ensure it expires after its TTL whether or not the run it guards has ended,
and a schedule polled before the lock was taken is fired without looking again
whether it is still due. So an occurrence is started once exactly as long as
every run starts on a schedule that is still due for it, with no other run of
that schedule in flight.

## Key results

- `due_of_mem_listDue`: what a poll returns is due
- `Good`: the invariant of runs whose starts are all fresh
- `nodup_started_iff`: no occurrence is started twice iff every start is fresh
-/

namespace AgnoRuntime

/-! ## Schedules -/

/-- The committed `next_run_at` of a schedule. -/
def storedNextRunAt (table : KeyedTable WorkflowSchedule.id) (id : Uuid) : Option Int :=
  (table.find? id).bind (·.nextRunAt)

/-- `croniter.get_next` returns an instant after the one it is given. -/
def NextIsLater (nextCron : String → Int → Except PyError Int) : Prop :=
  ∀ expression after t, nextCron expression after = .ok t → after < t

/-- The next occurrence comes after the instant it is computed at. -/
theorem lt_of_computeNextRunAt {nextCron : String → Int → Except PyError Int}
    (hcron : NextIsLater nextCron) {schedule : WorkflowSchedule} {after t : Int}
    (h : computeNextRunAt nextCron schedule after = .ok t) : after < t := by
  unfold computeNextRunAt at h
  split at h
  · split at h
    · rename_i n hn
      have hge := schedule.intervalGe n hn
      simp only [Except.ok.injEq] at h
      omega
    · cases h
  · split at h
    · exact hcron _ _ _ h
    · cases h

/-- What `record_fired` does to a schedule that is enabled: it stays the same schedule and is next
    due after now. -/
theorem recordFired_eq_ok {nextCron : String → Int → Except PyError Int}
    (hcron : NextIsLater nextCron) {schedule fired : WorkflowSchedule} {now : Int}
    {outcome : RunOutcome} (henabled : schedule.enabled = true)
    (h : recordFired nextCron schedule now outcome = .ok fired) :
    fired.id = schedule.id ∧ ∃ t, fired.nextRunAt = some t ∧ now < t := by
  unfold recordFired at h
  rw [if_pos henabled] at h
  obtain ⟨next, hnext, hfired⟩ := Except.bind_eq_ok.mp h
  -- The next occurrence is computed, whatever came of the run.
  cases hcompute : computeNextRunAt nextCron schedule now with
  | error e =>
    rw [hcompute] at hnext
    cases hnext
  | ok t =>
    rw [hcompute] at hnext
    have hsome : some t = next := Except.ok.inj hnext
    have hlater := lt_of_computeNextRunAt hcron hcompute
    cases outcome with
    | returned status workflowRunId =>
      have heq := Except.ok.inj hfired
      subst heq
      exact ⟨rfl, t, hsome.symm, hlater⟩
    | raised error =>
      have heq := Except.ok.inj hfired
      subst heq
      exact ⟨rfl, t, hsome.symm, hlater⟩

/-- A polled schedule is stored, and its `next_run_at` has arrived. -/
theorem due_of_mem_listDue {scan : ScanOrder WorkflowSchedule}
    {table : KeyedTable WorkflowSchedule.id} {asOf : Int} {limit : Nat}
    {schedule : WorkflowSchedule}
    (h : schedule ∈ WorkflowScheduleRepository.listDue scan table asOf limit) :
    ∃ v, schedule.nextRunAt = some v ∧ v ≤ asOf ∧ storedNextRunAt table schedule.id = some v := by
  have hsorted := List.mem_of_mem_take h
  rw [List.mem_insertionSort, ScanOrder.mem_order, List.mem_filter] at hsorted
  obtain ⟨hmem, hfilter⟩ := hsorted
  rw [Bool.and_eq_true] at hfilter
  obtain ⟨v, hv, hle⟩ := (Option.any_eq_true _ _).mp hfilter.2
  refine ⟨v, hv, of_decide_eq_true hle, ?_⟩
  rw [storedNextRunAt, KeyedTable.find?_of_mem hmem]
  exact hv

/-! ## What a replica holds -/

/-- The polled schedules a replica has still to fire, or is firing. -/
def TickerPhase.held : TickerPhase → List WorkflowSchedule
  | .sleeping => []
  | .firing due => due
  | .locked schedule due | .running schedule _ due => schedule :: due

/-- The occurrence whose run is in flight. -/
def TickerPhase.flight : TickerPhase → Option (Uuid × Option Int)
  | .running schedule _ _ => some schedule.occurrence
  | _ => none

namespace TickerSystem

variable {ι : Type}

/-- The occurrences a run was started for. -/
def occurrences (s : TickerSystem ι) : List (Uuid × Option Int) := s.started.map (·.occurrence)

/-! ## Fresh starts -/

/-- The occurrence a step starts a run for. -/
def starts (s : TickerSystem ι) : TickerEvent ι → Option (Uuid × Option Int)
  | .fetch i =>
    match s.replica i with
    | .locked schedule _ =>
      if (BaseRepository.get s.table schedule.id).any (·.enabled) then some schedule.occurrence
      else none
    | _ => none
  | _ => none

/-- The schedule is still due for the occurrence, no run of the schedule is in flight, and no run
    for the occurrence was rolled back. -/
structure FreshStart (s : TickerSystem ι) (o : Uuid × Option Int) : Prop where
  stillDue : storedNextRunAt s.table o.1 = o.2
  alone : ∀ i o', (s.replica i).flight = some o' → o'.1 ≠ o.1
  kept : o ∉ s.rolledBack

/-! ## The invariant -/

/-- The occurrence's time has come by now. -/
def Arrived (s : TickerSystem ι) (o : Uuid × Option Int) : Prop := ∃ v, o.2 = some v ∧ v ≤ s.clock

/-- The schedule has moved on: it is due, if at all, after the occurrence. -/
def MovedOn (s : TickerSystem ι) (o : Uuid × Option Int) : Prop :=
  ∀ v w, o.2 = some v → storedNextRunAt s.table o.1 = some w → v < w

/-- What holds while all starts have been fresh. A polled schedule is still due for its occurrence
    unless that was started; a started occurrence is in flight, was rolled back, or is behind the
    schedule; and no schedule has two runs in flight. -/
structure Good (s : TickerSystem ι) : Prop where
  polled : ∀ i, ∀ schedule ∈ (s.replica i).held, s.Arrived schedule.occurrence ∧
    (storedNextRunAt s.table schedule.id = schedule.nextRunAt ∨
      schedule.occurrence ∈ s.occurrences)
  fresh : ∀ i schedule fresh due, s.replica i = .running schedule fresh due →
    fresh.id = schedule.id ∧ fresh.enabled = true
  flying : ∀ i o, (s.replica i).flight = some o →
    o ∈ s.occurrences ∧ storedNextRunAt s.table o.1 = o.2
  alone : ∀ i j o o', (s.replica i).flight = some o → (s.replica j).flight = some o' →
    o.1 = o'.1 → i = j
  consumed : ∀ o ∈ s.occurrences, s.Arrived o ∧
    ((∃ i, (s.replica i).flight = some o) ∨ o ∈ s.rolledBack ∨ s.MovedOn o)
  rolledBack : ∀ o ∈ s.rolledBack, o ∈ s.occurrences
  nodup : s.occurrences.Nodup

/-- The invariant holds at the start. -/
theorem good_start (clock : Int) (table : KeyedTable WorkflowSchedule.id) :
    Good (start clock table : TickerSystem ι) where
  polled := fun _ _ h => by cases h
  fresh := fun _ _ _ _ h => by cases h
  flying := fun _ _ h => by cases h
  alone := fun _ _ _ _ h => by cases h
  consumed := fun _ h => by cases h
  rolledBack := fun _ h => by cases h
  nodup := List.nodup_nil

/-- Time passes. -/
theorem Good.tick {s : TickerSystem ι} (h : Good s) {clock : Int} (hle : s.clock ≤ clock) :
    Good { s with clock } where
  polled := by
    intro i schedule hheld
    obtain ⟨⟨v, hv, harrived⟩, hdue⟩ := h.polled i schedule hheld
    exact ⟨⟨v, hv, Int.le_trans harrived hle⟩, hdue⟩
  fresh := h.fresh
  flying := h.flying
  alone := h.alone
  consumed := by
    intro o ho
    obtain ⟨⟨v, hv, harrived⟩, hrest⟩ := h.consumed o ho
    exact ⟨⟨v, hv, Int.le_trans harrived hle⟩, hrest⟩
  rolledBack := h.rolledBack
  nodup := h.nodup

/-- Locks come and go. -/
theorem Good.withLocks {s : TickerSystem ι} (h : Good s) (locks : Uuid → Option Int) :
    Good { s with locks } where
  polled := h.polled
  fresh := h.fresh
  flying := h.flying
  alone := h.alone
  consumed := h.consumed
  rolledBack := h.rolledBack
  nodup := h.nodup

/-- A start takes a schedule the replica holds. -/
private theorem held_of_starts {s : TickerSystem ι} {ev : TickerEvent ι} {o : Uuid × Option Int}
    (h : s.starts ev = some o) :
    ∃ i, ∃ schedule ∈ (s.replica i).held, schedule.occurrence = o := by
  cases ev with
  | fetch i =>
    simp only [starts] at h
    split at h
    · rename_i schedule due hphase
      split at h
      · refine ⟨i, schedule, ?_, Option.some.inj h⟩
        rw [hphase]
        exact List.mem_cons_self
      · cases h
    · cases h
  | tick clock => cases h
  | poll i scan => cases h
  | lock i => cases h
  | commit i outcome => cases h
  | fail i => cases h

/-- A fresh start is for an occurrence that was not started before. -/
theorem FreshStart.notMem {s : TickerSystem ι} (h : Good s) {o : Uuid × Option Int}
    (harrived : s.Arrived o) (hfresh : s.FreshStart o) : o ∉ s.occurrences := by
  intro hmem
  obtain ⟨v, hv, _⟩ := harrived
  obtain ⟨_, ⟨i, hflight⟩ | hrolled | hmoved⟩ := h.consumed o hmem
  · exact hfresh.alone i o hflight rfl
  · exact hfresh.kept hrolled
  · have hstored := hfresh.stillDue
    rw [hv] at hstored
    exact absurd (hmoved v v hv hstored) (lt_irrefl v)

/-- A start that is not fresh is for an occurrence that was started before. -/
theorem mem_of_not_freshStart {s : TickerSystem ι} (h : Good s) {i : ι}
    {schedule : WorkflowSchedule} (hheld : schedule ∈ (s.replica i).held)
    (hstale : ¬ s.FreshStart schedule.occurrence) : schedule.occurrence ∈ s.occurrences := by
  by_contra hnew
  apply hstale
  have hdue := (h.polled i schedule hheld).2.resolve_right hnew
  refine ⟨hdue, ?_, fun hrolled => hnew (h.rolledBack _ hrolled)⟩
  intro j o hflight hid
  -- The run in flight is for the stored `next_run_at`, which is the one polled.
  obtain ⟨hmem, hstored⟩ := h.flying j o hflight
  have hsame : o = schedule.occurrence := by
    have hid' : o.1 = schedule.id := hid
    rw [hid', hdue] at hstored
    exact Prod.ext hid' hstored.symm
  exact hnew (hsame ▸ hmem)

variable [DecidableEq ι]

@[simp] theorem setReplica_self (s : TickerSystem ι) (i : ι) (phase : TickerPhase) :
    (s.setReplica i phase).replica i = phase := if_pos rfl

theorem setReplica_of_ne (s : TickerSystem ι) {i j : ι} (phase : TickerPhase) (h : j ≠ i) :
    (s.setReplica i phase).replica j = s.replica j := if_neg h

private theorem flight_setReplica {s : TickerSystem ι} {i : ι} {phase : TickerPhase}
    (hbefore : (s.replica i).flight = none) (hafter : phase.flight = none) (j : ι) :
    ((s.setReplica i phase).replica j).flight = (s.replica j).flight := by
  by_cases hj : j = i
  · rw [hj, setReplica_self, hafter, hbefore]
  · rw [s.setReplica_of_ne phase hj]

/-- A replica that moves to a phase without a run does not run. -/
private theorem running_of_landed {s : TickerSystem ι} {i j : ι} {phase : TickerPhase}
    (hphase : phase.flight = none) {schedule fresh : WorkflowSchedule} {due : List WorkflowSchedule}
    (h : (s.setReplica i phase).replica j = .running schedule fresh due) :
    s.replica j = .running schedule fresh due := by
  by_cases hj : j = i
  · rw [hj, setReplica_self] at h
    rw [h] at hphase
    cases hphase
  · rw [s.setReplica_of_ne phase hj] at h
    exact h

/-- A replica that has no run in flight, before or after, moves. -/
theorem Good.move {s : TickerSystem ι} (h : Good s) {i : ι} {phase : TickerPhase}
    (hbefore : (s.replica i).flight = none) (hafter : phase.flight = none)
    (hheld : ∀ schedule ∈ phase.held, s.Arrived schedule.occurrence ∧
      (storedNextRunAt s.table schedule.id = schedule.nextRunAt ∨
        schedule.occurrence ∈ s.occurrences)) :
    Good (s.setReplica i phase) where
  -- only the schedules that replica i holds are new
  polled := by
    intro j schedule hmem
    by_cases hj : j = i
    · rw [hj, setReplica_self] at hmem
      exact hheld schedule hmem
    · rw [s.setReplica_of_ne phase hj] at hmem
      exact h.polled j schedule hmem
  fresh := by
    intro j schedule fresh due hphase
    exact h.fresh j schedule fresh due (running_of_landed hafter hphase)
  flying := by
    intro j o hflight
    rw [flight_setReplica hbefore hafter] at hflight
    exact h.flying j o hflight
  alone := by
    intro j k o o' hj hk
    rw [flight_setReplica hbefore hafter] at hj hk
    exact h.alone j k o o' hj hk
  -- neither phase flies, so the flights are those of before
  consumed := by
    intro o ho
    obtain ⟨harrived, hflight | hrest⟩ := h.consumed o ho
    · obtain ⟨j, hj⟩ := hflight
      exact ⟨harrived, Or.inl ⟨j, (flight_setReplica hbefore hafter j).trans hj⟩⟩
    · exact ⟨harrived, Or.inr hrest⟩
  rolledBack := h.rolledBack
  nodup := h.nodup

private theorem held_setReplica {s : TickerSystem ι} {i j : ι} (phase : TickerPhase)
    (hsub : ∀ schedule ∈ phase.held, schedule ∈ (s.replica i).held) {schedule : WorkflowSchedule}
    (hmem : schedule ∈ ((s.setReplica i phase).replica j).held) :
    schedule ∈ (s.replica j).held := by
  by_cases hj : j = i
  · rw [hj, setReplica_self] at hmem
    exact hj ▸ hsub schedule hmem
  · rw [s.setReplica_of_ne phase hj] at hmem
    exact hmem

private theorem flight_of_setReplica {s : TickerSystem ι} {i j : ι} {phase : TickerPhase}
    {o : Uuid × Option Int} (h : ((s.setReplica i phase).replica j).flight = some o) :
    j = i ∧ phase.flight = some o ∨ j ≠ i ∧ (s.replica j).flight = some o := by
  by_cases hj : j = i
  · rw [hj, setReplica_self] at h
    exact Or.inl ⟨hj, h⟩
  · rw [s.setReplica_of_ne phase hj] at h
    exact Or.inr ⟨hj, h⟩

/-- After such a move, what is in flight is in flight elsewhere. -/
private theorem flight_of_landed {s : TickerSystem ι} {i j : ι} {phase : TickerPhase}
    (hphase : phase.flight = none) {o : Uuid × Option Int}
    (h : ((s.setReplica i phase).replica j).flight = some o) :
    j ≠ i ∧ (s.replica j).flight = some o := by
  rcases flight_of_setReplica h with ⟨_, hnew⟩ | hold
  · rw [hphase] at hnew
    cases hnew
  · exact hold

/-- A run starts. -/
theorem Good.start {s : TickerSystem ι} (h : Good s) {i : ι} {schedule fresh : WorkflowSchedule}
    {due : List WorkflowSchedule} (hphase : s.replica i = .locked schedule due)
    (hid : fresh.id = schedule.id) (henabled : fresh.enabled = true)
    (hfresh : s.FreshStart schedule.occurrence) (run : StartedRun)
    (hrun : run.occurrence = schedule.occurrence) :
    Good { s.setReplica i (.running schedule fresh due) with started := run :: s.started } where
  polled := by
    intro j schedule' hmem
    have hheld : schedule' ∈ (s.replica j).held := by
      refine held_setReplica (.running schedule fresh due) ?_ hmem
      rw [hphase]
      exact fun _ h => h
    obtain ⟨harrived, hdue⟩ := h.polled j schedule' hheld
    exact ⟨harrived, hdue.imp_right (List.mem_cons_of_mem _)⟩
  fresh := by
    intro j schedule' fresh' due' hj
    have hj' : (s.setReplica i (.running schedule fresh due)).replica j =
        .running schedule' fresh' due' := hj
    by_cases hji : j = i
    · rw [hji, setReplica_self] at hj'
      cases hj'
      exact ⟨hid, henabled⟩
    · rw [s.setReplica_of_ne _ hji] at hj'
      exact h.fresh j schedule' fresh' due' hj'
  flying := by
    intro j o hflight
    rcases flight_of_setReplica hflight with ⟨_, hnew⟩ | ⟨_, hold⟩
    · cases hnew
      exact ⟨hrun ▸ List.mem_cons_self, hfresh.stillDue⟩
    · obtain ⟨hmem, hstored⟩ := h.flying j o hold
      exact ⟨List.mem_cons_of_mem _ hmem, hstored⟩
  -- two flights of one occurrence: the new one and an old one, or two old ones
  alone := by
    intro j k o o' hj hk hsame
    rcases flight_of_setReplica hj with ⟨hji, hnew⟩ | ⟨hji, hold⟩
    · rcases flight_of_setReplica hk with ⟨hki, _⟩ | ⟨_, hold'⟩
      · exact hji.trans hki.symm
      · cases hnew
        exact absurd hsame.symm (hfresh.alone k o' hold')
    · rcases flight_of_setReplica hk with ⟨_, hnew'⟩ | ⟨_, hold'⟩
      · cases hnew'
        exact absurd hsame (hfresh.alone j o hold)
      · exact h.alone j k o o' hold hold' hsame
  -- the occurrence of the new run is the one replica i now flies
  consumed := by
    intro o ho
    rcases List.mem_cons.mp ho with hnew | hold
    · have ho' : o = schedule.occurrence := hnew.trans hrun
      have hheld : schedule ∈ (s.replica i).held := by
        rw [hphase]
        exact List.mem_cons_self
      refine ⟨ho' ▸ (h.polled i schedule hheld).1, Or.inl ⟨i, ?_⟩⟩
      show ((s.setReplica i (.running schedule fresh due)).replica i).flight = some o
      rw [setReplica_self, ho']
      rfl
    · obtain ⟨harrived, ⟨j, hflight⟩ | hrest⟩ := h.consumed o hold
      · refine ⟨harrived, Or.inl ⟨j, ?_⟩⟩
        have hji : j ≠ i := by
          intro hji
          rw [hji, hphase] at hflight
          cases hflight
        show ((s.setReplica i (.running schedule fresh due)).replica j).flight = some o
        rw [s.setReplica_of_ne _ hji]
        exact hflight
      · exact ⟨harrived, Or.inr hrest⟩
  rolledBack := fun o ho => List.mem_cons_of_mem _ (h.rolledBack o ho)
  -- a fresh start is of an occurrence that was not started before
  nodup := by
    have hheld : schedule ∈ (s.replica i).held := by
      rw [hphase]
      exact List.mem_cons_self
    have hnew := hfresh.notMem h (h.polled i schedule hheld).1
    rw [← hrun] at hnew
    exact List.nodup_cons.mpr ⟨hnew, h.nodup⟩

/-- A run is rolled back. -/
theorem Good.rollBack {s : TickerSystem ι} (h : Good s) {i : ι} {schedule fresh : WorkflowSchedule}
    {due : List WorkflowSchedule} (hphase : s.replica i = .running schedule fresh due) :
    Good { s.setReplica i (.firing due) with rolledBack := schedule.occurrence :: s.rolledBack } where
  polled := by
    intro j schedule' hmem
    have hheld : schedule' ∈ (s.replica j).held := by
      refine held_setReplica (.firing due) ?_ hmem
      rw [hphase]
      exact fun _ h => List.mem_cons_of_mem _ h
    exact h.polled j schedule' hheld
  fresh := by
    intro j schedule' fresh' due' hj
    exact h.fresh j schedule' fresh' due' (running_of_landed rfl hj)
  flying := by
    intro j o hflight
    obtain ⟨-, hold⟩ := flight_of_landed rfl hflight
    exact h.flying j o hold
  alone := by
    intro j k o o' hj hk
    obtain ⟨-, hold⟩ := flight_of_landed rfl hj
    obtain ⟨-, hold'⟩ := flight_of_landed rfl hk
    exact h.alone j k o o' hold hold'
  consumed := by
    intro o ho
    obtain ⟨harrived, ⟨j, hflight⟩ | hrolled | hmoved⟩ := h.consumed o ho
    · refine ⟨harrived, ?_⟩
      by_cases hji : j = i
      · -- The run that was in flight is the one rolled back.
        rw [hji, hphase] at hflight
        have ho' : schedule.occurrence = o := Option.some.inj hflight
        exact Or.inr (Or.inl (ho' ▸ List.mem_cons_self))
      · left
        refine ⟨j, ?_⟩
        show ((s.setReplica i (.firing due)).replica j).flight = some o
        rw [s.setReplica_of_ne _ hji]
        exact hflight
    · exact ⟨harrived, Or.inr (Or.inl (List.mem_cons_of_mem _ hrolled))⟩
    · exact ⟨harrived, Or.inr (Or.inr hmoved)⟩
  rolledBack := by
    intro o ho
    rcases List.mem_cons.mp ho with hnew | hold
    · have hflight : (s.replica i).flight = some schedule.occurrence := by
        rw [hphase]
        rfl
      exact hnew ▸ (h.flying i _ hflight).1
    · exact h.rolledBack o hold
  nodup := h.nodup

/-- What a commit leaves stored. -/
private theorem storedNextRunAt_commit (s : TickerSystem ι) (i : ι) (fired : WorkflowSchedule)
    (due : List WorkflowSchedule) (id : Uuid) : storedNextRunAt (s.commit i fired due).table id =
      if id = fired.id then (s.table.find? id).bind (fun _ => fired.nextRunAt)
      else storedNextRunAt s.table id := by
  simp only [storedNextRunAt, commit, KeyedTable.find?_update]
  split
  · rw [Option.bind_map]
    rfl
  · rfl

/-- A run ends and its schedule moves on. -/
theorem Good.commit {s : TickerSystem ι} (h : Good s) {i : ι}
    {schedule fresh fired : WorkflowSchedule} {due : List WorkflowSchedule} {t : Int}
    (hphase : s.replica i = .running schedule fresh due) (hid : fired.id = schedule.id)
    (hnext : fired.nextRunAt = some t) (hlater : s.clock < t) : Good (s.commit i fired due) := by
  have hflight : (s.replica i).flight = some schedule.occurrence := by
    rw [hphase]
    rfl
  obtain ⟨hstarted, hstored⟩ := h.flying i _ hflight
  have hself : ∀ w, storedNextRunAt (s.commit i fired due).table schedule.id = some w → w = t := by
    intro w hw
    rw [storedNextRunAt_commit, if_pos hid.symm, hnext] at hw
    obtain ⟨_, _, hw⟩ := Option.bind_eq_some_iff.mp hw
    exact (Option.some.inj hw).symm
  have hother : ∀ id, id ≠ schedule.id →
      storedNextRunAt (s.commit i fired due).table id = storedNextRunAt s.table id := by
    intro id hne
    rw [storedNextRunAt_commit, if_neg (hid ▸ hne)]
  refine { polled := ?_, fresh := ?_, flying := ?_, alone := ?_, consumed := ?_,
           rolledBack := h.rolledBack, nodup := h.nodup }
  · intro j schedule' hmem
    have hheld : schedule' ∈ (s.replica j).held := by
      refine held_setReplica (.firing due) ?_ hmem
      rw [hphase]
      exact fun _ h => List.mem_cons_of_mem _ h
    obtain ⟨harrived, hdue⟩ := h.polled j schedule' hheld
    refine ⟨harrived, ?_⟩
    rcases hdue with hstill | hold
    · by_cases hsame : schedule'.id = schedule.id
      · -- It was polled for the occurrence whose run ends now.
        right
        have hnextRunAt : schedule'.nextRunAt = schedule.nextRunAt := by
          rw [← hstill, hsame]
          exact hstored
        have hocc : schedule'.occurrence = schedule.occurrence := Prod.ext hsame hnextRunAt
        exact hocc ▸ hstarted
      · exact Or.inl ((hother _ hsame).trans hstill)
    · exact Or.inr hold
  · intro j schedule' fresh' due' hj
    exact h.fresh j schedule' fresh' due' (running_of_landed rfl hj)
  · intro j o hj
    obtain ⟨hji, hold⟩ := flight_of_landed rfl hj
    obtain ⟨hmem, hstoredO⟩ := h.flying j o hold
    -- the occurrences of one schedule are not in flight at two replicas
    have hne : o.1 ≠ schedule.id := fun heq => hji (h.alone j i o _ hold hflight heq)
    exact ⟨hmem, (hother _ hne).trans hstoredO⟩
  · intro j k o o' hj hk
    obtain ⟨-, hold⟩ := flight_of_landed rfl hj
    obtain ⟨-, hold'⟩ := flight_of_landed rfl hk
    exact h.alone j k o o' hold hold'
  · intro o ho
    obtain ⟨⟨v, hv, hle⟩, hrest⟩ := h.consumed o ho
    refine ⟨⟨v, hv, hle⟩, ?_⟩
    -- Whatever has arrived is behind a schedule that is next due after now.
    have hbehind : o.1 = schedule.id → (s.commit i fired due).MovedOn o := by
      intro hsame v' w hv' hw
      rw [hsame] at hw
      have ht := hself w hw
      have hv'' : v' = v := Option.some.inj (hv'.symm.trans hv)
      omega
    by_cases hsame : o.1 = schedule.id
    · exact Or.inr (Or.inr (hbehind hsame))
    · rcases hrest with ⟨j, hj⟩ | hrolled | hmoved
      · left
        refine ⟨j, ?_⟩
        have hji : j ≠ i := by
          intro hji
          rw [hji, hflight] at hj
          exact hsame (congrArg Prod.fst (Option.some.inj hj)).symm
        show ((s.setReplica i (.firing due)).replica j).flight = some o
        rw [s.setReplica_of_ne _ hji]
        exact hj
      · exact Or.inr (Or.inl hrolled)
      · right
        right
        intro v' w hv' hw
        rw [hother _ hsame] at hw
        exact hmoved v' w hv' hw

/-- Every start of the run is fresh. -/
def StartsFresh (nextCron : String → Int → Except PyError Int) (ttlSeconds : Nat) :
    TickerSystem ι → List (TickerEvent ι) → Prop
  | _, [] => True
  | s, ev :: evs => (∀ o, s.starts ev = some o → s.FreshStart o) ∧
      ∀ s', s.step nextCron ttlSeconds ev = some s' → StartsFresh nextCron ttlSeconds s' evs

/-! ## Steps and runs -/

section Run

variable {nextCron : String → Int → Except PyError Int} {ttlSeconds : Nat}

/-- What a `fetch` starts. -/
private theorem fetch_eq (s : TickerSystem ι) (i : ι) (schedule : WorkflowSchedule)
    (due : List WorkflowSchedule) :
    (∃ fresh, BaseRepository.get s.table schedule.id = some fresh ∧ fresh.enabled = true ∧
      s.fetch i schedule due = { s.setReplica i (.running schedule fresh due) with
        started := ⟨schedule.occurrence, fresh.workflowId, fresh.inputTemplate, fresh.userId⟩ ::
          s.started }) ∨
    (BaseRepository.get s.table schedule.id).any (·.enabled) = false ∧
      s.fetch i schedule due = s.setReplica i (.firing due) := by
  unfold fetch
  cases hget : BaseRepository.get s.table schedule.id with
  | none => exact Or.inr ⟨rfl, rfl⟩
  | some fresh =>
    cases henabled : fresh.enabled with
    | true => exact Or.inl ⟨fresh, rfl, henabled, by simp [henabled]⟩
    | false => exact Or.inr ⟨henabled, by simp [henabled]⟩

/-- Every step whose start, if any, is fresh keeps the invariant. -/
theorem good_step (hcron : NextIsLater nextCron) {s s' : TickerSystem ι} {ev : TickerEvent ι}
    (h : Good s) (hstep : s.step nextCron ttlSeconds ev = some s')
    (hfresh : ∀ o, s.starts ev = some o → s.FreshStart o) : Good s' := by
  cases ev with
  | tick clock =>
    simp only [step] at hstep
    split at hstep
    · rename_i hle
      cases hstep
      exact h.tick hle
    · cases hstep
  -- what is polled is due at the clock of the poll
  | poll i scan =>
    simp only [step] at hstep
    split at hstep
    · rename_i hphase
      cases hstep
      refine h.move (by rw [hphase]; rfl) rfl ?_
      intro schedule hmem
      obtain ⟨v, hv, hle, hstored⟩ := due_of_mem_listDue hmem
      exact ⟨⟨v, hv, hle⟩, Or.inl (hstored.trans hv.symm)⟩
    · cases hstep
  | lock i =>
    simp only [step] at hstep
    split at hstep
    · rename_i hphase
      cases hstep
      exact h.move (by rw [hphase]; rfl) rfl fun _ hmem => by cases hmem
    · rename_i schedule due hphase
      cases hstep
      have hheld := h.polled i
      rw [hphase] at hheld
      -- refused, the replica drops the schedule; else it holds it, with the lock
      unfold tryAcquireLock
      split
      · exact h.move (by rw [hphase]; rfl) rfl
          fun schedule' hmem => hheld schedule' (List.mem_cons_of_mem _ hmem)
      · have hmoved : Good (s.setReplica i (.locked schedule due)) :=
          h.move (by rw [hphase]; rfl) rfl hheld
        exact hmoved.withLocks _
    · cases hstep
  -- the only step that starts a run, and the hypothesis says it starts fresh
  | fetch i =>
    simp only [step] at hstep
    split at hstep
    · rename_i schedule due hphase
      cases hstep
      rcases s.fetch_eq i schedule due with ⟨fresh, hget, henabled, heq⟩ | ⟨_, heq⟩
      · rw [heq]
        refine h.start hphase (BaseRepository.mem_of_get hget).2.1 henabled ?_ _ rfl
        apply hfresh
        simp only [starts, hphase, hget, Option.any_some, henabled, if_true]
      · rw [heq]
        have hheld := h.polled i
        rw [hphase] at hheld
        exact h.move (by rw [hphase]; rfl) rfl
          fun schedule' hmem => hheld schedule' (List.mem_cons_of_mem _ hmem)
    · cases hstep
  | commit i outcome =>
    simp only [step] at hstep
    split at hstep
    · rename_i schedule fresh due hphase
      obtain ⟨hid, henabled⟩ := h.fresh i schedule fresh due hphase
      cases hfired : recordFired nextCron fresh s.clock outcome with
      | error e =>
        rw [hfired] at hstep
        cases hstep
      | ok fired =>
        rw [hfired] at hstep
        cases hstep
        -- recording moves `next_run_at` past the clock
        obtain ⟨hfiredId, t, hnext, hlater⟩ := recordFired_eq_ok hcron henabled hfired
        exact h.commit hphase (hfiredId.trans hid) hnext hlater
    · cases hstep
  | fail i =>
    simp only [step] at hstep
    have hheld := h.polled i
    split at hstep
    · cases hstep
    · cases hstep
    · rename_i schedule due hphase
      cases hstep
      rw [hphase] at hheld
      exact h.move (by rw [hphase]; rfl) rfl
        fun schedule' hmem => hheld schedule' (List.mem_cons_of_mem _ hmem)
    · rename_i schedule due hphase
      cases hstep
      rw [hphase] at hheld
      exact h.move (by rw [hphase]; rfl) rfl
        fun schedule' hmem => hheld schedule' (List.mem_cons_of_mem _ hmem)
    · rename_i schedule fresh due hphase
      cases hstep
      exact h.rollBack hphase

/-- What a step adds to the occurrences started. -/
theorem occurrences_step {s s' : TickerSystem ι} {ev : TickerEvent ι}
    (hstep : s.step nextCron ttlSeconds ev = some s') :
    s'.occurrences = (s.starts ev).toList ++ s.occurrences := by
  cases ev with
  | tick clock =>
    simp only [step] at hstep
    split at hstep
    · cases hstep
      rfl
    · cases hstep
  | poll i scan =>
    simp only [step] at hstep
    split at hstep
    · cases hstep
      rfl
    · cases hstep
  | lock i =>
    simp only [step] at hstep
    split at hstep
    · cases hstep
      rfl
    · cases hstep
      unfold tryAcquireLock
      split <;> rfl
    · cases hstep
  -- the only step that starts a run
  | fetch i =>
    simp only [step] at hstep
    split at hstep
    · rename_i schedule due hphase
      cases hstep
      rcases s.fetch_eq i schedule due with ⟨fresh, hget, henabled, heq⟩ | ⟨hnone, heq⟩
      · rw [heq]
        simp only [starts, hphase, hget, Option.any_some, henabled, if_true]
        rfl
      · rw [heq]
        simp only [starts, hphase, hnone]
        rfl
    · cases hstep
  | commit i outcome =>
    simp only [step] at hstep
    split at hstep
    · split at hstep
      · cases hstep
        rfl
      · cases hstep
    · cases hstep
  | fail i =>
    simp only [step] at hstep
    split at hstep
    · cases hstep
    · cases hstep
    · cases hstep
      rfl
    · cases hstep
      rfl
    · cases hstep
      rfl

/-- Runs only add occurrences. -/
private theorem sublist_occurrences_run {s s' : TickerSystem ι} {evs : List (TickerEvent ι)}
    (hrun : Runs.run (step nextCron ttlSeconds) s evs = some s') :
    s.occurrences.Sublist s'.occurrences := by
  refine Runs.invariant (P := fun s₁ => s.occurrences.Sublist s₁.occurrences) ?_
    (List.Sublist.refl _) hrun
  intro s₁ ev s₂ hsub hstep
  rw [occurrences_step hstep]
  exact hsub.trans (List.sublist_append_right _ _)

private theorem nodup_occurrences_iff (hcron : NextIsLater nextCron) {s s' : TickerSystem ι}
    {evs : List (TickerEvent ι)} (h : Good s)
    (hrun : Runs.run (step nextCron ttlSeconds) s evs = some s') :
    s'.occurrences.Nodup ↔ StartsFresh nextCron ttlSeconds s evs := by
  induction evs generalizing s with
  | nil =>
    rw [Runs.run_nil, Option.some.injEq] at hrun
    exact ⟨fun _ => trivial, fun _ => hrun ▸ h.nodup⟩
  | cons ev evs ih =>
    obtain ⟨s₁, hstep, hrest⟩ := Runs.run_cons.mp hrun
    by_cases hfresh : ∀ o, s.starts ev = some o → s.FreshStart o
    · rw [ih (good_step hcron h hstep hfresh) hrest]
      constructor
      · intro hevs
        refine ⟨hfresh, fun s₂ hstep' => ?_⟩
        have heq : s₁ = s₂ := Option.some.inj (hstep.symm.trans hstep')
        exact heq ▸ hevs
      · exact fun hevs => hevs.2 s₁ hstep
    · -- A start that is not fresh repeats an occurrence, and it stays repeated.
      constructor
      · intro hnodup
        exfalso
        apply hfresh
        intro o ho
        by_contra hstale
        obtain ⟨i, schedule, hheld, hocc⟩ := held_of_starts ho
        rw [← hocc] at hstale ho
        have hmem := mem_of_not_freshStart h hheld hstale
        have hsub := (sublist_occurrences_run hrest).nodup hnodup
        rw [occurrences_step hstep, ho] at hsub
        exact (List.nodup_cons.mp hsub).1 hmem
      · exact fun hevs => absurd hevs.1 hfresh

/-- In a run of any number of replicas, no occurrence of a schedule is started twice if and only
    if every start is fresh: on a schedule still due for the occurrence, with no run of the
    schedule in flight and none for the occurrence rolled back. -/
theorem nodup_started_iff (hcron : NextIsLater nextCron) {clock : Int}
    {table : KeyedTable WorkflowSchedule.id} {evs : List (TickerEvent ι)} {s : TickerSystem ι}
    (hrun : Runs.run (step nextCron ttlSeconds) (start clock table) evs = some s) :
    s.occurrences.Nodup ↔ StartsFresh nextCron ttlSeconds (start clock table) evs :=
  nodup_occurrences_iff hcron (good_start clock table) hrun

end Run

/-! ## A run longer than the lock -/

namespace EveryMinute

/-- `croniter("* * * * *", after).get_next`. -/
def nextMinute (_expression : String) (after : Int) : Except PyError Int :=
  .ok ((after / 60000000 + 1) * 60000000)

/-- The next minute is later. -/
theorem nextMinute_isLater : NextIsLater nextMinute := by
  intro expression after t h
  have ht := Except.ok.inj h
  omega

/-- A schedule for every minute, due at 0. -/
def schedule : WorkflowSchedule where
  id := 1
  workflowId := 7
  scheduleType := .cron
  cronExpression := some "* * * * *"
  intervalSeconds := none
  inputTemplate := "report"
  userId := none
  enabled := true
  nextRunAt := some 0
  lastRunAt := none
  lastStatus := none
  lastError := none
  lastWorkflowRunId := none
  deletedAt := none
  intervalGe := fun _ h => by cases h

/-- The schedules stored. -/
def schedules : KeyedTable WorkflowSchedule.id := .singleton schedule

/-- One replica fires the schedule, and the run ends within the minute. -/
def shortRun : List (TickerEvent Bool) :=
  [.poll false .stored, .lock false, .fetch false, .tick 30000000,
    .commit false (.returned "completed" 3), .lock false, .tick 61000000, .poll true .stored,
    .lock true, .fetch true]

/-- The run of the first replica is still going when its lock has expired. -/
def longRun : List (TickerEvent Bool) :=
  [.poll false .stored, .lock false, .fetch false, .tick 61000000, .poll true .stored,
    .lock true, .fetch true]

end EveryMinute

open EveryMinute in
/-- Two runs for two occurrences. -/
theorem nodup_started_iff_example :
    ∃ s : TickerSystem Bool, Runs.run (step nextMinute 60) (start 0 schedules) shortRun = some s ∧
      s.occurrences = [(1, some 60000000), (1, some 0)] ∧
      (s.occurrences.Nodup ↔ StartsFresh nextMinute 60 (start 0 schedules) shortRun) := by
  have hrun : (Runs.run (step nextMinute 60) (start 0 schedules) shortRun).map
      (fun s : TickerSystem Bool => s.occurrences) = some [(1, some 60000000), (1, some 0)] := by
    decide +kernel
  obtain ⟨s, hs, hocc⟩ := Option.map_eq_some_iff.mp hrun
  exact ⟨s, hs, hocc, nodup_started_iff nextMinute_isLater hs⟩

open EveryMinute in
/-- Two replicas start a run for one occurrence. -/
theorem occurrence_started_twice :
    NextIsLater nextMinute ∧ ∃ s : TickerSystem Bool,
      Runs.run (step nextMinute 60) (start 0 schedules) longRun = some s ∧
        ¬ s.occurrences.Nodup := by
  have hrun : (Runs.run (step nextMinute 60) (start 0 schedules) longRun).map
      (fun s : TickerSystem Bool => s.occurrences) = some [(1, some 0), (1, some 0)] := by
    decide +kernel
  obtain ⟨s, hs, hocc⟩ := Option.map_eq_some_iff.mp hrun
  refine ⟨nextMinute_isLater, s, hs, ?_⟩
  rw [hocc]
  decide

end TickerSystem

end AgnoRuntime
