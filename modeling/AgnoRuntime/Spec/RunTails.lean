import AgnoRuntime.Model.EventTails
import AgnoRuntime.Model.Requests

/-!
# What the tail of a run delivers

Whatever is committed between its statements, a tail yields committed events of
its run, none twice (`RunTail.Sound`). It ends with the status of the run only
where it reads the run for the first time after the run is over: the instance
its session holds never changes status.
-/

namespace AgnoRuntime

namespace RunTail

/-- The event an item shows, with its id. -/
def shown : RunTailItem → Option (AgentEvent × Nat)
  | .event id event => some (event, id)
  | .error _ | .streamClosed _ => none

/-- The events a tail has yielded. -/
def shownEvents (tail : RunTail) : List (AgentEvent × Nat) := tail.yielded.filterMap shown

/-- The events yielded are committed events of the run, no id is repeated, and
    the ids seen are theirs. -/
structure Sound (runId : Uuid) (db : Db) (tail : RunTail) : Prop where
  committed : ∀ p ∈ tail.shownEvents, p ∈ eventsOf db runId
  nodup : (tail.shownEvents.map Prod.snd).Nodup
  seen : tail.seenIds = tail.shownEvents.map Prod.snd

/-- What the tail's session holds: nothing before the run was read, and the run
    over only when the stream is. -/
structure Holding (readBefore : Prop) (tail : RunTail) : Prop where
  unread : ¬readBefore → tail.loaded = none
  asleep : tail.phase = .asleep → readBefore →
    ∃ run, tail.loaded = some run ∧ run.status.isTerminal = false
  runRead : tail.phase = .runRead → tail.loaded.isSome

/-! ## One step -/

/-- Events that are committed stay the events of the run. -/
theorem mem_eventsOf_of_prefix {db db' : Db} (h : db.agentEvents <+: db'.agentEvents)
    {runId : Uuid} {p : AgentEvent × Nat} (hp : p ∈ eventsOf db runId) :
    p ∈ eventsOf db' runId := by
  obtain ⟨more, hmore⟩ := h
  rw [eventsOf, List.mem_filter] at hp ⊢
  refine ⟨?_, hp.2⟩
  rw [← hmore, List.zipIdx_append]
  exact List.mem_append_left _ hp.1

/-- The ids of a run's events are distinct. -/
theorem nodup_eventsOf (db : Db) (runId : Uuid) : ((eventsOf db runId).map Prod.snd).Nodup := by
  have hall : (db.agentEvents.zipIdx.map Prod.snd).Nodup := by
    rw [List.zipIdx_map_snd]
    exact List.nodup_range'
  exact hall.sublist (List.filter_sublist.map Prod.snd)

/-- The events an iteration yields. -/
def newEvents (db : Db) (runId : Uuid) (tail : RunTail) : List (AgentEvent × Nat) :=
  Polling.takeNew Prod.snd tail.seenIds (eventsOf db runId)

private theorem filterMap_shown_events (events : List (AgentEvent × Nat)) :
    (events.map fun p => RunTailItem.event p.2 p.1).filterMap shown = events := by
  rw [List.filterMap_map]
  exact List.filterMap_some

/-- Reading the events adds the new ones to those shown. -/
theorem shownEvents_readEvents (db : Db) (runId : Uuid) (tail : RunTail) :
    (tail.readEvents db runId).shownEvents = tail.shownEvents ++ newEvents db runId tail := by
  unfold readEvents
  split
  · simp only [shownEvents, List.filterMap_append, filterMap_shown_events]
    rw [List.append_assoc]
    simp [shown, newEvents]
  · simp only [shownEvents, List.filterMap_append, filterMap_shown_events]
    rfl

theorem seenIds_readEvents (db : Db) (runId : Uuid) (tail : RunTail) :
    (tail.readEvents db runId).seenIds =
      tail.seenIds ++ (newEvents db runId tail).map Prod.snd := by
  unfold readEvents
  split <;> rfl

/-- Reading the run shows no event. -/
theorem readRun_seen (db : Db) (runId : Uuid) (tail : RunTail) :
    (tail.readRun db runId).shownEvents = tail.shownEvents ∧
      (tail.readRun db runId).seenIds = tail.seenIds := by
  unfold readRun
  split
  · simp [shownEvents, shown]
  · simp [shownEvents]

/-- Every step keeps what was yielded sound. -/
theorem Sound.step {runId : Uuid} {db db' : Db} {tail tail' : RunTail} {ev : Step}
    (h : Sound runId db tail) (hstep : step runId (db, tail) ev = some (db', tail')) :
    Sound runId db' tail' := by
  cases ev with
  | commit dbNext =>
    simp only [RunTail.step] at hstep
    split at hstep
    · rename_i hinit
      cases hstep
      exact ⟨fun p hp => mem_eventsOf_of_prefix hinit (h.committed p hp), h.nodup, h.seen⟩
    · cases hstep
  | readRun =>
    simp only [RunTail.step] at hstep
    split at hstep
    · cases hstep
      obtain ⟨hshown, hseen⟩ := readRun_seen db runId tail
      exact ⟨hshown ▸ h.committed, hshown ▸ h.nodup, by rw [hshown, hseen, h.seen]⟩
    · cases hstep
  | readEvents =>
    simp only [RunTail.step] at hstep
    split at hstep
    · cases hstep
      refine ⟨fun p hp => ?_, ?_, ?_⟩
      · rw [shownEvents_readEvents, List.mem_append] at hp
        rcases hp with hp | hp
        · exact h.committed p hp
        · exact (Polling.mem_takeNew hp).1
      -- what was seen is filtered out before anything is shown
      · rw [shownEvents_readEvents, newEvents, h.seen]
        exact Polling.nodup_append_takeNew h.nodup
      · rw [shownEvents_readEvents, seenIds_readEvents, h.seen, List.map_append]
    · cases hstep

/-- A step that does not read the run leaves the session's instance alone. -/
theorem loaded_readEvents (db : Db) (runId : Uuid) (tail : RunTail) :
    (tail.readEvents db runId).loaded = tail.loaded := by
  unfold readEvents
  split <;> rfl

/-- After the events are read the tail sleeps exactly when the held instance is not over. -/
theorem asleep_readEvents {db : Db} {runId : Uuid} {tail : RunTail} :
    (tail.readEvents db runId).phase = .asleep ↔
      tail.loaded.filter (·.status.isTerminal) = none := by
  unfold readEvents
  split
  · rename_i run hrun
    simp [hrun]
  · rename_i hnone
    simp [hnone]

/-- Every step keeps what is said of the held instance. -/
theorem Holding.step {runId : Uuid} {db db' : Db} {tail tail' : RunTail} {ev : Step}
    {readBefore : Prop} (h : Holding readBefore tail)
    (hstep : step runId (db, tail) ev = some (db', tail')) :
    Holding (readBefore ∨ ev = .readRun) tail' := by
  cases ev with
  | commit dbNext =>
    -- The tail does not notice a commit.
    simp only [RunTail.step] at hstep
    split at hstep
    · cases hstep
      simpa using h
    · cases hstep
  | readRun =>
    simp only [RunTail.step] at hstep
    split at hstep
    · cases hstep
      -- The row is read, so something is loaded, unless the run does not exist.
      refine ⟨fun hnot => absurd (.inr rfl) hnot, fun hphase => ?_, fun hphase => ?_⟩
      · unfold readRun at hphase
        split at hphase <;> cases hphase
      · unfold readRun at hphase ⊢
        split
        · rename_i hnone
          simp only [hnone] at hphase
          cases hphase
        · rfl
    · cases hstep
  | readEvents =>
    simp only [RunTail.step] at hstep
    split at hstep
    · rename_i hphase
      cases hstep
      have hsome := h.runRead hphase
      -- Nothing is loaded but by reading the row.
      refine ⟨fun hnot => ?_, fun hasleep hread => ?_, fun hphase' => ?_⟩
      · rw [loaded_readEvents]
        exact h.unread fun hread => hnot (.inl hread)
      -- A tail that sleeps has found a status that is not terminal.
      · obtain ⟨run, hrun⟩ := Option.isSome_iff_exists.mp hsome
        rw [asleep_readEvents, hrun, Option.filter_eq_none_iff] at hasleep
        rw [loaded_readEvents]
        exact ⟨run, hrun, by simpa using hasleep run rfl⟩
      · rw [loaded_readEvents]
        exact hsome
    · cases hstep

/-! ## Runs -/

theorem sound_start (runId : Uuid) (db : Db) : Sound runId db start :=
  ⟨fun _ hp => (by cases hp), List.nodup_nil, rfl⟩

theorem holding_start : Holding False start :=
  ⟨fun _ => rfl, fun _ h => h.elim, fun h => by cases h⟩

/-- In every reachable state the events yielded are committed and not repeated. -/
theorem sound_of_run {runId : Uuid} {db₀ db : Db} {tail : RunTail} {steps : List Step}
    (h : Runs.run (step runId) (db₀, start) steps = some (db, tail)) : Sound runId db tail := by
  refine Runs.invariant (P := fun s => Sound runId s.1 s.2) ?_ (sound_start runId db₀) h
  intro s ev s' hs hstep
  exact hs.step hstep

/-- What the tail's session holds in a reachable state. -/
theorem holding_of_run {runId : Uuid} {db₀ db : Db} {tail : RunTail} {steps : List Step}
    (h : Runs.run (step runId) (db₀, start) steps = some (db, tail)) :
    Holding (.readRun ∈ steps) tail := by
  refine Runs.induction (motive := fun evs s => Holding (.readRun ∈ evs) s.2)
    (by simpa using holding_start) ?_ h
  intro evs ev s s' _ hs hstep
  have hnext := hs.step hstep
  have hiff : (.readRun ∈ evs ++ [ev]) ↔ (.readRun ∈ evs ∨ ev = .readRun) := by
    rw [List.mem_append, List.mem_singleton]
    exact or_congr_right eq_comm
  rwa [← hiff] at hnext

/-- Commits leave the tail as it is. -/
private theorem run_commits {runId : Uuid} {dbs : List Db} {db db' : Db} {tail tail' : RunTail}
    (h : Runs.run (step runId) (db, tail) (dbs.map .commit) = some (db', tail')) :
    tail' = tail := by
  induction dbs generalizing db with
  | nil =>
    cases h
    rfl
  | cons dbNext dbs ih =>
    rw [List.map_cons, Runs.run_cons] at h
    obtain ⟨⟨db₁, tail₁⟩, hstep, hrest⟩ := h
    simp only [RunTail.step] at hstep
    split at hstep
    · cases hstep
      exact ih hrest
    · cases hstep

/-- A poll: the run is read, others commit, the events are read. -/
theorem run_poll {runId : Uuid} {dbs : List Db} {db db' : Db} {tail tail' : RunTail}
    (h : Runs.run (step runId) (db, tail) (.readRun :: dbs.map .commit ++ [.readEvents]) =
      some (db', tail')) :
    tail' = (tail.readRun db runId).readEvents db' runId := by
  -- The row, the commits and the events, one after another.
  rw [List.cons_append, Runs.run_cons] at h
  obtain ⟨⟨db₁, tail₁⟩, hread, h⟩ := h
  rw [Runs.run_append] at h
  obtain ⟨⟨db₂, tail₂⟩, hcommits, h⟩ := h
  rw [Runs.run_cons] at h
  obtain ⟨⟨db₃, tail₃⟩, hevents, h⟩ := h
  rw [Runs.run_nil, Option.some.injEq, Prod.mk.injEq] at h
  obtain ⟨rfl, rfl⟩ := h
  simp only [RunTail.step] at hread hevents
  split at hread
  · cases hread
    -- The tail is the same after the commits.
    have hsame := run_commits hcommits
    subst hsame
    split at hevents
    · cases hevents
      rfl
    · cases hevents
  · cases hread

/-- A poll ends the stream: it yields the events of the run not yet yielded, in
    order, and then the status. -/
def Closes (runId : Uuid) (tail tail' : RunTail) (db' : Db) (status : RunStatus) : Prop :=
  tail'.yielded = tail.yielded ++
      ((eventsOf db' runId).filter fun p => p.2 ∉ tail.shownEvents.map Prod.snd).map
        (fun p => .event p.2 p.1) ++ [.streamClosed status] ∧
    tail'.phase = .closed

/-- A tail yields committed events of its run only, none twice, and a poll that
    begins when the run is over ends the stream, after all events not yet
    yielded, exactly when the tail has not read the run before. -/
theorem runTail_closes_iff {runId : Uuid} {db₀ db : Db} {tail : RunTail} {steps : List Step}
    (h : Runs.run (step runId) (db₀, start) steps = some (db, tail)) :
    ((∀ p ∈ tail.shownEvents, p ∈ eventsOf db runId) ∧ (tail.shownEvents.map Prod.snd).Nodup) ∧
      ∀ run, db.agentRuns.find? runId = some run → run.status.isTerminal = true →
        ∀ (dbs : List Db) (db' : Db) (tail' : RunTail),
          Runs.run (step runId) (db, tail) (.readRun :: dbs.map .commit ++ [.readEvents]) =
              some (db', tail') →
            (Closes runId tail tail' db' run.status ↔ .readRun ∉ steps) := by
  have hsound := sound_of_run h
  refine ⟨⟨hsound.committed, hsound.nodup⟩, fun run hrow hterminal dbs db' tail' hpoll => ?_⟩
  have hholding := holding_of_run h
  have htail' := run_poll hpoll
  have hasleep : tail.phase = .asleep := by
    rw [List.cons_append, Runs.run_cons] at hpoll
    obtain ⟨_, hread, -⟩ := hpoll
    simp only [RunTail.step] at hread
    split at hread
    · assumption
    · cases hread
  by_cases hread : .readRun ∈ steps
  · -- the session holds an instance that is not over
    obtain ⟨held, hheld, hrunning⟩ := hholding.asleep hasleep hread
    have hinstance : tail.readRun db runId = { tail with phase := .runRead, loaded := some held } := by
      simp [readRun, instanceOf, hrow, hheld]
    have hopen : tail'.phase = .asleep := by
      rw [htail', asleep_readEvents, hinstance]
      simp [hrunning]
    refine ⟨fun hcloses => ?_, fun hnot => absurd hread hnot⟩
    rw [hcloses.2] at hopen
    cases hopen
  · have hnone := hholding.unread hread
    have hinstance : tail.readRun db runId = { tail with phase := .runRead, loaded := some run } := by
      simp [readRun, instanceOf, hrow, hnone]
    refine ⟨fun _ => hread, fun _ => ?_⟩
    rw [Closes, htail', hinstance, readEvents]
    have hover : (some run).filter (·.status.isTerminal) = some run := by simp [hterminal]
    simp only [hover, and_true]
    rw [hsound.seen, Polling.takeNew_eq_filter _ (nodup_eventsOf db' runId)]

/-! ## A run on the example deployment -/

/-- The tables with one run, in a status and with its events. -/
def dbWithRun (status : RunStatus) (events : List AgentEvent) : Db :=
  { Deployment.db with
    agentRuns := .singleton ⟨1, 1, 1, status, "Hello", none, none⟩
    agentEvents := events }

/-- While the run is running. -/
def dbRunning : Db := dbWithRun .running [⟨1, .agentStarted, .input "Hello"⟩]

/-- When it has completed. -/
def dbCompleted : Db :=
  dbWithRun .completed [⟨1, .agentStarted, .input "Hello"⟩, ⟨1, .agentCompleted, .outputLength 2⟩]

/-- A tail that starts when the run is over ends with its first poll. -/
theorem runTail_closes_iff_example :
    Closes 1 start
      ((start.readRun dbCompleted 1).readEvents dbCompleted 1) dbCompleted .completed ↔
        .readRun ∉ [Step.commit dbCompleted] := by
  have hrun : Runs.run (step 1) (dbRunning, start) [.commit dbCompleted] =
      some (dbCompleted, start) := rfl
  have hpoll : Runs.run (step 1) (dbCompleted, start)
      (.readRun :: [].map .commit ++ [.readEvents]) =
        some (dbCompleted, (start.readRun dbCompleted 1).readEvents dbCompleted 1) := rfl
  exact (runTail_closes_iff hrun).2 ⟨1, 1, 1, .completed, "Hello", none, none⟩ rfl rfl [] _ _ hpoll

/-- A tail that polled while the run was running shows the terminal event, and goes on. -/
theorem runTail_misses_the_end :
    ¬ ∀ (runId : Uuid) (db₀ db : Db) (tail : RunTail) (steps : List Step),
      Runs.run (step runId) (db₀, start) steps = some (db, tail) →
        ∀ run, db.agentRuns.find? runId = some run → run.status.isTerminal = true →
          ∀ (dbs : List Db) (db' : Db) (tail' : RunTail),
            Runs.run (step runId) (db, tail) (.readRun :: dbs.map .commit ++ [.readEvents]) =
                some (db', tail') →
              Closes runId tail tail' db' run.status := by
  intro h
  -- The tail has read the run while it was running.
  obtain ⟨tail, htail⟩ : ∃ tail, tail = (start.readRun dbRunning 1).readEvents dbRunning 1 :=
    ⟨_, rfl⟩
  have hrun : Runs.run (step 1) (dbRunning, start) [.readRun, .readEvents, .commit dbCompleted] =
      some (dbCompleted, tail) := by
    rw [htail]
    rfl
  -- The next poll still sees the row that was loaded, and goes to sleep.
  have hpoll : Runs.run (step 1) (dbCompleted, tail)
      (.readRun :: [].map .commit ++ [.readEvents]) =
        some (dbCompleted, (tail.readRun dbCompleted 1).readEvents dbCompleted 1) := by
    rw [htail]
    rfl
  have hcloses := h 1 _ _ _ _ hrun ⟨1, 1, 1, .completed, "Hello", none, none⟩ rfl rfl [] _ _ hpoll
  have hphase : ((tail.readRun dbCompleted 1).readEvents dbCompleted 1).phase = .asleep := by
    rw [htail]
    rfl
  rw [hcloses.2] at hphase
  cases hphase

end RunTail

end AgnoRuntime
