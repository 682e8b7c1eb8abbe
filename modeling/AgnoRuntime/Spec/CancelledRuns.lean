import Mathlib.Algebra.Order.Ring.Rat
import AgnoRuntime.ForStd.Separated
import AgnoRuntime.Model.RunCancellation
import AgnoRuntime.Spec.ToldTurns

/-!
# What a cancel request does

The endpoint that cancels a run and the loop that streams it never meet: one sets a key, the other
asks for it between two events of the engine. However their steps interleave with those of all
other runs and requests,

* a run is only cancelled if it was asked for, by a request that saw the run unfinished
  (`cancellation_was_requested`), and
* once the key is set, the run records the event that it has already polled for and no other one,
  as long as the key can live (`signalled_run_stops`).

What a turn of the service leaves, whatever fails in it, some run of the system leaves
(`stream_follows_system`).
-/

namespace AgnoRuntime

namespace RunControl

section System

set_option linter.unusedSectionVars false

variable {κ ε : Type} [DecidableEq κ] {ttl : ℚ} {target : κ → Uuid} {s s' : System κ ε}
  {events later : List (Event κ ε)}

/-- Each run has a key of its own. -/
theorem key_inj {i j : Uuid} (h : key i = key j) : i = j :=
  UuidText.text_inj (String.append_right_inj _ |>.mp h)

/-- The loop over the events of the engine has been left. -/
def Turn.isStopped : Turn ε → Bool
  | .cancelling | .clearing | .over => true
  | .absent | .pending | .waiting | .polling _ | .recording _ => false

/-! ## What a step does -/

/-- A turn goes on without a commit. -/
structure Moves (s : System κ ε) (i : Uuid) (t : Turn ε) : Prop where
  begun : s.turn i ≠ .absent
  unfinished : s.turn i ≠ .over
  cancelling : t = .cancelling → s.isCancelled i = true
  recording : ∀ event, t = .recording event → s.isCancelled i = false ∧ s.turn i = .polling event
  clearing : t ≠ .clearing
  stopped : (s.turn i).isStopped = true → t = .over

/-- A turn commits a status. -/
structure Commits (s : System κ ε) (i : Uuid) (status : RunStatus) (t : Turn ε) : Prop where
  unfinished : s.turn i ≠ .clearing ∧ s.turn i ≠ .over
  terminal : status.isTerminal = true → t = .clearing ∨ t = .over
  cancelled : status = .cancelled ∨ t = .clearing → s.turn i = .cancelling
  cancelling : t ≠ .cancelling
  recording : ∀ event, t ≠ .recording event
  stopped : (s.turn i).isStopped = true → t.isStopped = true

/-- What a step does. -/
inductive Change (ttl : ℚ) (target : κ → Uuid) (s : System κ ε) : System κ ε → Prop where
  | tick {clock : ℚ} (hclock : s.clock ≤ clock) : Change ttl target s { s with clock }
  | move {i : Uuid} {t : Turn ε} (hmoves : Moves s i t) : Change ttl target s (s.setTurn i t)
  | commit {i : Uuid} {status : RunStatus} {t : Turn ε} (hcommits : Commits s i status t) :
      Change ttl target s ((s.setStatus i status).setTurn i t)
  | record {i : Uuid} {event : ε} (hturn : s.turn i = .recording event) :
      Change ttl target s ((s.append i event).setTurn i .waiting)
  | clear {i : Uuid} (hturn : s.turn i = .clearing) :
      Change ttl target s ((s.clearCancel i).setTurn i .over)
  | look {c : κ} {r : CancelRequest} (hrequest : s.request c = .arrived)
      (hread : ∀ status, r = .read status → s.status (target c) = some status)
      (hanswer : ∀ status b, r ≠ .answered status b) :
      Change ttl target s (s.setRequest c r)
  | refuse {c : κ} {status : RunStatus} (hrequest : s.request c = .read status)
      (hterminal : status.isTerminal = true) :
      Change ttl target s (s.setRequest c (.answered status false))
  | signal {c : κ} {status : RunStatus} {r : CancelRequest}
      (hrequest : s.request c = .read status) (hterminal : status.isTerminal = false)
      (hset : r.HasSet status) :
      Change ttl target s ((s.requestCancel ttl (target c)).setRequest c r)
  | drop {c : κ} (hrequest : (s.request c).isOver = false) :
      Change ttl target s (s.setRequest c .failed)

theorem change_of_step {event : Event κ ε} (h : s.step ttl target event = some s') :
    Change ttl target s s' := by
  cases event with
  -- The clock moves forward only.
  | tick clock =>
    simp only [System.step] at h
    split at h
    · rename_i hclock
      obtain rfl := Option.some.inj h
      exact .tick hclock
    · cases h
  | create i | start i | finish i =>
    -- These steps commit a status, and a turn that has ended takes none of them.
    simp only [System.step] at h
    split at h
    · rename_i hturn
      obtain rfl := Option.some.inj h
      refine .commit ⟨?_, ?_, ?_, ?_, ?_, ?_⟩ <;> simp [hturn, RunStatus.isTerminal, Turn.isStopped]
    · cases h
  | engineError i =>
    -- The stream breaks off while the loop waits, or while it closes the stream.
    simp only [System.step] at h
    split at h
    · rename_i hturn
      obtain rfl := Option.some.inj h
      refine .commit ⟨?_, ?_, ?_, ?_, ?_, ?_⟩ <;> simp [hturn, RunStatus.isTerminal, Turn.isStopped]
    · rename_i hturn
      obtain rfl := Option.some.inj h
      refine .commit ⟨?_, ?_, ?_, ?_, ?_, ?_⟩ <;> simp [hturn, RunStatus.isTerminal, Turn.isStopped]
    · cases h
  | cancel i =>
    simp only [System.step] at h
    split at h
    · rename_i hturn
      obtain rfl := Option.some.inj h
      refine .commit ⟨?_, ?_, ?_, ?_, ?_, ?_⟩ <;> simp [hturn, RunStatus.isTerminal, Turn.isStopped]
    · cases h
  | produce i event =>
    -- The turn goes on without a commit.
    simp only [System.step] at h
    split at h
    · rename_i hturn
      obtain rfl := Option.some.inj h
      refine .move ⟨?_, ?_, ?_, ?_, ?_, ?_⟩ <;> simp [hturn, Turn.isStopped]
    · cases h
  | poll i =>
    -- What the turn does next depends on the key.
    simp only [System.step] at h
    split at h
    · rename_i event hturn
      split at h
      · rename_i hflag
        obtain rfl := Option.some.inj h
        refine .move ⟨?_, ?_, ?_, ?_, ?_, ?_⟩ <;> simp [hturn, hflag, Turn.isStopped]
      · rename_i hflag
        obtain rfl := Option.some.inj h
        refine .move ⟨?_, ?_, ?_, ?_, ?_, ?_⟩ <;> simp_all [Turn.isStopped]
    · cases h
  | record i =>
    -- An event is committed.
    simp only [System.step] at h
    split at h
    · rename_i hturn
      obtain rfl := Option.some.inj h
      exact .record hturn
    · cases h
  | clear i =>
    simp only [System.step] at h
    split at h
    · rename_i hturn
      obtain rfl := Option.some.inj h
      exact .clear hturn
    · cases h
  | abort i =>
    -- A turn that has begun can end anywhere.
    simp only [System.step] at h
    split at h
    · cases h
    · cases h
    · rename_i habsent hover
      obtain rfl := Option.some.inj h
      exact .move ⟨habsent, hover, by simp, by simp, by simp, fun _ => rfl⟩
  | look c =>
    -- The requests: only `SET` reaches beyond them.
    simp only [System.step] at h
    split at h
    · rename_i hrequest
      obtain rfl := Option.some.inj h
      rw [System.look]
      split
      · exact .look hrequest (by simp) (by simp)
      · rename_i hstatus
        exact .look hrequest (by simpa using hstatus) (by simp)
    · cases h
  | signal c =>
    -- Whether the key is set depends on the status that was read.
    simp only [System.step] at h
    split at h
    · rename_i hrequest
      obtain rfl := Option.some.inj h
      rw [System.answer]
      split
      · rename_i hterminal
        exact .refuse hrequest hterminal
      · rename_i hterminal
        exact .signal hrequest (by simpa using hterminal) (.inl rfl)
    · cases h
  | lose c =>
    simp only [System.step] at h
    split at h
    · rename_i hrequest
      split at h
      · cases h
      · rename_i hterminal
        obtain rfl := Option.some.inj h
        exact .signal hrequest (by simpa using hterminal) (.inr rfl)
    · cases h
  | drop c =>
    simp only [System.step] at h
    split at h
    · rename_i hrequest
      obtain rfl := Option.some.inj h
      exact .drop (by rw [hrequest]; rfl)
    · rename_i hrequest
      obtain rfl := Option.some.inj h
      exact .drop (by rw [hrequest]; rfl)
    · cases h

/-! ## Who asked for a cancellation -/

/-- A request that saw the run unfinished has set its key. -/
def Asked (target : κ → Uuid) (s : System κ ε) (i : Uuid) : Prop :=
  ∃ c status, target c = i ∧ status.isTerminal = false ∧ (s.request c).HasSet status

/-- A request that is over stays so. -/
theorem request_of_change (h : Change ttl target s s') {c : κ}
    (hover : (s.request c).isOver = true) : s'.request c = s.request c := by
  -- the step of another request
  have hother : ∀ {d : κ} {r : CancelRequest}, (s.request d).isOver = false →
      (if c = d then r else s.request c) = s.request c := by
    intro d r hd
    have hne : c ≠ d := by
      rintro rfl
      rw [hover] at hd
      cases hd
    rw [if_neg hne]
  cases h with
  | tick | move | commit | record | clear => rfl
  | look hrequest _ _ => exact hother (by rw [hrequest]; rfl)
  | refuse hrequest _ => exact hother (by rw [hrequest]; rfl)
  | signal hrequest _ _ => exact hother (by rw [hrequest]; rfl)
  | drop hrequest => exact hother hrequest

theorem CancelRequest.HasSet.isOver {r : CancelRequest} {status : RunStatus}
    (h : r.HasSet status) : r.isOver = true := by
  rcases h with rfl | rfl
  · rfl
  · rfl

theorem Asked.of_change {i : Uuid} (hasked : Asked target s i) (h : Change ttl target s s') :
    Asked target s' i := by
  obtain ⟨c, status, htarget, hterminal, hset⟩ := hasked
  exact ⟨c, status, htarget, hterminal, by rwa [request_of_change h hset.isOver]⟩

/-- What holds in every reachable state. -/
structure Consistent (target : κ → Uuid) (s : System κ ε) : Prop where
  flagged : ∀ i, (s.flags (key i)).isSome → Asked target s i
  stopping : ∀ i, s.turn i = .cancelling ∨ s.turn i = .clearing → Asked target s i
  cancelled : ∀ i, s.status i = some .cancelled → Asked target s i
  terminal : ∀ i status, s.status i = some status → status.isTerminal = true →
    s.turn i = .clearing ∨ s.turn i = .over
  read : ∀ c status, s.request c = .read status → status.isTerminal = true →
    s.status (target c) = some status
  refused : ∀ c status, s.request c = .answered status false →
    status.isTerminal = true ∧ s.status (target c) = some status

theorem consistent_start (clock : ℚ) : Consistent target (.start clock : System κ ε) where
  flagged i h := by cases h
  stopping i h := by rcases h with h | h <;> cases h
  cancelled i h := by cases h
  terminal i status h := by cases h
  read c status h := by cases h
  refused c status h := by cases h

/-- A status that ends a run is final. -/
theorem status_of_change (hs : Consistent target s) (h : Change ttl target s s') {i : Uuid}
    {status : RunStatus} (hstatus : s.status i = some status)
    (hterminal : status.isTerminal = true) : s'.status i = some status := by
  cases h with
  | @commit j status' t hcommits =>
    have hne : i ≠ j := by
      rintro rfl
      rcases hs.terminal i status hstatus hterminal with hturn | hturn
      · exact hcommits.unfinished.1 hturn
      · exact hcommits.unfinished.2 hturn
    show (if i = j then _ else s.status i) = _
    rw [if_neg hne, hstatus]
  | tick | move | record | clear | look | refuse | signal | drop => exact hstatus

/-- The key of a run is set by the requests for it only. -/
theorem flags_of_change (h : Change ttl target s s') {i : Uuid}
    (hflag : (s'.flags (key i)).isSome) :
    (s.flags (key i)).isSome ∨ Asked target s' i := by
  cases h with
  | tick | move | commit | record | look | refuse | drop => exact .inl hflag
  | @clear j hturn =>
    left
    have hflag : (if key i = key j then none else s.flags (key i)).isSome := hflag
    split at hflag
    · cases hflag
    · exact hflag
  | @signal c status r hrequest hterminal hset =>
    by_cases hkey : key i = key (target c)
    · have hrequest : ((s.requestCancel ttl (target c)).setRequest c r).request c = r := if_pos rfl
      exact .inr ⟨c, status, (key_inj hkey).symm, hterminal, by rwa [hrequest]⟩
    · left
      have hflag : (if key i = key (target c) then some (s.clock + ttl)
        else s.flags (key i)).isSome := hflag
      rwa [if_neg hkey] at hflag

/-- A turn that begins to end as cancelled has found its key. -/
theorem turn_of_change (h : Change ttl target s s') {i : Uuid}
    (hturn : s'.turn i = .cancelling ∨ s'.turn i = .clearing) :
    (s.turn i = .cancelling ∨ s.turn i = .clearing) ∨ s.isCancelled i = true := by
  cases h with
  -- A step of a request moves no turn.
  | tick | look | refuse | signal | drop => exact .inl hturn
  | @move j t hmoves =>
    by_cases hij : i = j
    · subst hij
      -- Only a move that has found the key begins to cancel.
      have hturn : t = .cancelling ∨ t = .clearing := by
        simpa [System.setTurn] using hturn
      rcases hturn with hturn | hturn
      · exact .inr (hmoves.cancelling hturn)
      · exact absurd hturn hmoves.clearing
    · exact .inl (by simpa [System.setTurn, hij] using hturn)
  | @commit j status t hcommits =>
    by_cases hij : i = j
    · subst hij
      -- A commit leaves the cancelling behind it.
      have hturn : t = .cancelling ∨ t = .clearing := by
        simpa [System.setTurn] using hturn
      rcases hturn with hturn | hturn
      · exact absurd hturn hcommits.cancelling
      · exact .inl (.inl (hcommits.cancelled (.inr hturn)))
    · exact .inl (by simpa [System.setTurn, System.setStatus, hij] using hturn)
  | @record j event hrecording =>
    by_cases hij : i = j
    · subst hij
      -- A turn that records, or clears, is not one that cancels next.
      exact absurd hturn (by simp [System.setTurn])
    · exact .inl (by simpa [System.setTurn, System.append, hij] using hturn)
  | @clear j hclearing =>
    by_cases hij : i = j
    · subst hij
      -- The key of a run is cleared at the end of its turn.
      exact absurd hturn (by simp [System.setTurn])
    · exact .inl (by simpa [System.setTurn, System.clearCancel, System.setFlag, hij] using hturn)

/-- A status that is new has been committed by the turn of the run. -/
theorem commits_of_change (h : Change ttl target s s') {i : Uuid} {status : RunStatus}
    (hstatus : s'.status i = some status) :
    s.status i = some status ∨ Commits s i status (s'.turn i) := by
  cases h with
  | @commit j status' t hcommits =>
    by_cases hij : i = j
    · subst hij
      have hnew : status' = status := by
        simpa [System.setTurn, System.setStatus] using hstatus
      subst hnew
      have hturn : ((s.setStatus i status').setTurn i t).turn i = t := if_pos rfl
      rw [hturn]
      exact .inr hcommits
    · exact .inl (by simpa [System.setTurn, System.setStatus, hij] using hstatus)
  | tick | move | record | clear | look | refuse | signal | drop => exact .inl hstatus

/-- A turn that has ended stays so. -/
theorem ended_of_change (h : Change ttl target s s') {i : Uuid}
    (hturn : s.turn i = .clearing ∨ s.turn i = .over) :
    s'.turn i = .clearing ∨ s'.turn i = .over := by
  cases h with
  | tick | look | refuse | signal | drop => exact hturn
  | @move j t hmoves =>
    by_cases hij : i = j
    · subst hij
      -- From here a turn can only end.
      have hover : t = .over := by
        rcases hturn with hturn | hturn
        · exact hmoves.stopped (by rw [hturn]; rfl)
        · exact absurd hturn hmoves.unfinished
      exact .inr (by simpa [System.setTurn] using hover)
    · simpa [System.setTurn, hij] using hturn
  | @commit j status t hcommits =>
    by_cases hij : i = j
    · subst hij
      -- A turn that has ended commits nothing more.
      rcases hturn with hturn | hturn
      · exact absurd hturn hcommits.unfinished.1
      · exact absurd hturn hcommits.unfinished.2
    · simpa [System.setTurn, System.setStatus, hij] using hturn
  | @record j event hrecording =>
    by_cases hij : i = j
    · subst hij
      -- It does not record.
      rw [hrecording] at hturn
      rcases hturn with hturn | hturn <;> cases hturn
    · simpa [System.setTurn, System.append, hij] using hturn
  | @clear j hclearing =>
    by_cases hij : i = j
    · subst hij
      exact .inr (if_pos rfl)
    · simpa [System.setTurn, System.clearCancel, System.setFlag, hij] using hturn

/-- A request has read the row as it is. -/
theorem read_of_change (h : Change ttl target s s') {c : κ} {status : RunStatus}
    (hrequest : s'.request c = .read status) :
    s.request c = .read status ∨ s.status (target c) = some status := by
  cases h with
  | tick | move | commit | record | clear => exact .inl hrequest
  | @look d r _ hread _ =>
    by_cases hcd : c = d
    · subst hcd
      -- The row was read in this step.
      exact .inr (hread status (by simpa [System.setRequest] using hrequest))
    · exact .inl (by simpa [System.setRequest, hcd] using hrequest)
  | @refuse d _ _ _ | @drop d _ =>
    by_cases hcd : c = d
    · subst hcd
      exact absurd hrequest (by simp [System.setRequest])
    · exact .inl (by simpa [System.setRequest, hcd] using hrequest)
  | @signal d _ r _ _ hset =>
    by_cases hcd : c = d
    · subst hcd
      -- A request that has set the key is over.
      have hr : r = .read status := by simpa [System.setRequest] using hrequest
      rw [hr] at hset
      rcases hset with hset | hset <;> cases hset
    · exact .inl (by simpa [System.setRequest, System.requestCancel, System.setFlag, hcd]
        using hrequest)

/-- A request is refused because the row that it has read says that the run is over. -/
theorem refused_of_change (h : Change ttl target s s') {c : κ} {status : RunStatus}
    (hrequest : s'.request c = .answered status false) :
    s.request c = .answered status false ∨
      s.request c = .read status ∧ status.isTerminal = true := by
  cases h with
  | tick | move | commit | record | clear => exact .inl hrequest
  | @look d r _ _ hanswer =>
    by_cases hcd : c = d
    · subst hcd
      -- A look answers nothing.
      exact absurd (by simpa [System.setRequest] using hrequest) (hanswer status false)
    · exact .inl (by simpa [System.setRequest, hcd] using hrequest)
  | @refuse d status' hread hterminal =>
    by_cases hcd : c = d
    · subst hcd
      -- This is the refusal.
      obtain rfl : status' = status := by simpa [System.setRequest] using hrequest
      exact .inr ⟨hread, hterminal⟩
    · exact .inl (by simpa [System.setRequest, hcd] using hrequest)
  | @signal d _ r _ _ hset =>
    by_cases hcd : c = d
    · subst hcd
      -- A request that has set the key is not refused.
      have hr : r = .answered status false := by simpa [System.setRequest] using hrequest
      rw [hr] at hset
      rcases hset with hset | hset <;> cases hset
    · exact .inl (by simpa [System.setRequest, System.requestCancel, System.setFlag, hcd]
        using hrequest)
  | @drop d _ =>
    by_cases hcd : c = d
    · subst hcd
      exact absurd hrequest (by simp [System.setRequest])
    · exact .inl (by simpa [System.setRequest, hcd] using hrequest)

theorem consistent_of_change (h : Change ttl target s s') (hs : Consistent target s) :
    Consistent target s' where
  flagged i hflag := by
    -- A key that is set was asked for, now or before.
    rcases flags_of_change h hflag with hflag | hasked
    · exact (hs.flagged i hflag).of_change h
    · exact hasked
  stopping i hturn := by
    -- A turn that cancels has found the key.
    rcases turn_of_change h hturn with hturn | hcancelled
    · exact (hs.stopping i hturn).of_change h
    · refine (hs.flagged i ?_).of_change h
      obtain ⟨expiry, hexpiry, -⟩ := (Option.any_eq_true _ _).mp hcancelled
      rw [hexpiry]
      rfl
  cancelled i hstatus := by
    -- Only a turn that cancels commits this status.
    rcases commits_of_change h hstatus with hstatus | hcommits
    · exact (hs.cancelled i hstatus).of_change h
    · exact (hs.stopping i (.inl (hcommits.cancelled (.inl rfl)))).of_change h
  terminal i status hstatus hterminal := by
    -- Whoever commits a last status has ended the turn.
    rcases commits_of_change h hstatus with hstatus | hcommits
    · exact ended_of_change h (hs.terminal i status hstatus hterminal)
    · exact hcommits.terminal hterminal
  read c status hrequest hterminal := by
    -- What was read is still there: it is final.
    rcases read_of_change h hrequest with hrequest | hstatus
    · exact status_of_change hs h (hs.read c status hrequest hterminal) hterminal
    · exact status_of_change hs h hstatus hterminal
  refused c status hrequest := by
    -- The same holds of what a request was refused for.
    rcases refused_of_change h hrequest with hrequest | ⟨hrequest, hterminal⟩
    · obtain ⟨hterminal, hstatus⟩ := hs.refused c status hrequest
      exact ⟨hterminal, status_of_change hs h hstatus hterminal⟩
    · exact ⟨hterminal, status_of_change hs h (hs.read c status hrequest hterminal) hterminal⟩

theorem consistent_of_run {clock : ℚ}
    (hrun : Runs.run (System.step ttl target) (.start clock) events = some s) :
    Consistent target s :=
  Runs.invariant (fun _ _ _ hs hstep => consistent_of_change (change_of_step hstep) hs)
    (consistent_start clock) hrun

/-- A run is cancelled only if a request that saw it unfinished asked for it; a request that does
    not ask for it has seen the run over, as it stays. -/
theorem cancellation_was_requested {clock : ℚ}
    (hrun : Runs.run (System.step ttl target) (.start clock) events = some s)
    (hlater : Runs.run (System.step ttl target) s later = some s') :
    (∀ i, s.status i = some .cancelled → Asked target s i) ∧
    (∀ c status, s.request c = .answered status false →
      status.isTerminal = true ∧ s'.status (target c) = some status) ∧
    ∀ i status, s.status i = some status → status.isTerminal = true →
      s'.status i = some status := by
  have hs := consistent_of_run hrun
  have hfinal : ∀ i status, s.status i = some status → status.isTerminal = true →
      s'.status i = some status := by
    intro i status hstatus hterminal
    have hboth : Consistent target s' ∧ s'.status i = some status := by
      refine Runs.invariant (P := fun s' => Consistent target s' ∧ s'.status i = some status) ?_
        ⟨hs, hstatus⟩ hlater
      rintro s₁ s₂ event ⟨hs₁, hstatus₁⟩ hstep
      have hchange := change_of_step hstep
      exact ⟨consistent_of_change hchange hs₁, status_of_change hs₁ hchange hstatus₁ hterminal⟩
    exact hboth.2
  refine ⟨hs.cancelled, fun c status hrefused => ?_, hfinal⟩
  obtain ⟨hterminal, hstatus⟩ := hs.refused c status hrefused
  exact ⟨hterminal, hfinal _ _ hstatus hterminal⟩

/-! ## What is recorded after the signal -/

/-- The loop of the run has been left, or its key is set and lives until the deadline at least. -/
def Flagged (s : System κ ε) (i : Uuid) (deadline : ℚ) : Prop :=
  (s.turn i).isStopped = true ∨ ∃ expiry, s.flags (key i) = some expiry ∧ deadline ≤ expiry

/-- What is recorded of the run since a state in which its turn was `turn`: the event that it was
    about to record, or nothing. -/
def RecordedSince (turn : Turn ε) (recorded : List ε) (s : System κ ε) (i : Uuid) : Prop :=
  (s.recorded i = recorded ∧ ∀ event, s.turn i = .recording event → turn = .recording event) ∨
  ∃ event, turn = .recording event ∧ s.recorded i = recorded ++ [event] ∧
    ∀ event', s.turn i ≠ .recording event'

/-- A key that lives is found. -/
theorem Flagged.isCancelled {i : Uuid} {deadline : ℚ} {event : ε} (h : Flagged s i deadline)
    (hturn : s.turn i = .polling event) (hclock : s.clock < deadline) : s.isCancelled i = true := by
  rcases h with hstopped | ⟨expiry, hflag, hdeadline⟩
  · rw [hturn] at hstopped
    cases hstopped
  · rw [System.isCancelled, hflag]
    exact decide_eq_true (lt_of_lt_of_le hclock hdeadline)

theorem clock_of_change (h : Change ttl target s s') : s.clock ≤ s'.clock := by
  cases h with
  | tick hclock => exact hclock
  | move | commit | record | clear | look | refuse | signal | drop => exact le_refl _

/-- Only the turn of the run removes its key, when it has ended. -/
theorem flagged_of_change (h : Change ttl target s s') {i : Uuid} {deadline : ℚ}
    (hflagged : Flagged s i deadline) (hdeadline : deadline ≤ s.clock + ttl) :
    Flagged s' i deadline := by
  cases h with
  | tick | look | refuse | drop => exact hflagged
  | @move j t hmoves =>
    -- No key is touched; a turn that had stopped has ended.
    refine hflagged.imp_left fun hstopped => ?_
    by_cases hij : i = j
    · subst hij
      have hover : t = .over := hmoves.stopped hstopped
      simp [System.setTurn, hover, Turn.isStopped]
    · simpa [System.setTurn, hij] using hstopped
  | @commit j status t hcommits =>
    refine hflagged.imp_left fun hstopped => ?_
    by_cases hij : i = j
    · subst hij
      simpa [System.setTurn] using hcommits.stopped hstopped
    · simpa [System.setTurn, System.setStatus, hij] using hstopped
  | @record j event hrecording =>
    refine hflagged.imp_left fun hstopped => ?_
    by_cases hij : i = j
    · subst hij
      rw [hrecording] at hstopped
      cases hstopped
    · simpa [System.setTurn, System.append, hij] using hstopped
  | @clear j hclearing =>
    by_cases hij : i = j
    · subst hij
      -- The turn of this run has ended.
      exact .inl (by simp [System.setTurn, Turn.isStopped])
    -- The turn of another run clears a key of its own.
    · have hkey : key i ≠ key j := fun hkey => hij (key_inj hkey)
      refine hflagged.imp (fun hstopped => ?_) fun hflag => ?_
      · simpa [System.setTurn, System.clearCancel, System.setFlag, hij] using hstopped
      · simpa [System.setTurn, System.clearCancel, System.setFlag, hkey] using hflag
  | @signal c status r hrequest hterminal hset =>
    refine hflagged.imp_right fun hflag => ?_
    by_cases hkey : key i = key (target c)
    -- The key is set anew, and lives at least as long.
    · exact ⟨s.clock + ttl, if_pos hkey, hdeadline⟩
    · simpa [System.setRequest, System.requestCancel, System.setFlag, hkey] using hflag

/-- While the key lives, no further event is polled for and recorded. -/
theorem recordedSince_of_change (h : Change ttl target s s') {i : Uuid} {deadline : ℚ}
    {turn : Turn ε} {recorded : List ε} (hflagged : Flagged s i deadline)
    (hclock : s.clock < deadline) (hrecorded : RecordedSince turn recorded s i) :
    RecordedSince turn recorded s' i := by
  have hwithout : ∀ {t : Turn ε}, (∀ event, t ≠ .recording event) →
      s'.recorded i = s.recorded i → s'.turn i = t → RecordedSince turn recorded s' i := by
    intro t ht hsame hturn
    rcases hrecorded with ⟨hrec, -⟩ | ⟨event, hevent, hrec, -⟩
    · exact .inl ⟨hsame.trans hrec, fun event hevent => absurd (hturn ▸ hevent) (ht event)⟩
    · exact .inr ⟨event, hevent, hsame.trans hrec, fun event' => hturn ▸ ht event'⟩
  cases h with
  | tick | look | refuse | signal | drop => exact hrecorded
  | @move j t hmoves =>
    by_cases hij : i = j
    · subst hij
      refine hwithout (fun event ht => ?_) rfl (if_pos rfl)
      -- it has polled, and the key was not there
      obtain ⟨hnot, hpolling⟩ := hmoves.recording event ht
      rw [hflagged.isCancelled hpolling hclock] at hnot
      cases hnot
    · simpa [RecordedSince, System.setTurn, hij] using hrecorded
  | @commit j status t hcommits =>
    by_cases hij : i = j
    · subst hij
      exact hwithout hcommits.recording rfl (if_pos rfl)
    · simpa [RecordedSince, System.setTurn, System.setStatus, hij] using hrecorded
  | @record j event hrecording =>
    by_cases hij : i = j
    · subst hij
      rcases hrecorded with ⟨hrec, hturn⟩ | ⟨event', -, -, hnone⟩
      · exact .inr ⟨event, hturn event hrecording, by simp [System.append, System.setTurn, hrec],
          by simp [System.setTurn]⟩
      · exact absurd hrecording (hnone event)
    · simpa [RecordedSince, System.setTurn, System.append, hij] using hrecorded
  | @clear j hclearing =>
    by_cases hij : i = j
    · subst hij
      exact hwithout (by simp) rfl (if_pos rfl)
    · simpa [RecordedSince, System.setTurn, System.clearCancel, System.setFlag, hij]
        using hrecorded

theorem clock_of_run (hrun : Runs.run (System.step ttl target) s events = some s') :
    s.clock ≤ s'.clock :=
  Runs.invariant (P := fun s' => s.clock ≤ s'.clock)
    (fun _ _ _ hclock hstep => le_trans hclock (clock_of_change (change_of_step hstep)))
    (le_refl _) hrun

/-- A run in which the key can live. -/
theorem recordedSince_of_run {i : Uuid} {deadline : ℚ} {turn : Turn ε} {recorded : List ε}
    (hrun : Runs.run (System.step ttl target) s events = some s') (hclock : s'.clock < deadline)
    (hdeadline : deadline ≤ s.clock + ttl) (hflagged : Flagged s i deadline)
    (hrecorded : RecordedSince turn recorded s i) :
    Flagged s' i deadline ∧ RecordedSince turn recorded s' i := by
  induction events generalizing s with
  | nil =>
    obtain rfl := Option.some.inj hrun
    exact ⟨hflagged, hrecorded⟩
  | cons event events ih =>
    obtain ⟨s₁, hstep, hrest⟩ := Runs.run_cons.mp hrun
    have hchange := change_of_step hstep
    have hclock₁ := clock_of_change hchange
    have hclock' : s.clock < deadline :=
      lt_of_le_of_lt (le_trans hclock₁ (clock_of_run hrest)) hclock
    exact ih hrest (le_trans hdeadline (by simpa using hclock₁))
      (flagged_of_change hchange hflagged hdeadline)
      (recordedSince_of_change hchange hflagged hclock' hrecorded)

/-- A turn that polls while the key lives can only end as cancelled; the key is gone then, and the
    event has not been recorded. -/
theorem ends_cancelled (ttl : ℚ) (target : κ → Uuid) {i : Uuid} {event : ε}
    (hturn : s.turn i = .polling event) (hcancelled : s.isCancelled i = true) :
    ∃ s', Runs.run (System.step ttl target) s [.poll i, .cancel i, .clear i] = some s' ∧
      s'.status i = some .cancelled ∧ s'.isCancelled i = false ∧
      s'.recorded i = s.recorded i := by
  have hpoll : s.step ttl target (.poll i) = some (s.setTurn i .cancelling) := by
    simp [System.step, hturn, hcancelled]
  have hcancel : (s.setTurn i .cancelling).step ttl target (.cancel i) =
      some (((s.setTurn i .cancelling).setStatus i .cancelled).setTurn i .clearing) := by
    simp [System.step, System.setTurn]
  have hclear : (((s.setTurn i .cancelling).setStatus i .cancelled).setTurn i .clearing).step ttl
      target (.clear i) = some (((((s.setTurn i .cancelling).setStatus i .cancelled).setTurn i
        .clearing).clearCancel i).setTurn i .over) := by
    simp [System.step, System.setTurn]
  refine ⟨_, Runs.run_cons.mpr ⟨_, hpoll, Runs.run_cons.mpr ⟨_, hcancel,
    Runs.run_cons.mpr ⟨_, hclear, rfl⟩⟩⟩, ?_, ?_, rfl⟩
  · simp [System.setTurn, System.setStatus, System.clearCancel, System.setFlag]
  · simp [System.setTurn, System.clearCancel, System.setFlag, System.isCancelled]

/-- The step in which a request sets the key of its run does nothing else. -/
theorem signalled_of_step {s₁ : System κ ε} {event : Event κ ε} {c : κ} {status : RunStatus}
    (hevent : event = .signal c ∨ event = .lose c) (hsignal : s.step ttl target event = some s₁)
    (hset : (s₁.request c).HasSet status) :
    s₁.clock = s.clock ∧ s₁.turn = s.turn ∧ s₁.recorded = s.recorded ∧
      s₁.flags (key (target c)) = some (s.clock + ttl) := by
  rcases hevent with rfl | rfl
  · simp only [System.step] at hsignal
    split at hsignal
    · obtain rfl := Option.some.inj hsignal
      rw [System.answer] at hset ⊢
      split at hset
      · -- the request was refused, and has not set the key
        simp [System.setRequest, CancelRequest.HasSet] at hset
      · rename_i hterminal
        rw [if_neg hterminal]
        exact ⟨rfl, rfl, rfl, if_pos rfl⟩
    · cases hsignal
  · simp only [System.step] at hsignal
    split at hsignal
    · split at hsignal
      · cases hsignal
      · obtain rfl := Option.some.inj hsignal
        exact ⟨rfl, rfl, rfl, if_pos rfl⟩
    · cases hsignal

/-- After a request has set the key of a run, and for as long as the key can live, the run records
    nothing but the event that it has already polled for; if it polls again, it finds the key, and
    can end as cancelled, its key removed. -/
theorem signalled_run_stops {s₁ s₂ : System κ ε} {event : Event κ ε} {c : κ} {status : RunStatus}
    (hevent : event = .signal c ∨ event = .lose c) (hsignal : s.step ttl target event = some s₁)
    (hset : (s₁.request c).HasSet status)
    (hlater : Runs.run (System.step ttl target) s₁ later = some s₂)
    (hclock : s₂.clock < s.clock + ttl) :
    (s₂.recorded (target c) = s.recorded (target c) ∨
      ∃ event, s.turn (target c) = .recording event ∧
        s₂.recorded (target c) = s.recorded (target c) ++ [event]) ∧
    ∀ event, s₂.turn (target c) = .polling event →
      ∃ s₃, Runs.run (System.step ttl target) s₂
          [.poll (target c), .cancel (target c), .clear (target c)] = some s₃ ∧
        s₃.status (target c) = some .cancelled ∧ s₃.isCancelled (target c) = false := by
  obtain ⟨hclock₁, hturn₁, hrecorded₁, hflag⟩ := signalled_of_step hevent hsignal hset
  have hdeadline : s.clock + ttl ≤ s₁.clock + ttl := by rw [hclock₁]
  have hstart : RecordedSince (s.turn (target c)) (s.recorded (target c)) s₁ (target c) := by
    rw [← hturn₁, ← hrecorded₁]
    exact .inl ⟨rfl, fun _ hevent => hevent⟩
  obtain ⟨hflagged, hrecorded⟩ :=
    recordedSince_of_run hlater hclock hdeadline (.inr ⟨_, hflag, le_refl _⟩) hstart
  constructor
  · rcases hrecorded with ⟨hsame, -⟩ | ⟨event, hevent, hone, -⟩
    · exact .inl hsame
    · exact .inr ⟨event, hevent, hone⟩
  · intro event hpolling
    obtain ⟨s₃, hrun, hstatus, hcleared, -⟩ :=
      ends_cancelled ttl target hpolling (hflagged.isCancelled hpolling hclock)
    exact ⟨s₃, hrun, hstatus, hcleared⟩

end System

/-! ## The turns of the service -/

section Turns

open ChatService

variable {ttl : ℚ} {s : System Unit StreamEvent} {i : Uuid} {recorded : List StreamEvent}

/-- The turn of a run waits for the engine, and nobody has asked for a cancellation. -/
structure Undisturbed (i : Uuid) (recorded : List StreamEvent) (s : System Unit StreamEvent) :
    Prop where
  turn : s.turn i = .waiting
  status : s.status i = some .running
  recorded : s.recorded i = recorded
  flag : s.flags (key i) = none
  request : s.request () = .arrived

theorem undisturbed_start : ∃ s, Runs.run (System.step ttl fun _ => i) (.start 0)
    [.create i, .start i] = some s ∧ Undisturbed i [] s := by
  have hcreate : (System.start 0 : System Unit StreamEvent).step ttl (fun _ => i) (.create i) =
      some (((System.start 0).setStatus i .pending).setTurn i .pending) := rfl
  have hstart : (((System.start 0 : System Unit StreamEvent).setStatus i .pending).setTurn i
      .pending).step ttl (fun _ => i) (.start i) =
        some (((((System.start 0).setStatus i .pending).setTurn i .pending).setStatus i
          .running).setTurn i .waiting) := by
    simp [System.step, System.setTurn]
  refine ⟨_, Runs.run_cons.mpr ⟨_, hcreate, Runs.run_cons.mpr ⟨_, hstart, rfl⟩⟩, ?_⟩
  exact ⟨if_pos rfl, if_pos rfl, rfl, rfl, rfl⟩

/-- An event is recorded. -/
theorem undisturbed_record (ttl : ℚ) (h : Undisturbed i recorded s) (event : StreamEvent) :
    ∃ s', Runs.run (System.step ttl fun _ => i) s [.produce i event, .poll i, .record i] = some s' ∧
      Undisturbed i (recorded ++ [event]) s' := by
  have hproduce : s.step ttl (fun _ => i) (.produce i event) =
      some (s.setTurn i (.polling event)) := by
    simp [System.step, h.turn]
  have hpoll : (s.setTurn i (.polling event)).step ttl (fun _ => i) (.poll i) =
      some ((s.setTurn i (.polling event)).setTurn i (.recording event)) := by
    simp [System.step, System.setTurn, System.isCancelled, h.flag]
  have hrecord : ((s.setTurn i (.polling event)).setTurn i (.recording event)).step ttl (fun _ => i)
      (.record i) = some ((((s.setTurn i (.polling event)).setTurn i (.recording event)).append i
        event).setTurn i .waiting) := by
    simp [System.step, System.setTurn]
  refine ⟨_, Runs.run_cons.mpr ⟨_, hproduce, Runs.run_cons.mpr ⟨_, hpoll,
    Runs.run_cons.mpr ⟨_, hrecord, rfl⟩⟩⟩, ?_⟩
  exact ⟨if_pos rfl, h.status, (if_pos rfl).trans (by rw [← h.recorded]; rfl), h.flag, h.request⟩

theorem exists_undisturbed (ttl : ℚ) (i : Uuid) (recorded : List StreamEvent) :
    ∃ events s, Runs.run (System.step ttl fun _ => i) (.start 0) events = some s ∧
      Undisturbed i recorded s := by
  induction recorded using List.reverseRecOn with
  | nil => exact ⟨_, undisturbed_start⟩
  | append_singleton recorded event ih =>
    obtain ⟨events, s, hrun, hs⟩ := ih
    obtain ⟨s', hrecord, hs'⟩ := undisturbed_record ttl hs event
    exact ⟨_, s', Runs.run_append.mpr ⟨s, hrun, hrecord⟩, hs'⟩

/-- The turn is cancelled before it records one more event. -/
theorem undisturbed_cancel (httl : 0 < ttl) (h : Undisturbed i recorded s) (event : StreamEvent) :
    ∃ events s', Runs.run (System.step ttl fun _ => i) s events = some s' ∧
      s'.status i = some .cancelled ∧ s'.recorded i = recorded := by
  -- The request reads the row and sets the key.
  have hlook : s.step ttl (fun _ => i) (.look ()) = some (s.setRequest () (.read .running)) := by
    simp [System.step, System.look, h.request, h.status]
  have hsignal : (s.setRequest () (.read .running)).step ttl (fun _ => i) (.signal ()) =
      some (((s.setRequest () (.read .running)).requestCancel ttl i).setRequest ()
        (.answered .running true)) := by
    simp [System.step, System.answer, System.setRequest, RunStatus.isTerminal]
  -- The engine has one more event, and the turn finds the key before it records it.
  have hproduce : (((s.setRequest () (.read .running)).requestCancel ttl i).setRequest ()
      (.answered .running true)).step ttl (fun _ => i) (.produce i event) =
        some ((((s.setRequest () (.read .running)).requestCancel ttl i).setRequest ()
          (.answered .running true)).setTurn i (.polling event)) := by
    simp [System.step, System.setRequest, System.requestCancel, System.setFlag, h.turn]
  obtain ⟨s', hrun, hstatus, -, hrecorded⟩ :=
    ends_cancelled ttl (fun _ : Unit => i)
      (s := (((s.setRequest () (.read .running)).requestCancel ttl i).setRequest ()
        (.answered .running true)).setTurn i (.polling event)) (i := i) (if_pos rfl)
      (by simp [System.isCancelled, System.setTurn, System.setRequest, System.requestCancel,
        System.setFlag, httl])
  exact ⟨_, s', Runs.run_cons.mpr ⟨_, hlook, Runs.run_cons.mpr ⟨_, hsignal,
    Runs.run_cons.mpr ⟨_, hproduce, hrun⟩⟩⟩, hstatus, hrecorded.trans h.recorded⟩

/-- The tables are left as the system says: without a run, or with one run more, whose status and
    events are those of the system. -/
def Leaves (base db : Db) (s : System Unit StreamEvent) : Prop :=
  (SameTurns base db ∧ ∀ i, s.status i = none) ∨
  ∃ story : TurnStory, story.rows.In base db ∧ s.status story.runId = some story.phase.status ∧
    s.recorded story.runId = story.recorded

/-- Whatever fails, a streamed turn of the service leaves what some run of the system leaves. -/
theorem stream_follows_system (httl : 0 < ttl) (env : Env) (store : Store) (payload : ChatRequest) :
    ∃ (i : Uuid) (events : List (Event Unit StreamEvent)) (s : System Unit StreamEvent),
      Runs.run (System.step ttl fun _ => i) (.start 0) events = some s ∧
      Leaves store.db ((Request.chatStream payload).served env store).committed s := by
  cases stream_told env store payload with
  | unopened hsame _ => exact ⟨0, [], .start 0, rfl, .inl ⟨hsame, fun _ => rfl⟩⟩
  | pending turn hin _ =>
    exact ⟨turn.runId, [.create turn.runId], _, rfl, .inr ⟨_, hin, if_pos rfl, rfl⟩⟩
  | brokeOff turn stream recorded _ _ hin _ =>
    obtain ⟨events, s, hrun, hs⟩ := exists_undisturbed ttl turn.runId recorded
    exact ⟨turn.runId, events, s, hrun, .inr ⟨_, hin, hs.status, hs.recorded⟩⟩
  | ended turn stream recorded _ _ hin _ =>
    obtain ⟨events, s, hrun, hs⟩ := exists_undisturbed ttl turn.runId recorded
    cases hending : TurnEnd.ofStream stream recorded with
    | completed =>
      have hfinish : s.step ttl (fun _ => turn.runId) (.finish turn.runId) =
          some ((s.setStatus turn.runId .completed).setTurn turn.runId .over) := by
        simp [System.step, hs.turn]
      rw [hending] at hin
      exact ⟨turn.runId, _, _, Runs.run_concat.mpr ⟨s, hrun, hfinish⟩,
        .inr ⟨_, hin, if_pos rfl, hs.recorded⟩⟩
    | failed message =>
      have herror : s.step ttl (fun _ => turn.runId) (.engineError turn.runId) =
          some ((s.setStatus turn.runId .failed).setTurn turn.runId .over) := by
        simp [System.step, hs.turn]
      rw [hending] at hin
      exact ⟨turn.runId, _, _, Runs.run_concat.mpr ⟨s, hrun, herror⟩,
        .inr ⟨_, hin, if_pos rfl, hs.recorded⟩⟩
    | cancelled =>
      -- the engine had one more event, and the turn dropped it
      have hmore : recorded.length < stream.events.length := by
        by_contra hall
        rw [TurnEnd.ofStream, if_neg hall] at hending
        cases herror : stream.error with
        | none => rw [herror] at hending; cases hending
        | some exc => rw [herror] at hending; cases hending
      obtain ⟨later, s', hcancel, hstatus, hrecorded⟩ :=
        undisturbed_cancel httl hs stream.events[recorded.length]
      rw [hending] at hin
      exact ⟨turn.runId, _, s', Runs.run_append.mpr ⟨s, hrun, hcancel⟩,
        .inr ⟨_, hin, hstatus, hrecorded⟩⟩

end Turns

/-! ## The run that is cancelled while it records -/

theorem cancellation_was_requested_longRun :
    ∃ s s', Runs.run (System.step 60 LongRun.target) (.start 0)
        (LongRun.events ++ [.signal ()] ++ LongRun.later) = some s ∧
      Runs.run (System.step 60 LongRun.target) s [.tick 100] = some s' ∧
      s.status 7 = some .cancelled ∧ Asked LongRun.target s 7 ∧ s'.status 7 = some .cancelled := by
  have hall : (Runs.run (System.step 60 LongRun.target) (.start 0)
      (LongRun.events ++ [.signal ()] ++ LongRun.later)).map (fun s => s.status 7) =
      some (some .cancelled) := by
    decide +kernel
  have htick : (Runs.run (System.step 60 LongRun.target) (.start 0)
      (LongRun.events ++ [.signal ()] ++ LongRun.later ++ [.tick 100])).isSome := by
    decide +kernel
  obtain ⟨s, hrun, hstatus⟩ := Option.map_eq_some_iff.mp hall
  obtain ⟨s', hboth⟩ := Option.isSome_iff_exists.mp htick
  obtain ⟨s₁, hrun₁, hlater⟩ := Runs.run_append.mp hboth
  obtain rfl := Option.some.inj (hrun.symm.trans hrun₁)
  obtain ⟨hasked, -, hfinal⟩ := cancellation_was_requested hrun hlater
  exact ⟨s, s', hrun, hlater, hstatus, hasked 7 hstatus, hfinal 7 _ hstatus rfl⟩

theorem signalled_run_stops_longRun :
    ∃ s s₁ s₂ : System Unit String, s.step 60 LongRun.target (.signal ()) = some s₁ ∧
      Runs.run (System.step 60 LongRun.target) s₁ LongRun.later = some s₂ ∧
      s.recorded 7 = [] ∧ s₂.recorded 7 = ["first"] ∧
      (s₂.recorded 7 = s.recorded 7 ∨ ∃ event, s.turn 7 = .recording event ∧
        s₂.recorded 7 = s.recorded 7 ++ [event]) := by
  -- What the run has recorded before the signal, after it and in the end.
  have hfirst : (Runs.run (System.step 60 LongRun.target) (.start 0) LongRun.events).map
      (fun s => (s.clock, s.recorded 7)) = some (10, []) := by
    decide +kernel
  have hsecond : (Runs.run (System.step 60 LongRun.target) (.start 0)
      (LongRun.events ++ [.signal ()])).map (fun s => s.request ()) =
        some (.answered .running true) := by
    decide +kernel
  have hall : (Runs.run (System.step 60 LongRun.target) (.start 0)
      (LongRun.events ++ [.signal ()] ++ LongRun.later)).map
        (fun s => (s.clock, s.recorded 7)) = some (20, ["first"]) := by
    decide +kernel
  obtain ⟨s, hrun, hs⟩ := Option.map_eq_some_iff.mp hfirst
  obtain ⟨s₁, hsignalled, hanswer⟩ := Option.map_eq_some_iff.mp hsecond
  obtain ⟨s₂, hboth, hs₂⟩ := Option.map_eq_some_iff.mp hall
  obtain ⟨s', hrun', hsignal⟩ := Runs.run_concat.mp hsignalled
  obtain rfl := Option.some.inj (hrun.symm.trans hrun')
  obtain ⟨s₁', hrun₁, hlater⟩ := Runs.run_append.mp hboth
  obtain rfl := Option.some.inj (hsignalled.symm.trans hrun₁)
  obtain ⟨hclock, hrecorded⟩ := Prod.mk.inj hs
  obtain ⟨hclock₂, hrecorded₂⟩ := Prod.mk.inj hs₂
  -- The key still lives.
  have hearly : s₂.clock < s.clock + 60 := by
    rw [hclock, hclock₂]
    decide +kernel
  exact ⟨s, s₁, s₂, hsignal, hlater, hrecorded, hrecorded₂,
    (signalled_run_stops (.inl rfl) hsignal (.inl hanswer) hlater hearly).1⟩

end RunControl

end AgnoRuntime
