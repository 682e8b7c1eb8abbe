import AgnoRuntime.ForStd.ReadCommitted
import AgnoRuntime.Model.Hierarchy

/-!
# Two capability replacements at the same time

`set_agent_os_capabilities`, `set_team_capabilities` and `set_agent_capabilities`
send the same statements for their own table: `DELETE` the rows of the target,
`INSERT` one row for each element of `set(codes)`; `get_db` then commits. Under
READ COMMITTED such a request is a transaction of `ReadCommitted`, over the
codes of one target.

A replacement that runs alone stores what `replaceLinks` says. Two overlapping
ones store the union of the two submitted sets.
-/

namespace AgnoRuntime

open ReadCommitted

/-- The two requests. -/
inductive Writer where
  | first
  | second
deriving DecidableEq

/-- The set each request submits. -/
def submitted (codes : Writer → List String) (w : Writer) : Finset String := (codes w).toFinset

/-- Any interleaving of the statements of the two requests, on a target that has the codes
    `assigned`. -/
abbrev AssignmentRuns (codes : Writer → List String) (assigned : List String) :
    List (Event Writer String) → ReadCommitted.Store Writer String → Prop :=
  ReadCommitted.Store.Runs (submitted codes) assigned

section Assignments

variable {codes : Writer → List String} {assigned : List String}
  {evs : List (Event Writer String)} {s : ReadCommitted.Store Writer String}

/-- A request that commits while the other one does not stores what the setter returns. -/
theorem stored_of_one_committed {rows : Finset (Uuid × String)} {target : Uuid} {w : Writer}
    (hrun : AssignmentRuns codes assigned evs s) (hw : s.phase w = .committed)
    (hother : ∀ w', w' ≠ w → s.phase w' ≠ .committed) :
    s.stored = linked (replaceLinks rows target (codes w)) target := by
  have hinv := ReadCommitted.Store.inv_runs hrun
  rw [linked_replaceLinks_self]
  ext k
  rw [ReadCommitted.Store.mem_stored_iff hinv]
  constructor
  · rintro (⟨-, hnone⟩ | ⟨t, ht, hk, -⟩)
    · exact absurd hw (hnone w)
    · by_cases htw : t = w
      · exact htw ▸ hk
      · exact absurd ht (hother t htw)
  · intro hk
    refine Or.inr ⟨w, hw, hk, fun d hd => ?_⟩
    by_cases hdw : d = w
    · rw [hdw]
      exact hinv.snap_self w
    · exact absurd hd (hother d hdw)

/-- One request's `DELETE` starts after the other has committed. -/
def OneAfterTheOther (evs : List (Event Writer String)) : Prop :=
  List.Sublist [Event.commit .first, Event.deleteStart .second] evs ∨
    List.Sublist [Event.commit .second, Event.deleteStart .first] evs

/-- What both requests leave behind when they have committed, by their snapshots. -/
private theorem mem_stored_of_committed (hrun : AssignmentRuns codes assigned evs s)
    (hfirst : s.phase .first = .committed) (hsecond : s.phase .second = .committed) (k : String) :
    k ∈ s.stored ↔
      (k ∈ submitted codes .first ∧ s.snap .second .first = false) ∨
        (k ∈ submitted codes .second ∧ s.snap .first .second = false) := by
  -- A row is left by who inserts it and no later delete has seen it.
  have hinv := ReadCommitted.Store.inv_runs hrun
  have hall : ∀ w, s.phase w = .committed := fun w => by cases w <;> assumption
  rw [ReadCommitted.Store.mem_stored_iff hinv]
  constructor
  · rintro (⟨-, hnone⟩ | ⟨w, -, hk, hsnap⟩)
    · exact absurd hfirst (hnone .first)
    -- The other writer's delete did not see the row.
    · cases w with
      | first => exact Or.inl ⟨hk, hsnap .second hsecond⟩
      | second => exact Or.inr ⟨hk, hsnap .first hfirst⟩
  · rintro (⟨hk, hsnap⟩ | ⟨hk, hsnap⟩)
    · refine Or.inr ⟨.first, hfirst, hk, fun d _ => ?_⟩
      -- No writer is in its own snapshot.
      cases d with
      | first => exact hinv.snap_self .first
      | second => exact hsnap
    · refine Or.inr ⟨.second, hsecond, hk, fun d _ => ?_⟩
      cases d with
      | first => exact hsnap
      | second => exact hinv.snap_self .second

/-- Requests of which neither sees the other submit disjoint sets: the uniqueness of
    (target, code) lets no common code be inserted twice. -/
private theorem disjoint_of_overlap (hrun : AssignmentRuns codes assigned evs s)
    (hfirst : s.phase .first = .committed) (hsecond : s.phase .second = .committed)
    (hsnapFirst : s.snap .second .first = false) (hsnapSecond : s.snap .first .second = false) :
    Disjoint (submitted codes .first) (submitted codes .second) := by
  have hinv := ReadCommitted.Store.inv_runs hrun
  rw [Finset.disjoint_left]
  intro k hk hk'
  obtain ⟨d, -, hsnap⟩ := ReadCommitted.Store.exists_snap_of_common_key hinv
    (show Writer.first ≠ .second by decide) hfirst hsecond hk hk'
  cases d with
  | first =>
    rw [hinv.snap_self, hsnapSecond] at hsnap
    simp at hsnap
  | second =>
    rw [hinv.snap_self, hsnapFirst] at hsnap
    simp at hsnap

/-- When both requests commit, one of the two submitted sets is stored exactly if one request
    starts its `DELETE` after the other has committed, or one of the sets is empty. -/
theorem stored_eq_submitted_iff (hrun : AssignmentRuns codes assigned evs s)
    (hfirst : s.phase .first = .committed) (hsecond : s.phase .second = .committed) :
    (s.stored = submitted codes .first ∨ s.stored = submitted codes .second) ↔
      (OneAfterTheOther evs ∨ submitted codes .first = ∅ ∨ submitted codes .second = ∅) := by
  have hinv := ReadCommitted.Store.inv_runs hrun
  have hmem := mem_stored_of_committed hrun hfirst hsecond
  rw [OneAfterTheOther, ← ReadCommitted.Store.snap_iff_sublist hrun,
    ← ReadCommitted.Store.snap_iff_sublist hrun]
  cases hsnapFirst : s.snap .second .first with
  | true =>
    -- The second request saw the first one's rows and removed them.
    have hsnapSecond := hinv.snapAsymm _ _ hsnapFirst
    have hstored : s.stored = submitted codes .second := by
      ext k
      rw [hmem, hsnapFirst, hsnapSecond]
      simp
    simp [hstored]
  | false =>
    cases hsnapSecond : s.snap .first .second with
    | true =>
      have hstored : s.stored = submitted codes .first := by
        ext k
        rw [hmem, hsnapFirst, hsnapSecond]
        simp
      simp [hstored]
    | false =>
      -- Neither saw the other: both sets are stored, and they have nothing in common.
      have hdisj := disjoint_of_overlap hrun hfirst hsecond hsnapFirst hsnapSecond
      have hstored : s.stored = submitted codes .first ∪ submitted codes .second := by
        ext k
        rw [hmem, hsnapFirst, hsnapSecond, Finset.mem_union]
        simp
      rw [hstored, Finset.union_eq_left, Finset.union_eq_right]
      have hsecondEmpty : submitted codes .second ⊆ submitted codes .first ↔
          submitted codes .second = ∅ := by
        constructor
        · intro hsub
          exact Finset.disjoint_self_iff_empty _ |>.mp (hdisj.mono_left hsub)
        · rintro h
          rw [h]
          exact Finset.empty_subset _
      have hfirstEmpty : submitted codes .first ⊆ submitted codes .second ↔
          submitted codes .first = ∅ := by
        constructor
        · intro hsub
          exact Finset.disjoint_self_iff_empty _ |>.mp (hdisj.mono_right hsub)
        · rintro h
          rw [h]
          exact Finset.empty_subset _
      rw [hsecondEmpty, hfirstEmpty]
      simp [or_comm]

end Assignments

/-! ## Two replacements that overlap -/

namespace Overlap

/-- One request assigns a CRM code, the other an ERP code. -/
def requested : Writer → List String
  | .first => ["crm.customer.create"]
  | .second => ["erp.invoice.create"]

/-- Both `DELETE`s start before either request commits; the second one waits for the row
    lock of the first and then finds the row gone. -/
def overlapping : List (Event Writer String) :=
  [.deleteStart .first, .deleteStart .second, .deleteRow .first "crm.customer.read" none,
   .deleteEnd .first, .insert .first "crm.customer.create", .commit .first,
   .deleteEnd .second, .insert .second "erp.invoice.create", .commit .second]

/-- The second request starts when the first has committed. -/
def serial : List (Event Writer String) :=
  [.deleteStart .first, .deleteRow .first "crm.customer.read" none, .deleteEnd .first,
   .insert .first "crm.customer.create", .commit .first,
   .deleteStart .second, .deleteRow .second "crm.customer.create" (some .first),
   .deleteEnd .second, .insert .second "erp.invoice.create", .commit .second]

/-- The store after a sequence of events that can happen. -/
def final (evs : List (Event Writer String))
    (h : ((ReadCommitted.Store.start ["crm.customer.read"]).exec (submitted requested)
      evs).isSome = true) :
    ReadCommitted.Store Writer String :=
  ((ReadCommitted.Store.start ["crm.customer.read"]).exec (submitted requested) evs).get h

/-- The final store belongs to a run. -/
theorem runs_final {evs : List (Event Writer String)}
    (h : ((ReadCommitted.Store.start ["crm.customer.read"]).exec (submitted requested)
      evs).isSome = true) :
    AssignmentRuns requested ["crm.customer.read"] evs (final evs h) :=
  ReadCommitted.Store.Runs.start.exec (Option.some_get h).symm

end Overlap

open Overlap in
/-- A serial run stores the second request's set. -/
theorem stored_eq_submitted_iff_serial :
    (final serial (by decide)).stored = submitted requested .first ∨
      (final serial (by decide)).stored = submitted requested .second :=
  (stored_eq_submitted_iff (runs_final (by decide)) (by decide) (by decide)).mpr
    (Or.inl (Or.inl (by decide)))

open Overlap in
/-- Two overlapping replacements that both commit leave neither set, but their union. -/
theorem overlapping_replacements_store_union :
    ¬ ∀ (codes : Writer → List String) (assigned : List String) (evs : List (Event Writer String))
      (s : ReadCommitted.Store Writer String), AssignmentRuns codes assigned evs s →
      s.phase .first = .committed → s.phase .second = .committed →
        s.stored = submitted codes .first ∨ s.stored = submitted codes .second := by
  intro hall
  have hset := hall requested _ overlapping _ (runs_final (by decide)) (by decide) (by decide)
  exact absurd hset (by decide)

end AgnoRuntime
