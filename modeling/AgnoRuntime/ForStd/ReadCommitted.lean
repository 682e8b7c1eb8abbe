import Mathlib.Data.Finset.Basic
import Mathlib.Data.List.Basic

/-!
# Replacing a set of rows under READ COMMITTED

Any number of transactions `ι` each replace the rows of one set: `DELETE` all of
them, `INSERT` the keys `S t`, and `COMMIT`. The store keeps row versions, as
multi-version databases do: a version records the transaction that inserted it
and the one that deleted it.

* A `DELETE` takes a snapshot when it starts. It removes the versions inserted
  before the snapshot, one at a time; it waits while another running transaction
  holds a version as deleted, and skips it once that transaction has committed.
* An `INSERT` needs its key free: every version of the key is dead, or deleted by
  this transaction. Otherwise it waits, or fails and the transaction aborts.

The main result (`mem_stored_iff`) says which keys are stored in any reachable
state: those of the committed transactions that no committed transaction's
snapshot contains.
-/

set_option linter.unusedSectionVars false

namespace ReadCommitted

variable {ι κ : Type} [DecidableEq ι] [DecidableEq κ]

/-! ## The store -/

/-- A row version: inserted by `xmin` (`none`: there from the start), deleted by `xmax`. -/
structure Version (ι κ : Type) where
  key : κ
  xmin : Option ι
  xmax : Option ι
deriving DecidableEq

/-- How far a transaction has come. -/
inductive Phase (κ : Type) where
  | ready
  | deleting
  | inserting (todo : Finset κ)
  | committed
  | aborted
deriving DecidableEq

namespace Phase

/-- The `DELETE` is over. -/
def pastDelete : Phase κ → Bool
  | .inserting _ | .committed => true
  | .ready | .deleting | .aborted => false

/-- The key `k` is no longer to be inserted. -/
def pastInsert (k : κ) : Phase κ → Bool
  | .inserting todo => k ∉ todo
  | .committed => true
  | .ready | .deleting | .aborted => false

end Phase

/-- The versions, the phase of each transaction, and the snapshot of its `DELETE`. -/
structure Store (ι κ : Type) where
  versions : List (Version ι κ)
  phase : ι → Phase κ
  snap : ι → ι → Bool

namespace Store

/-- The store in which the keys `R` are stored and no transaction has started. -/
def start (R : List κ) : Store ι κ where
  versions := R.map (fun k => ⟨k, none, none⟩)
  phase := fun _ => .ready
  snap := fun _ _ => false

/-- Has the transaction committed? -/
def isCommitted (s : Store ι κ) (t : ι) : Bool := s.phase t = .committed

/-- Has the transaction aborted? -/
def isAborted (s : Store ι κ) (t : ι) : Bool := s.phase t = .aborted

/-- The `DELETE` of `d` sees the version: it was inserted before the snapshot. -/
def sees (s : Store ι κ) (d : ι) (v : Version ι κ) : Bool :=
  match v.xmin with
  | none => true
  | some t => s.snap d t

/-- The version was deleted by a committed transaction. -/
def dead (s : Store ι κ) (v : Version ι κ) : Bool := v.xmax.any s.isCommitted

/-- No running or committed transaction has deleted the version. -/
def unlocked (s : Store ι κ) (v : Version ι κ) : Bool := v.xmax.all s.isAborted

/-- The version does not stand in the way of an insert of its key by `t`. -/
def admits (s : Store ι κ) (t : ι) (v : Version ι κ) : Bool :=
  v.xmin.any s.isAborted || s.dead v || v.xmax = some t

/-- The version is stored: inserted by a committed transaction or at the start, not dead. -/
def live (s : Store ι κ) (v : Version ι κ) : Bool := v.xmin.all s.isCommitted && !s.dead v

/-- The keys a new statement reads. -/
def stored (s : Store ι κ) : Finset κ := ((s.versions.filter s.live).map (·.key)).toFinset

end Store

/-! ## Steps -/

/-- What a transaction does next. -/
inductive Event (ι κ : Type) where
  | deleteStart (t : ι)
  | deleteRow (t : ι) (k : κ) (xmin : Option ι)
  | deleteEnd (t : ι)
  | insert (t : ι) (k : κ)
  | commit (t : ι)
  | abort (t : ι)
deriving DecidableEq

namespace Store

/-- Mark the version of key `k` inserted by `xmin` as deleted by `t`. -/
def markDeleted (s : Store ι κ) (t : ι) (k : κ) (xmin : Option ι) : Store ι κ :=
  { s with versions := s.versions.map fun v =>
      if v.key = k ∧ v.xmin = xmin then { v with xmax := some t } else v }

/-- Add a version. -/
def append (s : Store ι κ) (v : Version ι κ) : Store ι κ := { s with versions := s.versions ++ [v] }

/-- The version can be removed by the running `DELETE` of `t`. -/
def canDelete (s : Store ι κ) (t : ι) (k : κ) (xmin : Option ι) : Bool :=
  s.versions.all fun v => (v.key = k && v.xmin = xmin) → (s.sees t v && s.unlocked v)

/-- Everything the `DELETE` of `t` sees is removed by `t` or dead. -/
def deleteDone (s : Store ι κ) (t : ι) : Bool :=
  s.versions.all fun v => s.sees t v → (v.xmax = some t || s.dead v)

/-- The key is free for `t`. -/
def keyFree (s : Store ι κ) (t : ι) (k : κ) : Bool :=
  s.versions.all fun v => v.key = k → s.admits t v

/-- The keys that `t` has still to insert, while it is inserting. -/
def todo (s : Store ι κ) (t : ι) : Option (Finset κ) :=
  match s.phase t with
  | .inserting todo => some todo
  | _ => none

/-- Move a transaction to a phase. -/
def setPhase (s : Store ι κ) (t : ι) (p : Phase κ) : Store ι κ :=
  { s with phase := fun u => if u = t then p else s.phase u }

/-- Let the snapshot of `t` be the transactions that have committed. -/
def takeSnapshot (s : Store ι κ) (t : ι) : Store ι κ :=
  { s with snap := fun d u => if d = t then s.isCommitted u else s.snap d u }

/-- One step; `none` when the event cannot happen in this state. `S t` is what `t` inserts. -/
def step (S : ι → Finset κ) (s : Store ι κ) : Event ι κ → Option (Store ι κ)
  | .deleteStart t =>
    if s.phase t = .ready then
      some ((s.takeSnapshot t).setPhase t .deleting)
    else none
  | .deleteRow t k xmin =>
    if s.phase t = .deleting ∧ s.canDelete t k xmin then
      some (s.markDeleted t k xmin)
    else none
  | .deleteEnd t =>
    if s.phase t = .deleting ∧ s.deleteDone t then
      some (s.setPhase t (.inserting (S t)))
    else none
  | .insert t k =>
    match s.todo t with
    | some todo =>
      if k ∈ todo ∧ s.keyFree t k then
        some ((s.append ⟨k, some t, none⟩).setPhase t (.inserting (todo.erase k)))
      else none
    | none => none
  | .commit t =>
    if s.phase t = .inserting ∅ then
      some (s.setPhase t .committed)
    else none
  | .abort t =>
    if s.phase t ≠ .committed ∧ s.phase t ≠ .aborted then
      some (s.setPhase t .aborted)
    else none

/-- Run a sequence of events; `none` when one of them cannot happen. -/
def exec (S : ι → Finset κ) (s : Store ι κ) : List (Event ι κ) → Option (Store ι κ)
  | [] => some s
  | ev :: evs => (s.step S ev).bind fun s' => s'.exec S evs

/-- The states and event sequences of runs that start with the keys `R` stored. -/
inductive Runs (S : ι → Finset κ) (R : List κ) : List (Event ι κ) → Store ι κ → Prop where
  | start : Runs S R [] (.start R)
  | step {evs : List (Event ι κ)} {s s' : Store ι κ} (ev : Event ι κ) (hrun : Runs S R evs s)
      (h : s.step S ev = some s') : Runs S R (evs ++ [ev]) s'

/-- Executing events extends a run. -/
theorem Runs.exec {S : ι → Finset κ} {R : List κ} {evs evs' : List (Event ι κ)}
    {s s' : Store ι κ} (hrun : Runs S R evs s) (h : s.exec S evs' = some s') :
    Runs S R (evs ++ evs') s' := by
  induction evs' generalizing evs s with
  | nil =>
    rw [Store.exec, Option.some.injEq] at h
    rw [← h, List.append_nil]
    exact hrun
  | cons ev evs' ih =>
    rw [Store.exec, Option.bind_eq_some_iff] at h
    obtain ⟨s₁, hstep, hrest⟩ := h
    have hlonger := ih (hrun.step ev hstep) hrest
    rwa [List.append_assoc, List.singleton_append] at hlonger

end Store

namespace Store

variable {S : ι → Finset κ} {R : List κ} {s s' : Store ι κ}

/-! ## The invariant of all runs -/

/-- What holds in every reachable state. -/
structure Inv (S : ι → Finset κ) (R : List κ) (s : Store ι κ) : Prop where
  /-- A transaction's versions have keys it submitted, and it has come as far as inserting. -/
  ofInserter : ∀ v ∈ s.versions, ∀ t, v.xmin = some t → v.key ∈ S t ∧
    (s.phase t = .aborted ∨ (s.phase t).pastInsert v.key = true)
  /-- The versions without an inserter are the initial ones. -/
  ofStart : ∀ k, k ∈ R ↔ ∃ v ∈ s.versions, v.key = k ∧ v.xmin = none
  /-- A transaction has only submitted keys to insert. -/
  todoSubset : ∀ t todo, s.phase t = .inserting todo → todo ⊆ S t
  /-- What is no longer to be inserted has been inserted. -/
  allInserted : ∀ t, ∀ k ∈ S t, (s.phase t).pastInsert k = true →
    ∃ v ∈ s.versions, v.key = k ∧ v.xmin = some t
  /-- Snapshots contain committed transactions only. -/
  snapCommitted : ∀ d t, s.snap d t = true → s.phase t = .committed
  /-- Of two transactions, at most one is in the other's snapshot. -/
  snapAsymm : ∀ d t, s.snap d t = true → s.snap t d = false
  /-- A version is deleted only by a transaction that saw it and has started. -/
  ofDeleter : ∀ v ∈ s.versions, ∀ d, v.xmax = some d → s.sees d v = true ∧ s.phase d ≠ .ready
  /-- After its `DELETE`, a transaction has removed all it saw, or found it dead. -/
  allDeleted : ∀ d, (s.phase d).pastDelete = true → ∀ v ∈ s.versions,
    s.sees d v = true → v.xmax = some d ∨ s.dead v = true
  /-- Two versions of one key by two transactions that have not aborted: one is dead, or
      deleted by the other's inserter. -/
  keyUnique : ∀ v ∈ s.versions, ∀ w ∈ s.versions, v.key = w.key →
    ∀ t u, t ≠ u → v.xmin = some t → w.xmin = some u →
      s.phase t = .aborted ∨ s.phase u = .aborted ∨ s.dead v = true ∨ s.dead w = true ∨
        v.xmax = some u ∨ w.xmax = some t

/-- The invariant holds before any transaction starts. -/
theorem inv_start (S : ι → Finset κ) (R : List κ) : Inv S R (.start R) where
  ofInserter := by
    -- No version has been inserted by a transaction,
    intro v hv t ht
    obtain ⟨k, -, rfl⟩ := List.mem_map.mp hv
    cases ht
  ofStart := by
    intro k
    constructor
    · exact fun hk => ⟨_, List.mem_map_of_mem hk, rfl, rfl⟩
    · rintro ⟨v, hv, rfl, -⟩
      obtain ⟨k, hk, rfl⟩ := List.mem_map.mp hv
      exact hk
  todoSubset := fun _ _ h => by cases h
  allInserted := fun _ _ _ h => by cases h
  snapCommitted := fun _ _ h => by cases h
  snapAsymm := fun _ _ h => by cases h
  ofDeleter := by
    -- nor deleted by one.
    intro v hv d hd
    obtain ⟨k, -, rfl⟩ := List.mem_map.mp hv
    cases hd
  allDeleted := fun _ h => by cases h
  keyUnique := by
    intro v hv w _ _ t u _ ht
    obtain ⟨k, -, rfl⟩ := List.mem_map.mp hv
    cases ht

section Fields

attribute [simp, grind =] Phase.pastDelete Phase.pastInsert

@[simp, grind =] theorem phase_setPhase (s : Store ι κ) (t u : ι) (p : Phase κ) :
    (s.setPhase t p).phase u = if u = t then p else s.phase u := rfl

@[simp, grind =] theorem versions_setPhase (s : Store ι κ) (t : ι) (p : Phase κ) :
    (s.setPhase t p).versions = s.versions := rfl

@[simp, grind =] theorem snap_setPhase (s : Store ι κ) (t d u : ι) (p : Phase κ) :
    (s.setPhase t p).snap d u = s.snap d u := rfl

@[simp, grind =] theorem phase_takeSnapshot (s : Store ι κ) (t u : ι) :
    (s.takeSnapshot t).phase u = s.phase u := rfl

@[simp, grind =] theorem versions_takeSnapshot (s : Store ι κ) (t : ι) :
    (s.takeSnapshot t).versions = s.versions := rfl

@[simp, grind =] theorem snap_takeSnapshot (s : Store ι κ) (t d u : ι) :
    (s.takeSnapshot t).snap d u = if d = t then s.isCommitted u else s.snap d u := rfl

@[simp, grind =] theorem phase_append (s : Store ι κ) (v : Version ι κ) (t : ι) :
    (s.append v).phase t = s.phase t := rfl

@[simp, grind =] theorem versions_append (s : Store ι κ) (v : Version ι κ) :
    (s.append v).versions = s.versions ++ [v] := rfl

@[simp, grind =] theorem snap_append (s : Store ι κ) (v : Version ι κ) (d u : ι) :
    (s.append v).snap d u = s.snap d u := rfl

@[simp, grind =] theorem phase_markDeleted (s : Store ι κ) (t u : ι) (k : κ) (x : Option ι) :
    (s.markDeleted t k x).phase u = s.phase u := rfl

@[simp, grind =] theorem snap_markDeleted (s : Store ι κ) (t d u : ι) (k : κ) (x : Option ι) :
    (s.markDeleted t k x).snap d u = s.snap d u := rfl

@[grind =] theorem isCommitted_iff (s : Store ι κ) (t : ι) :
    s.isCommitted t = true ↔ s.phase t = .committed := decide_eq_true_iff

@[grind =] theorem isAborted_iff (s : Store ι κ) (t : ι) :
    s.isAborted t = true ↔ s.phase t = .aborted := decide_eq_true_iff

@[grind =] theorem sees_iff (s : Store ι κ) (d : ι) (v : Version ι κ) :
    s.sees d v = true ↔ ∀ t, v.xmin = some t → s.snap d t = true := by
  rw [sees]
  cases v.xmin with
  | none => simp
  | some t => simp

@[grind =] theorem dead_iff (s : Store ι κ) (v : Version ι κ) :
    s.dead v = true ↔ ∃ d, v.xmax = some d ∧ s.phase d = .committed := by
  rw [dead]
  cases v.xmax with
  | none => simp
  | some d => simp [isCommitted_iff]

end Fields

@[grind =] theorem mem_versions_markDeleted (s : Store ι κ) (t : ι) (k : κ) (x : Option ι)
    (v : Version ι κ) : v ∈ (s.markDeleted t k x).versions ↔
      ∃ v₀ ∈ s.versions, v = if v₀.key = k ∧ v₀.xmin = x then { v₀ with xmax := some t } else v₀ := by
  simp only [markDeleted, List.mem_map, eq_comm]

/-- Marking changes neither the keys nor the inserters that occur. -/
theorem exists_markDeleted (s : Store ι κ) (t : ι) (k k' : κ) (x x' : Option ι) :
    (∃ v ∈ (s.markDeleted t k x).versions, v.key = k' ∧ v.xmin = x') ↔
      ∃ v ∈ s.versions, v.key = k' ∧ v.xmin = x' := by
  constructor
  · rintro ⟨v, hv, hk, hx⟩
    obtain ⟨v₀, hv₀, rfl⟩ := (mem_versions_markDeleted s t k x v).mp hv
    refine ⟨v₀, hv₀, ?_⟩
    split at hk <;> split at hx <;> exact ⟨hk, hx⟩
  · rintro ⟨v, hv, hk, hx⟩
    refine ⟨_, (mem_versions_markDeleted s t k x _).mpr ⟨v, hv, rfl⟩, ?_⟩
    split <;> exact ⟨hk, hx⟩

/-- Taking a snapshot and entering the delete phase. -/
theorem inv_deleteStart (hs : Inv S R s) {t : ι} (ht : s.phase t = .ready) :
    Inv S R ((s.takeSnapshot t).setPhase t .deleting) where
  ofInserter := by
    have := hs.ofInserter
    grind
  ofStart := hs.ofStart
  todoSubset := by
    have := hs.todoSubset
    grind
  allInserted := by
    have := hs.allInserted
    grind
  snapCommitted := by
    have := hs.snapCommitted
    grind
  -- Whoever is in the snapshot has committed before.
  snapAsymm := by
    have := hs.snapAsymm
    have := hs.snapCommitted
    grind
  ofDeleter := by
    have := hs.ofDeleter
    grind
  -- What a committed transaction saw, it has deleted; this one is not committed.
  allDeleted := by
    have := hs.allDeleted
    have := hs.snapCommitted
    grind
  keyUnique := by
    have := hs.keyUnique
    grind

/-- Ending the delete phase. -/
theorem inv_deleteEnd (hs : Inv S R s) {t : ι} (ht : s.phase t = .deleting)
    (hdone : s.deleteDone t = true) : Inv S R (s.setPhase t (.inserting (S t))) where
  ofInserter := by
    have := hs.ofInserter
    grind
  ofStart := hs.ofStart
  todoSubset := by
    have := hs.todoSubset
    grind
  allInserted := by
    have := hs.allInserted
    grind
  snapCommitted := by
    have := hs.snapCommitted
    grind
  snapAsymm := hs.snapAsymm
  ofDeleter := by
    have := hs.ofDeleter
    grind
  -- All that this transaction sees is deleted.
  allDeleted := by
    have := hs.allDeleted
    simp only [deleteDone, List.all_eq_true, decide_eq_true_eq, Bool.or_eq_true] at hdone
    grind
  keyUnique := by
    have := hs.keyUnique
    grind

/-- Committing. -/
theorem inv_commit (hs : Inv S R s) {t : ι} (ht : s.phase t = .inserting ∅) :
    Inv S R (s.setPhase t .committed) where
  ofInserter := by
    have := hs.ofInserter
    grind
  ofStart := hs.ofStart
  todoSubset := by
    have := hs.todoSubset
    grind
  allInserted := by
    have := hs.allInserted
    grind
  snapCommitted := by
    have := hs.snapCommitted
    grind
  snapAsymm := hs.snapAsymm
  ofDeleter := by
    have := hs.ofDeleter
    grind
  allDeleted := by
    have := hs.allDeleted
    grind
  keyUnique := by
    have := hs.keyUnique
    grind

/-- Aborting, at any time before the commit. -/
theorem inv_abort (hs : Inv S R s) {t : ι} (ht : s.phase t ≠ .committed) :
    Inv S R (s.setPhase t .aborted) where
  ofInserter := by
    have := hs.ofInserter
    grind
  ofStart := hs.ofStart
  todoSubset := by
    have := hs.todoSubset
    grind
  allInserted := by
    have := hs.allInserted
    grind
  snapCommitted := by
    have := hs.snapCommitted
    grind
  snapAsymm := hs.snapAsymm
  ofDeleter := by
    have := hs.ofDeleter
    grind
  allDeleted := by
    have := hs.allDeleted
    grind
  keyUnique := by
    have := hs.keyUnique
    grind

/-- Removing a version. -/
theorem inv_deleteRow (hs : Inv S R s) {t : ι} {k : κ} {x : Option ι}
    (ht : s.phase t = .deleting) (hcan : s.canDelete t k x = true) :
    Inv S R (s.markDeleted t k x) := by
  simp only [canDelete, List.all_eq_true, Bool.and_eq_true, decide_eq_true_eq] at hcan
  have hfree : ∀ v ∈ s.versions, v.key = k → v.xmin = x → ∀ d, v.xmax = some d →
      s.phase d = .aborted := by
    intro v hv hk hx d hd
    have hunlocked := (hcan v hv ⟨hk, hx⟩).2
    rw [unlocked, hd, Option.all_some, isAborted_iff] at hunlocked
    exact hunlocked
  constructor
  case ofInserter =>
    have := hs.ofInserter
    grind
  case ofStart =>
    intro k'
    rw [exists_markDeleted]
    exact hs.ofStart k'
  case todoSubset =>
    have := hs.todoSubset
    grind
  case allInserted =>
    intro u k' hk' hpast
    rw [exists_markDeleted]
    exact hs.allInserted u k' hk' hpast
  case snapCommitted =>
    have := hs.snapCommitted
    grind
  case snapAsymm => exact hs.snapAsymm
  case ofDeleter =>
    have := hs.ofDeleter
    grind
  case allDeleted =>
    intro d hd v hv hsees
    obtain ⟨v₀, hv₀, rfl⟩ := (mem_versions_markDeleted s t k x v).mp hv
    have hold := hs.allDeleted d hd v₀ hv₀
    by_cases hhit : v₀.key = k ∧ v₀.xmin = x
    · -- A version that is removed now was not removed by `d`, nor dead.
      rw [if_pos hhit] at hsees
      rcases hold hsees with hmax | hdead
      · rw [phase_markDeleted, hfree v₀ hv₀ hhit.1 hhit.2 d hmax] at hd
        cases hd
      · obtain ⟨e, hmax, he⟩ := (dead_iff s v₀).mp hdead
        rw [hfree v₀ hv₀ hhit.1 hhit.2 e hmax] at he
        cases he
    · rw [if_neg hhit] at hsees ⊢
      exact hold hsees
  case keyUnique =>
    intro v hv w hw hkey u u' hne hu hu'
    obtain ⟨v₀, hv₀, rfl⟩ := (mem_versions_markDeleted s t k x v).mp hv
    obtain ⟨w₀, hw₀, rfl⟩ := (mem_versions_markDeleted s t k x w).mp hw
    have hold := hs.keyUnique v₀ hv₀ w₀ hw₀
    have hfreeV := hfree v₀ hv₀
    have hfreeW := hfree w₀ hw₀
    simp only [phase_markDeleted, dead_iff] at hold ⊢
    grind

/-- Inserting a key. -/
theorem inv_insert (hs : Inv S R s) {t : ι} {k : κ} {todo : Finset κ}
    (ht : s.phase t = .inserting todo) (hk : k ∈ todo)
    (hfree : s.keyFree t k = true) :
    Inv S R ((s.append ⟨k, some t, none⟩).setPhase t (.inserting (todo.erase k))) := by
  simp only [keyFree, List.all_eq_true, decide_eq_true_eq, admits, Bool.or_eq_true,
    Option.any_eq_true, isAborted_iff] at hfree
  have hsub := hs.todoSubset t todo ht
  constructor
  case ofInserter =>
    have := hs.ofInserter
    grind
  case ofStart =>
    have := hs.ofStart
    grind
  case todoSubset =>
    have := hs.todoSubset
    grind
  case allInserted =>
    intro u k' hk' hpast
    -- the row just appended is the one this key needed; the others were there before
    by_cases hnew : u = t ∧ k' = k
    · obtain ⟨rfl, rfl⟩ := hnew
      exact ⟨_, List.mem_append_right _ (List.mem_singleton_self _), rfl, rfl⟩
    · have hold : (s.phase u).pastInsert k' = true := by grind
      obtain ⟨v, hv, hkey⟩ := hs.allInserted u k' hk' hold
      exact ⟨v, List.mem_append_left _ hv, hkey⟩
  case snapCommitted =>
    have := hs.snapCommitted
    grind
  case snapAsymm => exact hs.snapAsymm
  case ofDeleter =>
    have := hs.ofDeleter
    grind
  case allDeleted =>
    have := hs.allDeleted
    have := hs.snapCommitted
    grind
  -- `hfree` is the unique index: no version of the key that is not aborted is in the way
  case keyUnique =>
    have := hs.keyUnique
    grind

/-- Every step keeps the invariant. -/
theorem inv_step (hs : Inv S R s) (ev : Event ι κ) (h : s.step S ev = some s') : Inv S R s' := by
  cases ev with
  | deleteStart t =>
    simp only [step, Option.ite_none_right_eq_some, Option.some.injEq] at h
    obtain ⟨ht, rfl⟩ := h
    exact inv_deleteStart hs ht
  | deleteRow t k x =>
    simp only [step, Option.ite_none_right_eq_some, Option.some.injEq] at h
    obtain ⟨⟨ht, hcan⟩, rfl⟩ := h
    exact inv_deleteRow hs ht hcan
  | deleteEnd t =>
    simp only [step, Option.ite_none_right_eq_some, Option.some.injEq] at h
    obtain ⟨⟨ht, hdone⟩, rfl⟩ := h
    exact inv_deleteEnd hs ht hdone
  -- The key that is inserted is one of those still to be.
  | insert t k =>
    simp only [step, todo] at h
    split at h
    · rename_i todo htodo
      split at htodo
      · rename_i todo' ht
        cases htodo
        simp only [Option.ite_none_right_eq_some, Option.some.injEq] at h
        obtain ⟨⟨hk, hfree⟩, rfl⟩ := h
        exact inv_insert hs ht hk hfree
      · cases htodo
    · cases h
  | commit t =>
    simp only [step, Option.ite_none_right_eq_some, Option.some.injEq] at h
    obtain ⟨ht, rfl⟩ := h
    exact inv_commit hs ht
  | abort t =>
    simp only [step, Option.ite_none_right_eq_some, Option.some.injEq] at h
    obtain ⟨⟨ht, -⟩, rfl⟩ := h
    exact inv_abort hs ht

/-- The invariant holds along every run. -/
theorem inv_runs {evs : List (Event ι κ)} (h : Runs S R evs s) : Inv S R s := by
  induction h with
  | start => exact inv_start S R
  | step ev _ hstep ih => exact inv_step ih ev hstep

/-- No transaction is in its own snapshot. -/
theorem Inv.snap_self (hs : Inv S R s) (t : ι) : s.snap t t = false := by
  cases hsnap : s.snap t t with
  | false => rfl
  | true =>
    rw [hs.snapAsymm t t hsnap] at hsnap
    cases hsnap

/-! ## What is stored -/

/-- In every state, the stored keys are the initial ones if nothing has committed yet, and
    those of the committed transactions that no committed transaction has in its snapshot. -/
theorem mem_stored_iff (hs : Inv S R s) {k : κ} :
    k ∈ s.stored ↔
      (k ∈ R ∧ ∀ d, s.phase d ≠ .committed) ∨
      ∃ t, s.phase t = .committed ∧ k ∈ S t ∧
        ∀ d, s.phase d = .committed → s.snap d t = false := by
  -- A version a committed transaction sees is dead: that transaction or another removed it.
  have hkilled : ∀ v ∈ s.versions, ∀ d, s.phase d = .committed → s.sees d v = true →
      s.dead v = true := by
    intro v hv d hd hsees
    rcases hs.allDeleted d (by rw [hd]; rfl) v hv hsees with hmax | hdead
    · exact (dead_iff s v).mpr ⟨d, hmax, hd⟩
    · exact hdead
  -- A dead version was seen by a committed transaction.
  have hseen : ∀ v ∈ s.versions, s.dead v = true →
      ∃ d, s.phase d = .committed ∧ s.sees d v = true := by
    intro v hv hdead
    obtain ⟨d, hmax, hd⟩ := (dead_iff s v).mp hdead
    exact ⟨d, hd, (hs.ofDeleter v hv d hmax).1⟩
  have hlive : ∀ v, s.live v = true ↔
      (∀ t, v.xmin = some t → s.phase t = .committed) ∧ s.dead v = false := by
    intro v
    rw [live, Bool.and_eq_true, Bool.not_eq_true']
    cases v.xmin with
    | none => simp
    | some t => simp [isCommitted_iff]
  simp only [stored, List.mem_toFinset, List.mem_map, List.mem_filter, hlive]
  constructor
  · rintro ⟨v, ⟨hv, hmin, hdead⟩, rfl⟩
    cases hx : v.xmin with
    | none =>
      refine Or.inl ⟨(hs.ofStart v.key).mpr ⟨v, hv, rfl, hx⟩, fun d hd => ?_⟩
      have hsees : s.sees d v = true := by rw [sees, hx]
      rw [hkilled v hv d hd hsees] at hdead
      cases hdead
    | some t =>
      refine Or.inr ⟨t, hmin t hx, (hs.ofInserter v hv t hx).1, fun d hd => ?_⟩
      cases hsnap : s.snap d t with
      | false => rfl
      | true =>
        have hsees : s.sees d v = true := by rw [sees, hx]; exact hsnap
        rw [hkilled v hv d hd hsees] at hdead
        cases hdead
  · rintro (⟨hk, hnone⟩ | ⟨t, ht, hk, hsnap⟩)
    · obtain ⟨v, hv, hkey, hx⟩ := (hs.ofStart k).mp hk
      refine ⟨v, ⟨hv, fun t ht => ?_, ?_⟩, hkey⟩
      · rw [hx] at ht
        cases ht
      · cases hdead : s.dead v with
        | false => rfl
        | true =>
          obtain ⟨d, hd, -⟩ := hseen v hv hdead
          exact absurd hd (hnone d)
    · obtain ⟨v, hv, hkey, hx⟩ := hs.allInserted t k hk (by rw [ht]; rfl)
      refine ⟨v, ⟨hv, fun u hu => ?_, ?_⟩, hkey⟩
      · rw [hx, Option.some.injEq] at hu
        rw [← hu]
        exact ht
      · cases hdead : s.dead v with
        | false => rfl
        | true =>
          obtain ⟨d, hd, hsees⟩ := hseen v hv hdead
          have hsnap' := (sees_iff s d v).mp hsees t hx
          rw [hsnap d hd] at hsnap'
          cases hsnap'

/-- A key that two committed transactions submitted was deleted by a committed one that had
    one of them in its snapshot. -/
theorem exists_snap_of_common_key (hs : Inv S R s) {t u : ι} (hne : t ≠ u)
    (ht : s.phase t = .committed) (hu : s.phase u = .committed) {k : κ} (hkt : k ∈ S t)
    (hku : k ∈ S u) : ∃ d, s.phase d = .committed ∧ (s.snap d t = true ∨ s.snap d u = true) := by
  -- Each of the two has inserted its version of the key.
  obtain ⟨v, hv, hvk, hvx⟩ := hs.allInserted t k hkt (by rw [ht]; rfl)
  obtain ⟨w, hw, hwk, hwx⟩ := hs.allInserted u k hku (by rw [hu]; rfl)
  -- Whoever deleted one of them had it in the snapshot.
  have hseesV : ∀ d, v.xmax = some d → s.snap d t = true :=
    fun d hd => (sees_iff s d v).mp (hs.ofDeleter v hv d hd).1 t hvx
  have hseesW : ∀ d, w.xmax = some d → s.snap d u = true :=
    fun d hd => (sees_iff s d w).mp (hs.ofDeleter w hw d hd).1 u hwx
  -- Two versions of a key cannot both live.
  rcases hs.keyUnique v hv w hw (hvk.trans hwk.symm) t u hne hvx hwx with
    h | h | h | h | h | h
  · rw [ht] at h
    cases h
  · rw [hu] at h
    cases h
  · obtain ⟨d, hmax, hd⟩ := (dead_iff s v).mp h
    exact ⟨d, hd, Or.inl (hseesV d hmax)⟩
  · obtain ⟨d, hmax, hd⟩ := (dead_iff s w).mp h
    exact ⟨d, hd, Or.inr (hseesW d hmax)⟩
  · exact ⟨u, hu, Or.inl (hseesV u h)⟩
  · exact ⟨t, ht, Or.inr (hseesW t h)⟩

/-! ## Snapshots and the order of events -/

/-- A transaction has committed exactly when its commit is among the events. -/
theorem committed_iff_mem {evs : List (Event ι κ)} (h : Runs S R evs s) (t : ι) :
    s.phase t = .committed ↔ Event.commit t ∈ evs := by
  induction h with
  | start => simp [start]
  | step ev _ hstep ih =>
    rw [List.mem_append, List.mem_singleton, ← ih]
    cases ev <;> grind [step, todo]

/-- A transaction that has not yet started has left no event. -/
theorem deleteStart_notMem {evs : List (Event ι κ)} (h : Runs S R evs s) (t : ι)
    (ht : s.phase t = .ready) : Event.deleteStart t ∉ evs := by
  induction h with
  | start => exact List.not_mem_nil
  | step ev _ hstep ih =>
    rw [List.mem_append, List.mem_singleton, not_or]
    cases ev <;> grind [step, todo]

private theorem pair_sublist_concat {α : Type} {a b c : α} {l : List α} :
    List.Sublist [a, b] (l ++ [c]) ↔ List.Sublist [a, b] l ∨ (c = b ∧ a ∈ l) := by
  rw [List.sublist_append_iff]
  constructor
  · rintro ⟨l₁, l₂, heq, hl₁, hl₂⟩
    rcases List.sublist_singleton.mp hl₂ with rfl | rfl
    · rw [List.append_nil] at heq
      exact Or.inl (heq ▸ hl₁)
    · obtain ⟨rfl, hcb⟩ := List.append_inj' (show [a] ++ [b] = l₁ ++ [c] from heq) rfl
      exact Or.inr ⟨(List.cons.inj hcb).1.symm, List.singleton_sublist.mp hl₁⟩
  · rintro (h | ⟨rfl, ha⟩)
    · exact ⟨[a, b], [], (List.append_nil _).symm, h, List.nil_sublist _⟩
    · exact ⟨[a], [c], rfl, List.singleton_sublist.mpr ha, List.Sublist.refl _⟩

/-- One transaction is in another's snapshot exactly when it committed before the other's
    `DELETE` started. -/
theorem snap_iff_sublist {evs : List (Event ι κ)} (h : Runs S R evs s) (d t : ι) :
    s.snap d t = true ↔ List.Sublist [Event.commit t, Event.deleteStart d] evs := by
  induction h with
  | start => simp [start]
  | @step evs s s' ev hrun hstep ih =>
    rw [pair_sublist_concat, ← ih]
    by_cases hev : ev = .deleteStart d
    · -- The snapshot is taken now; the transaction had not started before.
      subst hev
      simp only [step, Option.ite_none_right_eq_some, Option.some.injEq] at hstep
      obtain ⟨hready, rfl⟩ := hstep
      have hfirst : s.snap d t = false := by
        cases hsnap : s.snap d t with
        | false => rfl
        | true =>
          have hpair := ih.mp hsnap
          have hmem := hpair.subset (List.mem_cons_of_mem _ List.mem_cons_self)
          exact absurd hmem (deleteStart_notMem hrun d hready)
      rw [snap_setPhase, snap_takeSnapshot, if_pos rfl, isCommitted_iff,
        committed_iff_mem hrun t, hfirst]
      simp
    · have hsame : s'.snap d t = s.snap d t := by
        cases ev <;> grind [step, todo]
      rw [hsame]
      simp [hev]

end Store

end ReadCommitted
