import Mathlib.Data.List.Nodup
import Mathlib.Data.List.Sort
import Mathlib.Data.List.Range

/-!
# Numbered versions and rows that are hidden

Rows have a key, a version and are visible or not. The versions of a key are
`Numbered` when, in the order of the rows, they are 1, 2, 3 and so on. The next
version computed from the visible rows (`next`) is then free among all rows
exactly when the last version is visible (`next_free_iff`).
-/

namespace Versions

variable {α κ : Type} [DecidableEq κ] (key : α → κ) (version : α → Nat) (visible : α → Bool)

/-- The highest version of some rows, 0 when there are none. -/
def highest (rows : List α) : Nat := (rows.map version).foldr max 0

/-- One more than the highest visible version of a key. -/
def next (rows : List α) (k : κ) : Nat :=
  highest version (rows.filter fun r => key r = k && visible r) + 1

/-- The versions of each key count from 1 in the order of the rows. -/
def Numbered (rows : List α) : Prop :=
  ∀ k, (rows.filter fun r => key r = k).map version =
    List.range' 1 (rows.filter fun r => key r = k).length

/-- The highest version of the key is visible. -/
def LastVisible (rows : List α) (k : κ) : Prop :=
  ∀ r ∈ rows, key r = k → (∀ r' ∈ rows, key r' = k → version r' ≤ version r) → visible r = true

variable {key version visible}

/-! ## The highest version -/

theorem le_highest {rows : List α} {r : α} (h : r ∈ rows) : version r ≤ highest version rows := by
  induction rows with
  | nil => cases h
  | cons r' rows ih =>
    rw [highest, List.map_cons, List.foldr_cons]
    rcases List.mem_cons.mp h with rfl | h
    · exact Nat.le_max_left _ _
    · exact Nat.le_trans (ih h) (Nat.le_max_right _ _)

/-- A positive highest version is the version of a row. -/
theorem exists_of_highest_pos {rows : List α} (h : 0 < highest version rows) :
    ∃ r ∈ rows, version r = highest version rows := by
  induction rows with
  | nil => exact absurd h (Nat.lt_irrefl 0)
  | cons r rows ih =>
    have hcons : highest version (r :: rows) = max (version r) (highest version rows) := rfl
    rcases Nat.le_total (highest version rows) (version r) with hle | hle
    · exact ⟨r, List.mem_cons_self, by rw [hcons, Nat.max_eq_left hle]⟩
    · rw [hcons, Nat.max_eq_right hle] at h
      obtain ⟨r', hr', hmax⟩ := ih h
      exact ⟨r', List.mem_cons_of_mem r hr', by rw [hmax, hcons, Nat.max_eq_right hle]⟩

/-- The highest version is a bound that a row attains. -/
theorem highest_eq_of_mem {rows : List α} {r : α} (hr : r ∈ rows)
    (hle : ∀ r' ∈ rows, version r' ≤ version r) : highest version rows = version r := by
  refine Nat.le_antisymm ?_ (le_highest hr)
  rcases Nat.eq_zero_or_pos (highest version rows) with hzero | hpos
  · rw [hzero]
    exact Nat.zero_le _
  · obtain ⟨r', hr', hmax⟩ := exists_of_highest_pos hpos
    rw [← hmax]
    exact hle r' hr'

/-- Sorted by descending version, the first row has the highest one. -/
theorem head_insertionSort (rows : List α) :
    (match rows.insertionSort (fun r r' => version r' ≤ version r) with
      | [] => 1
      | r :: _ => version r + 1) = highest version rows + 1 := by
  -- The order is total and transitive, so the list is sorted.
  have htotal : Std.Total (fun r r' : α => version r' ≤ version r) :=
    ⟨fun r r' => Nat.le_total _ _⟩
  have htrans : IsTrans α (fun r r' => version r' ≤ version r) :=
    ⟨fun _ _ _ h h' => Nat.le_trans h' h⟩
  have hperm := List.perm_insertionSort (fun r r' : α => version r' ≤ version r) rows
  have hsorted := List.pairwise_insertionSort (fun r r' : α => version r' ≤ version r) rows
  split
  · rename_i hnil
    rw [hnil] at hperm
    rw [hperm.symm.eq_nil]
    rfl
  -- The first row has the highest version.
  · rename_i r rest hcons
    rw [hcons] at hperm hsorted
    rw [List.pairwise_cons] at hsorted
    rw [highest_eq_of_mem (hperm.mem_iff.mp List.mem_cons_self)]
    intro r' hr'
    rcases List.mem_cons.mp (hperm.mem_iff.mpr hr') with rfl | hr'
    · exact Nat.le_refl _
    · exact hsorted.1 r' hr'

/-! ## Numbered versions -/

/-- A version of a key is a number up to how many rows the key has. -/
theorem Numbered.mem_iff {rows : List α} (h : Numbered key version rows) {k : κ} {v : Nat} :
    (∃ r ∈ rows, key r = k ∧ version r = v) ↔
      1 ≤ v ∧ v ≤ (rows.filter fun r => key r = k).length := by
  have hmem : (∃ r ∈ rows, key r = k ∧ version r = v) ↔
      v ∈ (rows.filter fun r => key r = k).map version := by
    simp [List.mem_map, and_assoc]
  rw [hmem, h k, List.mem_range'_1]
  omega

/-- A row is determined by its key and version. -/
theorem Numbered.eq_of_version {rows : List α} (h : Numbered key version rows) {r r' : α}
    (hr : r ∈ rows) (hr' : r' ∈ rows) (hkey : key r = key r') (hversion : version r = version r') :
    r = r' := by
  have hnodup : ((rows.filter fun r => key r = key r').map version).Nodup := by
    rw [h (key r')]
    exact List.nodup_range'
  have hmem : r ∈ rows.filter fun r => key r = key r' := by simp [hr, hkey]
  have hmem' : r' ∈ rows.filter fun r => key r = key r' := by simp [hr']
  exact List.inj_on_of_nodup_map hnodup hmem hmem' hversion

/-- The next version is no higher than one more than the rows of the key. -/
theorem Numbered.next_le {rows : List α} (h : Numbered key version rows) (k : κ) :
    next key version visible rows k ≤ (rows.filter fun r => key r = k).length + 1 := by
  rw [next]
  refine Nat.succ_le_succ ?_
  rcases Nat.eq_zero_or_pos (highest version (rows.filter fun r => key r = k && visible r)) with
    hzero | hpos
  · rw [hzero]
    exact Nat.zero_le _
  · obtain ⟨r, hr, hmax⟩ := exists_of_highest_pos hpos
    rw [List.mem_filter, Bool.and_eq_true, decide_eq_true_eq] at hr
    exact (h.mem_iff.mp ⟨r, hr.1, hr.2.1, hmax⟩).2

/-- A free next version is the number after the last. -/
theorem Numbered.next_eq {rows : List α} (h : Numbered key version rows) {k : κ}
    (hfree : ∀ r ∈ rows, key r = k → version r ≠ next key version visible rows k) :
    next key version visible rows k = (rows.filter fun r => key r = k).length + 1 := by
  by_contra hne
  have hle : next key version visible rows k ≤ (rows.filter fun r => key r = k).length + 1 :=
    h.next_le k
  obtain ⟨r, hr, hkey, hversion⟩ := h.mem_iff.mpr
    ⟨Nat.succ_le_succ (Nat.zero_le _), Nat.lt_succ_iff.mp (Nat.lt_of_le_of_ne hle hne)⟩
  exact hfree r hr hkey hversion

/-- The next version is carried by no row of the key exactly when the last
    version is visible. -/
theorem Numbered.next_free_iff {rows : List α} (h : Numbered key version rows) (k : κ) :
    (∀ r ∈ rows, key r = k → version r ≠ next key version visible rows k) ↔
      LastVisible key version visible rows k := by
  constructor
  · intro hfree r hr hkey hlast
    have hnext := h.next_eq hfree
    -- the last version is the highest visible one
    have hcount : version r = (rows.filter fun r => key r = k).length := by
      have hle := (h.mem_iff.mp ⟨r, hr, hkey, rfl⟩)
      obtain ⟨r', hr', hkey', hversion'⟩ := h.mem_iff.mpr
        ⟨Nat.le_trans hle.1 hle.2, Nat.le_refl _⟩
      have := hlast r' hr' hkey'
      omega
    have hhighest : highest version (rows.filter fun r => key r = k && visible r) = version r := by
      have hsucc := hnext
      rw [next] at hsucc
      omega
    have hpos : 0 < highest version (rows.filter fun r => key r = k && visible r) := by
      rw [hhighest]
      exact (h.mem_iff.mp ⟨r, hr, hkey, rfl⟩).1
    obtain ⟨r', hr', hmax⟩ := exists_of_highest_pos hpos
    rw [List.mem_filter, Bool.and_eq_true, decide_eq_true_eq] at hr'
    rw [hhighest] at hmax
    rw [h.eq_of_version hr hr'.1 (hkey.trans hr'.2.1.symm) hmax.symm]
    exact hr'.2.2
  · intro hlast r hr hkey hversion
    obtain ⟨r', hr', hkey', hversion'⟩ := h.mem_iff.mpr
      ⟨Nat.le_trans (h.mem_iff.mp ⟨r, hr, hkey, rfl⟩).1 (h.mem_iff.mp ⟨r, hr, hkey, rfl⟩).2,
        Nat.le_refl _⟩
    have hvisible : visible r' = true := by
      refine hlast r' hr' hkey' fun r'' hr'' hkey'' => ?_
      rw [hversion']
      exact (h.mem_iff.mp ⟨r'', hr'', hkey'', rfl⟩).2
    have hhighest : version r' ≤ highest version (rows.filter fun r => key r = k && visible r) :=
      le_highest (by simp [hr', hkey', hvisible])
    have hr_le := (h.mem_iff.mp ⟨r, hr, hkey, rfl⟩).2
    rw [hversion, next] at hr_le
    omega

theorem numbered_nil : Numbered key version ([] : List α) := fun _ => rfl

/-- A row with the next version, where it is free, continues the numbering. -/
theorem Numbered.concat {rows : List α} (h : Numbered key version rows) {r : α}
    (hversion : version r = next key version visible rows (key r))
    (hfree : ∀ r' ∈ rows, key r' = key r → version r' ≠ next key version visible rows (key r)) :
    Numbered key version (rows ++ [r]) := by
  intro k
  rw [List.filter_append, List.map_append, h k]
  by_cases hk : key r = k
  · have hnext := h.next_eq hfree
    rw [hk] at hnext hversion
    have hone : [r].filter (fun r => key r = k) = [r] := by simp [hk]
    rw [hone, List.map_singleton, List.length_append, List.length_singleton, hversion, hnext,
      List.range'_concat]
    simp [Nat.add_comm]
  · have hnone : [r].filter (fun r => key r = k) = [] := by simp [hk]
    simp [hnone]

/-- A change that keeps keys and versions keeps the numbering. -/
theorem Numbered.map {rows : List α} (h : Numbered key version rows) {f : α → α}
    (hkey : ∀ r, key (f r) = key r) (hversion : ∀ r, version (f r) = version r) :
    Numbered key version (rows.map f) := by
  intro k
  have hfilter : (rows.map f).filter (fun r => key r = k) =
      (rows.filter fun r => key r = k).map f := by
    rw [List.filter_map]
    congr 1
    refine List.filter_congr fun r _ => ?_
    rw [Function.comp_apply, hkey]
  have hmap : ((rows.filter fun r => key r = k).map f).map version =
      (rows.filter fun r => key r = k).map version := by
    rw [List.map_map]
    exact List.map_congr_left fun r _ => hversion r
  rw [hfilter, hmap, h k, List.length_map]

/-! ## Changes of the rows -/

variable (key version visible)

/-- A change of the rows that hides those a condition selects: a new version or an edit
    hides none. Edits and hiding keep keys and versions. -/
inductive Change (rows : List α) : (α → Bool) → List α → Prop where
  | same : Change rows (fun _ => false) rows
  | added (r : α) (hvisible : visible r = true)
      (hversion : version r = next key version visible rows (key r))
      (hfree : ∀ r' ∈ rows, key r' = key r → version r' ≠ version r) :
      Change rows (fun _ => false) (rows ++ [r])
  | edited (f : α → α) (hkey : ∀ r, key (f r) = key r) (hversion : ∀ r, version (f r) = version r)
      (hvisible : ∀ r, visible (f r) = visible r) : Change rows (fun _ => false) (rows.map f)
  | hidden (p : α → Bool) (f : α → α) (hkey : ∀ r, key (f r) = key r)
      (hversion : ∀ r, version (f r) = version r) (hvisible : ∀ r, visible (f r) = false) :
      Change rows p (rows.map fun r => if p r then f r else r)

/-- The rows a condition selects include no last version. -/
def SparesLast (p : α → Bool) (rows : List α) : Prop :=
  ∀ r ∈ rows, p r = true → ∃ r' ∈ rows, key r' = key r ∧ version r < version r'

variable {key version visible}

/-- Every change keeps the numbering. -/
theorem Numbered.change {rows rows' : List α} {p : α → Bool} (h : Numbered key version rows)
    (hchange : Change key version visible rows p rows') : Numbered key version rows' := by
  cases hchange with
  | same => exact h
  | added r _ hversion hfree =>
    exact h.concat hversion fun r' hr' hkey => hversion ▸ hfree r' hr' hkey
  | edited f hkey hversion _ => exact h.map hkey hversion
  | hidden p f hkey hversion _ =>
    refine h.map (fun r => ?_) (fun r => ?_)
    · split
      · exact hkey r
      · rfl
    · split
      · exact hversion r
      · rfl

omit [DecidableEq κ] in
/-- The last version of a key stays visible where every last version that the change
    touches does. -/
theorem LastVisible.map {rows : List α} {k : κ} (h : LastVisible key version visible rows k)
    {f : α → α} (hkey : ∀ r, key (f r) = key r) (hversion : ∀ r, version (f r) = version r)
    (hvisible : ∀ r ∈ rows, (∀ r' ∈ rows, key r' = key r → version r' ≤ version r) →
      visible r = true → visible (f r) = true) :
    LastVisible key version visible (rows.map f) k := by
  intro r hr hrk hlast
  obtain ⟨r₀, hr₀, rfl⟩ := List.mem_map.mp hr
  rw [hkey] at hrk
  have hlast₀ : ∀ r' ∈ rows, key r' = k → version r' ≤ version r₀ := by
    intro r' hr' hkey'
    have hle := hlast (f r') (List.mem_map_of_mem hr') (by rw [hkey, hkey'])
    rwa [hversion, hversion] at hle
  exact hvisible r₀ hr₀ (hrk ▸ hlast₀) (h r₀ hr₀ hrk hlast₀)

/-- A new version is the last of its key, and visible. -/
theorem LastVisible.concat {rows : List α} (hnumbered : Numbered key version rows) {k : κ}
    (h : LastVisible key version visible rows k) {r : α} (hvisible : visible r = true)
    (hversion : version r = next key version visible rows (key r))
    (hfree : ∀ r' ∈ rows, key r' = key r → version r' ≠ version r) :
    LastVisible key version visible (rows ++ [r]) k := by
  intro r₀ hr₀ hkey₀ hlast
  rcases List.mem_append.mp hr₀ with hr₀ | hr₀
  · by_cases hk : key r = k
    · -- an earlier row of the key is numbered below the new one
      have hnext := hnumbered.next_eq fun r' hr' hkey => hversion ▸ hfree r' hr' hkey
      have hle := (hnumbered.mem_iff.mp ⟨r₀, hr₀, hkey₀, rfl⟩).2
      have habove := hlast r (by simp) hk
      rw [hk] at hnext hversion
      omega
    · exact h r₀ hr₀ hkey₀ fun r' hr' => hlast r' (List.mem_append_left _ hr')
  · rw [List.mem_singleton.mp hr₀]
    exact hvisible

/-- After a change the last versions are still visible exactly when it hid none of them. -/
theorem Change.lastVisible_iff {rows rows' : List α} {p : α → Bool}
    (hchange : Change key version visible rows p rows') (hnumbered : Numbered key version rows)
    (h : ∀ k, LastVisible key version visible rows k) :
    (∀ k, LastVisible key version visible rows' k) ↔ SparesLast key version p rows := by
  have hnone : SparesLast key version (fun _ => false) rows := fun r _ hp => by cases hp
  cases hchange with
  | same => exact iff_of_true h hnone
  | added r hvisible hversion hfree =>
    exact iff_of_true (fun k => (h k).concat hnumbered hvisible hversion hfree) hnone
  | edited f hkey hversion hvisible =>
    exact iff_of_true
      (fun k => (h k).map hkey hversion fun r _ _ hr => (hvisible r).trans hr) hnone
  | hidden p f hkey hversion hvisible =>
    have hkey' (r : α) : key (if p r then f r else r) = key r := by
      split
      · exact hkey r
      · rfl
    have hversion' (r : α) : version (if p r then f r else r) = version r := by
      split
      · exact hversion r
      · rfl
    constructor
    · intro hlast r hr hp
      by_contra hnot
      simp only [not_exists, not_and, Nat.not_lt] at hnot
      -- hidden, the last version of its key is still the last
      have hshown := hlast (key r) (f r) (List.mem_map.mpr ⟨r, hr, if_pos hp⟩) (hkey r)
      rw [hvisible] at hshown
      refine absurd (hshown fun r' hr' hr'k => ?_) Bool.false_ne_true
      obtain ⟨r₀, hr₀, rfl⟩ := List.mem_map.mp hr'
      rw [hkey'] at hr'k
      rw [hversion', hversion]
      exact hnot r₀ hr₀ hr'k
    · intro hspares k
      refine (h k).map hkey' hversion' fun r hr hlast hr' => ?_
      split
      · rename_i hp
        obtain ⟨r', hr'', hr'k, hlt⟩ := hspares r hr hp
        exact absurd (hlast r' hr'' hr'k) (Nat.not_le_of_lt hlt)
      · exact hr'

end Versions
