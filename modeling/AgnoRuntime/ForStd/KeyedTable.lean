import Mathlib.Data.List.Nodup
import Mathlib.Data.List.Basic

/-!
# Keyed tables

A `KeyedTable` is a list of rows together with the fact that no two rows share
a primary key, so a row is found by its key or not at all: looking a key up
never sees two rows.

The operations are the ones a relational store offers on a primary key:
`find?` (select by key), `insert?` (insert, refused when the key is taken),
`insertFresh` (insert under a generated key) and `update` (change one row,
keeping its key). `updateWhere` and `deleteWhere` are the statements with a
condition. A `TableChange` is any of the first four where the rows have a code of
their own besides the key, which no two rows share and no update changes.
-/

/-- Rows with pairwise distinct keys. -/
structure KeyedTable {κ α : Type} (key : α → κ) where
  rows : List α
  keysNodup : (rows.map key).Nodup

namespace KeyedTable

section Keyed

variable {κ α : Type} {key : α → κ}

/-- The table without rows. -/
def empty : KeyedTable key := ⟨[], List.nodup_nil⟩

@[simp] theorem rows_empty : (empty : KeyedTable key).rows = [] := rfl

/-- The table with one row. -/
def singleton (r : α) : KeyedTable key := ⟨[r], List.nodup_singleton _⟩

@[simp] theorem rows_singleton (r : α) : (singleton r : KeyedTable key).rows = [r] := rfl

/-- Two tables with the same rows are the same table. -/
@[ext] theorem ext {t t' : KeyedTable key} (h : t.rows = t'.rows) : t = t' := by
  cases t; cases t'; cases h; rfl

/-- A row is determined by its key. -/
theorem eq_of_key_eq (t : KeyedTable key) {r r' : α} (hr : r ∈ t.rows)
    (hr' : r' ∈ t.rows) (h : key r = key r') : r = r' :=
  List.inj_on_of_nodup_map t.keysNodup hr hr' h

variable [DecidableEq κ]

/-- The row with key `k`. -/
def find? (t : KeyedTable key) (k : κ) : Option α :=
  t.rows.find? (fun r => key r = k)

/-- A row that `find?` returns is in the table, under the key asked for. -/
theorem mem_of_find? {t : KeyedTable key} {k : κ} {r : α} (h : t.find? k = some r) :
    r ∈ t.rows ∧ key r = k := by
  refine ⟨List.mem_of_find?_eq_some h, ?_⟩
  simpa using List.find?_some h

/-- Every row is found under its own key. -/
theorem find?_of_mem {t : KeyedTable key} {r : α} (h : r ∈ t.rows) :
    t.find? (key r) = some r := by
  cases hf : t.find? (key r) with
  | none =>
    have hnone := List.find?_eq_none.mp hf r h
    simp at hnone
  | some r' =>
    obtain ⟨hmem, hkey⟩ := mem_of_find? hf
    rw [t.eq_of_key_eq hmem h hkey]

/-- `find?` fails exactly on the keys no row has. -/
theorem find?_eq_none_iff {t : KeyedTable key} {k : κ} :
    t.find? k = none ↔ ∀ r ∈ t.rows, key r ≠ k := by
  simp [find?, List.find?_eq_none]

/-- No row has the key. -/
def Lacks (t : KeyedTable key) (k : κ) : Prop := ∀ r ∈ t.rows, key r ≠ k

omit [DecidableEq κ] in
/-- What a larger table lacks, a smaller one does. -/
theorem Lacks.of_subset {t t' : KeyedTable key} {k : κ} (h : t'.Lacks k)
    (hsubset : ∀ r ∈ t.rows, r ∈ t'.rows) : t.Lacks k :=
  fun r hr => h r (hsubset r hr)

/-- Append a row whose key is free; `none` when the key is taken. -/
def insert? (t : KeyedTable key) (r : α) : Option (KeyedTable key) :=
  if h : key r ∈ t.rows.map key then none
  else some ⟨t.rows ++ [r], by
    rw [List.map_append, List.nodup_append]
    refine ⟨t.keysNodup, by simp, ?_⟩
    rintro k hk k' hk' rfl
    rw [List.map_cons, List.map_nil, List.mem_singleton] at hk'
    exact h (hk' ▸ hk)⟩

/-- What a successful insert says: the key was free, and the row comes last. -/
theorem rows_of_insert? {t t' : KeyedTable key} {r : α} (h : t.insert? r = some t') :
    (∀ r' ∈ t.rows, key r' ≠ key r) ∧ t'.rows = t.rows ++ [r] := by
  unfold insert? at h
  split at h
  · cases h
  · rename_i hfree
    cases h
    exact ⟨fun r' hr' hk => hfree (hk ▸ List.mem_map_of_mem hr'), rfl⟩

/-- Change the row with key `k` by `f`, which keeps keys. -/
def update (t : KeyedTable key) (k : κ) (f : α → α) (hf : ∀ r, key (f r) = key r) :
    KeyedTable key :=
  ⟨t.rows.map (fun r => if key r = k then f r else r), by
    have hkeys : (t.rows.map (fun r => if key r = k then f r else r)).map key = t.rows.map key := by
      rw [List.map_map]
      refine List.map_congr_left fun r _ => ?_
      simp only [Function.comp_apply]
      split
      · exact hf r
      · rfl
    rw [hkeys]
    exact t.keysNodup⟩

/-- A row of the updated table is the changed row or an untouched one. -/
theorem mem_rows_update {t : KeyedTable key} {k : κ} {f : α → α}
    {hf : ∀ r, key (f r) = key r} {r : α} :
    r ∈ (t.update k f hf).rows ↔
      ∃ r₀ ∈ t.rows, r = if key r₀ = k then f r₀ else r₀ := by
  simp only [update, List.mem_map, eq_comm]

/-- Rows under other keys survive an update. -/
theorem mem_update_of_lacks {t base : KeyedTable key} {k : κ} (h : base.Lacks k) (f : α → α)
    (hf : ∀ r, key (f r) = key r) (hsubset : ∀ r ∈ base.rows, r ∈ t.rows) :
    ∀ r ∈ base.rows, r ∈ (t.update k f hf).rows :=
  fun r hr => mem_rows_update.mpr ⟨r, hsubset r hr, (if_neg (h r hr)).symm⟩

/-- Among some of the rows, the one that comes last is updated in place. -/
theorem rows_filter_update_concat {t : KeyedTable key} {p : α → Bool} {before : List α} {r : α}
    (h : t.rows.filter p = before ++ [r]) (f : α → α) (hf : ∀ r, key (f r) = key r)
    (hp : ∀ r, p (f r) = p r) :
    (t.update (key r) f hf).rows.filter p = before ++ [f r] := by
  have hnodup : ((before ++ [r]).map key).Nodup := by
    rw [← h]
    exact t.keysNodup.sublist (List.filter_sublist.map key)
  rw [List.map_append, List.nodup_append] at hnodup
  have hbefore : before.map (fun r' => if key r' = key r then f r' else r') = before := by
    conv_rhs => rw [← List.map_id before]
    refine List.map_congr_left fun r' hr' => ?_
    rw [if_neg (hnodup.2.2 _ (List.mem_map_of_mem hr') _ (by simp))]
    rfl
  have hkept : p ∘ (fun r' => if key r' = key r then f r' else r') = p := by
    funext r'
    rw [Function.comp_apply]
    split
    · exact hp r'
    · rfl
  show (t.rows.map (fun r' => if key r' = key r then f r' else r')).filter p = before ++ [f r]
  rw [List.filter_map, hkept, h, List.map_append, hbefore, List.map_singleton, if_pos rfl]

/-- The row that comes last is updated in place. -/
theorem rows_update_concat {t : KeyedTable key} {before : List α} {r : α}
    (h : t.rows = before ++ [r]) (f : α → α) (hf : ∀ r, key (f r) = key r) :
    (t.update (key r) f hf).rows = before ++ [f r] := by
  have hall (rows : List α) : rows.filter (fun _ => true) = rows :=
    List.filter_eq_self.mpr fun _ _ => rfl
  have hfilter := rows_filter_update_concat ((hall t.rows).trans h) f hf fun _ => rfl
  rwa [hall] at hfilter

/-- Looking a key up after an update. -/
theorem find?_update (t : KeyedTable key) (k k' : κ) (f : α → α)
    (hf : ∀ r, key (f r) = key r) :
    (t.update k f hf).find? k' =
      if k' = k then (t.find? k').map f else t.find? k' := by
  obtain ⟨rows, hnodup⟩ := t
  simp only [find?, update]
  clear hnodup
  induction rows with
  | nil => simp
  | cons r rows ih =>
    have hkey : key (if key r = k then f r else r) = key r := by
      split
      · exact hf r
      · rfl
    rw [List.map_cons, List.find?_cons, List.find?_cons, hkey]
    by_cases hr : key r = k'
    · subst hr
      simp only [decide_true]
      split <;> rfl
    · simp only [hr, decide_false]
      exact ih

end Keyed

/-! ## Changes that keep a code unique -/

section Change

variable {κ α β : Type} {key : α → κ}

/-- A change of the table: nothing, a row with a new code, or an edit of the rows that keeps
    keys and codes. -/
inductive TableChange (code : α → β) (t : KeyedTable key) : KeyedTable key → Prop where
  | same : TableChange code t t
  | inserted (t' : KeyedTable key) (r : α) (hrows : t'.rows = t.rows ++ [r])
      (hnew : ∀ r' ∈ t.rows, code r' ≠ code r) : TableChange code t t'
  | edited (t' : KeyedTable key) (f : α → α) (hrows : t'.rows = t.rows.map f)
      (hkey : ∀ r, key (f r) = key r) (hcode : ∀ r, code (f r) = code r) : TableChange code t t'

namespace TableChange

variable {code : α → β} {t t' : KeyedTable key}

/-- An update that keeps codes. -/
theorem update [DecidableEq κ] (t : KeyedTable key) (k : κ) (f : α → α)
    (hf : ∀ r, key (f r) = key r) (hcode : ∀ r, code (f r) = code r) :
    TableChange code t (t.update k f hf) := by
  refine .edited _ (fun r => if key r = k then f r else r) rfl (fun r => ?_) fun r => ?_
  · split
    · exact hf r
    · rfl
  · split
    · exact hcode r
    · rfl

/-- Codes stay unique. -/
theorem codesNodup (h : TableChange code t t') (hunique : (t.rows.map code).Nodup) :
    (t'.rows.map code).Nodup := by
  cases h with
  | same => exact hunique
  | inserted t' r hrows hnew =>
    rw [hrows, List.map_append, List.nodup_append]
    refine ⟨hunique, by simp, ?_⟩
    intro c hc c' hc' hcc
    obtain ⟨r', hr', rfl⟩ := List.mem_map.mp hc
    rw [List.map_singleton, List.mem_singleton] at hc'
    exact hnew r' hr' (hcc.trans hc')
  | edited t' f hrows _ hcode =>
    have hcodes : t'.rows.map code = t.rows.map code := by
      rw [hrows, List.map_map]
      exact List.map_congr_left fun r _ => hcode r
    rwa [hcodes]

/-- No row is lost: it keeps its key and its code. -/
theorem exists_kept (h : TableChange code t t') {r : α} (hr : r ∈ t.rows) :
    ∃ r' ∈ t'.rows, key r' = key r ∧ code r' = code r := by
  cases h with
  | same => exact ⟨r, hr, rfl, rfl⟩
  | inserted t' new hrows _ =>
    refine ⟨r, ?_, rfl, rfl⟩
    rw [hrows]
    exact List.mem_append_left _ hr
  | edited t' f hrows hkey hcode =>
    refine ⟨f r, ?_, hkey r, hcode r⟩
    rw [hrows]
    exact List.mem_map_of_mem hr

end TableChange

end Change

section Where

variable {κ α : Type} {key : α → κ}

/-- Change every row the condition selects by `f`, which keeps keys. -/
def updateWhere (t : KeyedTable key) (p : α → Bool) (f : α → α) (hf : ∀ r, key (f r) = key r) :
    KeyedTable key :=
  ⟨t.rows.map (fun r => if p r then f r else r), by
    have hkeys : (t.rows.map (fun r => if p r then f r else r)).map key = t.rows.map key := by
      rw [List.map_map]
      refine List.map_congr_left fun r _ => ?_
      simp only [Function.comp_apply]
      split
      · exact hf r
      · rfl
    rw [hkeys]
    exact t.keysNodup⟩

@[simp] theorem rows_updateWhere (t : KeyedTable key) (p : α → Bool) (f : α → α)
    (hf : ∀ r, key (f r) = key r) :
    (t.updateWhere p f hf).rows = t.rows.map (fun r => if p r then f r else r) := rfl

/-- Remove every row the condition selects. -/
def deleteWhere (t : KeyedTable key) (p : α → Bool) : KeyedTable key :=
  ⟨t.rows.filter (fun r => !p r), t.keysNodup.sublist (List.filter_sublist.map key)⟩

@[simp] theorem rows_deleteWhere (t : KeyedTable key) (p : α → Bool) :
    (t.deleteWhere p).rows = t.rows.filter (fun r => !p r) := rfl

/-- A query that selects no row of an update, before or after, does not see it. -/
theorem filter_updateWhere {t : KeyedTable key} {q p : α → Bool} {f : α → α}
    {hf : ∀ r, key (f r) = key r}
    (h : ∀ r ∈ t.rows, q r = true → p r = false ∧ p (f r) = false) :
    (t.updateWhere q f hf).rows.filter p = t.rows.filter p := by
  obtain ⟨rows, hnodup⟩ := t
  simp only [updateWhere] at h ⊢
  clear hnodup
  induction rows with
  | nil => rfl
  | cons r rows ih =>
    rw [List.map_cons, List.filter_cons, List.filter_cons,
      ih fun r' hr' => h r' (List.mem_cons_of_mem r hr')]
    cases hq : q r with
    | false => rfl
    | true =>
      obtain ⟨hbefore, hafter⟩ := h r List.mem_cons_self hq
      simp [hbefore, hafter]

/-- A query that selects no removed row does not see the removal. -/
theorem filter_deleteWhere {t : KeyedTable key} {q p : α → Bool}
    (h : ∀ r, p r = true → q r = false) : (t.deleteWhere q).rows.filter p = t.rows.filter p := by
  rw [rows_deleteWhere, List.filter_filter]
  refine List.filter_congr fun r _ => ?_
  cases hp : p r with
  | false => rfl
  | true => simp [h r hp]

end Where

section Fresh

variable {α : Type} {key : α → Nat}

/-- A key no row has. -/
def freshKey (t : KeyedTable key) : Nat := (t.rows.map key).foldr max 0 + 1

private theorem le_foldr_max {k : Nat} {ks : List Nat} (h : k ∈ ks) : k ≤ ks.foldr max 0 := by
  induction ks with
  | nil => cases h
  | cons a ks ih =>
    rw [List.foldr_cons]
    rcases List.mem_cons.mp h with rfl | h
    · exact Nat.le_max_left _ _
    · exact Nat.le_trans (ih h) (Nat.le_max_right _ _)

/-- The fresh key is above every key in use. -/
theorem key_lt_freshKey {t : KeyedTable key} {r : α} (h : r ∈ t.rows) :
    key r < t.freshKey :=
  Nat.lt_succ_of_le (le_foldr_max (List.mem_map_of_mem h))

/-- No row has the fresh key. -/
theorem lacks_freshKey (t : KeyedTable key) : t.Lacks t.freshKey :=
  fun _ hr => Nat.ne_of_lt (key_lt_freshKey hr)

/-- Append the row `mk k` under a fresh key `k`. -/
def insertFresh (t : KeyedTable key) (mk : Nat → α) (hmk : ∀ k, key (mk k) = k) :
    KeyedTable key :=
  ⟨t.rows ++ [mk t.freshKey], by
    rw [List.map_append, List.nodup_append]
    refine ⟨t.keysNodup, by simp, ?_⟩
    rintro k hk k' hk' rfl
    obtain ⟨r, hr, rfl⟩ := List.mem_map.mp hk
    rw [List.map_cons, List.map_nil, List.mem_singleton, hmk] at hk'
    exact absurd hk' (Nat.ne_of_lt (key_lt_freshKey hr))⟩

@[simp] theorem rows_insertFresh (t : KeyedTable key) (mk : Nat → α)
    (hmk : ∀ k, key (mk k) = k) :
    (t.insertFresh mk hmk).rows = t.rows ++ [mk t.freshKey] := rfl

/-- A fresh row takes the place of no other. -/
theorem mem_insertFresh_of_mem {t : KeyedTable key} {r : α} (h : r ∈ t.rows) (mk : Nat → α)
    (hmk : ∀ k, key (mk k) = k) : r ∈ (t.insertFresh mk hmk).rows :=
  List.mem_append_left _ h

/-- A query that does not select the new row does not see it. -/
theorem filter_insertFresh {t : KeyedTable key} {mk : Nat → α} {hmk : ∀ k, key (mk k) = k}
    {p : α → Bool} (h : ∀ k, p (mk k) = false) :
    (t.insertFresh mk hmk).rows.filter p = t.rows.filter p := by
  simp [h]

/-- The new row is found under the fresh key. -/
theorem find?_insertFresh (t : KeyedTable key) (mk : Nat → α) (hmk : ∀ k, key (mk k) = k) :
    (t.insertFresh mk hmk).find? t.freshKey = some (mk t.freshKey) := by
  have hmem : mk t.freshKey ∈ (t.insertFresh mk hmk).rows := by simp
  rw [← find?_of_mem hmem, hmk]

end Fresh

end KeyedTable
