import Mathlib.Data.List.Nodup
import Mathlib.Data.List.Basic

/-!
# Polling with a set of seen keys

A reader polls a growing table and keeps the keys it has seen: of the rows a
poll returns it takes those that are new (`takeNew`). What was taken over all
polls never repeats a key (`nodup_append_takeNew`).
-/

namespace Polling

variable {α κ : Type} [DecidableEq κ] (key : α → κ)

/-- The rows whose key has not been seen, each key once, in order. -/
def takeNew : List κ → List α → List α
  | _, [] => []
  | seen, r :: rows =>
    if key r ∈ seen then takeNew seen rows else r :: takeNew (key r :: seen) rows

variable {key}

/-- A row taken is one of the rows, and its key is new. -/
theorem mem_takeNew {seen : List κ} {rows : List α} {r : α} (h : r ∈ takeNew key seen rows) :
    r ∈ rows ∧ key r ∉ seen := by
  induction rows generalizing seen with
  | nil => cases h
  | cons r' rows ih =>
    rw [takeNew] at h
    split at h
    · exact ⟨List.mem_cons_of_mem _ (ih h).1, (ih h).2⟩
    · rename_i hnew
      rcases List.mem_cons.mp h with rfl | h
      · exact ⟨List.mem_cons_self, hnew⟩
      · obtain ⟨hmem, hseen⟩ := ih h
        exact ⟨List.mem_cons_of_mem _ hmem, fun hkey => hseen (List.mem_cons_of_mem _ hkey)⟩

/-- No key is taken twice. -/
theorem nodup_takeNew (seen : List κ) (rows : List α) :
    ((takeNew key seen rows).map key).Nodup := by
  induction rows generalizing seen with
  | nil => exact List.nodup_nil
  | cons r rows ih =>
    rw [takeNew]
    split
    · exact ih seen
    · rw [List.map_cons, List.nodup_cons]
      refine ⟨fun hmem => ?_, ih (key r :: seen)⟩
      obtain ⟨r', hr', hkey⟩ := List.mem_map.mp hmem
      exact (mem_takeNew hr').2 (hkey ▸ List.mem_cons_self)

/-- Of rows with distinct keys those with a new key are taken. -/
theorem takeNew_eq_filter (seen : List κ) {rows : List α} (h : (rows.map key).Nodup) :
    takeNew key seen rows = rows.filter fun r => key r ∉ seen := by
  induction rows generalizing seen with
  | nil => rfl
  | cons r rows ih =>
    rw [List.map_cons, List.nodup_cons] at h
    rw [takeNew, List.filter_cons, ih seen h.2]
    by_cases hseen : key r ∈ seen
    · simp [hseen]
    · rw [ih (key r :: seen) h.2]
      simp only [hseen, if_false, not_false_eq_true, decide_true, if_true, List.cons.injEq, true_and]
      refine List.filter_congr fun r' hr' => ?_
      have hne : key r' ≠ key r := fun hkey => h.1 (hkey ▸ List.mem_map_of_mem hr')
      simp [hne]

/-- What was taken before and what a poll takes repeat no key. -/
theorem nodup_append_takeNew {taken rows : List α} (h : (taken.map key).Nodup) :
    ((taken ++ takeNew key (taken.map key) rows).map key).Nodup := by
  rw [List.map_append, List.nodup_append]
  refine ⟨h, nodup_takeNew _ _, fun k hk k' hk' heq => ?_⟩
  obtain ⟨r, hr, rfl⟩ := List.mem_map.mp hk'
  exact (mem_takeNew hr).2 (heq ▸ hk)

end Polling
