import Mathlib.Data.List.Basic
import Mathlib.Data.List.Nodup
import Mathlib.Order.Lattice

/-!
# Reading page after page

A client asks for the page at a cursor, and for the next one as long as the
response says that there is one (`Reads`). When the pages are consecutive slices
of one list, the client receives the rest of that list (`Slices.exists_reads`).
Rows with different keys are ordered by them into one list, whatever order they
come in (`mergeSort_eq_of_perm`).
-/

namespace Pages

variable {κ ρ α : Type}

/-- The responses a client receives that starts at a cursor and goes on while there is a next
    page. -/
inductive Reads (respond : κ → ρ) (next : κ → κ) (hasNext : ρ → Bool) : κ → List ρ → Prop
  | last {k : κ} (h : hasNext (respond k) = false) : Reads respond next hasNext k [respond k]
  | more {k : κ} {responses : List ρ} (h : hasNext (respond k) = true)
      (rest : Reads respond next hasNext (next k) responses) :
      Reads respond next hasNext k (respond k :: responses)

section Reads

variable {respond : κ → ρ} {next : κ → κ} {hasNext : ρ → Bool} {k : κ} {responses : List ρ}

/-- The client receives the page it starts at. -/
theorem Reads.eq_cons (h : Reads respond next hasNext k responses) :
    ∃ rest, responses = respond k :: rest := by
  cases h with
  | last _ => exact ⟨[], rfl⟩
  | more _ rest => exact ⟨_, rfl⟩

/-- With a next page, it receives that one too. -/
theorem Reads.eq_cons_cons (h : Reads respond next hasNext k responses)
    (hmore : hasNext (respond k) = true) :
    ∃ rest, responses = respond k :: respond (next k) :: rest := by
  cases h with
  | last hlast => cases hlast.symm.trans hmore
  | more _ h =>
    obtain ⟨rest, hrest⟩ := h.eq_cons
    exact ⟨rest, congrArg _ hrest⟩

/-- What holds of every page holds of every response. -/
theorem Reads.forall_mem {P : ρ → Prop} (h : Reads respond next hasNext k responses)
    (hP : ∀ k, P (respond k)) : ∀ r ∈ responses, P r := by
  induction h with
  | last _ =>
    intro r hr
    rw [List.mem_singleton.mp hr]
    exact hP _
  | more _ _ ih =>
    intro r hr
    rcases List.mem_cons.mp hr with rfl | hr
    · exact hP _
    · exact ih r hr

end Reads

/-- The pages are consecutive slices of `rows`, and there is a next one as long as rows are
    left. -/
structure Slices (respond : κ → ρ) (next : κ → κ) (hasNext : ρ → Bool) (items : ρ → List α)
    (offset limit : κ → Nat) (rows : List α) : Prop where
  items_eq : ∀ k, items (respond k) = (rows.drop (offset k)).take (limit k)
  hasNext_eq : ∀ k, hasNext (respond k) = decide (offset k + limit k < rows.length)
  offset_next : ∀ k, offset (next k) = offset k + limit k
  limit_pos : ∀ k, 0 < limit k

/-- A client that reads slices comes to an end, with all rows from where it started. -/
theorem Slices.exists_reads {respond : κ → ρ} {next : κ → κ} {hasNext : ρ → Bool}
    {items : ρ → List α} {offset limit : κ → Nat} {rows : List α}
    (h : Slices respond next hasNext items offset limit rows) (k : κ) :
    ∃ responses, Reads respond next hasNext k responses ∧
      responses.flatMap items = rows.drop (offset k) := by
  -- every page that is not the last one leaves fewer rows
  induction hleft : rows.length - offset k using Nat.strongRecOn generalizing k with
  | ind n ih =>
    by_cases hmore : offset k + limit k < rows.length
    · have hpos := h.limit_pos k
      have hnext := h.offset_next k
      obtain ⟨responses, hreads, hitems⟩ := ih _ (by omega) (next k) rfl
      refine ⟨_, .more ((h.hasNext_eq k).trans (decide_eq_true hmore)) hreads, ?_⟩
      rw [List.flatMap_cons, hitems, h.items_eq, hnext, ← List.drop_drop]
      exact List.take_append_drop (limit k) _
    · refine ⟨_, .last ((h.hasNext_eq k).trans (decide_eq_false hmore)), ?_⟩
      rw [List.flatMap_singleton, h.items_eq]
      refine List.take_of_length_le ?_
      rw [List.length_drop]
      omega

/-- Rows with different keys are ordered by key in one way only. -/
theorem mergeSort_eq_of_perm {β : Type} [LinearOrder β] {key : α → β} {xs ys : List α}
    (hperm : xs.Perm ys) (hkeys : (ys.map key).Nodup) :
    xs.mergeSort (fun a b => key a ≤ key b) = ys.mergeSort (fun a b => key a ≤ key b) := by
  have hsorted : ∀ zs : List α, (zs.mergeSort fun a b => key a ≤ key b).Pairwise
      fun a b => decide (key a ≤ key b) = true := by
    refine fun zs => List.pairwise_mergeSort (fun a b c hab hbc => ?_) (fun a b => ?_) zs
    · exact decide_eq_true (le_trans (of_decide_eq_true hab) (of_decide_eq_true hbc))
    · rw [Bool.or_eq_true, decide_eq_true_eq, decide_eq_true_eq]
      exact le_total _ _
  have hsame := (List.mergeSort_perm xs fun a b => key a ≤ key b).trans
    (hperm.trans (List.mergeSort_perm ys fun a b => key a ≤ key b).symm)
  refine hsame.eq_of_pairwise (fun a b ha hb hab hba => ?_) (hsorted xs) (hsorted ys)
  -- two rows with one key are one row
  refine List.inj_on_of_nodup_map hkeys ?_ ?_
    (le_antisymm (of_decide_eq_true hab) (of_decide_eq_true hba))
  · exact hperm.mem_iff.mp (List.mem_mergeSort.mp ha)
  · exact List.mem_mergeSort.mp hb

end Pages
