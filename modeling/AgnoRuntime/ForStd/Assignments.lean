import Mathlib.Logic.Function.Basic
import Mathlib.Data.List.Nodup

/-!
# Assignments that are skipped

A record, as the function from its attributes to their values, is assigned the items of a list one
after the other, but the values that `skip` holds of are left out. With each attribute at most
once in the list, the record ends up with the value of the item, unless that was skipped.

## Key results

- `assign_of_notMem`, `assign_of_mem`: the record after the assignments
- `assign_eq_iff`: when it has the values of the items
-/

namespace Assignments

variable {κ β : Type} [DecidableEq κ] {skip : β → Bool} {row : κ → β} {items : List (κ × β)}
  {key : κ} {value : β}

/-- One assignment. -/
def assignOne (skip : β → Bool) (row : κ → β) (item : κ × β) : κ → β :=
  if skip item.2 then row else Function.update row item.1 item.2

/-- All of them. -/
def assign (skip : β → Bool) (row : κ → β) (items : List (κ × β)) : κ → β :=
  items.foldl (assignOne skip) row

theorem assignOne_of_ne {item : κ × β} (h : item.1 ≠ key) : assignOne skip row item key = row key := by
  rw [assignOne]
  split
  · rfl
  · rw [Function.update_of_ne h.symm]

theorem assignOne_self (key : κ) (value : β) :
    assignOne skip row (key, value) key = if skip value then row key else value := by
  rw [assignOne]
  split
  · rfl
  · rw [Function.update_self]

/-- An attribute that is not among the items stays as it is. -/
theorem assign_of_notMem (h : key ∉ items.map Prod.fst) : assign skip row items key = row key := by
  induction items generalizing row with
  | nil => rfl
  | cons item items ih =>
    rw [List.map_cons, List.mem_cons, not_or] at h
    have hlater : assign skip row (item :: items) key = assign skip (assignOne skip row item) items key :=
      rfl
    rw [hlater, ih h.2, assignOne_of_ne (Ne.symm h.1)]

/-- An attribute that is among the items once has its value, unless that was skipped. -/
theorem assign_of_mem (hitems : (items.map Prod.fst).Nodup) (h : (key, value) ∈ items) :
    assign skip row items key = if skip value then row key else value := by
  induction items generalizing row with
  | nil => cases h
  | cons item items ih =>
    rw [List.map_cons, List.nodup_cons] at hitems
    have hlater : assign skip row (item :: items) key = assign skip (assignOne skip row item) items key :=
      rfl
    rw [hlater]
    rcases List.mem_cons.mp h with rfl | h
    · rw [assign_of_notMem hitems.1, assignOne_self]
    · have hne : item.1 ≠ key := by
        intro heq
        exact hitems.1 (heq ▸ List.mem_map_of_mem h)
      rw [ih hitems.2 h, assignOne_of_ne hne]

/-- The item has been assigned exactly if it was not skipped, or is the value before. -/
theorem assign_eq_iff (hitems : (items.map Prod.fst).Nodup) (h : (key, value) ∈ items) :
    assign skip row items key = value ↔ (skip value = true → row key = value) := by
  rw [assign_of_mem hitems h]
  split
  · rename_i hskip
    exact ⟨fun h _ => h, fun h => h hskip⟩
  · rename_i hskip
    exact iff_of_true rfl fun h => absurd h hskip

end Assignments
