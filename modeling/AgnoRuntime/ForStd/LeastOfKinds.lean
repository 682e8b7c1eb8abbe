import Mathlib.Data.List.Nodup
import Mathlib.Data.List.Perm.Basic
import Mathlib.Order.Bounds.Basic

/-!
# The least of each kind

Things have a kind and a key, and keys are ordered. A list chosen from another one
holds the least of each kind when each kind that occurs is chosen once, with a key that
is minimal among the things of that kind.

## Key results

- `LeastOfKinds.countP_kind`: each kind that occurs is chosen once, and no other kind
- `LeastOfKinds.isLeast`: a chosen key is the least of its kind
- `LeastOfKinds.perm_keys`: the chosen keys depend on what there is to choose from alone
-/

namespace List

variable {α κ β : Type} {kind : α → κ} {key : α → β} [LinearOrder β]
  {all all' chosen chosen' : List α}

/-- `chosen` has one thing of each kind that occurs in `all`, of the least key of that kind. -/
structure LeastOfKinds (kind : α → κ) (key : α → β) (all chosen : List α) : Prop where
  nodup : (chosen.map kind).Nodup
  mem : ∀ a ∈ chosen, a ∈ all
  covered : ∀ a ∈ all, ∃ b ∈ chosen, kind b = kind a ∧ key b ≤ key a

namespace LeastOfKinds

/-- Two chosen things of one kind are the same. -/
theorem eq_of_kind (h : LeastOfKinds kind key all chosen) {a b : α} (ha : a ∈ chosen)
    (hb : b ∈ chosen) (hkind : kind a = kind b) : a = b :=
  inj_on_of_nodup_map h.nodup ha hb hkind

/-- A kind is chosen once if it occurs, and not at all if it does not. -/
theorem countP_kind [DecidableEq κ] (h : LeastOfKinds kind key all chosen) (k : κ) :
    chosen.countP (fun a => kind a = k) = if ∃ a ∈ all, kind a = k then 1 else 0 := by
  have hcount : chosen.countP (fun a => kind a = k) = (chosen.map kind).count k := by
    rw [count, countP_map]
    exact countP_congr fun a _ => by simp
  rw [hcount]
  split
  · rename_i hoccurs
    obtain ⟨a, ha, hk⟩ := hoccurs
    obtain ⟨b, hb, hkind, -⟩ := h.covered a ha
    exact count_eq_one_of_mem h.nodup (mem_map.mpr ⟨b, hb, hkind.trans hk⟩)
  · rename_i habsent
    refine count_eq_zero.mpr fun hmem => habsent ?_
    obtain ⟨b, hb, hk⟩ := mem_map.mp hmem
    exact ⟨b, h.mem b hb, hk⟩

/-- The key of a chosen thing is the least one of its kind. -/
theorem isLeast (h : LeastOfKinds kind key all chosen) {b : α} (hb : b ∈ chosen) :
    IsLeast {k | ∃ a ∈ all, kind a = kind b ∧ key a = k} (key b) := by
  refine ⟨⟨b, h.mem b hb, rfl, rfl⟩, ?_⟩
  rintro k ⟨a, ha, hkind, rfl⟩
  -- What is chosen for the kind of `a` can only be `b`.
  obtain ⟨b', hb', hkind', hle⟩ := h.covered a ha
  have hsame : b' = b := h.eq_of_kind hb' hb (hkind'.trans hkind)
  rw [← hsame]
  exact hle

/-- Things of which as many can be chosen have chosen keys that are among each other. -/
private theorem mem_keys (h : LeastOfKinds kind key all chosen)
    (h' : LeastOfKinds kind key all' chosen') (hsame : ∀ a, a ∈ all ↔ a ∈ all') {a : α}
    (ha : a ∈ chosen) : (kind a, key a) ∈ chosen'.map fun b => (kind b, key b) := by
  obtain ⟨b, hb, hkind, hle⟩ := h'.covered a ((hsame a).mp (h.mem a ha))
  obtain ⟨a', ha', hkind', hle'⟩ := h.covered b ((hsame b).mpr (h'.mem b hb))
  have hback : a' = a := h.eq_of_kind ha' ha (hkind'.trans hkind)
  rw [hback] at hle'
  have hkey : key b = key a := le_antisymm hle hle'
  exact mem_map.mpr ⟨b, hb, by rw [hkind, hkey]⟩

/-- The kinds chosen and their keys depend on what there is to choose from, not on its order. -/
theorem perm_keys (h : LeastOfKinds kind key all chosen)
    (h' : LeastOfKinds kind key all' chosen') (hsame : ∀ a, a ∈ all ↔ a ∈ all') :
    (chosen.map fun a => (kind a, key a)).Perm (chosen'.map fun a => (kind a, key a)) := by
  have hnodup {l : List α} (hl : (l.map kind).Nodup) : (l.map fun a => (kind a, key a)).Nodup := by
    have hfst : (l.map fun a => (kind a, key a)).map Prod.fst = l.map kind := by
      rw [map_map]
      rfl
    exact Nodup.of_map Prod.fst (hfst ▸ hl)
  refine (perm_ext_iff_of_nodup (hnodup h.nodup) (hnodup h'.nodup)).mpr fun entry => ?_
  constructor
  · intro hentry
    obtain ⟨a, ha, rfl⟩ := mem_map.mp hentry
    exact h.mem_keys h' hsame ha
  · intro hentry
    obtain ⟨a, ha, rfl⟩ := mem_map.mp hentry
    exact h'.mem_keys h (fun a => (hsame a).symm) ha

end LeastOfKinds

end List
