import Mathlib.Data.List.Nodup
import Mathlib.Data.List.Sort

/-!
# What a stable sort gives

`StablySorted le l out`: `out` has the items of `l`, none before a smaller one, and of items
neither of which is smaller the one that is first in `l` comes first. There is only one such list,
and insertion sort finds it (`stablySorted_iff`).
-/

namespace StableSort

variable {α : Type} {le : α → α → Bool} {l out : List α}

/-- The relation that a comparison decides. -/
abbrev rel (le : α → α → Bool) : α → α → Prop := fun a b => le a b = true

/-- The positions in `l` say which of two items comes first where the order does not. -/
def StablySorted (le : α → α → Bool) (l out : List α) : Prop :=
  ∃ order : List (α × ℕ), order.Perm l.zipIdx ∧ order.Pairwise (rel (List.zipIdxLE le)) ∧
    out = order.map Prod.fst

/-! ## Uniqueness -/

/-- Two items of a list at the same position are the same. -/
theorem eq_of_position_eq {a b : α × ℕ} (ha : a ∈ l.zipIdx) (hb : b ∈ l.zipIdx) (h : a.2 = b.2) :
    a = b := by
  have hpositions : (l.zipIdx.map Prod.snd).Nodup := by
    rw [List.zipIdx_map_snd]
    exact List.nodup_range'
  exact List.inj_on_of_nodup_map hpositions ha hb h

/-- Where each of two items may come before the other, they are at the same position. -/
theorem position_eq {a b : α × ℕ} (hab : List.zipIdxLE le a b = true)
    (hba : List.zipIdxLE le b a = true) : a.2 = b.2 := by
  rw [List.zipIdxLE] at hab hba
  grind

theorem StablySorted.unique {out' : List α} (h : StablySorted le l out)
    (h' : StablySorted le l out') : out = out' := by
  obtain ⟨order, hperm, hpairs, rfl⟩ := h
  obtain ⟨order', hperm', hpairs', rfl⟩ := h'
  have hsame : order = order' := by
    refine List.Perm.eq_of_pairwise ?_ hpairs hpairs' (hperm.trans hperm'.symm)
    intro a b ha hb hab hba
    exact eq_of_position_eq (hperm.mem_iff.mp ha) (hperm'.mem_iff.mp hb) (position_eq hab hba)
  rw [hsame]

/-! ## Insertion sort -/

/-- An item that comes before all others in the list is inserted where it is without positions. -/
theorem map_fst_orderedInsert {a : α × ℕ} {order : List (α × ℕ)} (h : ∀ b ∈ order, a.2 ≤ b.2) :
    (order.orderedInsert (rel (List.zipIdxLE le)) a).map Prod.fst =
      (order.map Prod.fst).orderedInsert (rel le) a.1 := by
  induction order with
  | nil => rfl
  | cons b order ih =>
    have hb := h b List.mem_cons_self
    have hcompare : List.zipIdxLE le a b = le a.1 b.1 := by
      rw [List.zipIdxLE]
      grind
    have hrest := ih fun b' hb' => h b' (List.mem_cons_of_mem _ hb')
    by_cases hle : le a.1 b.1 = true
    · simp [List.orderedInsert_cons, rel, hcompare, hle]
    · simpa [List.orderedInsert_cons, rel, hcompare, hle] using hrest

/-- Sorted with their positions, the items are sorted. -/
theorem map_fst_insertionSort (n : ℕ) :
    ((l.zipIdx n).insertionSort (rel (List.zipIdxLE le))).map Prod.fst =
      l.insertionSort (rel le) := by
  induction l generalizing n with
  | nil => rfl
  | cons a l ih =>
    rw [List.zipIdx_cons, List.insertionSort_cons, map_fst_orderedInsert, ih,
      List.insertionSort_cons]
    intro b hb
    have hposition := (List.mem_zipIdx ((List.mem_insertionSort _).mp hb)).1
    omega

/-- There is one such list, the one that insertion sort gives. -/
theorem stablySorted_iff (htrans : ∀ a b c, le a b = true → le b c = true → le a c = true)
    (htotal : ∀ a b, (le a b || le b a) = true) :
    StablySorted le l out ↔ out = l.insertionSort (rel le) := by
  have : IsTrans (α × ℕ) (rel (List.zipIdxLE le)) := ⟨List.zipIdxLE_trans htrans⟩
  have : Std.Total (rel (List.zipIdxLE le)) :=
    ⟨fun a b => by simpa using List.zipIdxLE_total htotal a b⟩
  have hsorted : StablySorted le l (l.insertionSort (rel le)) :=
    ⟨_, List.perm_insertionSort _ _, List.pairwise_insertionSort _ _,
      (map_fst_insertionSort 0).symm⟩
  constructor
  · exact fun h => h.unique hsorted
  · rintro rfl
    exact hsorted

end StableSort
