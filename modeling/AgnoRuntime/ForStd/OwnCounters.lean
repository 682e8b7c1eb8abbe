import Mathlib.Data.List.Nodup
import Mathlib.Data.List.Sigma

/-!
# Items numbered by counters of their own

Items come one after the other, each under a key, and every key numbers its items by a counter
that starts at 0. What the counters of all keys hold together are the items, but the numbers do not
tell in which order the items came, unless they all came under one key: two keys both have
an item with number 0.

## Key results

- `merged_perm`: the items, each once
- `numbers_nodup_iff`: when no two items have the same number
- `merged_of_oneKey`: the numbers then give the order
-/

namespace OwnCounters

variable {κ α : Type} [DecidableEq κ] {items : List (κ × α)} {keys : List κ}

/-- The items that came under a key, numbered by its counter. -/
def numbered (items : List (κ × α)) (k : κ) : List (α × ℕ) :=
  ((items.filter (·.1 = k)).map (·.2)).zipIdx

/-- The items of all keys. -/
def merged (keys : List κ) (items : List (κ × α)) : List (α × ℕ) := keys.flatMap (numbered items)

/-- All items came under one key. -/
def OneKey (items : List (κ × α)) : Prop := ∀ p ∈ items, ∀ q ∈ items, p.1 = q.1

@[simp] theorem numbered_nil (k : κ) : numbered ([] : List (κ × α)) k = [] := rfl

/-- A key counts on with its own items, and not with others. -/
theorem numbered_concat (p : κ × α) (k : κ) :
    numbered (items ++ [p]) k = numbered items k ++
      if p.1 = k then [(p.2, (numbered items k).length)] else [] := by
  rw [numbered, List.filter_append, List.map_append, List.zipIdx_append, numbered,
    List.length_zipIdx]
  by_cases hkey : p.1 = k
  · rw [if_pos hkey, List.filter_cons_of_pos (by simpa using hkey), List.filter_nil, List.map_singleton,
      List.zipIdx_singleton, Nat.zero_add]
  · rw [if_neg hkey, List.filter_cons_of_neg (by simpa using hkey), List.filter_nil]
    rfl

/-- Without their numbers, the items of a key are its items. -/
theorem numbered_map_fst (k : κ) :
    (numbered items k).map Prod.fst = (items.filter (·.1 = k)).map (·.2) :=
  List.zipIdx_map_fst 0 _

/-- The keys hold the items, each once. -/
theorem merged_perm (hkeys : keys.Nodup) (hitems : ∀ p ∈ items, p.1 ∈ keys) :
    ((merged keys items).map Prod.fst).Perm (items.map (·.2)) := by
  rw [merged, List.map_flatMap]
  simp only [numbered_map_fst]
  induction keys generalizing items with
  | nil =>
    cases items with
    | nil => exact .nil
    | cons p items => exact absurd (hitems p List.mem_cons_self) List.not_mem_nil
  | cons k keys ih =>
    obtain ⟨hk, hkeys⟩ := List.nodup_cons.mp hkeys
    -- the items under the other keys are among those that are not under this one
    have hothers : ∀ k' ∈ keys, items.filter (·.1 = k') =
        (items.filter fun p => !decide (p.1 = k)).filter (·.1 = k') := by
      intro k' hk'
      rw [List.filter_filter]
      refine List.filter_congr fun p _ => ?_
      by_cases hkey : p.1 = k'
      · have hne : p.1 ≠ k := fun heq => hk (heq ▸ hkey ▸ hk')
        simp [hkey, hkey ▸ hne]
      · simp [hkey]
    have hrest : ∀ p ∈ items.filter fun p => !decide (p.1 = k), p.1 ∈ keys := by
      intro p hp
      obtain ⟨hp, hne⟩ := List.mem_filter.mp hp
      exact (List.mem_cons.mp (hitems p hp)).resolve_left (by simpa using hne)
    rw [List.flatMap_cons, List.flatMap_congr fun k' hk' => congrArg _ (hothers k' hk')]
    refine (List.Perm.append_left _ (ih hkeys hrest)).trans ?_
    rw [← List.map_append]
    exact (List.filter_append_perm (fun p : κ × α => p.1 = k) items).map _

/-- Under one key, the keys together hold the items in the order in which they came. -/
theorem merged_of_oneKey (hkeys : keys.Nodup) (hitems : ∀ p ∈ items, p.1 ∈ keys)
    (hone : OneKey items) : merged keys items = (items.map (·.2)).zipIdx := by
  cases items with
  | nil => exact List.flatMap_eq_nil_iff.mpr fun _ _ => rfl
  | cons p items =>
    -- All items have the key of the first one, and are numbered as they stand.
    have hthis : numbered (p :: items) p.1 = ((p :: items).map (·.2)).zipIdx := by
      rw [numbered, List.filter_eq_self.mpr fun q hq => decide_eq_true
        (hone q hq p List.mem_cons_self)]
    have hother : ∀ k ∈ keys, k ≠ p.1 → numbered (p :: items) k = [] := by
      intro k _ hk
      rw [numbered, List.filter_eq_nil_iff.mpr fun q hq => ?_]
      · rfl
      · rw [decide_eq_true_eq, hone q hq p List.mem_cons_self]
        exact hk.symm
    -- The other keys contribute nothing.
    obtain ⟨before, after, rfl⟩ := List.append_of_mem (hitems p List.mem_cons_self)
    rw [List.nodup_middle, List.nodup_cons, List.mem_append, not_or] at hkeys
    rw [merged, List.flatMap_append, List.flatMap_cons, hthis,
      List.flatMap_eq_nil_iff.mpr fun k hk => ?_, List.flatMap_eq_nil_iff.mpr fun k hk => ?_,
      List.append_nil, List.nil_append]
    · exact hother k (List.mem_append_right _ (List.mem_cons_of_mem _ hk))
        fun heq => hkeys.1.2 (heq ▸ hk)
    · exact hother k (List.mem_append_left _ hk) fun heq => hkeys.1.1 (heq ▸ hk)

/-- The first item under a key has the number 0. -/
theorem zero_mem_numbered {p : κ × α} (hp : p ∈ items) : 0 ∈ (numbered items p.1).map Prod.snd := by
  have hmem : p.2 ∈ (items.filter (·.1 = p.1)).map (·.2) :=
    List.mem_map_of_mem (List.mem_filter.mpr ⟨hp, decide_eq_true rfl⟩)
  rw [numbered, List.zipIdx_map_snd, List.mem_range'_1]
  have hlength := List.length_pos_of_mem hmem
  omega

/-- No two items have the same number exactly if they came under one key. -/
theorem numbers_nodup_iff (hkeys : keys.Nodup) (hitems : ∀ p ∈ items, p.1 ∈ keys) :
    ((merged keys items).map Prod.snd).Nodup ↔ OneKey items := by
  constructor
  · intro hnumbers p hp q hq
    by_contra hne
    rw [merged, List.map_flatMap, List.nodup_flatMap] at hnumbers
    have hsymm : Std.Symm (Function.onFun List.Disjoint
        fun k => (numbered items k).map Prod.snd) := ⟨fun _ _ h _ ha hb => h hb ha⟩
    exact hnumbers.2.forall (hitems p hp) (hitems q hq) hne (zero_mem_numbered hp)
      (zero_mem_numbered hq)
  · intro hone
    rw [merged_of_oneKey hkeys hitems hone]
    exact List.nodup_zipIdx_map_snd _

end OwnCounters
