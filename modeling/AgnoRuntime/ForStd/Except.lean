import Mathlib.Logic.Basic
import Mathlib.Data.List.Forall2
import Mathlib.Data.List.ReduceOption

/-!
# Inverting `Except` computations

What a successful run of a chain of fallible steps says about each step:
sequencing (`bind_eq_ok`), guards (`raiseUnless_eq_ok`) and traversals
(`forall₂_of_mapM_eq_ok`).
-/

namespace Except

variable {ε α β : Type}

/-- A sequence succeeds exactly when each step succeeds in turn. -/
@[simp] theorem bind_eq_ok {x : Except ε α} {f : α → Except ε β} {b : β} :
    (x >>= f) = .ok b ↔ ∃ a, x = .ok a ∧ f a = .ok b := by
  cases x with
  | error e => simp [bind, Except.bind]
  | ok a => simp [bind, Except.bind]

/-- `pure` succeeds with its value. -/
@[simp] theorem pure_eq_ok {a b : α} : (pure a : Except ε α) = .ok b ↔ a = b := by
  simp [pure, Except.pure]

/-- What is made of a result is there exactly if the result is. -/
theorem map_eq_ok {x : Except ε α} {f : α → β} {b : β} :
    f <$> x = .ok b ↔ ∃ a, x = .ok a ∧ f a = b := by
  cases x with
  | error e => simp [Functor.map, Except.map]
  | ok a => simp [Functor.map, Except.map]

/-- A sequence fails where a step fails, after the steps before it succeeded. -/
theorem bind_eq_error {x : Except ε α} {f : α → Except ε β} {e : ε} :
    (x >>= f) = .error e ↔ x = .error e ∨ ∃ a, x = .ok a ∧ f a = .error e := by
  cases x with
  | error e' => simp [bind, Except.bind]
  | ok a => simp [bind, Except.bind]

/-- `pure` does not fail. -/
theorem pure_ne_error {a : α} {e : ε} : (pure a : Except ε α) ≠ .error e := by
  simp [pure, Except.pure]

/-- Raise an error unless the condition holds. -/
def raiseUnless (c : Bool) (e : ε) : Except ε Unit :=
  if c then .ok () else .error e

/-- A guard passes exactly when its condition holds. -/
@[simp] theorem raiseUnless_eq_ok {c : Bool} {e : ε} {u : Unit} :
    raiseUnless c e = .ok u ↔ c = true := by
  cases c <;> simp [raiseUnless]

/-- A guard fails, with its error, exactly when its condition does not hold. -/
theorem raiseUnless_eq_error {c : Bool} {e e' : ε} :
    raiseUnless c e = .error e' ↔ c = false ∧ e = e' := by
  cases c <;> simp [raiseUnless]

/-- A passed guard leaves the rest of the sequence. -/
@[simp] theorem raiseUnless_true_bind {e : ε} {f : Unit → Except ε β} :
    (raiseUnless true e >>= f) = f () := rfl

/-- A failed guard is the whole outcome. -/
@[simp] theorem raiseUnless_false_bind {e : ε} {f : Unit → Except ε β} :
    (raiseUnless false e >>= f) = .error e := rfl

/-- The elements of a successful traversal are the results on the elements, in order. -/
theorem forall₂_of_mapM_eq_ok {f : α → Except ε β} {as : List α} {bs : List β}
    (h : as.mapM f = .ok bs) : List.Forall₂ (fun a b => f a = .ok b) as bs := by
  induction as generalizing bs with
  | nil =>
    rw [List.mapM_nil, pure_eq_ok] at h
    subst h
    exact .nil
  | cons a as ih =>
    simp only [List.mapM_cons, bind_eq_ok, pure_eq_ok] at h
    obtain ⟨b, hb, bs', hbs', rfl⟩ := h
    exact .cons hb (ih hbs')

/-- A traversal that succeeds on each element maps it. -/
theorem mapM_eq_ok_map {f : α → Except ε β} {g : α → β} {as : List α}
    (h : ∀ a ∈ as, f a = .ok (g a)) : as.mapM f = .ok (as.map g) := by
  induction as with
  | nil => rfl
  | cons a as ih =>
    simp only [List.mapM_cons, bind_eq_ok, pure_eq_ok]
    exact ⟨g a, h a List.mem_cons_self, as.map g,
      ih fun b hb => h b (List.mem_cons_of_mem a hb), rfl⟩

/-- A traversal succeeds when each element does. -/
theorem exists_mapM_eq_ok {f : α → Except ε β} {as : List α} (h : ∀ a ∈ as, ∃ b, f a = .ok b) :
    ∃ bs, as.mapM f = .ok bs := by
  induction as with
  | nil => exact ⟨[], rfl⟩
  | cons a as ih =>
    obtain ⟨b, hb⟩ := h a List.mem_cons_self
    obtain ⟨bs, hbs⟩ := ih fun a' ha' => h a' (List.mem_cons_of_mem a ha')
    refine ⟨b :: bs, ?_⟩
    simp only [List.mapM_cons, bind_eq_ok, pure_eq_ok]
    exact ⟨b, hb, bs, hbs, rfl⟩

/-- A traversal fails at the first element that fails. -/
theorem mapM_eq_error_iff {f : α → Except ε β} {as : List α} {e : ε} :
    as.mapM f = .error e ↔ ∃ before a after, as = before ++ a :: after ∧
      (∀ a' ∈ before, ∃ b, f a' = .ok b) ∧ f a = .error e := by
  induction as with
  | nil => simp [pure, Except.pure]
  | cons a as ih =>
    simp only [List.mapM_cons, bind_eq_error, pure_ne_error, and_false, exists_false, or_false]
    constructor
    -- It fails at the first element, or at a later one.
    · rintro (ha | ⟨b, hb, hrest⟩)
      · exact ⟨[], a, as, rfl, by simp, ha⟩
      · obtain ⟨before, a', after, rfl, hbefore, ha'⟩ := ih.mp hrest
        exact ⟨a :: before, a', after, rfl, List.forall_mem_cons.mpr ⟨⟨b, hb⟩, hbefore⟩, ha'⟩
    · rintro ⟨before, a', after, happend, hbefore, ha'⟩
      -- The elements before it decide which.
      cases before with
      | nil =>
        obtain ⟨rfl, rfl⟩ := List.cons.inj happend
        exact .inl ha'
      | cons b before =>
        obtain ⟨rfl, rfl⟩ := List.cons.inj happend
        obtain ⟨hb, hbefore⟩ := List.forall_mem_cons.mp hbefore
        obtain ⟨c, hc⟩ := hb
        exact .inr ⟨c, hc, ih.mpr ⟨before, a', after, rfl, hbefore, ha'⟩⟩

/-- Each element of a successful traversal gave one of the results. -/
theorem exists_of_mapM_mem {f : α → Except ε β} {as : List α} {bs : List β} {a : α}
    (h : as.mapM f = .ok bs) (ha : a ∈ as) : ∃ b ∈ bs, f a = .ok b := by
  have hall := forall₂_of_mapM_eq_ok h
  clear h
  induction hall with
  | nil => cases ha
  | cons hhead _ ih =>
    rcases List.mem_cons.mp ha with rfl | ha
    · exact ⟨_, List.mem_cons_self, hhead⟩
    · obtain ⟨b, hb, hf⟩ := ih ha
      exact ⟨b, List.mem_cons_of_mem _ hb, hf⟩

/-- Each result of a successful traversal comes from an element. -/
theorem exists_of_mem_mapM {f : α → Except ε β} {as : List α} {bs : List β} {b : β}
    (h : as.mapM f = .ok bs) (hb : b ∈ bs) : ∃ a ∈ as, f a = .ok b := by
  have hall := forall₂_of_mapM_eq_ok h
  clear h
  induction hall with
  | nil => cases hb
  | cons hhead _ ih =>
    rcases List.mem_cons.mp hb with rfl | hb
    · exact ⟨_, List.mem_cons_self, hhead⟩
    · obtain ⟨a, ha, hf⟩ := ih hb
      exact ⟨a, List.mem_cons_of_mem _ ha, hf⟩

/-- The results of a successful traversal are empty when each of them is. -/
theorem flatten_eq_nil_of_mapM {f : α → Except ε (List β)} {as : List α} {bs : List (List β)}
    (h : as.mapM f = .ok bs) : bs.flatten = [] ↔ ∀ a ∈ as, f a = .ok [] := by
  rw [List.flatten_eq_nil_iff]
  constructor
  · intro hnil a ha
    obtain ⟨b, hb, hf⟩ := exists_of_mapM_mem h ha
    rw [hf, hnil b hb]
  · intro hall b hb
    obtain ⟨a, ha, hf⟩ := exists_of_mem_mapM h hb
    exact Except.ok.inj (hf.symm.trans (hall a ha))

/-- Results that remember their elements give the elements back. -/
theorem map_of_mapM_eq_ok {f : α → Except ε β} {g : β → α} {as : List α} {bs : List β}
    (hg : ∀ a b, f a = .ok b → g b = a) (h : as.mapM f = .ok bs) : bs.map g = as := by
  have hall := forall₂_of_mapM_eq_ok h
  clear h
  induction hall with
  | nil => rfl
  | cons hhead _ ih => rw [List.map_cons, hg _ _ hhead, ih]

/-- What is kept of the results of a successful traversal is what is kept of the elements. -/
theorem filterMap_of_mapM_eq_ok {γ : Type} {f : α → Except ε β} {g : β → Option γ}
    {k : α → Option γ} {as : List α} {bs : List β} (hk : ∀ a b, f a = .ok b → k a = g b)
    (h : as.mapM f = .ok bs) : bs.filterMap g = as.filterMap k := by
  have hall := forall₂_of_mapM_eq_ok h
  clear h
  induction hall with
  | nil => rfl
  | cons hhead _ ih => rw [List.filterMap_cons, List.filterMap_cons, hk _ _ hhead, ih]

/-- A traversal that may skip elements makes of them exactly what it should, one each, if it makes
    that of every element. -/
theorem mapM_reduceOption_iff {γ : Type} {f : α → Except ε (Option β)} {g : β → γ} {k : α → γ}
    {as : List α} :
    (∃ bs, as.mapM f = .ok bs ∧ bs.reduceOption.map g = as.map k) ↔
      ∀ a ∈ as, ∃ b, f a = .ok (some b) ∧ g b = k a := by
  induction as with
  | nil => simp
  | cons a as ih =>
    rw [List.forall_mem_cons, ← ih]
    simp only [List.mapM_cons, bind_eq_ok, pure_eq_ok]
    constructor
    · intro h
      obtain ⟨-, ⟨o, ho, bs, hbs, rfl⟩, hmap⟩ := h
      cases o with
      | none =>
        -- one element is skipped, and the others do not make up for it
        have hle := List.reduceOption_length_le bs
        have hlength := (forall₂_of_mapM_eq_ok hbs).length_eq
        have hcount := congrArg List.length hmap
        rw [List.reduceOption_cons_of_none, List.length_map, List.length_map, List.length_cons]
          at hcount
        omega
      | some b =>
        rw [List.reduceOption_cons_of_some, List.map_cons, List.map_cons, List.cons.injEq] at hmap
        exact ⟨⟨b, ho, hmap.1⟩, bs, hbs, hmap.2⟩
    · intro h
      obtain ⟨⟨b, hb, hg⟩, bs, hbs, hmap⟩ := h
      refine ⟨some b :: bs, ⟨some b, hb, bs, hbs, rfl⟩, ?_⟩
      rw [List.reduceOption_cons_of_some, List.map_cons, List.map_cons, hg, hmap]

end Except
