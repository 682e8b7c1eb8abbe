import AgnoRuntime.ForStd.Separated
import Mathlib.Data.List.Infix

/-!
# Phrases in texts

A phrase occurs in a text where its characters stand in a row. Where texts are put together with a
separator that the phrase is free of, it occurs in the whole exactly if it occurs in a part
(`occurs_append`, `occurs_intercalate`), and blanks around a text make no difference to a phrase
that neither starts nor ends with one (`List.infix_trim_iff`).
-/

namespace List

variable {α : Type} {p l a b n : List α} {c y z : α} {f : α → Bool}

/-- A list without `c` stands in a row on one side of a `c`. -/
theorem infix_append_cons_iff (hc : c ∉ p) : p <:+: a ++ c :: b ↔ p <:+: a ∨ p <:+: b := by
  have hnil : ∀ q, c ∉ q → q <+: c :: b → q = [] := by
    intro q hq hprefix
    cases q with
    | nil => rfl
    | cons x q =>
      obtain ⟨rfl, -⟩ := cons_prefix_cons.mp hprefix
      exact absurd mem_cons_self hq
  constructor
  · intro h
    -- on the left, on the right, or over the place where `c` stands
    rcases infix_append_iff.mp h with h | h | ⟨l₁, l₂, rfl, h₁, h₂⟩
    · exact .inl h
    · rcases infix_cons_iff.mp h with h | h
      · rw [hnil p hc h]
        exact .inl nil_infix
      · exact .inr h
    · rw [mem_append, not_or] at hc
      rw [hnil l₂ hc.2 h₂, append_nil]
      exact .inl h₁.isInfix
  · intro h
    rcases h with h | h
    · exact infix_append_of_infix_left h
    · exact infix_append_of_infix_right (infix_cons h)

/-- Lists that are joined with a double `c`. -/
theorem infix_intercalate_iff (hc : c ∉ p) (hp : p ≠ []) {parts : List (List α)} :
    p <:+: [c, c].intercalate parts ↔ ∃ part ∈ parts, p <:+: part := by
  induction parts with
  | nil => simp [hp]
  | cons part parts ih =>
    cases parts with
    | nil => simp
    | cons part' parts =>
      have hskip : ∀ l : List α, p <:+: c :: l ↔ p <:+: l := by
        intro l
        rw [← nil_append (c :: l), infix_append_cons_iff hc, infix_nil, or_iff_right hp]
      rw [intercalate_cons_cons, append_assoc, cons_append, cons_append, nil_append,
        infix_append_cons_iff hc, hskip, ih]
      simp only [mem_cons, exists_eq_or_imp]

/-- What is dropped from the front of a list has no part in what starts differently. -/
theorem infix_dropWhile_iff (hhead : p.head? = some y) (hy : f y = false) :
    p <:+: l.dropWhile f ↔ p <:+: l := by
  induction l with
  | nil => rw [dropWhile_nil]
  | cons x l ih =>
    by_cases hx : f x = true
    · rw [dropWhile_cons_of_pos hx, ih, infix_cons_iff, iff_or_self]
      intro hprefix
      -- it would start with what is dropped
      cases p with
      | nil => cases hhead
      | cons y' p =>
        obtain ⟨rfl, -⟩ := cons_prefix_cons.mp hprefix
        rw [head?_cons, Option.some.injEq] at hhead
        rw [hhead, hy] at hx
        cases hx
    · rw [dropWhile_cons_of_neg hx]

/-- The same at both ends. -/
theorem infix_trim_iff (hhead : p.head? = some y) (hy : f y = false) (hlast : p.getLast? = some z)
    (hz : f z = false) :
    p <:+: ((l.dropWhile f).reverse.dropWhile f).reverse ↔ p <:+: l := by
  rw [← reverse_infix, reverse_reverse,
    infix_dropWhile_iff (by rw [head?_reverse]; exact hlast) hz, reverse_infix,
    infix_dropWhile_iff hhead hy]

/-- What starts with a double `c`, and has no other, and ends a list with a double `c` in it, starts
    there or later. -/
theorem suffix_append_double_iff (hc : c ∉ n) :
    c :: c :: n <:+ a ++ c :: c :: b ↔ c :: c :: n <:+ c :: c :: b := by
  constructor
  · intro h
    rcases suffix_or_suffix_of_suffix h (suffix_append a (c :: c :: b)) with h | h
    · exact h
    · obtain ⟨t, ht⟩ := h
      cases t with
      | nil =>
        rw [← ht]
        exact suffix_rfl
      | cons x t =>
        -- the double `c` within would be among the rest
        rw [cons_append, cons.injEq] at ht
        cases t with
        | nil =>
          rw [nil_append, cons.injEq] at ht
          exact absurd (ht.2.2 ▸ mem_cons_self) hc
        | cons x' t =>
          rw [cons_append, cons.injEq] at ht
          refine absurd ?_ hc
          rw [← ht.2.2]
          simp
  · intro h
    exact h.trans (suffix_append a _)

end List

namespace Phrase

open Separated

/-- `phrase in text`. -/
def Occurs (phrase text : String) : Prop := phrase.toList <:+: text.toList

/-- `text.endswith(phrase)`. -/
def Ends (phrase text : String) : Prop := phrase.toList <:+ text.toList

instance (phrase text : String) : Decidable (Occurs phrase text) :=
  inferInstanceAs (Decidable (_ <:+: _))

instance (phrase text : String) : Decidable (Ends phrase text) :=
  inferInstanceAs (Decidable (_ <:+ _))

variable {phrase sep s t : String} {c : Char}

/-- A phrase does not occur where one of its characters does not. -/
theorem not_occurs_of_free (hphrase : ¬Free c phrase) (htext : Free c t) : ¬Occurs phrase t := by
  intro h
  exact hphrase fun hmem => htext (h.subset hmem)

/-- Nor does a text end with it. -/
theorem not_ends_of_free (hphrase : ¬Free c phrase) (htext : Free c t) : ¬Ends phrase t := by
  intro h
  exact not_occurs_of_free hphrase htext h.isInfix

theorem occurs_append_left (h : Occurs phrase s) (t : String) : Occurs phrase (s ++ t) := by
  rw [Occurs, String.toList_append]
  exact List.infix_append_of_infix_left h

theorem occurs_append_right (h : Occurs phrase t) (s : String) : Occurs phrase (s ++ t) := by
  rw [Occurs, String.toList_append]
  exact List.infix_append_of_infix_right h

/-- A phrase occurs on one side of a separator that it is free of. -/
theorem occurs_append (hsep : sep.toList = [c]) (hc : Free c phrase) :
    Occurs phrase (s ++ sep ++ t) ↔ Occurs phrase s ∨ Occurs phrase t := by
  rw [Occurs, String.toList_append, String.toList_append, hsep, List.append_assoc,
    List.singleton_append, List.infix_append_cons_iff hc]
  rfl

/-- Parts that are joined with a doubled separator. -/
theorem occurs_intercalate (hsep : sep.toList = [c, c]) (hc : Free c phrase) (hne : phrase ≠ "")
    {parts : List String} :
    Occurs phrase (sep.intercalate parts) ↔ ∃ part ∈ parts, Occurs phrase part := by
  have hne' : phrase.toList ≠ [] := fun h => hne (String.toList_eq_nil_iff.mp h)
  rw [Occurs, String.toList_intercalate, hsep, List.infix_intercalate_iff hc hne']
  simp [Occurs]

/-- A text ends as the phrase does that it ends with. -/
theorem Ends.getLast?_eq (h : Ends phrase t) (hne : phrase ≠ "") :
    t.toList.getLast? = phrase.toList.getLast? := by
  obtain ⟨front, hfront⟩ := h
  have hne' : phrase.toList ≠ [] := fun h => hne (String.toList_eq_nil_iff.mp h)
  rw [← hfront, List.getLast?_append_of_ne_nil _ hne']

theorem ends_append (s : String) : Ends phrase (s ++ phrase) := by
  rw [Ends, String.toList_append]
  exact List.suffix_append _ _

/-- Text that is put in front of a double separator does not matter to what ends after it. -/
theorem ends_append_double (hsep : sep.toList = [c, c]) (hc : Free c phrase) :
    Ends (sep ++ phrase) (s ++ sep ++ t) ↔ Ends (sep ++ phrase) (sep ++ t) := by
  simp only [Ends, String.toList_append, hsep, List.append_assoc, List.cons_append, List.nil_append]
  exact List.suffix_append_double_iff hc

end Phrase
