import Mathlib.Data.List.Basic
import Std.Data.String.ToInt

/-!
# Strings made of separated fields

A string that joins fields with a separator character determines its fields as
far as they are free of the separator: the last field (`join_inj_last`) or the
first one (`join_inj_first`) can be split off.

Numbers written in decimal are free of every character that is no digit, and
determined by their text.
-/

namespace Separated

/-- The character does not occur in the string. -/
def Free (c : Char) (s : String) : Prop := c ∉ s.toList

instance (c : Char) (s : String) : Decidable (Free c s) :=
  inferInstanceAs (Decidable (¬ c ∈ s.toList))

/-- A joined string is free of a character when its parts are. -/
theorem Free.append {c : Char} {s t : String} (hs : Free c s) (ht : Free c t) : Free c (s ++ t) := by
  rw [Free, String.toList_append, List.mem_append, not_or]
  exact ⟨hs, ht⟩

/-- Two splits of a list at the first occurrence of an element are the same. -/
theorem split_first_inj {α : Type} {c : α} {x z x' z' : List α} (hx : c ∉ x) (hx' : c ∉ x')
    (h : x ++ c :: z = x' ++ c :: z') : x = x' ∧ z = z' := by
  induction x generalizing x' with
  | nil =>
    cases x' with
    | nil => exact ⟨rfl, (List.cons.inj h).2⟩
    | cons a x' => exact absurd ((List.cons.inj h).1 ▸ List.mem_cons_self) hx'
  | cons a x ih =>
    cases x' with
    | nil => exact absurd ((List.cons.inj h).1 ▸ List.mem_cons_self) hx
    | cons a' x' =>
      obtain ⟨rfl, hrest⟩ := List.cons.inj h
      have hsplit := ih (fun hc => hx (List.mem_cons_of_mem _ hc))
        (fun hc => hx' (List.mem_cons_of_mem _ hc)) hrest
      exact ⟨congrArg _ hsplit.1, hsplit.2⟩

/-- The first field is determined when it is free of the separator, and so is what follows it. -/
theorem join_inj_first {c : Char} {sep s t s' t' : String} (hsep : sep.toList = [c])
    (hs : Free c s) (hs' : Free c s') (h : s ++ sep ++ t = s' ++ sep ++ t') : s = s' ∧ t = t' := by
  have hlist := congrArg String.toList h
  simp only [String.toList_append, hsep, List.append_assoc, List.singleton_append] at hlist
  obtain ⟨hfirst, hrest⟩ := split_first_inj hs hs' hlist
  exact ⟨String.toList_inj.mp hfirst, String.toList_inj.mp hrest⟩

/-- The last field is determined when it is free of the separator, and so is what precedes it. -/
theorem join_inj_last {c : Char} {sep s t s' t' : String} (hsep : sep.toList = [c])
    (ht : Free c t) (ht' : Free c t') (h : s ++ sep ++ t = s' ++ sep ++ t') : s = s' ∧ t = t' := by
  -- Read backwards, the last field is the first one.
  have hlist := congrArg (fun x => x.toList.reverse) h
  simp only [String.toList_append, hsep, List.reverse_append, List.reverse_singleton,
    List.singleton_append] at hlist
  obtain ⟨hlast, hrest⟩ := split_first_inj (mt List.mem_reverse.mp ht) (mt List.mem_reverse.mp ht')
    hlist
  exact ⟨String.toList_inj.mp (List.reverse_inj.mp hrest),
    String.toList_inj.mp (List.reverse_inj.mp hlast)⟩

/-- A natural number in decimal has digits only. -/
theorem free_natRepr {c : Char} (hc : c.isDigit = false) (n : Nat) : Free c (toString n) := by
  intro hmem
  have hrepr : (toString n).toList = Nat.toDigits 10 n := Nat.toList_repr
  rw [hrepr] at hmem
  have hdigit := Nat.isDigit_of_mem_toDigits (by decide) (by decide) hmem
  rw [hc] at hdigit
  cases hdigit

/-- An integer in decimal has digits and a minus sign only. -/
theorem free_intRepr {c : Char} (hc : c.isDigit = false) (hminus : c ≠ '-') (n : Int) :
    Free c (toString n) := by
  cases n with
  | ofNat n => exact free_natRepr hc n
  | negSucc n =>
    have hrepr : toString (Int.negSucc n) = "-" ++ toString (n + 1) := rfl
    rw [hrepr]
    refine Free.append ?_ (free_natRepr hc (n + 1))
    intro hmem
    exact hminus (List.mem_singleton.mp hmem)

end Separated
