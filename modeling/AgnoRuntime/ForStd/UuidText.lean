import Mathlib.Data.Nat.Basic
import AgnoRuntime.ForStd.Separated

/-!
# The text of a UUID

`str(uuid)` of Python: the number in hexadecimal, padded to 32 digits in lower
case, with dashes after the 8th, 12th, 16th and 20th digit. The number can be
read back from the text (`number_text`), so the text determines it.
-/

namespace UuidText

open Separated

/-! ## Hexadecimal digits -/

/-- The value of a hexadecimal digit in lower case. -/
def digitValue (c : Char) : Nat := if c.isDigit then c.toNat - 48 else c.toNat - 87

/-- The number that a list of hexadecimal digits stands for. -/
def ofHex (cs : List Char) : Nat := cs.foldl (fun n c => 16 * n + digitValue c) 0

/-- A digit has its value. -/
private theorem digitValue_digitChar : ∀ d, d < 16 → digitValue (Nat.digitChar d) = d := by
  decide

/-- One more digit. -/
theorem ofHex_concat (cs : List Char) (c : Char) :
    ofHex (cs ++ [c]) = 16 * ofHex cs + digitValue c := by
  rw [ofHex, List.foldl_append]
  rfl

/-- Zeros in front change nothing. -/
theorem ofHex_replicate_append (k : Nat) (cs : List Char) :
    ofHex (List.replicate k '0' ++ cs) = ofHex cs := by
  have hzeros : ofHex (List.replicate k '0') = 0 := by
    induction k with
    | zero => rfl
    | succ k ih =>
      rw [List.replicate_succ', ofHex_concat, ih]
      rfl
  rw [ofHex, List.foldl_append]
  exact congrArg (fun n => cs.foldl (fun n c => 16 * n + digitValue c) n) hzeros

/-- The digits of a number give the number back. -/
theorem ofHex_toDigits (n : Nat) : ofHex (Nat.toDigits 16 n) = n := by
  induction n using Nat.strongRecOn with
  | ind n ih =>
    by_cases hlt : n < 16
    · rw [Nat.toDigits_of_lt_base hlt]
      have hdigit := digitValue_digitChar n hlt
      rw [← List.nil_append [n.digitChar], ofHex_concat, hdigit]
      exact Nat.zero_add n
    · rw [Nat.toDigits_of_base_le (by decide) (Nat.le_of_not_lt hlt), ofHex_concat,
        ih (n / 16) (by omega), digitValue_digitChar _ (Nat.mod_lt n (by decide))]
      exact Nat.div_add_mod n 16

/-- The digits of a number are hexadecimal digits. -/
theorem exists_digitChar_of_mem_toDigits {c : Char} {n : Nat} (h : c ∈ Nat.toDigits 16 n) :
    ∃ d, d < 16 ∧ c = Nat.digitChar d := by
  induction n using Nat.strongRecOn with
  | ind n ih =>
    by_cases hlt : n < 16
    · rw [Nat.toDigits_of_lt_base hlt] at h
      exact ⟨n, hlt, List.mem_singleton.mp h⟩
    · rw [Nat.toDigits_of_base_le (by decide) (Nat.le_of_not_lt hlt)] at h
      rcases List.mem_append.mp h with hrest | hlast
      · exact ih (n / 16) (by omega) hrest
      · exact ⟨n % 16, Nat.mod_lt n (by decide), List.mem_singleton.mp hlast⟩

/-! ## The text -/

/-- `'%032x' % n`. -/
def hex (n : Nat) : List Char := (Nat.toDigits 16 n).leftpad 32 '0'

/-- The padded digits stand for the number. -/
theorem ofHex_hex (n : Nat) : ofHex (hex n) = n := by
  rw [hex, List.leftpad, ofHex_replicate_append, ofHex_toDigits]

/-- The padded digits are hexadecimal digits. -/
theorem exists_digitChar_of_mem_hex {c : Char} {n : Nat} (h : c ∈ hex n) :
    ∃ d, d < 16 ∧ c = Nat.digitChar d := by
  rcases List.mem_append.mp h with hzero | hdigit
  · exact ⟨0, by decide, List.eq_of_mem_replicate hzero⟩
  · exact exists_digitChar_of_mem_toDigits hdigit

/-- The five groups of digits, joined by dashes. -/
def dashed (cs : List Char) : List Char :=
  cs.take 8 ++ '-' :: ((cs.drop 8).take 4 ++ '-' :: ((cs.drop 12).take 4 ++
    '-' :: ((cs.drop 16).take 4 ++ '-' :: cs.drop 20)))

/-- `str(uuid)`. -/
def text (n : Nat) : String := String.ofList (dashed (hex n))

/-- Without its dashes the text is the digits. -/
theorem filter_dashed {cs : List Char} (h : '-' ∉ cs) : (dashed cs).filter (· ≠ '-') = cs := by
  have hkept : ∀ xs : List Char, xs.Sublist cs → xs.filter (· ≠ '-') = xs := by
    intro xs hsub
    refine List.filter_eq_self.mpr ?_
    intro c hc
    exact decide_eq_true fun heq => h (heq ▸ hsub.subset hc)
  have hslice : ∀ i, ((cs.drop i).take 4).Sublist cs := fun i =>
    (List.take_sublist 4 _).trans (List.drop_sublist i cs)
  have hdash : ∀ xs : List Char, ('-' :: xs).filter (· ≠ '-') = xs.filter (· ≠ '-') := fun _ => rfl
  rw [dashed, List.filter_append, hdash, List.filter_append, hdash, List.filter_append, hdash,
    List.filter_append, hdash, hkept _ (List.take_sublist 8 cs), hkept _ (hslice 8),
    hkept _ (hslice 12), hkept _ (hslice 16), hkept _ (List.drop_sublist 20 cs)]
  -- The groups follow one another.
  have hjoin : ∀ i, (cs.drop i).take 4 ++ cs.drop (i + 4) = cs.drop i := by
    intro i
    rw [← List.drop_drop]
    exact List.take_append_drop 4 (cs.drop i)
  rw [hjoin 16, hjoin 12, hjoin 8]
  exact List.take_append_drop 8 cs

/-- The number a text stands for. -/
def number (s : String) : Nat := ofHex (s.toList.filter (· ≠ '-'))

/-- No digit is a dash. -/
theorem dash_not_mem_hex (n : Nat) : '-' ∉ hex n := by
  have hne : ∀ d, d < 16 → Nat.digitChar d ≠ '-' := by decide
  intro hmem
  obtain ⟨d, hd, heq⟩ := exists_digitChar_of_mem_hex hmem
  exact hne d hd heq.symm

/-- The number is read back from its text. -/
theorem number_text (n : Nat) : number (text n) = n := by
  rw [number, text, String.toList_ofList, filter_dashed (dash_not_mem_hex n), ofHex_hex]

/-- The text determines the number. -/
theorem text_inj {m n : Nat} (h : text m = text n) : m = n := by
  rw [← number_text m, h, number_text]

/-- A text is free of what is neither a hexadecimal digit nor a dash. -/
theorem free_text {c : Char} (hdash : c ≠ '-') (hdigit : ∀ d, d < 16 → Nat.digitChar d ≠ c)
    (n : Nat) : Free c (text n) := by
  rw [Free, text, String.toList_ofList]
  intro hmem
  -- Every character of the text is a dash or one of the digits.
  have hsub : c ∈ hex n := by
    have hkept : c ∈ (dashed (hex n)).filter (· ≠ '-') :=
      List.mem_filter.mpr ⟨hmem, decide_eq_true hdash⟩
    rw [filter_dashed (dash_not_mem_hex n)] at hkept
    exact hkept
  obtain ⟨d, hd, heq⟩ := exists_digitChar_of_mem_hex hsub
  exact hdigit d hd heq.symm

example : text 0x6f1d2c3b4a5968778695a4b3c2d1e0f0 = "6f1d2c3b-4a59-6877-8695-a4b3c2d1e0f0" := by
  decide +kernel

end UuidText
