import AgnoRuntime.ForStd.SpacedJoin
import AgnoRuntime.Model.ChatService

/-!
# Merging the parts of an answer

The parts that a chat turn collects are the incremental deltas of one answer, and a
workflow step simply joins them. `_merge_content_parts` guesses where separators are
missing and which parts are repetitions, so it gives the answer back only where every cut
is beside a blank and no delta repeats what the answer ends with there.
-/

namespace AgnoRuntime

open ChatService

/-- A delta that is merged as it is: the text before it does not end with it, and one of them has a
    blank at the cut. -/
def ContinuesText (text delta : String) : Prop :=
  ¬delta.toList <:+ text.toList ∧
    (text.toList.getLast?.any isBlank || delta.toList.head?.any isBlank)

instance (text delta : String) : Decidable (ContinuesText text delta) :=
  inferInstanceAs (Decidable (_ ∧ _))

/-- `_merge_text_chunks` on the characters. -/
theorem toList_mergeTextChunks (existingText text : String) :
    (mergeTextChunks existingText text).toList =
      List.spaced isBlank ' ' existingText.toList text.toList := by
  unfold mergeTextChunks List.spaced
  by_cases htext : text = ""
  · rw [if_pos htext, htext]
    by_cases hexisting : existingText.toList = []
    · simp [hexisting]
    · simp [hexisting]
  · rw [if_neg htext]
    by_cases hexisting : existingText = ""
    · simp [hexisting]
    · have hexisting' : existingText.toList ≠ [] :=
        fun hnil => hexisting (String.toList_eq_nil_iff.mp hnil)
      rw [if_neg hexisting, if_neg hexisting']
      by_cases hsame : existingText = text
      · rw [if_pos hsame, hsame, if_pos List.suffix_rfl]
      · rw [if_neg hsame]
        -- What is left of the two is the same choice.
        simp only [List.isSuffixOf_iff_suffix]
        split_ifs
        · rfl
        · exact String.toList_append
        · simp

/-- `_merge_content_parts` on the characters. -/
theorem toList_mergeContentParts (parts : List String) :
    (mergeContentParts parts).toList =
      (parts.map String.toList).foldl (List.spaced isBlank ' ') [] := by
  have hfrom (text : String) :
      (parts.foldl mergeTextChunks text).toList =
        (parts.map String.toList).foldl (List.spaced isBlank ' ') text.toList := by
    induction parts generalizing text with
    | nil => rfl
    | cons part parts ih =>
      rw [List.foldl_cons, ih, toList_mergeTextChunks, List.map_cons, List.foldl_cons]
  exact hfrom ""

/-- However a text is cut into deltas, merging them gives the text back if and only if each delta
    after the first continues the text before it. -/
theorem mergeContentParts_eq_iff {text : String} {deltas : List String}
    (hne : ∀ delta ∈ deltas, delta ≠ "") (hcut : String.join deltas = text) :
    mergeContentParts deltas = text ↔
      ∀ before delta after, before ≠ [] → deltas = before ++ delta :: after →
        ContinuesText (String.join before) delta := by
  have hpieces : ∀ piece ∈ deltas.map String.toList, piece ≠ [] := by
    intro piece hpiece
    obtain ⟨delta, hdelta, rfl⟩ := List.mem_map.mp hpiece
    exact fun hnil => hne delta hdelta (String.toList_eq_nil_iff.mp hnil)
  have hjoin (texts : List String) :
      (String.join texts).toList = (texts.map String.toList).flatten := by
    rw [String.toList_join, List.flatMap_def]
  rw [← hcut, ← String.toList_inj, toList_mergeContentParts, hjoin,
    List.foldl_spaced_eq_iff rfl hpieces]
  constructor
  · intro hall before delta after hbefore hdeltas
    have hmapped : deltas.map String.toList =
        before.map String.toList ++ delta.toList :: after.map String.toList := by
      rw [hdeltas, List.map_append, List.map_cons]
    have hcontinues := hall _ _ _ (by simpa using hbefore) hmapped
    rw [← hjoin] at hcontinues
    exact hcontinues
  · intro hall before piece after hbefore hmapped
    -- A cut of the characters is a cut of the deltas.
    obtain ⟨before', rest, rfl, rfl, hrest⟩ := List.map_eq_append_iff.mp hmapped
    obtain ⟨delta, after', rfl, rfl, -⟩ := List.map_eq_cons_iff.mp hrest
    rw [← hjoin]
    exact hall before' delta after' (by simpa using hbefore) rfl

/-- Two deltas with a blank at the cut. -/
theorem mergeContentParts_hello_world :
    mergeContentParts ["Hello", " world"] = "Hello world" := by
  refine (mergeContentParts_eq_iff (by decide) (by decide)).mpr ?_
  intro before delta after hbefore hdeltas
  cases before with
  | nil => exact absurd rfl hbefore
  | cons first before =>
    cases before with
    | nil =>
      simp only [List.cons_append, List.nil_append, List.cons.injEq] at hdeltas
      obtain ⟨rfl, rfl, rfl⟩ := hdeltas
      decide
    | cons second before => simp at hdeltas

/-- A word that is cut gets a blank, and a delta that repeats the end of the text is lost. -/
theorem mergeContentParts_cut_words :
    (String.join ["Hel", "lo"] = "Hello" ∧ mergeContentParts ["Hel", "lo"] = "Hel lo") ∧
      String.join ["Hel", "l", "o"] = "Hello" ∧ mergeContentParts ["Hel", "l", "o"] = "Hel o" := by
  decide

end AgnoRuntime
