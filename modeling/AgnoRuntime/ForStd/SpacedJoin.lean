import Mathlib.Data.List.Basic

/-!
# Joining pieces with guessed separators

`spaced` appends a piece to what has been joined so far: it drops a piece that repeats
the end of it, and puts a separator in between unless there is a blank on one side. Where
the pieces are the cut of one list, all of that is guessing, and `foldl_spaced_eq_iff`
says when the guesses give that list back: a first wrong guess is never made up for.

## Key results

- `prefix_foldl_spaced`: what has been joined stays
- `foldl_spaced_eq_iff`: when joining with guessed separators is joining
-/

namespace List

section Spaced

variable {α : Type} [DecidableEq α] (isBlank : α → Bool) (sep : α)

/-- Append a piece: not at all if it repeats the end, and after a separator if there is no blank
    on either side of the cut. -/
def spaced (l piece : List α) : List α :=
  if l = [] then piece
  else if piece <:+ l then l
  else if l.getLast?.any isBlank || piece.head?.any isBlank then l ++ piece
  else l ++ sep :: piece

/-- The piece is appended as it is: it does not repeat the end, and there is a blank at the cut. -/
def ContinuesAt (l piece : List α) : Prop :=
  ¬piece <:+ l ∧ (l.getLast?.any isBlank || piece.head?.any isBlank)

variable {isBlank sep} {l t piece : List α} {pieces : List (List α)}

/-- A piece that continues a list is appended. -/
theorem spaced_of_continuesAt (hl : l ≠ []) (h : ContinuesAt isBlank l piece) :
    spaced isBlank sep l piece = l ++ piece := by
  rw [spaced, if_neg hl, if_neg h.1, if_pos h.2]

/-- A piece that repeats the end of a list is dropped. -/
theorem spaced_of_suffix (hl : l ≠ []) (h : piece <:+ l) : spaced isBlank sep l piece = l := by
  rw [spaced, if_neg hl, if_pos h]

/-- The separator is put where there is no blank. -/
theorem spaced_of_no_blank (hl : l ≠ []) (h : ¬piece <:+ l)
    (hblank : ¬(l.getLast?.any isBlank || piece.head?.any isBlank)) :
    spaced isBlank sep l piece = l ++ sep :: piece := by
  rw [spaced, if_neg hl, if_neg h, if_neg hblank]

/-- Nothing that has been joined is taken away. -/
theorem prefix_foldl_spaced (hl : l ≠ []) : l <+: pieces.foldl (spaced isBlank sep) l := by
  induction pieces generalizing l with
  | nil => exact prefix_rfl
  | cons piece pieces ih =>
    have hstep : l <+: spaced isBlank sep l piece := by
      unfold spaced
      rw [if_neg hl]
      split_ifs
      · exact prefix_rfl
      · exact prefix_append l piece
      · exact prefix_append l (sep :: piece)
    have hne : spaced isBlank sep l piece ≠ [] := by
      intro hnil
      rw [hnil] at hstep
      exact hl (prefix_nil.mp hstep)
    exact hstep.trans (ih hne)

omit [DecidableEq α] in
/-- What is joined ends as its last piece does, and so it does if that piece is dropped. -/
private theorem getLast?_eq_of_suffix (hne : piece ≠ []) (h : piece <:+ l) :
    l.getLast? = (t ++ piece).getLast? := by
  obtain ⟨front, rfl⟩ := h
  rw [getLast?_append_of_ne_nil _ hne, getLast?_append_of_ne_nil _ hne]

/-- A text that is shorter than the pieces up to here, and ends as they do, never catches up: with
    a separator it would have to end in a blank. -/
private theorem foldl_spaced_ne_of_behind (hsep : isBlank sep) (hl : l ≠ [])
    (hbehind : l.length < t.length) (hlast : l.getLast? = t.getLast?)
    (hne : ∀ piece ∈ pieces, piece ≠ []) :
    pieces.foldl (spaced isBlank sep) l ≠ t ++ pieces.flatten := by
  induction pieces generalizing l t with
  | nil =>
    intro heq
    have hlength := congrArg length heq
    simp at hlength
    omega
  | cons piece pieces ih =>
    have hpiece : piece ≠ [] := hne piece mem_cons_self
    have hlater : ∀ piece ∈ pieces, piece ≠ [] := fun p hp => hne p (mem_cons_of_mem _ hp)
    rw [foldl_cons, flatten_cons, ← append_assoc]
    by_cases hsuffix : piece <:+ l
    · rw [spaced_of_suffix hl hsuffix]
      refine ih hl ?_ (getLast?_eq_of_suffix hpiece hsuffix) hlater
      rw [length_append]
      omega
    · by_cases hblank : l.getLast?.any isBlank || piece.head?.any isBlank
      · rw [spaced_of_continuesAt hl ⟨hsuffix, hblank⟩]
        refine ih (append_ne_nil_of_left_ne_nil hl _) ?_ ?_ hlater
        · simp only [length_append]
          omega
        · rw [getLast?_append_of_ne_nil _ hpiece, getLast?_append_of_ne_nil _ hpiece]
      · rw [spaced_of_no_blank hl hsuffix hblank]
        have hne' : l ++ sep :: piece ≠ [] := append_ne_nil_of_left_ne_nil hl _
        by_cases hshort : l.length + 1 < t.length
        · refine ih hne' ?_ ?_ hlater
          · simp only [length_append, length_cons]
            omega
          · rw [← singleton_append, ← append_assoc, getLast?_append_of_ne_nil _ hpiece,
              getLast?_append_of_ne_nil _ hpiece]
        · -- The separator would be the last of the pieces up to here.
          intro heq
          have hfront : l ++ [sep] <+: t ++ piece ++ pieces.flatten := by
            rw [← heq]
            refine IsPrefix.trans ?_ (prefix_foldl_spaced hne')
            exact ⟨piece, by simp⟩
          have htext : t <+: t ++ piece ++ pieces.flatten := by
            rw [append_assoc]
            exact prefix_append t _
          have hsame : l ++ [sep] = t := by
            refine (prefix_of_prefix_length_le hfront htext ?_).eq_of_length ?_
            · simp
              omega
            · simp
              omega
          rw [← hsame, getLast?_concat] at hlast
          simp [hlast, hsep] at hblank

/-- A separator is no part of the pieces. -/
private theorem foldl_spaced_ne_of_separated (hsep : isBlank sep) (hl : l ≠ [])
    (hpiece : piece ≠ []) (hhead : ¬piece.head?.any isBlank) :
    pieces.foldl (spaced isBlank sep) (l ++ sep :: piece) ≠ l ++ piece ++ pieces.flatten := by
  intro heq
  have hfront : l ++ sep :: piece <+: l ++ piece ++ pieces.flatten := by
    rw [← heq]
    exact prefix_foldl_spaced (append_ne_nil_of_left_ne_nil hl _)
  rw [append_assoc, prefix_append_right_inj] at hfront
  cases piece with
  | nil => exact hpiece rfl
  | cons c piece =>
    rw [cons_append, cons_prefix_cons] at hfront
    obtain ⟨rfl, -⟩ := hfront
    simp [hsep] at hhead

/-- Joining with guessed separators is joining exactly where each piece continues the text before
    it. -/
theorem foldl_spaced_eq_append_iff (hsep : isBlank sep) (hl : l ≠ [])
    (hne : ∀ piece ∈ pieces, piece ≠ []) :
    pieces.foldl (spaced isBlank sep) l = l ++ pieces.flatten ↔
      ∀ before piece after, pieces = before ++ piece :: after →
        ContinuesAt isBlank (l ++ before.flatten) piece := by
  induction pieces generalizing l with
  | nil =>
    refine ⟨fun _ before piece after hcut => ?_, fun _ => ?_⟩
    · simp at hcut
    · simp
  | cons p pieces ih =>
    have hp : p ≠ [] := hne p mem_cons_self
    have hlater : ∀ piece ∈ pieces, piece ≠ [] := fun q hq => hne q (mem_cons_of_mem _ hq)
    by_cases hfirst : ContinuesAt isBlank l p
    · rw [foldl_cons, spaced_of_continuesAt hl hfirst, flatten_cons, ← append_assoc,
        ih (append_ne_nil_of_left_ne_nil hl p) hlater]
      constructor
      · intro hrest before piece after hcut
        cases before with
        | nil =>
          obtain ⟨rfl, -⟩ := cons.inj hcut
          simpa using hfirst
        | cons q before =>
          rw [cons_append, cons.injEq] at hcut
          obtain ⟨rfl, hcut⟩ := hcut
          rw [flatten_cons, ← append_assoc]
          exact hrest before piece after hcut
      · intro hall before piece after hcut
        rw [append_assoc, ← flatten_cons]
        exact hall (p :: before) piece after (by rw [hcut, cons_append])
    · -- The first guess is wrong already.
      have hwrong : (p :: pieces).foldl (spaced isBlank sep) l ≠ l ++ (p :: pieces).flatten := by
        rw [foldl_cons, flatten_cons, ← append_assoc]
        by_cases hsuffix : p <:+ l
        · rw [spaced_of_suffix hl hsuffix]
          refine foldl_spaced_ne_of_behind hsep hl ?_ (getLast?_eq_of_suffix hp hsuffix) hlater
          have hpos := length_pos_of_ne_nil hp
          rw [length_append]
          omega
        · have hblank : ¬(l.getLast?.any isBlank || p.head?.any isBlank) :=
            fun hblank => hfirst ⟨hsuffix, hblank⟩
          rw [spaced_of_no_blank hl hsuffix hblank]
          refine foldl_spaced_ne_of_separated hsep hl hp fun hhead => hblank ?_
          rw [hhead, Bool.or_true]
      refine ⟨fun heq => absurd heq hwrong, fun hall => absurd ?_ hfirst⟩
      simpa using hall [] p pieces rfl

/-- The same from the start: the first piece is taken as it is. -/
theorem foldl_spaced_eq_iff (hsep : isBlank sep) (hne : ∀ piece ∈ pieces, piece ≠ []) :
    pieces.foldl (spaced isBlank sep) [] = pieces.flatten ↔
      ∀ before piece after, before ≠ [] → pieces = before ++ piece :: after →
        ContinuesAt isBlank before.flatten piece := by
  cases pieces with
  | nil =>
    refine ⟨fun _ before piece after _ hcut => ?_, fun _ => rfl⟩
    simp at hcut
  | cons p pieces =>
    -- The first piece is taken as it is.
    have hp : p ≠ [] := hne p mem_cons_self
    have hlater : ∀ piece ∈ pieces, piece ≠ [] := fun q hq => hne q (mem_cons_of_mem _ hq)
    have hstart : spaced isBlank sep [] p = p := if_pos rfl
    rw [foldl_cons, hstart, flatten_cons, foldl_spaced_eq_append_iff hsep hp hlater]
    constructor
    -- A cut before the first piece is none.
    · intro hall before piece after hbefore hcut
      cases before with
      | nil => exact absurd rfl hbefore
      | cons q before =>
        rw [cons_append, cons.injEq] at hcut
        obtain ⟨rfl, hcut⟩ := hcut
        exact hall before piece after hcut
    · intro hall before piece after hcut
      exact hall (p :: before) piece after (cons_ne_nil p before) (by rw [hcut, cons_append])

end Spaced

end List
