import Mathlib.Data.List.Basic

/-!
# Doubled lists

A list is doubled when it is some non-empty list twice over; `undouble` takes one
copy of a doubled list and leaves every other list alone. It does not commute with
joining pieces, and `undouble_flatten_iff` says when it does.
-/

namespace List

variable {α : Type} [DecidableEq α]

/-- Something non-empty, twice over. -/
def Doubled (l : List α) : Prop := ∃ u, u ≠ [] ∧ l = u ++ u

/-- One copy of a doubled list, and every other list as it is. -/
def undouble (l : List α) : List α :=
  let half := l.length / 2
  if l.length % 2 = 0 ∧ l ≠ [] ∧ l.take half = l.drop half then l.take half else l

/-- A doubled list is undoubled. -/
theorem undouble_append_self {u : List α} (hu : u ≠ []) : (u ++ u).undouble = u := by
  have hhalf : (u ++ u).length / 2 = u.length := by
    rw [length_append]
    omega
  have heven : (u ++ u).length % 2 = 0 := by
    rw [length_append]
    omega
  rw [undouble, hhalf, take_left, drop_left, if_pos]
  exact ⟨heven, fun h => hu (append_eq_nil_iff.mp h).1, rfl⟩

/-- What is not doubled is left alone. -/
theorem undouble_of_not_doubled {l : List α} (h : ¬l.Doubled) : l.undouble = l := by
  rw [undouble, if_neg]
  rintro ⟨-, hne, hhalves⟩
  apply h
  have htake : l.take (l.length / 2) ++ l.take (l.length / 2) = l := by
    conv_rhs => rw [← take_append_drop (l.length / 2) l, ← hhalves]
  refine ⟨l.take (l.length / 2), fun hnil => hne ?_, htake.symm⟩
  rw [← htake, hnil]
  rfl

/-- `undouble` halves the length of a list, or keeps it. -/
theorem length_undouble (l : List α) :
    (l.Doubled ∧ 2 * l.undouble.length = l.length ∧ l = l.undouble ++ l.undouble) ∨
      (¬l.Doubled ∧ l.undouble = l) := by
  by_cases h : l.Doubled
  · obtain ⟨u, hu, rfl⟩ := h
    left
    rw [undouble_append_self hu, length_append]
    exact ⟨⟨u, hu, rfl⟩, by omega, rfl⟩
  · right
    exact ⟨h, undouble_of_not_doubled h⟩

/-- Pieces that lose no length are not doubled. -/
private theorem not_doubled_of_length_le {pieces : List (List α)} (hne : ∀ p ∈ pieces, p ≠ [])
    (h : pieces.flatten.length ≤ (pieces.map undouble).flatten.length) :
    ∀ p ∈ pieces, ¬p.Doubled := by
  -- To undouble makes no piece longer.
  have hle (pieces : List (List α)) :
      (pieces.map undouble).flatten.length ≤ pieces.flatten.length := by
    induction pieces with
    | nil => exact Nat.le_refl _
    | cons p pieces ih =>
      rw [map_cons, flatten_cons, flatten_cons, length_append, length_append]
      rcases length_undouble p with ⟨-, hhalf, -⟩ | ⟨-, hsame⟩
      · omega
      · rw [hsame]
        omega
  induction pieces with
  -- A doubled piece would make the whole shorter.
  | nil => exact fun _ h => by cases h
  | cons p pieces ih =>
    have hlater := hle pieces
    rw [map_cons, flatten_cons, flatten_cons, length_append, length_append] at h
    have hpos := length_pos_of_ne_nil (hne p mem_cons_self)
    intro q hq
    rcases length_undouble p with ⟨-, hhalf, -⟩ | ⟨hdoubled, hsame⟩
    · omega
    · rcases mem_cons.mp hq with rfl | hq
      · exact hdoubled
      · refine ih (fun p hp => hne p (mem_cons_of_mem _ hp)) ?_ q hq
        rw [hsame] at h
        omega

/-- Pieces that lose half their length are all doubled. -/
private theorem eq_doubles_of_le_length {pieces : List (List α)} (hne : ∀ p ∈ pieces, p ≠ [])
    (h : 2 * (pieces.map undouble).flatten.length ≤ pieces.flatten.length) :
    pieces = (pieces.map undouble).map fun u => u ++ u := by
  -- To undouble makes no piece shorter than half.
  have hle (pieces : List (List α)) :
      pieces.flatten.length ≤ 2 * (pieces.map undouble).flatten.length := by
    induction pieces with
    | nil => exact Nat.le_refl _
    | cons p pieces ih =>
      rw [map_cons, flatten_cons, flatten_cons, length_append, length_append]
      rcases length_undouble p with ⟨-, hhalf, -⟩ | ⟨-, hsame⟩
      · omega
      · rw [hsame]
        omega
  induction pieces with
  -- A piece that is not doubled would make the whole longer than half.
  | nil => rfl
  | cons p pieces ih =>
    have hlater := hle pieces
    rw [map_cons, flatten_cons, flatten_cons, length_append, length_append] at h
    have hpos := length_pos_of_ne_nil (hne p mem_cons_self)
    rcases length_undouble p with ⟨-, hhalf, htwice⟩ | ⟨-, hsame⟩
    · rw [map_cons, map_cons, ← htwice,
        ← ih (fun p hp => hne p (mem_cons_of_mem _ hp)) (by omega)]
    · rw [hsame] at h
      omega

/-- Undoubling the whole is undoubling the pieces exactly where neither the whole nor any piece is
    doubled, or every piece is, and the whole is their halves twice over. -/
theorem undouble_flatten_iff {pieces : List (List α)} (hne : ∀ p ∈ pieces, p ≠ []) :
    pieces.flatten.undouble = (pieces.map undouble).flatten ↔
      (¬pieces.flatten.Doubled ∧ ∀ p ∈ pieces, ¬p.Doubled) ∨
        ∃ halves : List (List α), pieces = halves.map (fun u => u ++ u) ∧
          pieces.flatten = halves.flatten ++ halves.flatten := by
  constructor
  · intro h
    -- compare lengths: undoubling halves a doubled list and keeps every other one
    rcases length_undouble pieces.flatten with ⟨-, hhalf, htwice⟩ | ⟨hwhole, hsame⟩
    · right
      rw [h] at hhalf htwice
      exact ⟨pieces.map undouble, eq_doubles_of_le_length hne (Nat.le_of_eq hhalf), htwice⟩
    · left
      rw [hsame] at h
      exact ⟨hwhole, not_doubled_of_length_le hne (Nat.le_of_eq (congrArg length h))⟩
  · intro h
    rcases h with ⟨hwhole, hpieces⟩ | ⟨halves, hdoubles, htwice⟩
    · have hkept : pieces.map undouble = pieces := by
        conv_rhs => rw [← map_id pieces]
        exact map_congr_left fun p hp => undouble_of_not_doubled (hpieces p hp)
      rw [undouble_of_not_doubled hwhole, hkept]
    -- no half is empty, since no piece is
    · have hhalves : ∀ u ∈ halves, u ≠ [] := by
        intro u hu hnil
        apply hne (u ++ u)
        · rw [hdoubles]
          exact mem_map_of_mem hu
        · rw [hnil]
          rfl
      have hundoubled : pieces.map undouble = halves := by
        rw [hdoubles, map_map]
        conv_rhs => rw [← map_id halves]
        exact map_congr_left fun u hu => undouble_append_self (hhalves u hu)
      rw [htwice, hundoubled]
      cases halves with
      | nil => rfl
      | cons u halves =>
        apply undouble_append_self
        rw [flatten_cons]
        exact fun hnil => hhalves u mem_cons_self (append_eq_nil_iff.mp hnil).1

end List
