import Mathlib.Data.Nat.ModEq
import Mathlib.Order.Basic

/-!
# Civil dates and UTC date-times

Proleptic Gregorian dates as Python's `datetime` module has them. A `Date`
carries the proof that its day exists in its month, a `DateTime` the proofs
that its time of day is one, so no operation has to check them again.

`Date.toOrdinal` numbers the days (1 January of year 1 is day 1), and
`DateTime.timestamp` counts the whole seconds since 1 January 1970.
-/

namespace Civil

/-- Leap years of the Gregorian calendar. -/
def isLeap (year : Nat) : Bool :=
  year % 4 = 0 && (year % 100 ≠ 0 || year % 400 = 0)

/-- The number of days of a month; months are numbered from 1. -/
def daysInMonth (year month : Nat) : Nat :=
  match month with
  | 2 => if isLeap year then 29 else 28
  | 4 | 6 | 9 | 11 => 30
  | _ => 31

/-- Every month has at least 28 days. -/
theorem le_daysInMonth (year month : Nat) : 28 ≤ daysInMonth year month := by
  unfold daysInMonth
  split
  · split <;> omega
  all_goals omega

/-- A day that exists. -/
structure Date where
  year : Nat
  month : Nat
  day : Nat
  yearPos : 1 ≤ year
  monthMem : 1 ≤ month ∧ month ≤ 12
  dayMem : 1 ≤ day ∧ day ≤ daysInMonth year month
deriving DecidableEq

namespace Date

/-- A day is given by its year, month and day of the month. -/
theorem eq_of_fields {d d' : Date} (hyear : d.year = d'.year) (hmonth : d.month = d'.month)
    (hday : d.day = d'.day) : d = d' := by
  cases d
  cases d'
  simp only at hyear hmonth hday
  subst hyear hmonth hday
  rfl

/-- The first day of a month. -/
def firstOfMonth (year month : Nat) (hy : 1 ≤ year) (hm : 1 ≤ month ∧ month ≤ 12) : Date where
  year := year
  month := month
  day := 1
  yearPos := hy
  monthMem := hm
  dayMem := ⟨Nat.le_refl 1, Nat.le_trans (by omega) (le_daysInMonth year month)⟩

/-- The first day of the month after this day's month. -/
def startOfNextMonth (d : Date) : Date :=
  if h : d.month = 12 then
    firstOfMonth (d.year + 1) 1 (by omega) (by omega)
  else
    firstOfMonth d.year (d.month + 1) d.yearPos (by have := d.monthMem; omega)

/-- The day after. -/
def nextDay (d : Date) : Date :=
  if h : d.day < daysInMonth d.year d.month then
    { d with day := d.day + 1, dayMem := ⟨by omega, h⟩ }
  else d.startOfNextMonth

/-- Days in the years before `year`. -/
def daysBeforeYear (year : Nat) : Nat :=
  (year - 1) * 365 + (year - 1) / 4 - (year - 1) / 100 + (year - 1) / 400

/-- Days of `year` before the first of `month`. -/
def daysBeforeMonth (year month : Nat) : Nat :=
  ((List.range (month - 1)).map (fun m => daysInMonth year (m + 1))).sum

/-- The number of the day, 1 for 1 January of year 1. -/
def toOrdinal (d : Date) : Nat :=
  daysBeforeYear d.year + daysBeforeMonth d.year d.month + d.day

/-- The days before a month, and the month's own, come before the next month. -/
theorem daysBeforeMonth_succ (year : Nat) {month : Nat} (h : 1 ≤ month) :
    daysBeforeMonth year (month + 1) = daysBeforeMonth year month + daysInMonth year month := by
  obtain ⟨n, rfl⟩ : ∃ n, month = n + 1 := ⟨month - 1, by omega⟩
  simp only [daysBeforeMonth, Nat.add_sub_cancel, List.range_succ, List.map_append, List.sum_append]
  simp

private theorem daysBeforeMonth_december (year : Nat) :
    daysBeforeMonth year 12 = 306 + daysInMonth year 2 := by
  simp [daysBeforeMonth, List.range_succ, daysInMonth]
  omega

private theorem daysInMonth_february (year : Nat) : daysInMonth year 2 =
    if 4 ∣ year ∧ (¬ 100 ∣ year ∨ 400 ∣ year) then 29 else 28 := by
  simp only [daysInMonth, isLeap, Bool.and_eq_true, Bool.or_eq_true, decide_eq_true_eq,
    Nat.dvd_iff_mod_eq_zero, ne_eq]

/-- A year has the days before its December and the 31 of December. -/
theorem daysBeforeYear_succ {year : Nat} (h : 1 ≤ year) :
    daysBeforeYear (year + 1) = daysBeforeYear year + daysBeforeMonth year 12 + 31 := by
  obtain ⟨n, rfl⟩ : ∃ n, year = n + 1 := ⟨year - 1, by omega⟩
  have hle : n / 100 ≤ n / 4 := Nat.div_le_div_left (by omega) (by omega)
  have h400 : 400 ∣ n + 1 → 100 ∣ n + 1 := fun hd => Nat.dvd_trans (by decide) hd
  have h100 : 100 ∣ n + 1 → 4 ∣ n + 1 := fun hd => Nat.dvd_trans (by decide) hd
  rw [daysBeforeMonth_december, daysInMonth_february, daysBeforeYear, daysBeforeYear,
    Nat.add_sub_cancel, Nat.add_sub_cancel, Nat.succ_div, Nat.succ_div, Nat.succ_div]
  -- Whether the year is a multiple of 4, 100 and 400 decides everything else.
  generalize n / 4 = a at *
  generalize n / 100 = b at *
  generalize n / 400 = c at *
  by_cases d4 : 4 ∣ n + 1 <;> by_cases d100 : 100 ∣ n + 1 <;> by_cases d400 : 400 ∣ n + 1 <;>
    simp only [d4, d100, d400, if_true, if_false, not_true, not_false_eq_true, true_and, false_and,
      or_true, or_false, or_self] <;> omega

/-- The number of the first day of the next month. -/
theorem toOrdinal_startOfNextMonth (d : Date) : d.startOfNextMonth.toOrdinal =
    daysBeforeYear d.year + daysBeforeMonth d.year d.month + daysInMonth d.year d.month + 1 := by
  rw [startOfNextMonth]
  split
  · rename_i hdec
    have hyear := daysBeforeYear_succ d.yearPos
    have hfirst : daysBeforeMonth (d.year + 1) 1 = 0 := rfl
    rw [hdec]
    show daysBeforeYear (d.year + 1) + daysBeforeMonth (d.year + 1) 1 + 1 = _
    rw [hyear, hfirst]
    rfl
  · have hmonth := daysBeforeMonth_succ d.year d.monthMem.1
    show daysBeforeYear d.year + daysBeforeMonth d.year (d.month + 1) + 1 = _
    omega

/-- The day after has the next number. -/
theorem toOrdinal_nextDay (d : Date) : d.nextDay.toOrdinal = d.toOrdinal + 1 := by
  rw [nextDay]
  split
  · rfl
  · have hmonth := toOrdinal_startOfNextMonth d
    have hday := d.dayMem
    rw [hmonth, toOrdinal]
    omega

/-- A day comes before the first day of the month after its month. -/
theorem toOrdinal_lt_of_sameMonth {d d' : Date} (hy : d.year = d'.year) (hm : d.month = d'.month) :
    d.toOrdinal < d'.startOfNextMonth.toOrdinal := by
  have hmonth := toOrdinal_startOfNextMonth d'
  have hday := d.dayMem.2
  rw [hy, hm] at hday
  rw [hmonth, toOrdinal, hy, hm]
  omega

end Date

/-- A UTC date-time with microsecond precision. -/
structure DateTime where
  date : Date
  hour : Nat
  minute : Nat
  second : Nat
  microsecond : Nat
  hourLt : hour < 24
  minuteLt : minute < 60
  secondLt : second < 60
  microsecondLt : microsecond < 1000000
deriving DecidableEq

namespace DateTime

/-- The start of a day. -/
def midnight (d : Date) : DateTime where
  date := d
  hour := 0
  minute := 0
  second := 0
  microsecond := 0
  hourLt := by decide
  minuteLt := by decide
  secondLt := by decide
  microsecondLt := by decide

/-- The start of 1 March 2026. -/
def startOfMarch2026 : DateTime := midnight (.firstOfMonth 2026 3 (by decide) (by decide))

/-- The ordinal of 1 January 1970. -/
def epochOrdinal : Nat := 719163

/-- Whole seconds since the epoch, negative before it. -/
def timestamp (t : DateTime) : Int :=
  ((t.date.toOrdinal : Int) - epochOrdinal) * 86400
    + t.hour * 3600 + t.minute * 60 + t.second

/-- Microseconds since the epoch. -/
def micros (t : DateTime) : Int := t.timestamp * 1000000 + t.microsecond

/-- Every instant of a day comes before the midnight of a later day. -/
theorem micros_lt_midnight {t : DateTime} {d : Date} (h : t.date.toOrdinal < d.toOrdinal) :
    t.micros < (midnight d).micros := by
  have hh := t.hourLt
  have hm := t.minuteLt
  have hs := t.secondLt
  have hu := t.microsecondLt
  simp only [micros, timestamp, midnight]
  omega

/-- The whole seconds of an instant, and its fraction. -/
theorem timestamp_le_micros (t : DateTime) :
    t.timestamp * 1000000 ≤ t.micros ∧ t.micros < (t.timestamp + 1) * 1000000 := by
  have hu := t.microsecondLt
  simp only [micros]
  omega

example : (midnight (Date.firstOfMonth 1970 1 (by decide) (by decide))).timestamp = 0 := by
  decide

end DateTime

end Civil
