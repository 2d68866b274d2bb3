import Mathlib.Data.Prod.Lex
import Mathlib.Algebra.BigOperators.Group.List.Basic
import Mathlib.Algebra.Order.Ring.Int

/-!
# The Gregorian calendar

Dates and times of day of the proleptic Gregorian calendar, from the year 0 on, and the number of seconds before
each.  There are no leap seconds.

* `DateTime` — a date that exists, with a time of day; they are ordered field by field.
* `DateTime.seconds` — the seconds since the beginning of the year 0.
* **`DateTime.seconds_strictMono`** — of two times the later one has more seconds, so that the seconds determine the
  time.
-/

namespace Hal

namespace Calendar

/-- Every fourth year, but of the hundreds only every fourth. -/
def isLeapYear (y : ℕ) : Bool := y % 4 = 0 ∧ (y % 100 = 0 → y % 400 = 0)

def yearLength (y : ℕ) : ℕ := if isLeapYear y then 366 else 365

/-- The days of a month, which are numbered from 1. -/
def monthLength (leap : Bool) (m : ℕ) : ℕ :=
  if m = 2 then (if leap then 29 else 28) else if m = 4 ∨ m = 6 ∨ m = 9 ∨ m = 11 then 30 else 31

/-- The days of the years before a year. -/
def daysBeforeYear (y : ℕ) : ℕ := ((List.range y).map yearLength).sum

/-- The days of the months before a month. -/
def daysBeforeMonth (leap : Bool) (m : ℕ) : ℕ := ((List.range (m - 1)).map fun i => monthLength leap (i + 1)).sum

/-! ## Days -/

lemma daysBeforeYear_succ (y : ℕ) : daysBeforeYear (y + 1) = daysBeforeYear y + yearLength y := by
  simp [daysBeforeYear, List.range_succ]

lemma daysBeforeYear_mono {y y' : ℕ} (h : y ≤ y') : daysBeforeYear y ≤ daysBeforeYear y' := by
  induction h with
  | refl => exact le_rfl
  | step _ ih =>
    rw [daysBeforeYear_succ]
    exact ih.trans (Nat.le_add_right _ _)

/-- Every day is in some year. -/
lemma exists_year (n : ℕ) : ∃ y d, d < yearLength y ∧ daysBeforeYear y + d = n := by
  have hpos : ∀ y, 0 < yearLength y := fun y => by
    unfold yearLength
    split_ifs <;> decide
  induction n with
  | zero => exact ⟨0, 0, hpos 0, rfl⟩
  | succ n ih =>
    obtain ⟨y, d, hd, rfl⟩ := ih
    by_cases hlast : d + 1 < yearLength y
    · exact ⟨y, d + 1, hlast, rfl⟩
    · refine ⟨y + 1, 0, hpos _, ?_⟩
      rw [daysBeforeYear_succ]
      omega

lemma daysBeforeMonth_succ {leap : Bool} {m : ℕ} (hm : 1 ≤ m) :
    daysBeforeMonth leap (m + 1) = daysBeforeMonth leap m + monthLength leap m := by
  obtain ⟨k, rfl⟩ : ∃ k, m = k + 1 := ⟨m - 1, by omega⟩
  simp [daysBeforeMonth, List.range_succ]

lemma daysBeforeMonth_mono {leap : Bool} {m m' : ℕ} (hm : 1 ≤ m) (h : m ≤ m') :
    daysBeforeMonth leap m ≤ daysBeforeMonth leap m' := by
  induction h with
  | refl => exact le_rfl
  | step hle ih =>
    rw [daysBeforeMonth_succ (hm.trans hle)]
    exact ih.trans (Nat.le_add_right _ _)

lemma daysBeforeMonth_thirteen (y : ℕ) : daysBeforeMonth (isLeapYear y) 13 = yearLength y := by
  unfold yearLength
  cases isLeapYear y with
  | true => decide
  | false => decide

/-! ## Times -/

/-- A date that exists, and a time of day. -/
@[ext] structure DateTime where
  year : ℕ
  month : ℕ
  day : ℕ
  hour : ℕ
  minute : ℕ
  second : ℕ
  month_pos : 1 ≤ month
  month_le : month ≤ 12
  day_pos : 1 ≤ day
  day_le : day ≤ monthLength (isLeapYear year) month
  hour_lt : hour < 24
  minute_lt : minute < 60
  second_lt : second < 60

namespace DateTime

/-- The days before the date in its year. -/
def dayOfYear (t : DateTime) : ℕ := daysBeforeMonth (isLeapYear t.year) t.month + (t.day - 1)

/-- The seconds before the time in its day. -/
def secondOfDay (t : DateTime) : ℕ := 3600 * t.hour + 60 * t.minute + t.second

/-- The seconds since the beginning of the year 0. -/
def seconds (t : DateTime) : ℕ := 86400 * (daysBeforeYear t.year + t.dayOfYear) + t.secondOfDay

/-- The seconds since the beginning of 1970. -/
def unix (t : DateTime) : ℤ := t.seconds - 86400 * daysBeforeYear 1970

def key (t : DateTime) : ℕ ×ₗ ℕ ×ₗ ℕ ×ₗ ℕ ×ₗ ℕ ×ₗ ℕ :=
  toLex (t.year, toLex (t.month, toLex (t.day, toLex (t.hour, toLex (t.minute, t.second)))))

theorem key_injective : Function.Injective key := by
  intro a b h
  have hfields : (a.year, a.month, a.day, a.hour, a.minute, a.second)
      = (b.year, b.month, b.day, b.hour, b.minute, b.second) := h
  simp only [Prod.mk.injEq] at hfields
  obtain ⟨hy, hmo, hd, hh, hmi, hs⟩ := hfields
  exact DateTime.ext hy hmo hd hh hmi hs

instance : LinearOrder DateTime := LinearOrder.lift' key key_injective

theorem lt_iff {a b : DateTime} : a < b ↔
    a.year < b.year ∨ a.year = b.year ∧ (a.month < b.month ∨ a.month = b.month ∧ (a.day < b.day ∨ a.day = b.day ∧
      (a.hour < b.hour ∨ a.hour = b.hour ∧ (a.minute < b.minute ∨ a.minute = b.minute ∧ a.second < b.second)))) := by
  show a.key < b.key ↔ _
  simp only [key, Prod.Lex.toLex_lt_toLex]

lemma secondOfDay_lt (t : DateTime) : t.secondOfDay < 86400 := by
  have hh := t.hour_lt
  have hm := t.minute_lt
  have hs := t.second_lt
  unfold secondOfDay
  omega

lemma dayOfYear_lt_month (t : DateTime) : t.dayOfYear < daysBeforeMonth (isLeapYear t.year) (t.month + 1) := by
  have hpos := t.day_pos
  have hle := t.day_le
  rw [daysBeforeMonth_succ t.month_pos]
  unfold dayOfYear
  omega

lemma dayOfYear_lt (t : DateTime) : t.dayOfYear < yearLength t.year := by
  rw [← daysBeforeMonth_thirteen]
  exact t.dayOfYear_lt_month.trans_le (daysBeforeMonth_mono (Nat.le_add_left 1 _) (by have := t.month_le; omega))

/-- **The later time has more seconds.** -/
theorem seconds_strictMono : StrictMono seconds := by
  intro a b h
  have ha := a.secondOfDay_lt
  -- a field that is later outweighs the ones behind it
  have hday : daysBeforeYear a.year + a.dayOfYear < daysBeforeYear b.year + b.dayOfYear → a.seconds < b.seconds := by
    intro hlt
    unfold seconds
    omega
  rcases lt_iff.mp h with hy | ⟨hy, hmo | ⟨hmo, hd | ⟨hd, htime⟩⟩⟩
  · have hyear := daysBeforeYear_mono (Nat.succ_le_of_lt hy)
    rw [Nat.succ_eq_add_one, daysBeforeYear_succ] at hyear
    have hlt := a.dayOfYear_lt
    exact hday (by omega)
  · have hmonth : daysBeforeMonth (isLeapYear a.year) (a.month + 1) ≤ daysBeforeMonth (isLeapYear a.year) b.month :=
      daysBeforeMonth_mono (Nat.le_add_left 1 a.month) (Nat.succ_le_of_lt hmo)
    have hlt := a.dayOfYear_lt_month
    have hb' : b.dayOfYear = daysBeforeMonth (isLeapYear a.year) b.month + (b.day - 1) := by rw [dayOfYear, hy]
    exact hday (by rw [hy]; omega)
  · have hpos := a.day_pos
    have hlt : a.dayOfYear < b.dayOfYear := by
      unfold dayOfYear
      rw [hy, hmo]
      omega
    exact hday (by rw [hy]; omega)
  · have heq : a.dayOfYear = b.dayOfYear := by rw [dayOfYear, dayOfYear, hy, hmo, hd]
    have hlt : a.secondOfDay < b.secondOfDay := by
      have hm := a.minute_lt
      have hs := a.second_lt
      unfold secondOfDay
      omega
    unfold seconds
    rw [hy, heq]
    omega

end DateTime

end Calendar

end Hal
