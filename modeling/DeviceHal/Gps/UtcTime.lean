import Mathlib.Tactic.NormNum
import DeviceHal.Core.Calendar

/-!
# GPS time as a date

`GpsToUtcTime` makes a date and a time of day out of a GPS week and the seconds in it.  It counts the days since the
beginning of 1980, takes off a year as long as there is one, and looks the month up in a table of the days before each.
The leap years are told by the years since 1980: of the hundreds the one is 20.

* **`gpsToUtcTime_exact`** — the result is the date in the Gregorian calendar.
-/

namespace Hal

open List Option Calendar

/-! ## The program -/

/-- The variables `pi2Yr`, `pi2Mo`, `pi2Day`, `pi2Hr`, `pi2Min` and `pdfSec`. -/
structure UtcTime where
  yr : ℕ
  mo : ℕ
  day : ℕ
  hr : ℕ
  min : ℕ
  sec : ℕ
deriving DecidableEq

/-- The `while` loop, at most `fuel` times its condition; `none` if that is not enough. -/
def yearLoop : ℕ → ℕ → ℕ → Option (ℕ × ℕ)
  | 0, _, _ => none
  | fuel + 1, iYearsElapsed, iDaysElapsed =>
    if iDaysElapsed ≥ 365 then
      if iYearsElapsed % 100 = 20 then
        if iYearsElapsed % 400 = 20 then
          if iDaysElapsed ≥ 366 then yearLoop fuel (iYearsElapsed + 1) (iDaysElapsed - 366)
          else some (iYearsElapsed, iDaysElapsed)
        else yearLoop fuel (iYearsElapsed + 1) (iDaysElapsed - 365)
      else if iYearsElapsed % 4 = 0 then
        if iDaysElapsed ≥ 366 then yearLoop fuel (iYearsElapsed + 1) (iDaysElapsed - 366)
        else some (iYearsElapsed, iDaysElapsed)
      else yearLoop fuel (iYearsElapsed + 1) (iDaysElapsed - 365)
    else some (iYearsElapsed, iDaysElapsed)

def fgLeapYear (iYearsElapsed : ℕ) : Bool :=
  if iYearsElapsed % 100 = 20 then decide (iYearsElapsed % 400 = 20) else decide (iYearsElapsed % 4 = 0)

/-- `doy`: one more from March on in a leap year. -/
def doy (leap : Bool) : List ℕ :=
  let table := [0, 31, 59, 90, 120, 151, 181, 212, 243, 273, 304, 334]
  if leap then table.mapIdx fun i d => if 2 ≤ i then d + 1 else d else table

/-- The first month that the day is before, or the end of the table. -/
def monthOf (leap : Bool) (days : ℕ) : ℕ := (doy leap).findIdx fun d => days < d

def daysElapsed (i2Wn : ℤ) (tow : ℕ) : ℕ := ((i2Wn * 7 + (tow / 86400 : ℕ) + 5) % 2 ^ 32).toNat

/-- `GpsToUtcTime` up to `mktime`, for a whole number of seconds.  `dfSecElapsed / 3600` is a quotient of doubles; as
both are whole numbers below 2^53 its whole part is that of the exact quotient. -/
def gpsToUtcTime (fuel : ℕ) (i2Wn : ℤ) (tow : ℕ) : Option UtcTime :=
  (yearLoop fuel 0 (daysElapsed i2Wn tow)).map fun (iYearsElapsed, iDaysElapsed) =>
    let table := doy (fgLeapYear iYearsElapsed)
    let i := monthOf (fgLeapYear iYearsElapsed) iDaysElapsed
    let dfSecElapsed := tow - tow / 86400 * 86400
    { yr := 1980 + iYearsElapsed
      mo := i
      day := if i > 0 then iDaysElapsed - table.getD (i - 1) 0 + 1 else 0
      hr := dfSecElapsed / 3600
      min := dfSecElapsed % 3600 / 60
      sec := dfSecElapsed - dfSecElapsed / 60 * 60 }

/-! ## Years -/

lemma fgLeapYear_eq (k : ℕ) : fgLeapYear k = isLeapYear (1980 + k) := by
  unfold fgLeapYear isLeapYear
  split_ifs with h
  · rw [decide_eq_decide]
    omega
  · rw [decide_eq_decide]
    omega

/-- The rounds of a year of 366 days: on its last day the loop is left in the middle. -/
lemma leave_or_take {α : Type} {d : ℕ} (stay go : α) :
    (if d ≥ 365 then (if d ≥ 366 then go else stay) else stay) = if d < 366 then stay else go := by
  split_ifs with h365 h366 hlt hlt
  · omega
  · rfl
  · rfl
  · omega
  · rfl
  · omega

lemma yearLoop_succ (fuel k d : ℕ) :
    yearLoop (fuel + 1) k d =
      if d < yearLength (1980 + k) then some (k, d) else yearLoop fuel (k + 1) (d - yearLength (1980 + k)) := by
  have hcommon : ∀ (stay go : Option (ℕ × ℕ)), (if d ≥ 365 then go else stay) = if d < 365 then stay else go := by
    intro stay go
    split_ifs <;> first | rfl | omega
  rw [yearLength, ← fgLeapYear_eq, yearLoop, fgLeapYear]
  by_cases h100 : k % 100 = 20
  · by_cases h400 : k % 400 = 20
    · simp only [h100, h400, if_true, decide_true]
      exact leave_or_take _ _
    · simp only [h100, h400, if_true, if_false, decide_false, Bool.false_eq_true]
      exact hcommon _ _
  · by_cases h4 : k % 4 = 0
    · simp only [h100, h4, if_true, if_false, decide_true]
      exact leave_or_take _ _
    · simp only [h100, h4, if_false, decide_false, Bool.false_eq_true]
      exact hcommon _ _

/-- **The loop ends**, and takes the years of the calendar off. -/
lemma yearLoop_ok {fuel k d : ℕ} (hfuel : d < fuel) :
    ∃ k' d', yearLoop fuel k d = some (k', d') ∧ d' < yearLength (1980 + k') ∧
      daysBeforeYear (1980 + k) + d = daysBeforeYear (1980 + k') + d' := by
  induction fuel generalizing k d with
  | zero => exact absurd hfuel (Nat.not_lt_zero d)
  | succ fuel ih =>
    rw [yearLoop_succ]
    split_ifs with hlt
    · exact ⟨k, d, rfl, hlt, rfl⟩
    · have hpos : 365 ≤ yearLength (1980 + k) := by
        unfold yearLength
        split_ifs <;> omega
      obtain ⟨k', d', hloop, hd', hdays⟩ := ih (k := k + 1) (d := d - yearLength (1980 + k)) (by omega)
      refine ⟨k', d', hloop, hd', ?_⟩
      rw [← hdays, ← Nat.add_assoc, daysBeforeYear_succ]
      omega

/-! ## Months -/

lemma doy_eq (leap : Bool) : doy leap = (List.range 12).map fun i => daysBeforeMonth leap (i + 1) := by
  cases leap with
  | true => decide
  | false => decide

lemma doy_getElem? (leap : Bool) {i : ℕ} (hi : i < 12) : (doy leap)[i]? = some (daysBeforeMonth leap (i + 1)) := by
  rw [doy_eq, getElem?_map, getElem?_range hi, map_some]

lemma length_doy (leap : Bool) : (doy leap).length = 12 := by
  rw [doy_eq, length_map, length_range]

/-- **The month** of a day of the year: the table is that of the calendar. -/
lemma monthOf_ok {leap : Bool} {d : ℕ} (hd : d < daysBeforeMonth leap 13) :
    1 ≤ monthOf leap d ∧ monthOf leap d ≤ 12 ∧ daysBeforeMonth leap (monthOf leap d) ≤ d ∧
      d < daysBeforeMonth leap (monthOf leap d + 1) := by
  have hlen : monthOf leap d ≤ 12 := by
    have hle : monthOf leap d ≤ (doy leap).length := findIdx_le_length
    rwa [length_doy] at hle
  -- the months before are over
  have hbefore : ∀ j < monthOf leap d, daysBeforeMonth leap (j + 1) ≤ d := by
    intro j hj
    have hmonth := doy_getElem? leap (hj.trans_le hlen)
    obtain ⟨hlt, hget⟩ := List.getElem?_eq_some_iff.mp hmonth
    have hnot := not_of_lt_findIdx hj
    rw [hget] at hnot
    simpa using hnot
  have hpos : 1 ≤ monthOf leap d := by
    by_contra hzero
    have hfound : (doy leap)[monthOf leap d]? = some 0 := by
      rw [show monthOf leap d = 0 by omega, doy_getElem? leap (by omega)]
      rfl
    have hlt := findIdx_of_getElem?_eq_some hfound
    simp at hlt
  refine ⟨hpos, hlen, ?_, ?_⟩
  · have hle := hbefore (monthOf leap d - 1) (by omega)
    rwa [Nat.sub_add_cancel hpos] at hle
  · by_cases hlast : monthOf leap d = 12
    · rw [hlast]
      exact hd
    · have hlt := findIdx_of_getElem?_eq_some (doy_getElem? leap (lt_of_le_of_ne hlen hlast))
      exact of_decide_eq_true hlt

/-! ## The date -/

def UtcTime.of (t : DateTime) : UtcTime := ⟨t.year, t.month, t.day, t.hour, t.minute, t.second⟩

theorem UtcTime.of_injective : Function.Injective UtcTime.of := by
  intro a b h
  simp only [UtcTime.of, UtcTime.mk.injEq] at h
  obtain ⟨hy, hmo, hd, hh, hmi, hs⟩ := h
  exact DateTime.ext hy hmo hd hh hmi hs

def gpsEpoch : DateTime := ⟨1980, 1, 6, 0, 0, 0, by decide, by decide, by decide, by decide, by decide, by decide, by decide⟩

/-- A time of week, in a week whose days an `int` counts. -/
def InGpsRange (wn tow : ℕ) : Prop := tow < 604800 ∧ wn * 7 + tow / 86400 + 5 < 2147483648

instance (wn tow : ℕ) : Decidable (InGpsRange wn tow) := inferInstanceAs (Decidable (_ ∧ _))

lemma daysElapsed_eq {wn tow : ℕ} (h : InGpsRange wn tow) : daysElapsed wn tow = wn * 7 + tow / 86400 + 5 := by
  have hlt := h.2
  unfold daysElapsed
  omega

lemma secElapsed (tow : ℕ) :
    tow - tow / 86400 * 86400 < 86400 ∧ 86400 * (tow / 86400) + (tow - tow / 86400 * 86400) = tow := by
  omega

lemma day_eq {leap : Bool} {d i : ℕ} (hpos : 1 ≤ i) (hle : i ≤ 12) :
    (if i > 0 then d - (doy leap).getD (i - 1) 0 + 1 else 0) = d - daysBeforeMonth leap i + 1 := by
  have hmonth := doy_getElem? leap (by omega : i - 1 < 12)
  rw [Nat.sub_add_cancel hpos] at hmonth
  have hi : i > 0 := hpos
  rw [if_pos hi, getD_eq_getElem?_getD, hmonth, getD_some]

/-- The date of a day of the year `y` and a second of the day, out of the same operations. -/
def dateAt {y d s : ℕ} (hd : d < daysBeforeMonth (isLeapYear y) 13) (hs : s < 86400) : DateTime where
  year := y
  month := monthOf (isLeapYear y) d
  day := d - daysBeforeMonth (isLeapYear y) (monthOf (isLeapYear y) d) + 1
  hour := s / 3600
  minute := s % 3600 / 60
  second := s - s / 60 * 60
  month_pos := (monthOf_ok hd).1
  month_le := (monthOf_ok hd).2.1
  day_pos := Nat.le_add_left 1 _
  day_le := by
    obtain ⟨hpos, -, hmonth, hnext⟩ := monthOf_ok hd
    rw [daysBeforeMonth_succ hpos] at hnext
    omega
  hour_lt := by omega
  minute_lt := by omega
  second_lt := by omega

lemma seconds_dateAt {y d s : ℕ} (hd : d < daysBeforeMonth (isLeapYear y) 13) (hs : s < 86400) :
    (dateAt hd hs).seconds = 86400 * (daysBeforeYear y + d) + s := by
  have hday : (dateAt hd hs).dayOfYear = d := by
    exact Nat.add_sub_of_le (monthOf_ok hd).2.2.1
  have hsecond : (dateAt hd hs).secondOfDay = s := by
    show 3600 * (s / 3600) + 60 * (s % 3600 / 60) + (s - s / 60 * 60) = s
    omega
  have hyear : (dateAt hd hs).year = y := rfl
  rw [DateTime.seconds, hday, hsecond, hyear]

/-- Every second is that of some date. -/
lemma exists_dateTime (n : ℕ) : ∃ t : DateTime, t.seconds = n := by
  obtain ⟨y, d, hd, hdays⟩ := exists_year (n / 86400)
  rw [← daysBeforeMonth_thirteen] at hd
  refine ⟨dateAt hd (Nat.mod_lt n (by decide)), ?_⟩
  rw [seconds_dateAt, hdays, Nat.div_add_mod]

lemma seconds_gpsEpoch : gpsEpoch.seconds = 86400 * (daysBeforeYear 1980 + 5) := by
  have hjanuary : gpsEpoch.dayOfYear = 5 := by decide
  have hmidnight : gpsEpoch.secondOfDay = 0 := rfl
  have hyear : gpsEpoch.year = 1980 := rfl
  rw [DateTime.seconds, hjanuary, hmidnight, hyear, Nat.add_zero]

/-- **The result is a date**, so many seconds after the beginning of GPS time. -/
theorem gpsToUtcTime_seconds {wn tow fuel : ℕ} (h : InGpsRange wn tow) (hfuel : wn * 7 + tow / 86400 + 5 < fuel) :
    ∃ t : DateTime, gpsToUtcTime fuel wn tow = some (.of t) ∧ t.seconds = gpsEpoch.seconds + (wn * 604800 + tow) := by
  obtain ⟨k, d, hloop, hd, hdays⟩ := yearLoop_ok (k := 0) hfuel
  rw [← daysBeforeMonth_thirteen] at hd
  rw [Nat.add_zero] at hdays
  obtain ⟨hpos, hle, -, -⟩ := monthOf_ok hd
  obtain ⟨hsec, htow⟩ := secElapsed tow
  generalize hs : tow - tow / 86400 * 86400 = s at hsec htow
  refine ⟨dateAt hd hsec, ?_, ?_⟩
  · rw [gpsToUtcTime, daysElapsed_eq h, hloop, map_some, hs]
    simp only [fgLeapYear_eq, day_eq hpos hle]
    rfl
  · rw [seconds_dateAt, seconds_gpsEpoch, ← hdays]
    omega

/-- **GPS time as a date**: for every week and time of week the loop ends, the variables are those of a date of the
Gregorian calendar so many seconds after the sixth of January 1980, and an earlier time has an earlier date. -/
theorem gpsToUtcTime_exact (wn tow fuel : ℕ) (h : InGpsRange wn tow) (hfuel : wn * 7 + tow / 86400 + 5 < fuel) :
    ∃ t : DateTime, gpsToUtcTime fuel wn tow = some (.of t) ∧
      t.seconds = gpsEpoch.seconds + (wn * 604800 + tow) ∧
      ∀ wn' tow' fuel' : ℕ, InGpsRange wn' tow' → wn' * 7 + tow' / 86400 + 5 < fuel' →
        ∀ t' : DateTime, gpsToUtcTime fuel' wn' tow' = some (.of t') →
          (wn' < wn ∨ wn' = wn ∧ tow' < tow) → t' < t := by
  obtain ⟨t, ht, hseconds⟩ := gpsToUtcTime_seconds h hfuel
  refine ⟨t, ht, hseconds, ?_⟩
  intro wn' tow' fuel' h' hfuel' t' ht' hlt
  obtain ⟨u, hu, hseconds'⟩ := gpsToUtcTime_seconds h' hfuel'
  have heq : t' = u := UtcTime.of_injective (Option.some.inj (ht'.symm.trans hu))
  subst heq
  have hweek := h'.1
  refine DateTime.seconds_strictMono.lt_iff_lt.mp ?_
  omega

/-- The last second of the leap year 2000 is in week 1095. -/
theorem gpsToUtcTime_endOf2000 :
    gpsToUtcTime 7672 1095 86399 = some ⟨2000, 12, 31, 23, 59, 59⟩ ∧
      ∃ t : DateTime, gpsToUtcTime 7672 1095 86399 = some (.of t) ∧
        t.seconds = gpsEpoch.seconds + (1095 * 604800 + 86399) := by
  obtain ⟨t, ht, hseconds, -⟩ := gpsToUtcTime_exact 1095 86399 7672 (by decide) (by decide)
  exact ⟨by decide +kernel, t, ht, hseconds⟩

end Hal
