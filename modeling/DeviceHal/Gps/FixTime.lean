import DeviceHal.Gps.Str2int

/-!
# Date and time of a fix

`nmea_reader_update_date` takes the date of an `RMC` sentence apart in three numbers of two characters, keeps them
in the reader and goes on to `nmea_reader_update_time`, which makes the timestamp of the fix out of them and of the
time of day.  The functions of the C library on which the timestamp depends are a parameter.

**The defect.**  -1 from `str2int` is the mark of a failure, but the year is looked at after 2000 was added to it:
any two characters are a year.  And a `-` is no failure of `str2int`: `-0` is a day, and a month.

* `str2int_pair` — what two characters give.
* **`date_updated_iff`** — when a date is kept or refused as it should be.
-/

namespace Hal

open List

namespace Nmea

/-! ## The program -/

/-- `struct tm`, the fields that are filled in. -/
structure Tm where
  year : ℤ
  mon : ℤ
  mday : ℤ
  hour : ℤ
  min : ℤ
  sec : ℤ

/-- What the C library says: the date that `gmtime_r` makes of the current time; `mktime`, which also normalizes its
argument; `tm_gmtoff` of `localtime_r`; and the whole seconds that `strtod` reads. -/
structure Libc where
  today : Tm
  mktime : Tm → Tm × ℤ
  gmtoff : ℤ → ℤ
  strtod : List UInt8 → ℤ

/-- The fields of `NmeaReader` for the date, and the timestamp of its fix. -/
structure FixTime where
  utcYear : ℤ
  utcMon : ℤ
  utcDay : ℤ
  timestamp : ℤ
deriving DecidableEq

/-- The whole seconds of `str2float`; its buffer has 16 characters. -/
def str2float (libc : Libc) (tok : List UInt8) : ℤ := if tok.length ≥ 16 then 0 else libc.strtod tok

/-- The current date, if there is none yet. -/
def FixTime.withDate (libc : Libc) (r : FixTime) : FixTime :=
  if r.utcYear < 0 then
    { r with utcYear := libc.today.year + 1900, utcMon := libc.today.mon + 1, utcDay := libc.today.mday }
  else r

/-- `nmea_reader_update_time`, with what it returns. -/
def nmeaReaderUpdateTime (libc : Libc) (text : List UInt8) (r : FixTime) : Token → Except Undefined (FixTime × ℤ)
  | .dummy => .ok (r, -1)
  | .part p e =>
    if p + 6 > e then .ok (r, -1)
    else do
      let r := r.withDate libc
      let hour ← str2int text p (p + 2)
      let minute ← str2int text (p + 2) (p + 4)
      let seconds := str2float libc (slice text (p + 4) (e - (p + 4)))
      -- the first `mktime` is there to log a failure; the second one gets what it has made of `tm`
      let tm := (libc.mktime ⟨r.utcYear - 1900, r.utcMon - 1, r.utcDay, hour, minute, seconds⟩).1
      let fixTime := (libc.mktime tm).2
      .ok ({ r with timestamp := wrapInt (fixTime + libc.gmtoff fixTime) * 1000 }, 0)

/-- `nmea_reader_update_date`.  The sign of `day|mon|year` is that of any of the three. -/
def nmeaReaderUpdateDate (libc : Libc) (text : List UInt8) (r : FixTime) (date time : Token) :
    Except Undefined (FixTime × ℤ) :=
  match date with
  | .dummy => .ok (r, -1)
  | .part p e =>
    if p + 6 ≠ e then .ok (r, -1)
    else do
      let day ← str2int text p (p + 2)
      let mon ← str2int text (p + 2) (p + 4)
      let yy ← str2int text (p + 4) (p + 6)
      let year := yy + 2000
      if day < 0 ∨ mon < 0 ∨ year < 0 then .ok (r, -1)
      else nmeaReaderUpdateTime libc text { r with utcYear := year, utcMon := mon, utcDay := day } time

/-! ## What it is for -/

def Token.Within (text : List UInt8) : Token → Prop
  | dummy => True
  | part p e => p ≤ e ∧ e ≤ text.length

instance (text : List UInt8) : DecidablePred (Token.Within text)
  | .dummy => isTrue trivial
  | .part _ _ => inferInstanceAs (Decidable (_ ∧ _))

def SixDigits (chars : List UInt8) : Prop := chars.length = 6 ∧ AllDigits chars

instance (chars : List UInt8) : Decidable (SixDigits chars) := inferInstanceAs (Decidable (_ ∧ _))

def FixTime.setDate (r : FixTime) (chars : List UInt8) : FixTime :=
  { r with
    utcDay := decimal (chars.take 2)
    utcMon := decimal ((chars.drop 2).take 2)
    utcYear := 2000 + decimal (chars.drop 4) }

/-- **What is to be done with a date**: six digits are kept, and the time of day is gone on with; anything else changes
nothing and is an error. -/
def DateUpdated (libc : Libc) (text : List UInt8) (r : FixTime) (date time : Token) : Prop :=
  if SixDigits (date.chars text) then
    ∃ r' ret, nmeaReaderUpdateDate libc text r date time = .ok (r', ret) ∧
      nmeaReaderUpdateTime libc text (r.setDate (date.chars text)) time = .ok (r', ret) ∧
      r' = { r.setDate (date.chars text) with timestamp := r'.timestamp }
  else nmeaReaderUpdateDate libc text r date time = .ok (r, -1)

def PairPasses (a b : UInt8) : Prop := (isDigit a = true ∧ isDigit b = true) ∨ (a = 45 ∧ b = 48)

instance (a b : UInt8) : Decidable (PairPasses a b) := inferInstanceAs (Decidable (_ ∨ _))

/-- Six characters that are not six digits and are taken all the same: the first and the second pair pass. -/
def Slips (chars : List UInt8) : Prop :=
  chars.length = 6 ∧ PairPasses (chars.getD 0 0) (chars.getD 1 0) ∧ PairPasses (chars.getD 2 0) (chars.getD 3 0) ∧
    ¬ AllDigits chars

instance : DecidablePred Slips := fun _ => inferInstanceAs (Decidable (_ ∧ _ ∧ _ ∧ ¬ _))

/-! ## Two characters -/

/-- What `str2int` makes of two characters. -/
def pairValue (a b : UInt8) : ℤ := if Numeral [a, b] then numeralValue [a, b] else -1

lemma leadingDigits_pair (a b : UInt8) : decimal (leadingDigits [a, b]) < 100 := by
  have hdigits : AllDigits (leadingDigits [a, b]) := fun c hc => mem_takeWhile_imp hc
  have hlen : (leadingDigits [a, b]).length ≤ 2 := by
    refine (takeWhile_sublist _).length_le.trans ?_
    unfold unsignedPart
    split_ifs <;> simp
  calc decimal (leadingDigits [a, b]) < (0 + 1) * 10 ^ (leadingDigits [a, b]).length := decimalFrom_lt hdigits 0
    _ ≤ (0 + 1) * 10 ^ 2 := Nat.mul_le_mul_left _ (Nat.pow_le_pow_right (by decide) hlen)
    _ = 100 := by decide

variable {a b : UInt8}

lemma str2int_pair {text rest : List UInt8} {p : ℕ} (htext : text.drop p = a :: b :: rest) :
    str2int text p (p + 2) = .ok (pairValue a b) := by
  have hle := leadingDigits_pair a b
  have he : p + [a, b].length = p + 2 := rfl
  exact str2int_of_le he htext (by simp) (hle.le.trans (by decide))

lemma pairValue_of_digits (ha : isDigit a = true) (hb : isDigit b = true) : pairValue a b = decimal [a, b] := by
  have hminus : a ≠ 45 := by
    rintro rfl
    exact absurd ha (by decide)
  have hpart : unsignedPart [a, b] = [a, b] := by simp [unsignedPart, hminus]
  have hnumeral : Numeral [a, b] := by
    unfold Numeral
    rw [hpart]
    simp [ha, hb]
  rw [pairValue, if_pos hnumeral, numeralValue, hpart, if_neg (by simp [hminus])]

lemma pairValue_minus (b : UInt8) : pairValue 45 b = if isDigit b = true then -((b.toNat - 48 : ℕ) : ℤ) else -1 := by
  have hpart : unsignedPart [45, b] = [b] := rfl
  have hnumeral : Numeral [45, b] ↔ isDigit b = true := by
    unfold Numeral
    rw [hpart]
    simp
  have hvalue : numeralValue [45, b] = -((b.toNat - 48 : ℕ) : ℤ) := by
    rw [numeralValue, hpart, if_pos (List.head?_cons ..), decimal, decimalFrom_cons, zero_mul, zero_add]
    rfl
  rw [pairValue, hvalue]
  exact if_congr hnumeral rfl rfl

lemma pairValue_of_not_numeral (hminus : a ≠ 45) (h : ¬ (isDigit a = true ∧ isDigit b = true)) :
    pairValue a b = -1 := by
  refine if_neg fun hnumeral => h ?_
  have hpart : unsignedPart [a, b] = [a, b] := by simp [unsignedPart, hminus]
  unfold Numeral at hnumeral
  rw [hpart] at hnumeral
  exact ⟨hnumeral a (by simp), hnumeral b (by simp)⟩

/-- **Which pairs are no failure.** -/
lemma pairValue_nonneg_iff (a b : UInt8) : 0 ≤ pairValue a b ↔ PairPasses a b := by
  unfold PairPasses
  by_cases hdigits : isDigit a = true ∧ isDigit b = true
  · rw [pairValue_of_digits hdigits.1 hdigits.2]
    exact iff_of_true (Int.natCast_nonneg _) (.inl hdigits)
  · rw [or_iff_right hdigits]
    by_cases hminus : a = 45
    · subst hminus
      rw [pairValue_minus, and_iff_right rfl, ← UInt8.toNat_inj]
      by_cases hb : isDigit b = true
      · have hrange := (isDigit_iff b).mp hb
        rw [if_pos hb]
        show 0 ≤ -((b.toNat - 48 : ℕ) : ℤ) ↔ b.toNat = 48
        omega
      · rw [if_neg hb]
        refine iff_of_false (by decide) fun h => hb ((isDigit_iff b).mpr ?_)
        rw [h]
        decide
    · rw [pairValue_of_not_numeral hminus hdigits]
      exact iff_of_false (by decide) fun h => hminus h.1

lemma pairValue_ge (a b : UInt8) : -2000 < pairValue a b := by
  by_cases hdigits : isDigit a = true ∧ isDigit b = true
  · rw [pairValue_of_digits hdigits.1 hdigits.2]
    omega
  · by_cases hminus : a = 45
    · have hb := b.toNat_lt
      subst hminus
      rw [pairValue_minus]
      split_ifs <;> omega
    · rw [pairValue_of_not_numeral hminus hdigits]
      decide

/-! ## The two functions -/

section Update

variable {libc : Libc} {text : List UInt8} {p : ℕ}

lemma exists_pair (h : p + 2 ≤ text.length) : ∃ a b, text.drop p = a :: b :: text.drop (p + 2) := by
  refine ⟨text[p], text[p + 1], ?_⟩
  rw [drop_eq_getElem_cons (by omega : p < text.length),
    drop_eq_getElem_cons (by omega : p + 1 < text.length)]

variable {r : FixTime} {time : Token}

/-- **The time of day** is read without a failure, and where there is a date it stays. -/
lemma updateTime_ok (hyear : 0 ≤ r.utcYear) (htime : time.Within text) :
    ∃ r' ret, nmeaReaderUpdateTime libc text r time = .ok (r', ret) ∧ r' = { r with timestamp := r'.timestamp } := by
  cases time with
  | dummy => exact ⟨r, -1, rfl, rfl⟩
  | part p e =>
    by_cases hshort : p + 6 > e
    · exact ⟨r, -1, if_pos hshort, rfl⟩
    · have hlen := htime.2
      obtain ⟨h₁, h₂, hhour⟩ := exists_pair (by omega : p + 2 ≤ text.length)
      obtain ⟨m₁, m₂, hminute⟩ := exists_pair (by omega : p + 2 + 2 ≤ text.length)
      rw [nmeaReaderUpdateTime, if_neg hshort, str2int_pair hhour]
      rw [str2int_pair hminute, FixTime.withDate, if_neg (not_lt.mpr hyear)]
      exact ⟨_, 0, rfl, rfl⟩

/-- **The date**, by its six characters: the year has no say in it. -/
lemma updateDate_of_six {d₁ d₂ m₁ m₂ y₁ y₂ : UInt8} {rest : List UInt8}
    (htext : text.drop p = d₁ :: d₂ :: m₁ :: m₂ :: y₁ :: y₂ :: rest) :
    nmeaReaderUpdateDate libc text r (.part p (p + 6)) time =
      if PairPasses d₁ d₂ ∧ PairPasses m₁ m₂ then
        nmeaReaderUpdateTime libc text
          { r with utcYear := pairValue y₁ y₂ + 2000, utcMon := pairValue m₁ m₂, utcDay := pairValue d₁ d₂ } time
      else .ok (r, -1) := by
  have hmon : text.drop (p + 2) = m₁ :: m₂ :: y₁ :: y₂ :: rest := by rw [← drop_drop, htext]; rfl
  have hyear : text.drop (p + 4) = y₁ :: y₂ :: rest := by rw [← drop_drop, htext]; rfl
  have hyy := pairValue_ge y₁ y₂
  rw [nmeaReaderUpdateDate, if_neg (by simp), str2int_pair htext]
  rw [str2int_pair hmon]
  rw [str2int_pair hyear]
  show (if pairValue d₁ d₂ < 0 ∨ pairValue m₁ m₂ < 0 ∨ pairValue y₁ y₂ + 2000 < 0 then _ else _) = _
  have hday := pairValue_nonneg_iff d₁ d₂
  have hmonth := pairValue_nonneg_iff m₁ m₂
  by_cases hpass : PairPasses d₁ d₂ ∧ PairPasses m₁ m₂
  · rw [if_pos hpass, if_neg]
    have hd := hday.mpr hpass.1
    have hm := hmonth.mpr hpass.2
    omega
  · rw [if_neg hpass, if_pos]
    rw [← hday, ← hmonth] at hpass
    omega

lemma exists_six {e : ℕ} (hin : Token.Within text (.part p e)) (hlen : (Token.chars text (.part p e)).length = 6) :
    e = p + 6 ∧ ∃ d₁ d₂ m₁ m₂ y₁ y₂, Token.chars text (.part p e) = [d₁, d₂, m₁, m₂, y₁, y₂] ∧
      text.drop p = d₁ :: d₂ :: m₁ :: m₂ :: y₁ :: y₂ :: text.drop (p + 6) := by
  rcases hin with ⟨hp, he⟩
  have hend : e = p + 6 := by
    rw [Token.chars, length_slice (by omega)] at hlen
    omega
  subst hend
  obtain ⟨d₁, d₂, hd⟩ := exists_pair (by omega : p + 2 ≤ text.length)
  obtain ⟨m₁, m₂, hm⟩ := exists_pair (by omega : p + 2 + 2 ≤ text.length)
  obtain ⟨y₁, y₂, hy⟩ := exists_pair (by omega : p + 4 + 2 ≤ text.length)
  have hdrop : text.drop p = d₁ :: d₂ :: m₁ :: m₂ :: y₁ :: y₂ :: text.drop (p + 6) := by rw [hd, hm, hy]
  refine ⟨rfl, d₁, d₂, m₁, m₂, y₁, y₂, ?_, hdrop⟩
  rw [Token.chars, slice, hdrop, Nat.add_sub_cancel_left]
  rfl

/-- **Six digits** are a date. -/
lemma dateUpdated_of_sixDigits {date : Token} (hdate : date.Within text) (htime : time.Within text)
    (hsix : SixDigits (date.chars text)) : DateUpdated libc text r date time := by
  rw [DateUpdated, if_pos hsix]
  cases date with
  | dummy => exact absurd hsix.1 (Nat.zero_ne_add_one 5)
  | part p e =>
    obtain ⟨rfl, d₁, d₂, m₁, m₂, y₁, y₂, hchars, htext⟩ := exists_six hdate hsix.1
    rw [hchars] at hsix ⊢
    have hdigits := hsix.2
    simp only [allDigits_cons] at hdigits
    obtain ⟨hd₁, hd₂, hm₁, hm₂, hy₁, hy₂, -⟩ := hdigits
    have hyear : 0 ≤ (r.setDate [d₁, d₂, m₁, m₂, y₁, y₂]).utcYear := by
      dsimp only [FixTime.setDate]
      omega
    obtain ⟨r', ret, hret, hr'⟩ := updateTime_ok hyear htime
    refine ⟨r', ret, ?_, hret, hr'⟩
    rw [updateDate_of_six htext, if_pos ⟨.inl ⟨hd₁, hd₂⟩, .inl ⟨hm₁, hm₂⟩⟩, pairValue_of_digits hd₁ hd₂,
      pairValue_of_digits hm₁ hm₂, pairValue_of_digits hy₁ hy₂, add_comm]
    exact hret

lemma dateUpdated_of_not_slips {date : Token} (hdate : date.Within text)
    (hsix : ¬ SixDigits (date.chars text)) (hslips : ¬ Slips (date.chars text)) :
    DateUpdated libc text r date time := by
  rw [DateUpdated, if_neg hsix]
  cases date with
  | dummy => rfl
  | part p e =>
    by_cases hlen : (Token.chars text (.part p e)).length = 6
    · obtain ⟨rfl, d₁, d₂, m₁, m₂, y₁, y₂, hchars, htext⟩ := exists_six hdate hlen
      rw [updateDate_of_six htext, if_neg]
      rw [hchars] at hsix hslips
      exact fun hpass => hslips ⟨rfl, hpass.1, hpass.2, fun hall => hsix ⟨rfl, hall⟩⟩
    · refine if_pos fun hend => hlen ?_
      rw [Token.chars, length_slice (by have := hdate.2; omega)]
      omega

end Update

def quietLibc : Libc := ⟨⟨0, 0, 0, 0, 0, 0⟩, fun tm => (tm, 0), fun _ => 0, fun _ => 0⟩

lemma not_dateUpdated_of_slips {text : List UInt8} {date : Token} (hdate : date.Within text)
    (hslips : Slips (date.chars text)) : ¬ DateUpdated quietLibc text ⟨0, 0, 0, 0⟩ date .dummy := by
  cases date with
  | dummy => exact absurd hslips.1 (Nat.zero_ne_add_one 5)
  | part p e =>
    obtain ⟨rfl, d₁, d₂, m₁, m₂, y₁, y₂, hchars, htext⟩ := exists_six hdate hslips.1
    have hsix : ¬ SixDigits (Token.chars text (.part p (p + 6))) := fun hsix => hslips.2.2.2 hsix.2
    rw [hchars] at hslips
    rw [DateUpdated, if_neg hsix, updateDate_of_six htext, if_pos ⟨hslips.2.1, hslips.2.2.1⟩]
    intro hrefused
    have hyear : pairValue y₁ y₂ + 2000 = 0 := congrArg (fun x => x.1.utcYear) (Except.ok.inj hrefused)
    have hyy := pairValue_ge y₁ y₂
    omega

/-- **Dates are kept and refused as they should**, for every reader, every time token and every behaviour of the
library, iff the date token is not one that slips through. -/
theorem date_updated_iff (text : List UInt8) (date : Token) (hdate : date.Within text) :
    (∀ (libc : Libc) (r : FixTime) (time : Token), time.Within text → DateUpdated libc text r date time) ↔
      ¬ Slips (date.chars text) := by
  constructor
  · intro hall hslips
    exact not_dateUpdated_of_slips hdate hslips (hall quietLibc ⟨0, 0, 0, 0⟩ .dummy trivial)
  · intro hslips libc r time htime
    by_cases hsix : SixDigits (date.chars text)
    · exact dateUpdated_of_sixDigits hdate htime hsix
    · exact dateUpdated_of_not_slips hdate hsix hslips

/-- The date `010223`. -/
theorem date_updated_first_february :
    Token.Within [48, 49, 48, 50, 50, 51] (.part 0 6) ∧
      ∀ (libc : Libc) (r : FixTime), DateUpdated libc [48, 49, 48, 50, 50, 51] r (.part 0 6) .dummy :=
  ⟨by decide, fun libc r =>
    (date_updated_iff [48, 49, 48, 50, 50, 51] (.part 0 6) (by decide)).mpr (by decide) libc r .dummy trivial⟩

/-- The date `0102xx` is taken for the first of February 1999. -/
theorem letters_are_a_year :
    nmeaReaderUpdateDate quietLibc [48, 49, 48, 50, 120, 120] ⟨2023, 7, 9, 5⟩ (.part 0 6) .dummy
        = .ok (⟨1999, 2, 1, 5⟩, -1) ∧
      ¬ DateUpdated quietLibc [48, 49, 48, 50, 120, 120] ⟨2023, 7, 9, 5⟩ (.part 0 6) .dummy := by
  refine (and_iff_left_of_imp fun hdate => ?_).mpr (by decide)
  rw [DateUpdated, if_neg (by decide), hdate]
  decide

end Nmea

end Hal
