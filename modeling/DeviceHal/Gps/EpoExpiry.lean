import DeviceHal.Gps.Epo
import DeviceHal.Gps.EpoConf
import DeviceHal.Gps.UtcTime

/-!
# Whether the orbit data have expired

`mtk_epo_is_expired` compares the current time with the time of the first record of `EPOHAL.DAT` and a number of days.
For the normal check the days depend on what the file covers, for the check on a WiFi connection they are
`wifi_epo_period`, whatever it covers.

**The defects.**  A file that covers less than the WiFi period counts as valid beyond its end, and so does no file at
all while the clock is not set: the time of its first record is then 0.  A file whose first record is later than the
end of its last one counts as valid up to the first.

* `Zone` — what is known of `mktime`.
* `coverageEnd` — the end of the coverage, from the bytes of the last record.
* **`valid_covered_iff`** — when a file that is reported as valid has not ended, at any present.
* `configured_of_run` — the periods that a configuration can set.
-/

namespace Hal.EpoExpiry

open Option Calendar EpoConf

/-! ## The program -/

/-- A time zone, and `mktime` in it: local standard time is `std` seconds ahead of UTC, and daylight saving time `dst`
more, at the time that a date and time of day would be in UTC.  A `time_t` has 32 bits, and -1 says that the time has
none. -/
structure Zone where
  std : ℤ
  dst : ℤ → ℤ
  /-- The fields of a `struct tm`, and whether `tm_isdst` is -1; otherwise it is 0. -/
  mktime : UtcTime → Bool → ℤ
  std_gt : -86400 < std
  std_lt : std < 86400
  dst_nonneg : ∀ u, 0 ≤ dst u
  mktime_eq : ∀ (t : DateTime) (auto : Bool), mktime (.of t) auto =
    let u := t.unix - std - if auto then dst t.unix else 0
    if InInt u then u else -1

/-- A file that a process with 32-bit offsets can open. -/
structure EpoFile where
  bytes : List UInt8
  length_lt : bytes.length < 2147483648

/-- `EPO.DAT` and `EPOHAL.DAT` as far as they exist, and whether the one that is chosen can be opened and locked. -/
structure Files where
  epo : Option EpoFile
  epoHal : Option EpoFile
  opens : Bool
  locks : Bool

/-- The file that is read: `EPOHAL.DAT` if it exists. -/
def Files.chosen (fs : Files) : Option EpoFile :=
  match fs.epoHal, fs.epo with
  | none, none => none
  | some f, _ => if fs.opens ∧ fs.locks then some f else none
  | none, some f => if fs.opens ∧ fs.locks then some f else none

section Program

variable (z : Zone)

/-- `GpsToUtcTime` of the week and the seconds in it, with `mktime`. -/
def gpsToUtcSecond (secs : ℕ) : ℤ :=
  ((gpsToUtcTime (secs / 86400 + 6) (secs / 604800 : ℕ) (secs % 604800)).map (z.mktime · true)).getD 0

/-- `mtk_gps_sys_epo_period_start`, which is `mtk_gps_epo_piece_data_start` on another file. -/
def sysEpoPeriodStart (f : EpoFile) : Option ℤ := EpoState.pieceDataStart (gpsToUtcSecond z) f.bytes

/-- `mtk_gps_sys_epo_period_end`. -/
def sysEpoPeriodEnd (f : EpoFile) : Option ℤ := EpoState.pieceDataEnd (gpsToUtcSecond z) f.bytes

/-- `mtk_gps_epo_file_time_hal`: what is in `uTime[0]` and `uTime[2]`, which were 0. -/
def epoFileTimeHal (fs : Files) : ℤ × ℤ :=
  match fs.chosen with
  | none => (0, 0)
  | some f =>
    match sysEpoPeriodStart z f with
    | none => (0, 0)
    | some start => (start, (sysEpoPeriodEnd z f).getD 0)

def expiredSet (s : Settings) (wifiTragger : Bool) (uTime : ℤ × ℤ) : ℤ :=
  let etime := s.gpsEpoPeriod * 24 * 60 * 60
  if wifiTragger then s.wifiEpoPeriod * 24 * 60 * 60
  else if uTime.2 - uTime.1 < etime then
    let downloadDay := (uTime.2 - uTime.1).tdiv (24 * 60 * 60)
    if downloadDay < 3 then 0
    else if downloadDay < 6 then 2 * 24 * 60 * 60
    else if 6 ≤ downloadDay ∧ downloadDay < 9 then 5 * 24 * 60 * 60
    else if 9 ≤ downloadDay ∧ downloadDay < 12 then 7 * 24 * 60 * 60
    else if 12 ≤ downloadDay ∧ downloadDay < 15 then 7 * 24 * 60 * 60
    else if 15 ≤ downloadDay ∧ downloadDay < 18 then 7 * 24 * 60 * 60
    else if downloadDay ≥ 18 then 7 * 24 * 60 * 60
    else 0
  else etime

/-- `time_utc`, an `unsigned long`: the fields that `gmtime_r` makes of the present, taken by `mktime` as local standard
time. -/
def timeUtc (now : DateTime) : ℤ := z.mktime (.of now) false % 4294967296

/-- `mtk_epo_is_expired`. -/
def mtkEpoIsExpired (s : Settings) (fs : Files) (wifiTragger : Bool) (now : DateTime) : Bool :=
  let uTime := epoFileTimeHal z fs
  decide (timeUtc z now ≥ expiredSet s wifiTragger uTime + uTime.1)

end Program

/-! ## What it is for -/

/-- The hours of a record since the beginning of GPS time, in its first three bytes. -/
def recordHours (record : List UInt8) : ℕ := ofLeBytes (record.take 3)

def lastRecord (bytes : List UInt8) : List UInt8 := bytes.drop (bytes.length - epoOneSvSize)

/-- The end of the coverage: a record is good for six hours. -/
def coverageEnd (bytes : List UInt8) : ℤ := gpsEpoch.unix + 3600 * (recordHours (lastRecord bytes) + 6)

/-- The file that is read, if it has a record. -/
def Files.readable (fs : Files) : Option EpoFile := fs.chosen.filter fun f => epoOneSvSize ≤ f.bytes.length

/-- The periods that a configuration can set. -/
def Configured (s : Settings) : Prop :=
  (s.gpsEpoPeriod = 3 ∨ s.gpsEpoPeriod = 15 ∨ s.gpsEpoPeriod = 30) ∧
    (s.wifiEpoPeriod = 1 ∨ s.wifiEpoPeriod = 3 ∨ s.wifiEpoPeriod = 15 ∨ s.wifiEpoPeriod = 30)

instance (s : Settings) : Decidable (Configured s) := inferInstanceAs (Decidable (_ ∧ _))

/-- At a time that a 32-bit clock can show a file is reported as valid only before the end of its coverage. -/
def ValidIsCovered (z : Zone) (s : Settings) (fs : Files) (wifiTragger : Bool) : Prop :=
  ∀ now : DateTime, 0 ≤ now.unix → now.unix < 2147483648 → mtkEpoIsExpired z s fs wifiTragger now = false →
    ∃ f ∈ fs.readable, now.unix < coverageEnd f.bytes

/-- Where the first record is taken to be, on the scale of UTC: its seconds are counted in 32 bits, daylight saving time
is taken off, and a time that `mktime` cannot return is a second before 1970. -/
def firstRecord (z : Zone) (bytes : List UInt8) : ℤ :=
  let u := gpsEpoch.unix + (3600 * recordHours bytes % 4294967296 : ℕ)
  if InInt (u - z.std - z.dst u) then u - z.dst u else z.std - 1

/-- The days after the first record are within the coverage; a clock that has not reached them yet, in UTC and in local
time, or that ends before the coverage does, cannot tell. -/
def Consistent (z : Zone) (s : Settings) (fs : Files) (wifiTragger : Bool) : Prop :=
  match fs.readable with
  | none => wifiTragger = false
  | some f =>
    let days := if wifiTragger then s.wifiEpoPeriod else 0
    min (firstRecord z f.bytes + days * 86400) (2147483648 + min 0 z.std) ≤ max (coverageEnd f.bytes) (max 0 z.std)

/-! ## Dates -/

variable {secs : ℕ}

lemma inGpsRange_secs (h : secs < 4294967296) : InGpsRange (secs / 604800) (secs % 604800) := by
  unfold InGpsRange
  omega

/-- **The time of a record** is that of the date so many seconds after the beginning of GPS time. -/
theorem gpsToUtcSecond_eq (z : Zone) (h : secs < 4294967296) :
    gpsToUtcSecond z secs =
      let u := gpsEpoch.unix + secs
      if InInt (u - z.std - z.dst u) then u - z.std - z.dst u else -1 := by
  have hfuel : secs / 604800 * 7 + secs % 604800 / 86400 + 5 < secs / 86400 + 6 := by omega
  obtain ⟨t, ht, hseconds⟩ := gpsToUtcTime_seconds (inGpsRange_secs h) hfuel
  have hunix : t.unix = gpsEpoch.unix + secs := by
    unfold DateTime.unix
    omega
  rw [gpsToUtcSecond, ht, map_some, getD_some, z.mktime_eq, hunix]
  rfl

lemma gpsToUtcSecond_lt (z : Zone) (h : secs < 4294967296) : gpsToUtcSecond z secs < 2147483648 := by
  rw [gpsToUtcSecond_eq z h]
  dsimp only
  split_ifs with hint
  · exact hint.2
  · decide

lemma gpsSecs_eq (record : List UInt8) (h : 4 ≤ record.length) :
    gpsSecs record = 3600 * recordHours record % 4294967296 := by
  match record, h with
  | a :: b :: c :: d :: _, _ =>
    have ha := a.toNat_lt
    have hb := b.toNat_lt
    have hc := c.toNat_lt
    have hhours : (a.toNat + 256 * (b.toNat + 256 * (c.toNat + 256 * (d.toNat + 256 * 0)))) % 2 ^ 24
        = a.toNat + 256 * (b.toNat + 256 * (c.toNat + 256 * 0)) := by omega
    simp only [gpsSecs, recordHours, List.take, ofLeBytes]
    rw [hhours, Nat.mul_comm]
    rfl

lemma length_lastRecord {bytes : List UInt8} (h : epoOneSvSize ≤ bytes.length) :
    (lastRecord bytes).length = epoOneSvSize := by
  rw [lastRecord, List.length_drop]
  omega

variable {z : Zone} {bytes : List UInt8}

/-- **The first record** is taken to be where `firstRecord` says. -/
lemma gpsToUtcSecond_first (h : epoOneSvSize ≤ bytes.length) :
    gpsToUtcSecond z (gpsSecs bytes) + z.std = firstRecord z bytes := by
  have hlen : 4 ≤ bytes.length := le_trans (by decide) h
  rw [gpsSecs_eq bytes hlen, gpsToUtcSecond_eq z (Nat.mod_lt _ (by decide)), firstRecord]
  dsimp only
  split_ifs
  · omega
  · omega

/-- **The end of the last record** is taken to be no later than it is, or a second before 1970. -/
lemma gpsToUtcSecond_last (h : epoOneSvSize ≤ bytes.length) :
    gpsToUtcSecond z ((gpsSecs (lastRecord bytes) + 21600) % 2 ^ 32) + z.std ≤ coverageEnd bytes
      ∨ gpsToUtcSecond z ((gpsSecs (lastRecord bytes) + 21600) % 2 ^ 32) = -1 := by
  have hlen : 4 ≤ (lastRecord bytes).length := by
    rw [length_lastRecord h]
    decide
  have hsecs : (gpsSecs (lastRecord bytes) + 21600) % 2 ^ 32 ≤ 3600 * (recordHours (lastRecord bytes) + 6) := by
    rw [gpsSecs_eq _ hlen]
    omega
  have hdst := z.dst_nonneg (gpsEpoch.unix + ((gpsSecs (lastRecord bytes) + 21600) % 2 ^ 32 : ℕ))
  have hlt : (gpsSecs (lastRecord bytes) + 21600) % 2 ^ 32 < 4294967296 := Nat.mod_lt _ (by decide)
  rw [gpsToUtcSecond_eq z hlt, coverageEnd]
  dsimp only
  split_ifs
  · omega
  · exact .inr rfl

variable {fs : Files} {f : EpoFile}

lemma length_of_readable (h : fs.readable = some f) : epoOneSvSize ≤ f.bytes.length :=
  of_decide_eq_true (filter_eq_some_iff.mp h).2

lemma epoFileTimeHal_of_readable (h : fs.readable = some f) :
    epoFileTimeHal z fs = (gpsToUtcSecond z (gpsSecs f.bytes),
      gpsToUtcSecond z ((gpsSecs (lastRecord f.bytes) + 21600) % 2 ^ 32)) := by
  have hlen := not_lt.mpr (length_of_readable h)
  simp only [epoFileTimeHal, (filter_eq_some_iff.mp h).1, sysEpoPeriodStart, sysEpoPeriodEnd,
    EpoState.pieceDataStart, EpoState.pieceDataEnd, if_neg hlen, getD_some, lastRecord]

lemma epoFileTimeHal_of_none (h : fs.readable = none) : epoFileTimeHal z fs = (0, 0) := by
  unfold epoFileTimeHal
  cases hchosen : fs.chosen with
  | none => rfl
  | some f =>
    have hshort : f.bytes.length < epoOneSvSize := by
      simpa [Files.readable, hchosen] using h
    simp only [sysEpoPeriodStart, EpoState.pieceDataStart, if_pos hshort]

/-! ## The present -/

/-- `time_utc` is small only if it is a time that `mktime` returns. -/
lemma timeUtc_lt_iff {now : DateTime} (hpos : 0 ≤ now.unix) (hlt : now.unix < 2147483648) {x : ℤ}
    (hx : x < 4000000000) :
    timeUtc z now < x ↔ 0 ≤ now.unix - z.std ∧ now.unix - z.std < 2147483648 ∧ now.unix - z.std < x := by
  have hlt := z.std_lt
  rw [timeUtc, z.mktime_eq]
  simp only [Bool.false_eq_true, if_false, Int.sub_zero]
  unfold InInt
  split_ifs <;> omega

/-- What is claimed at every present is claimed of the times before `x` that the clock can show. -/
lemma forall_lt_iff (z : Zone) {x e : ℤ} (hx : x < 4000000000) :
    (∀ now : DateTime, 0 ≤ now.unix → now.unix < 2147483648 → timeUtc z now < x → now.unix < e)
      ↔ min (x + z.std) (2147483648 + min 0 z.std) ≤ max e (max 0 z.std) := by
  constructor
  · intro h
    by_contra hno
    -- the first time that is not covered
    obtain ⟨now, hnow⟩ := exists_dateTime (max e (max 0 z.std) + 86400 * daysBeforeYear 1970).toNat
    have hunix : now.unix = max e (max 0 z.std) := by
      rw [DateTime.unix, hnow]
      omega
    have hlt := h now (by omega) (by omega) ((timeUtc_lt_iff (by omega) (by omega) hx).mpr (by omega))
    omega
  · intro h now hpos hlt hnow
    rw [timeUtc_lt_iff hpos hlt hx] at hnow
    omega

/-! ## The days -/

lemma downloadDay_spec (start stop : ℤ) :
    (start ≤ stop → (stop - start).tdiv (24 * 60 * 60) * 86400 ≤ stop - start) ∧
      (stop < start → (stop - start).tdiv (24 * 60 * 60) ≤ 0) := by
  constructor
  · intro hle
    rw [Int.tdiv_eq_ediv_of_nonneg (by omega)]
    omega
  · intro hlt
    have hneg : stop - start = -(start - stop) := by omega
    rw [hneg, Int.neg_tdiv, Int.tdiv_eq_ediv_of_nonneg (by omega)]
    omega

/-- The days of the normal check: those of the period if the file covers them, and otherwise none or fewer than it
covers. -/
lemma expiredSet_cases (s : Settings) (start stop : ℤ) :
    (s.gpsEpoPeriod * 24 * 60 * 60 ≤ stop - start
        ∧ expiredSet s false (start, stop) = s.gpsEpoPeriod * 24 * 60 * 60) ∨
      expiredSet s false (start, stop) = 0 ∨
      (3 ≤ (stop - start).tdiv (24 * 60 * 60)
        ∧ expiredSet s false (start, stop) ≤ (stop - start).tdiv (24 * 60 * 60) * 86400) := by
  unfold expiredSet
  dsimp only
  rw [if_neg Bool.false_ne_true]
  by_cases hlong : stop - start < s.gpsEpoPeriod * 24 * 60 * 60
  · right
    generalize (stop - start).tdiv (24 * 60 * 60) = downloadDay
    split_ifs <;> omega
  · rw [if_neg hlong]
    exact .inl ⟨not_lt.mp hlong, rfl⟩

variable {s : Settings}

lemma expiredSet_le (hs : Configured s) (wifiTragger : Bool) (uTime : ℤ × ℤ) :
    expiredSet s wifiTragger uTime ≤ 2592000 := by
  have hperiods := hs
  unfold Configured at hperiods
  unfold expiredSet
  dsimp only
  split_ifs <;> omega

/-- **The normal check** stays within the coverage of a file that does not end before it starts, and compares with the
start of one that does. -/
lemma expiredSet_spec (hs : Configured s) (start stop : ℤ) :
    (start ≤ stop → start + expiredSet s false (start, stop) ≤ stop) ∧
      (stop < start → expiredSet s false (start, stop) = 0) := by
  obtain ⟨hle, hlt⟩ := downloadDay_spec start stop
  have hperiod := hs.1
  rcases expiredSet_cases s start stop with ⟨hlong, hset⟩ | hset | ⟨hdays, hset⟩
  · omega
  · omega
  · constructor
    · intro horder
      omega
    · intro horder
      omega

/-- `e` is the end of the coverage, or 0 if there is none. -/
lemma validIsCovered_iff {wifiTragger : Bool} (hs : Configured s) {uTime : ℤ × ℤ} (huTime : epoFileTimeHal z fs = uTime)
    (hstart : uTime.1 < 2147483648) {e : ℤ}
    (he : ∀ u : ℤ, 0 ≤ u → ((∃ f ∈ fs.readable, u < coverageEnd f.bytes) ↔ u < e)) :
    ValidIsCovered z s fs wifiTragger ↔
      min (expiredSet s wifiTragger uTime + uTime.1 + z.std) (2147483648 + min 0 z.std) ≤ max e (max 0 z.std) := by
  have hset := expiredSet_le hs wifiTragger uTime
  rw [← forall_lt_iff z (by omega)]
  unfold ValidIsCovered mtkEpoIsExpired
  rw [huTime]
  refine forall_congr' fun now => forall_congr' fun hpos => forall_congr' fun hlt => ?_
  rw [he _ hpos, decide_eq_false_iff_not, not_le]

/-- **A file that is reported as valid covers the present**, at every time, iff its coverage is as the check takes it
to be. -/
theorem valid_covered_iff (z : Zone) (s : Settings) (fs : Files) (wifiTragger : Bool) (hs : Configured s) :
    ValidIsCovered z s fs wifiTragger ↔ Consistent z s fs wifiTragger := by
  have hgt := z.std_gt
  have hlt := z.std_lt
  have hperiods := hs.2
  unfold Consistent
  cases hfile : fs.readable with
  | none =>
    -- at the first time that the clock shows nothing has expired on a WiFi connection
    rw [validIsCovered_iff hs (epoFileTimeHal_of_none hfile) (by decide) (e := 0) fun u hu => by simp [hfile, hu]]
    cases wifiTragger with
    | true =>
      simp only [expiredSet, if_true, Bool.true_eq_false, iff_false]
      omega
    | false =>
      have hset := (expiredSet_spec hs 0 0).1 le_rfl
      simp only [iff_true]
      omega
  | some f =>
    have hlen := length_of_readable hfile
    have hfirst := gpsToUtcSecond_first (z := z) hlen
    have hlast := gpsToUtcSecond_last (z := z) hlen
    rw [validIsCovered_iff hs (epoFileTimeHal_of_readable hfile) (gpsToUtcSecond_lt z (Nat.mod_lt _ (by decide)))
      (e := coverageEnd f.bytes) fun u hu => by simp [hfile]]
    generalize gpsToUtcSecond z (gpsSecs f.bytes) = start at hfirst
    generalize gpsToUtcSecond z ((gpsSecs (lastRecord f.bytes) + 21600) % 2 ^ 32) = stop at hlast
    cases wifiTragger with
    | true =>
      simp only [expiredSet, if_true]
      omega
    | false =>
      obtain ⟨hle, hlt⟩ := expiredSet_spec hs start stop
      simp only [Bool.false_eq_true, if_false, Int.zero_mul, Int.add_zero]
      omega

/-- The zone whose local time is UTC. -/
def utcZone : Zone where
  std := 0
  dst _ := 0
  mktime t _ :=
    let days := daysBeforeYear t.yr + (daysBeforeMonth (isLeapYear t.yr) t.mo + (t.day - 1))
    let seconds : ℤ := (86400 * days + (3600 * t.hr + 60 * t.min + t.sec) : ℕ) - 86400 * daysBeforeYear 1970
    if InInt seconds then seconds else -1
  std_gt := by decide
  std_lt := by decide
  dst_nonneg _ := le_rfl
  mktime_eq t auto := by
    simp only [ite_self, Int.sub_zero]
    rfl

/-! ## The periods of a configuration -/

lemma configured_put (hs : Configured s) (k : Key) (v : ℤ) :
    Configured (s.put (if k.Allowed v then v else k.fallback) k) := by
  obtain ⟨hgps, hwifi⟩ := hs
  cases k with
  | epoEnable | dwDays | epoWifiTrigger => exact ⟨hgps, hwifi⟩
  | gpsEpoPeriod =>
    refine ⟨?_, hwifi⟩
    simp only [Settings.put, Key.Allowed, Key.fallback]
    split_ifs <;> omega
  | wifiEpoPeriod =>
    refine ⟨hgps, ?_⟩
    simp only [Settings.put, Key.Allowed, Key.fallback]
    split_ifs <;> omega

variable {buf : List UInt8} {s' : Settings}

lemma configured_branch {key val : ℕ} {k : Key}
    (h : branch buf key val s k = .ok s') (hs : Configured s) : Configured s' := by
  simp only [branch, bind, Except.bind, pure, Except.pure] at h
  split at h
  · cases h
  split_ifs at h
  · split at h
    · cases h
    split at h
    · cases h
    · cases h
      exact configured_put hs k _
  · cases h
    exact hs

lemma configured_branches {key val : ℕ} {ks : List Key}
    (h : ks.foldlM (branch buf key val) s = .ok s') (hs : Configured s) : Configured s' := by
  induction ks generalizing s with
  | nil =>
    cases h
    exact hs
  | cons k ks ih =>
    rw [List.foldlM_cons] at h
    cases hk : branch buf key val s k with
    | error e =>
      rw [hk] at h
      cases h
    | ok s₁ =>
      rw [hk] at h
      exact ih h (configured_branch hk hs)

lemma configured_readLoop {fuel : ℕ} {file : List UInt8} {ret : ℤ}
    (h : readLoop fuel buf file s = some (.ok (s', ret))) (hs : Configured s) : Configured s' := by
  fun_induction readLoop fuel buf file s with
  | case1 | case3 | case6 => cases h
  | case2 =>
    cases h
    exact hs
  | case4 =>
    cases h
    exact hs
  | case5 _ _ _ _ _ _ _ _ _ ih => exact ih h hs
  | case7 _ _ _ _ _ _ _ _ _ _ _ _ hbranches ih => exact ih h (configured_branches hbranches hs)

/-- **Every configuration** leaves periods that are among the ones it knows, whatever the file. -/
theorem configured_of_run {fuel : ℕ} {file : Option (List UInt8)} {ret : ℤ}
    (h : gpsDownloadEpoEnable fuel file s = some (.ok (s', ret))) (hs : Configured s) : Configured s' := by
  cases file with
  | none =>
    cases h
    exact hs
  | some file => exact configured_readLoop h hs

/-- A single record, of the beginning of GPS time. -/
def oneRecord : Files := ⟨none, some ⟨List.replicate 72 0, by decide⟩, true, true⟩

/-- The normal check of a single record. -/
theorem valid_covered_oneRecord :
    Configured ⟨1, 30, 3, 1, 0⟩ ∧ ValidIsCovered utcZone ⟨1, 30, 3, 1, 0⟩ oneRecord false := by
  refine ⟨by decide, (valid_covered_iff utcZone ⟨1, 30, 3, 1, 0⟩ oneRecord false (by decide)).mpr ?_⟩
  show min (firstRecord utcZone (List.replicate 72 0) + 0 * 86400) _ ≤ max (coverageEnd (List.replicate 72 0)) _
  decide +kernel

/-- Seven hours after the beginning of GPS time. -/
def sevenHours : DateTime := { gpsEpoch with hour := 7, hour_lt := by decide }

/-- A single record is good for six hours, and on a WiFi connection counts as valid for a day. -/
theorem wifi_valid_after_end :
    mtkEpoIsExpired utcZone ⟨1, 30, 3, 1, 0⟩ oneRecord true sevenHours = false ∧
      ¬ ValidIsCovered utcZone ⟨1, 30, 3, 1, 0⟩ oneRecord true := by
  have hvalid : mtkEpoIsExpired utcZone ⟨1, 30, 3, 1, 0⟩ oneRecord true sevenHours = false := by decide +kernel
  refine ⟨hvalid, fun h => ?_⟩
  obtain ⟨f, hf, hlt⟩ := h sevenHours (by decide +kernel) (by decide +kernel) hvalid
  cases hf
  exact absurd hlt (by decide +kernel)

end Hal.EpoExpiry
