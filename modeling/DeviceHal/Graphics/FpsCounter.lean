import Mathlib.Algebra.BigOperators.Group.List.Basic
import Mathlib.Algebra.Order.Ring.Int
import DeviceHal.Core.Machine

/-!
# Frames per second

`FpsCounter::update` is given the time of a frame.  It counts the intervals between frames and keeps the longest and the
shortest; once the counting window, which began at `mLastLogTime`, is longer than `mCountInterval`, it reports and a new
window begins.  If a time is not later than the one before, the window begins again at that time.

**The defect.**  Beginning the window again leaves the counters as they are: what was counted before is reported as part
of a window it does not lie in.

* `FpsRun` — the counter with the intervals of the window and those that are counted and lie before it.
* `Tracks` — a running extreme, which is -1 as long as there is nothing.
* **`reports_right_iff`** — every report is right **iff** the intervals counted before its window make no difference:
  none is longer or shorter than all in the window, and their number is a multiple of 2³², where the counter wraps.
-/

namespace Hal

open List

/-- `FpsCounter`.  `mFps` is given by the count and the duration it is computed from. -/
structure FpsCounter where
  mFps : ℕ × ℤ
  mMaxDuration : ℤ
  mMinDuration : ℤ
  mMaxDurationCounting : ℤ
  mMinDurationCounting : ℤ
  mFrames : ℕ
  mLastLogTime : ℤ
  mLastLogDuration : ℤ
  mLastTime : ℤ
  mLastDuration : ℤ
  mCountInterval : ℤ

namespace FpsCounter

/-- `reset`, with the interval that the property gives. -/
def reset (mCountInterval : ℤ) : FpsCounter where
  mFps := (0, 1)
  mMaxDuration := -1
  mMinDuration := -1
  mMaxDurationCounting := -1
  mMinDurationCounting := -1
  mFrames := 0
  mLastLogTime := -1
  mLastLogDuration := -1
  mLastTime := -1
  mLastDuration := -1
  mCountInterval := mCountInterval

/-- The first test of `update`: the window begins at this time. -/
def Restarts (c : FpsCounter) (timestamp : ℤ) : Prop :=
  c.mLastLogTime = -1 ∨ c.mLastTime = -1 ∨ c.mLastTime ≥ timestamp

instance (c : FpsCounter) (timestamp : ℤ) : Decidable (c.Restarts timestamp) :=
  inferInstanceAs (Decidable (_ ∨ _ ∨ _))

/-- The differences that `update` computes are of type `nsecs_t`, of 64 bits. -/
def CanSubtract (c : FpsCounter) (timestamp : ℤ) : Prop :=
  c.Restarts timestamp ∨
    timestamp - c.mLastTime < 9223372036854775808 ∧ timestamp - c.mLastLogTime < 9223372036854775808

instance (c : FpsCounter) (timestamp : ℤ) : Decidable (c.CanSubtract timestamp) :=
  inferInstanceAs (Decidable (_ ∨ _ ∧ _))

/-- `update` up to the second test: the frame is counted. -/
def count (c : FpsCounter) (timestamp : ℤ) : FpsCounter :=
  let mLastDuration := timestamp - c.mLastTime
  { c with
    mFrames := (c.mFrames + 1) % 4294967296
    mLastDuration := mLastDuration
    mLastTime := timestamp
    mMaxDurationCounting :=
      if c.mMaxDurationCounting = -1 ∨ mLastDuration > c.mMaxDurationCounting then mLastDuration
      else c.mMaxDurationCounting
    mMinDurationCounting :=
      if c.mMinDurationCounting = -1 ∨ mLastDuration < c.mMinDurationCounting then mLastDuration
      else c.mMinDurationCounting }

def report (c : FpsCounter) (timestamp : ℤ) : FpsCounter :=
  { c with
    mFps := (c.mFrames, timestamp - c.mLastLogTime)
    mLastLogDuration := timestamp - c.mLastLogTime
    mMaxDuration := c.mMaxDurationCounting
    mMinDuration := c.mMinDurationCounting
    mFrames := 0
    mLastLogTime := timestamp
    mMaxDurationCounting := -1
    mMinDurationCounting := -1 }

def update (c : FpsCounter) (timestamp : ℤ) : Bool × FpsCounter :=
  if c.Restarts timestamp then (false, { c with mLastLogTime := timestamp, mLastTime := timestamp })
  else if timestamp - c.mLastLogTime > c.mCountInterval then (true, (c.count timestamp).report timestamp)
  else (false, c.count timestamp)

/-- What a report has to say of the intervals of its window. -/
structure RightFor (c : FpsCounter) (window : List ℤ) : Prop where
  frames : c.mFps.1 = window.length
  fps_duration : c.mFps.2 = window.sum
  duration : c.mLastLogDuration = window.sum
  max : c.mMaxDuration ∈ window ∧ ∀ d ∈ window, d ≤ c.mMaxDuration
  min : c.mMinDuration ∈ window ∧ ∀ d ∈ window, c.mMinDuration ≤ d

end FpsCounter

/-- A counter with ghosts: the intervals since `mLastLogTime`, the newest first (`window`), those that were counted
since the last report and lie before it (`stale`), and the window of the report, if the last update made one. -/
structure FpsRun where
  counter : FpsCounter
  window : List ℤ
  stale : List ℤ
  reported : Option (List ℤ)

namespace FpsRun

def next (s : FpsRun) (timestamp : ℤ) : FpsRun :=
  let window := (timestamp - s.counter.mLastTime) :: s.window
  if s.counter.Restarts timestamp then ⟨(s.counter.update timestamp).2, [], s.window ++ s.stale, none⟩
  else if (s.counter.update timestamp).1 = true then ⟨(s.counter.update timestamp).2, [], [], some window⟩
  else ⟨(s.counter.update timestamp).2, window, s.stale, none⟩

def step (s : FpsRun) (timestamp : ℤ) : Option FpsRun :=
  if s.counter.CanSubtract timestamp then some (s.next timestamp) else none

def start (mCountInterval : ℤ) : FpsRun := ⟨.reset mCountInterval, [], [], none⟩

/-- If the last update reported, the report is right. -/
def ReportOk (s : FpsRun) : Prop := ∀ window ∈ s.reported, s.counter.RightFor window

end FpsRun

/-- The intervals counted before the window make no difference to a report. -/
structure Unnoticed (window stale : List ℤ) : Prop where
  window_lt : window.length < 4294967296
  dvd_stale : 4294967296 ∣ stale.length
  not_longest : ∀ d ∈ stale, ∃ e ∈ window, d ≤ e
  not_shortest : ∀ d ∈ stale, ∃ e ∈ window, e ≤ d

/-- If an update reports, the intervals counted before its window make no difference. -/
def FpsRun.Regular (s : FpsRun) (timestamp : ℤ) : Prop :=
  (s.counter.update timestamp).1 = true → Unnoticed ((timestamp - s.counter.mLastTime) :: s.window) s.stale

/-! ## Running extremes -/

/-- `m` is an extreme of the list, or -1 if there is nothing in it. -/
def Tracks (r : ℤ → ℤ → Prop) (l : List ℤ) (m : ℤ) : Prop := (l = [] ∧ m = -1) ∨ (m ∈ l ∧ ∀ d ∈ l, r d m)

section Tracks

variable {r : ℤ → ℤ → Prop} {l l' : List ℤ} {m d : ℤ}

/-- **One more interval.** -/
lemma Tracks.cons [Std.Total r] [IsTrans ℤ r] [DecidableRel r] (hpos : ∀ d ∈ l, 0 < d) (h : Tracks r l m) :
    Tracks r (d :: l) (if m = -1 ∨ ¬ r d m then d else m) := by
  have hrefl : r d d := (Std.Total.total d d).elim id id
  rcases h with ⟨rfl, rfl⟩ | ⟨hmem, hall⟩
  · exact .inr ⟨by simp, by simpa using hrefl⟩
  · have hne : m ≠ -1 := fun h => by
      have hm := hpos m hmem
      omega
    right
    by_cases hle : r d m
    · rw [if_neg (not_or.mpr ⟨hne, not_not.mpr hle⟩)]
      exact ⟨mem_cons_of_mem d hmem, forall_mem_cons.mpr ⟨hle, hall⟩⟩
    · have hge : r m d := (Std.Total.total d m).resolve_left hle
      rw [if_pos (.inr hle)]
      exact ⟨mem_cons_self, forall_mem_cons.mpr ⟨hrefl, fun e he => IsTrans.trans e m d (hall e he) hge⟩⟩

/-- **An extreme of two lists is one of the first** iff nothing in the second goes beyond it. -/
lemma Tracks.left_iff [Std.Antisymm r] (hne : l ≠ []) (h : Tracks r (l ++ l') m) :
    (m ∈ l ∧ ∀ d ∈ l, r d m) ↔ ∀ d ∈ l', ∃ e ∈ l, r d e := by
  rcases h with ⟨hnil, -⟩ | ⟨hmem, hall⟩
  · exact absurd (append_eq_nil_iff.mp hnil).1 hne
  constructor
  · rintro ⟨hm, -⟩ d hd
    exact ⟨m, hm, hall d (mem_append_right l hd)⟩
  · intro hbelow
    have hm : m ∈ l := by
      rcases mem_append.mp hmem with hm | hm
      · exact hm
      · obtain ⟨e, he, hme⟩ := hbelow m hm
        obtain rfl : e = m := Std.Antisymm.antisymm e m (hall e (mem_append_left l' he)) hme
        exact he
    exact ⟨hm, fun d hd => hall d (mem_append_left l' hd)⟩

end Tracks

/-! ## What the counters have -/

namespace FpsRun

/-- The counters have what was counted since the last report, and the window is as long as its intervals. -/
structure Inv (s : FpsRun) : Prop where
  frames : s.counter.mFrames = (s.window.length + s.stale.length) % 4294967296
  max : Tracks (· ≤ ·) (s.window ++ s.stale) s.counter.mMaxDurationCounting
  min : Tracks (· ≥ ·) (s.window ++ s.stale) s.counter.mMinDurationCounting
  pos : ∀ d ∈ s.window ++ s.stale, 0 < d
  sum : s.window.sum = s.counter.mLastTime - s.counter.mLastLogTime

lemma inv_start (mCountInterval : ℤ) : (start mCountInterval).Inv where
  frames := rfl
  max := Or.inl ⟨rfl, rfl⟩
  min := Or.inl ⟨rfl, rfl⟩
  pos _ hd := absurd hd not_mem_nil
  sum := rfl

variable {s : FpsRun}

lemma Inv.count (h : s.Inv) {timestamp : ℤ} (hnot : ¬ s.counter.Restarts timestamp) :
    (⟨s.counter.count timestamp, (timestamp - s.counter.mLastTime) :: s.window, s.stale, none⟩ : FpsRun).Inv where
  frames := by
    show (s.counter.mFrames + 1) % 4294967296 = (s.window.length + 1 + s.stale.length) % 4294967296
    rw [h.frames]
    omega
  max := by
    have hmax := h.max.cons h.pos (d := timestamp - s.counter.mLastTime)
    simp only [not_le] at hmax
    exact hmax
  min := by
    have hmin := h.min.cons h.pos (d := timestamp - s.counter.mLastTime)
    simp only [ge_iff_le, not_le] at hmin
    exact hmin
  pos := by
    refine forall_mem_cons.mpr ⟨?_, h.pos⟩
    have hlt : s.counter.mLastTime < timestamp := not_le.mp fun hge => hnot (.inr (.inr hge))
    omega
  sum := by
    show ((timestamp - s.counter.mLastTime) :: s.window).sum = timestamp - s.counter.mLastLogTime
    rw [sum_cons, h.sum]
    omega

/-- What an update can do: begin the window again, count, or count and report. -/
lemma next_cases (s : FpsRun) (timestamp : ℤ) :
    (s.counter.Restarts timestamp ∧ (s.counter.update timestamp).1 = false
        ∧ s.next timestamp
          = ⟨{ s.counter with mLastLogTime := timestamp, mLastTime := timestamp }, [], s.window ++ s.stale, none⟩)
      ∨ (¬ s.counter.Restarts timestamp ∧ (s.counter.update timestamp).1 = false
        ∧ s.next timestamp
          = ⟨s.counter.count timestamp, (timestamp - s.counter.mLastTime) :: s.window, s.stale, none⟩)
      ∨ (¬ s.counter.Restarts timestamp ∧ (s.counter.update timestamp).1 = true
        ∧ s.next timestamp
          = ⟨(s.counter.count timestamp).report timestamp, [], [],
              some ((timestamp - s.counter.mLastTime) :: s.window)⟩) := by
  unfold next FpsCounter.update
  by_cases hrestart : s.counter.Restarts timestamp
  · simp [hrestart]
  · by_cases hlong : timestamp - s.counter.mLastLogTime > s.counter.mCountInterval
    · simp [hrestart, hlong]
    · simp [hrestart, hlong]

lemma Inv.next (h : s.Inv) (timestamp : ℤ) : (s.next timestamp).Inv := by
  obtain ⟨-, -, hnext⟩ | ⟨hnot, -, hnext⟩ | ⟨-, -, hnext⟩ := s.next_cases timestamp
  · rw [hnext]
    exact
      { frames := by rw [h.frames, length_append]; simp
        max := h.max
        min := h.min
        pos := h.pos
        sum := by simp }
  · rw [hnext]
    exact h.count hnot
  · rw [hnext]
    exact
      { frames := rfl
        max := .inl ⟨rfl, rfl⟩
        min := .inl ⟨rfl, rfl⟩
        pos := fun d hd => absurd hd not_mem_nil
        sum := (sub_self timestamp).symm }

/-! ## Reports -/

/-- **A report is right** iff the intervals counted before its window make no difference. -/
lemma Inv.rightFor_report_iff (h : s.Inv) (hne : s.window ≠ []) :
    (s.counter.report s.counter.mLastTime).RightFor s.window ↔ Unnoticed s.window s.stale := by
  have hmax := h.max.left_iff hne
  have hmin := h.min.left_iff hne
  constructor
  · intro hright
    have hframes : (s.window.length + s.stale.length) % 4294967296 = s.window.length :=
      h.frames.symm.trans hright.frames
    exact ⟨by omega, by omega, hmax.mp hright.max, hmin.mp hright.min⟩
  · intro hun
    have hlt := hun.window_lt
    obtain ⟨k, hk⟩ := hun.dvd_stale
    refine ⟨?_, h.sum.symm, h.sum.symm, hmax.mpr hun.not_longest, hmin.mpr hun.not_shortest⟩
    show s.counter.mFrames = s.window.length
    rw [h.frames]
    omega

lemma Inv.reportOk_next_iff (h : s.Inv) (timestamp : ℤ) : (s.next timestamp).ReportOk ↔ s.Regular timestamp := by
  unfold ReportOk Regular
  obtain ⟨-, hquiet, hnext⟩ | ⟨-, hquiet, hnext⟩ | ⟨hnot, hreport, hnext⟩ := s.next_cases timestamp
  · rw [hnext, hquiet]
    exact iff_of_true (by simp) (by simp)
  · rw [hnext, hquiet]
    exact iff_of_true (by simp) (by simp)
  · have hiff : ((s.counter.count timestamp).report timestamp).RightFor ((timestamp - s.counter.mLastTime) :: s.window)
        ↔ Unnoticed ((timestamp - s.counter.mLastTime) :: s.window) s.stale :=
      (h.count hnot).rightFor_report_iff (cons_ne_nil _ _)
    rw [hnext, hreport]
    simpa using hiff

/-- **The reports of the counter.**  For any interval and any times whose differences fit, repeated and decreasing ones
included, every report has the number, the duration, the longest and the shortest of the intervals of its window iff at
every report the intervals counted before the window make no difference. -/
theorem reports_right_iff (mCountInterval : ℤ) (timestamps : List ℤ)
    (hrun : run step (start mCountInterval) timestamps = some s) :
    Along step ReportOk (start mCountInterval) timestamps
      ↔ StepsMeet step Regular (start mCountInterval) timestamps := by
  refine along_iff_stepsMeet (I := fun s => s.Inv ∧ s.ReportOk) ?_ (fun s h => h.2) ?_
    ⟨inv_start mCountInterval, fun window hwindow => absurd hwindow (by simp [start])⟩ hrun
  · intro s t s' h hregular hs'
    obtain ⟨-, rfl⟩ := Option.ite_some_none_eq_some.mp hs'
    exact ⟨h.1.next t, (h.1.reportOk_next_iff t).mpr hregular⟩
  · intro s t s' h hirregular hs' hok
    obtain ⟨-, rfl⟩ := Option.ite_some_none_eq_some.mp hs'
    exact hirregular ((h.1.reportOk_next_iff t).mp hok)

/-- Three frames, with a report at the last. -/
theorem reports_right_threeFrames :
    ∃ s, run step (start 1000000000) [0, 10, 2000000000000] = some s ∧ s.reported = some [1999999999990, 10]
      ∧ Along step ReportOk (start 1000000000) [0, 10, 2000000000000] := by
  refine ⟨_, rfl, rfl, (reports_right_iff 1000000000 _ rfl).mpr ?_⟩
  exact stepsMeet_cons rfl (absurd · (by decide)) <| stepsMeet_cons rfl (absurd · (by decide)) <|
    stepsMeet_cons rfl (fun _ => ⟨by decide, by decide, by decide, by decide⟩) trivial

/-- **The defect**: the frames at 0 and 10 are before the window that begins at 5.  The report at 2000 seconds counts
two intervals, the shortest of 10, where there is one, of 1999999999995. -/
theorem stale_interval_reported :
    (run step (start 1000000000) [0, 10, 5, 2000000000000]).map
        (fun s => (s.reported, s.counter.mFps.1, s.counter.mMinDuration))
      = some (some [1999999999995], 2, 10)
      ∧ ¬ Along step ReportOk (start 1000000000) [0, 10, 5, 2000000000000] := by
  refine ⟨by decide, fun halong => ?_⟩
  obtain ⟨-, h⟩ := halong
  obtain ⟨-, h⟩ := h _ rfl
  obtain ⟨-, h⟩ := h _ rfl
  obtain ⟨-, h⟩ := h _ rfl
  have hframes : (2 : ℕ) = 1 := (h _ rfl [1999999999995] (by decide)).frames
  exact absurd hframes (by decide)

end FpsRun

end Hal
