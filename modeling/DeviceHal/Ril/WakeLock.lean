import DeviceHal.Core.Machine

/-!
# The partial wake lock

While answers are on their way to the client the daemon holds a kernel wake lock.  Every
`grabPartialWakeLock` counts one up and queues a timeout that gives the lock back if the client
never does; the timeout before it is *superseded*, which the code records by setting its
`userParam`.  Only `s_last_wake_timeout_info` still knows the newest timeout, by address.

The timeout entries are kept by address; `superseded` is a ghost that says what `userParam` is
meant to say.  `userTimerCallback` has two ways: it runs the callback itself, or hands the entry to
the vendor's `enqueue`, which runs it later and does not clear `s_last_wake_timeout_info`.  Which
one is taken depends on whether the enumeration `RILChannelId` is signed, so `direct` is a
parameter and both are modelled.

**The defect.**  If the timeout entry cannot be allocated, `grabPartialWakeLock` releases the kernel
lock — also when earlier grabs still count on it.  `wakeLock_ok_iff`: the lock is held exactly while
the count is positive, all along a run, **iff** no grab breaks `GrabOk`.
-/

namespace Hal

open Option Function

/-- `UserCallbackInfo` of a wake timeout.  `userParam` is `userParam != NULL`; `enqueued` says that
the vendor's queue has it. -/
structure WakeTimeout where
  userParam : Bool
  enqueued : Bool
  superseded : Bool

/-- The kernel lock, the counter, and the timeouts that have not run, by address. -/
structure WakeState where
  wakeLock : Bool
  sWakelockCount : ℕ
  sLastWakeTimeoutInfo : Option ℕ
  timeouts : ℕ → Option WakeTimeout

inductive WakeAct where
  | grabPartialWakeLock (pInfo : Option ℕ)
  | releaseWakeLock
  | userTimerCallback (pInfo : ℕ)
  | proxyCallback (pInfo : ℕ)

namespace WakeState

def init : WakeState := ⟨false, 0, none, fun _ => none⟩

/-- Ghost: whatever is queued now is superseded. -/
def supersede (s : WakeState) : WakeState :=
  { s with timeouts := fun a => (s.timeouts a).map fun t => { t with superseded := true } }

/-- `if (s_last_wake_timeout_info != NULL) s_last_wake_timeout_info->userParam = (void *)1`. -/
def cancelLast (s : WakeState) : WakeState :=
  match s.sLastWakeTimeoutInfo with
  | none => s
  | some last =>
    { s with
      timeouts := update s.timeouts last
        ((s.timeouts last).map fun t => { t with userParam := true }) }

/-- `internalRequestTimedCallback(wakeTimeoutCallback, NULL, …)`, with the address it gets. -/
def internalRequestTimedCallback (s : WakeState) (pInfo : ℕ) : WakeState :=
  { s with timeouts := update s.timeouts pInfo (some ⟨false, false, false⟩) }

/-- `grabPartialWakeLock`; `none` is a failed allocation. -/
def grabPartialWakeLock (version : ℕ) (s : WakeState) (pInfo : Option ℕ) : WakeState :=
  if version ≥ 13 then
    let s := { s with wakeLock := true }
    match pInfo with
    | none => { s with wakeLock := false }
    | some pInfo =>
      let s := s.supersede.internalRequestTimedCallback pInfo
      let s := { s with sWakelockCount := s.sWakelockCount + 1 }
      let s := s.cancelLast
      { s with sLastWakeTimeoutInfo := some pInfo }
  else { s with wakeLock := true }

def releaseWakeLock (version : ℕ) (s : WakeState) : WakeState :=
  if version ≥ 13 then
    if s.sWakelockCount > 1 then { s with sWakelockCount := s.sWakelockCount - 1 }
    else
      let s := { s.supersede with sWakelockCount := 0, wakeLock := false }
      s.cancelLast
  else { s with wakeLock := false }

/-- `wakeTimeoutCallback`; `param` is `param != NULL`. -/
def wakeTimeoutCallback (version : ℕ) (s : WakeState) (param : Bool) : WakeState :=
  if version ≥ 13 then
    if param = false then { s with sWakelockCount := 0, wakeLock := false } else s
  else if param = false then s.releaseWakeLock version else s

/-- `free(p_info)`. -/
def free (s : WakeState) (pInfo : ℕ) : WakeState :=
  { s with timeouts := update s.timeouts pInfo none }

def userTimerCallback (version : ℕ) (direct : Bool) (s : WakeState) (pInfo : ℕ) (t : WakeTimeout) : WakeState :=
  if direct then
    let s := s.wakeTimeoutCallback version t.userParam
    let s :=
      if s.sLastWakeTimeoutInfo = some pInfo then { s with sLastWakeTimeoutInfo := none } else s
    s.free pInfo
  else
    { s with timeouts := update s.timeouts pInfo (some { t with enqueued := true }) }

/-- `int`: beyond that the increment has no defined result. -/
def CanCount (s : WakeState) : Prop := s.sWakelockCount < 2147483647

instance (s : WakeState) : Decidable s.CanCount := inferInstanceAs (Decidable (_ < _))

/-- One action.  `calloc` does not return an address that is in use; a timeout runs once, from the
event loop or from the vendor's queue, which frees it. -/
def step (version : ℕ) (direct : Bool) (s : WakeState) : WakeAct → Option WakeState
  | .grabPartialWakeLock none => some (s.grabPartialWakeLock version none)
  | .grabPartialWakeLock (some pInfo) =>
    if s.timeouts pInfo = none ∧ s.CanCount then some (s.grabPartialWakeLock version (some pInfo)) else none
  | .releaseWakeLock => some (s.releaseWakeLock version)
  | .userTimerCallback pInfo =>
    match s.timeouts pInfo with
    | some t => if t.enqueued = false then some (s.userTimerCallback version direct pInfo t) else none
    | none => none
  | .proxyCallback pInfo =>
    match s.timeouts pInfo with
    | some t =>
      if t.enqueued then some ((s.wakeTimeoutCallback version t.userParam).free pInfo) else none
    | none => none

/-! ## What the lock is for -/

/-- The kernel lock is held exactly while the count is positive; then exactly one timeout is
uncancelled, the last one; and a superseded timeout does nothing when it runs. -/
structure Ok (version : ℕ) (s : WakeState) : Prop where
  held_iff : s.wakeLock = true ↔ 0 < s.sWakelockCount
  one_timeout : 0 < s.sWakelockCount → ∃ last, s.sLastWakeTimeoutInfo = some last
    ∧ ∀ a, a = last ↔ ∃ t, s.timeouts a = some t ∧ t.userParam = false
  superseded_quiet : ∀ a t, s.timeouts a = some t → t.superseded = true →
    s.wakeTimeoutCallback version t.userParam = s

/-- A grab whose allocation fails meets a count of zero, and one that succeeds does not get the
address that `s_last_wake_timeout_info` still holds. -/
def GrabOk (s : WakeState) : WakeAct → Prop
  | .grabPartialWakeLock none => s.sWakelockCount = 0
  | .grabPartialWakeLock (some pInfo) => s.sLastWakeTimeoutInfo ≠ some pInfo
  | _ => True

instance (s : WakeState) : DecidablePred s.GrabOk
  | .grabPartialWakeLock none => inferInstanceAs (Decidable (_ = _))
  | .grabPartialWakeLock (some _) => inferInstanceAs (Decidable (_ ≠ _))
  | .releaseWakeLock | .userTimerCallback _ | .proxyCallback _ => isTrue trivial

/-- The invariant: `userParam` says what `superseded` says, and what is not superseded is the last
timeout of a positive count. -/
structure Inv (s : WakeState) : Prop where
  lock_eq : s.wakeLock = decide (0 < s.sWakelockCount)
  last_some : 0 < s.sWakelockCount → ∃ last, s.sLastWakeTimeoutInfo = some last
  param_eq : ∀ a t, s.timeouts a = some t → t.userParam = t.superseded
  live_iff : ∀ a, (∃ t, s.timeouts a = some t ∧ t.superseded = false)
    ↔ 0 < s.sWakelockCount ∧ s.sLastWakeTimeoutInfo = some a

lemma init_inv : init.Inv := ⟨rfl, by simp [init], by simp [init], by simp [init]⟩

variable {s : WakeState} {t : WakeTimeout} {version pInfo : ℕ}

lemma Inv.superseded_of_ne (h : s.Inv) {a : ℕ} (ht : s.timeouts a = some t)
    (hne : ¬ (0 < s.sWakelockCount ∧ s.sLastWakeTimeoutInfo = some a)) : t.superseded = true := by
  by_contra hlive
  exact hne ((h.live_iff a).mp ⟨t, ht, by simpa using hlive⟩)

lemma wakeTimeoutCallback_eq (hv : 13 ≤ version) (s : WakeState) (param : Bool) :
    s.wakeTimeoutCallback version param
      = if param then s else { s with sWakelockCount := 0, wakeLock := false } := by
  unfold wakeTimeoutCallback
  rw [if_pos hv]
  cases param <;> rfl

lemma sLastWakeTimeoutInfo_wakeTimeoutCallback (hv : 13 ≤ version) (s : WakeState) (param : Bool) :
    (s.wakeTimeoutCallback version param).sLastWakeTimeoutInfo = s.sLastWakeTimeoutInfo := by
  rw [wakeTimeoutCallback_eq hv]
  split_ifs <;> rfl

lemma timeouts_cancelLast (s : WakeState) (a : ℕ) :
    s.cancelLast.timeouts a
      = if s.sLastWakeTimeoutInfo = some a then
          (s.timeouts a).map fun t => { t with userParam := true }
        else s.timeouts a := by
  unfold cancelLast
  cases hlast : s.sLastWakeTimeoutInfo with
  | none => simp
  | some last =>
    by_cases heq : a = last
    · subst heq
      simp
    · have hne : last ≠ a := fun h => heq h.symm
      simp [update_of_ne heq, hne]

@[simp] lemma wakeLock_cancelLast (s : WakeState) : s.cancelLast.wakeLock = s.wakeLock := by
  unfold cancelLast; split <;> rfl

@[simp] lemma sWakelockCount_cancelLast (s : WakeState) : s.cancelLast.sWakelockCount = s.sWakelockCount := by
  unfold cancelLast; split <;> rfl

@[simp] lemma sLastWakeTimeoutInfo_cancelLast (s : WakeState) :
    s.cancelLast.sLastWakeTimeoutInfo = s.sLastWakeTimeoutInfo := by
  unfold cancelLast; split <;> rfl

/-- After superseding everything and cancelling the last timeout, every timeout is cancelled. -/
lemma Inv.supersede_cancelLast (h : s.Inv) {a : ℕ} (ht : s.supersede.cancelLast.timeouts a = some t) :
    t.userParam = true ∧ t.superseded = true := by
  rw [timeouts_cancelLast] at ht
  by_cases hlast : s.supersede.sLastWakeTimeoutInfo = some a
  · rw [if_pos hlast] at ht
    simp only [supersede, map_map, map_eq_some_iff] at ht
    rcases ht with ⟨t, _, rfl⟩
    exact ⟨rfl, rfl⟩
  · rw [if_neg hlast] at ht
    simp only [supersede, map_eq_some_iff] at ht
    rcases ht with ⟨t, ht, rfl⟩
    have hsup := h.superseded_of_ne ht fun hc => hlast hc.2
    exact ⟨(h.param_eq a t ht).trans hsup, rfl⟩

lemma timeouts_grab (hv : 13 ≤ version) (s : WakeState) (a : ℕ) :
    (s.grabPartialWakeLock version (some pInfo)).timeouts a
      = if a = pInfo then some ⟨decide (s.sLastWakeTimeoutInfo = some pInfo), false, false⟩
        else s.supersede.cancelLast.timeouts a := by
  simp only [grabPartialWakeLock, if_pos hv, timeouts_cancelLast, internalRequestTimedCallback, supersede]
  by_cases heq : a = pInfo
  · subst heq
    simp only [update_self, if_true]
    split_ifs with hlast <;> simp [hlast]
  · simp only [update_of_ne heq, if_neg heq]

lemma frame_grab (hv : 13 ≤ version) (s : WakeState) (pInfo : ℕ) :
    (s.grabPartialWakeLock version (some pInfo)).sWakelockCount = s.sWakelockCount + 1
      ∧ (s.grabPartialWakeLock version (some pInfo)).wakeLock = true
      ∧ (s.grabPartialWakeLock version (some pInfo)).sLastWakeTimeoutInfo = some pInfo := by
  simp [grabPartialWakeLock, if_pos hv, internalRequestTimedCallback, supersede]

lemma inv_grab (hv : 13 ≤ version) (h : s.Inv) (hlast : s.sLastWakeTimeoutInfo ≠ some pInfo) :
    (s.grabPartialWakeLock version (some pInfo)).Inv := by
  obtain ⟨hcount, hlock, hlast'⟩ := frame_grab hv s pInfo
  refine ⟨by simp [hlock, hcount], fun _ => ⟨pInfo, hlast'⟩, fun a t ht => ?_, fun a => ?_⟩
  · rw [timeouts_grab hv] at ht
    split_ifs at ht
    · cases ht
      simp [hlast]
    · rcases h.supersede_cancelLast ht with ⟨hparam, hsup⟩
      rw [hparam, hsup]
  · rw [hcount, hlast']
    constructor
    · rintro ⟨t, ht, hlive⟩
      rw [timeouts_grab hv] at ht
      split_ifs at ht with heq
      · exact ⟨Nat.succ_pos _, congrArg some heq.symm⟩
      · rw [(h.supersede_cancelLast ht).2] at hlive
        cases hlive
    · rintro ⟨_, heq⟩
      exact ⟨_, by rw [timeouts_grab hv, if_pos (Option.some.inj heq).symm], rfl⟩

lemma inv_release (hv : 13 ≤ version) (h : s.Inv) : (s.releaseWakeLock version).Inv := by
  simp only [releaseWakeLock, if_pos hv]
  split_ifs with hmany
  · have hpos : 0 < s.sWakelockCount - 1 := by omega
    have hpos' : 0 < s.sWakelockCount := by omega
    refine ⟨?_, fun _ => h.last_some hpos', h.param_eq, fun a => ?_⟩
    · rw [h.lock_eq, decide_eq_true hpos']
      exact (decide_eq_true hpos).symm
    · rw [h.live_iff a]
      exact and_congr_left fun _ => iff_of_true hpos' hpos
  · have hall : ∀ a t, ({ s.supersede with sWakelockCount := 0, wakeLock := false } :
        WakeState).cancelLast.timeouts a = some t → t.userParam = true ∧ t.superseded = true := by
      intro a t ht
      refine h.supersede_cancelLast (a := a) ?_
      rw [timeouts_cancelLast] at ht ⊢
      exact ht
    refine ⟨by simp, by simp, fun a t ht => ?_, fun a => ?_⟩
    · rcases hall a t ht with ⟨hparam, hsup⟩
      rw [hparam, hsup]
    · simp only [sWakelockCount_cancelLast, Nat.lt_irrefl, false_and, iff_false]
      rintro ⟨t, ht, hlive⟩
      rw [(hall a t ht).2] at hlive
      cases hlive

lemma timeouts_ran (hv : 13 ≤ version) (s : WakeState) (pInfo : ℕ) (param : Bool) (last : Option ℕ) (a : ℕ) :
    (free { s.wakeTimeoutCallback version param with sLastWakeTimeoutInfo := last } pInfo).timeouts a
      = if a = pInfo then none else s.timeouts a := by
  simp only [free, update_apply, wakeTimeoutCallback_eq hv]
  cases param <;> rfl

variable {s' : WakeState}

/-- The live timeout runs: the lock is released, and nothing is live any more. -/
lemma Inv.release (h : s.Inv) (ht : s.timeouts pInfo = some t) (hlive : t.superseded = false)
    (hcount : s'.sWakelockCount = 0) (hlock : s'.wakeLock = false)
    (hold : ∀ a u, s'.timeouts a = some u ↔ a ≠ pInfo ∧ s.timeouts a = some u) : s'.Inv := by
  have hlast := ((h.live_iff pInfo).mp ⟨t, ht, hlive⟩).2
  refine ⟨by simp [hlock, hcount], by simp [hcount], fun a u hu => ?_, fun a => ?_⟩
  · exact h.param_eq a u ((hold a u).mp hu).2
  · rw [hcount]
    refine iff_of_false ?_ (by simp)
    rintro ⟨u, hu, hsup⟩
    rcases (hold a u).mp hu with ⟨hne, hu⟩
    have hlast' := ((h.live_iff a).mp ⟨u, hu, hsup⟩).2
    exact hne (Option.some.inj (hlast'.symm.trans hlast))

lemma Inv.drop (h : s.Inv) (ht : s.timeouts pInfo = some t) (hsuperseded : t.superseded = true)
    (hcount : s'.sWakelockCount = s.sWakelockCount) (hlock : s'.wakeLock = s.wakeLock)
    (hlast : s'.sLastWakeTimeoutInfo = s.sLastWakeTimeoutInfo
      ∨ s.sLastWakeTimeoutInfo = some pInfo)
    (hold : ∀ a u, s'.timeouts a = some u ↔ a ≠ pInfo ∧ s.timeouts a = some u) : s'.Inv := by
  have hdead : ¬ (0 < s.sWakelockCount ∧ s.sLastWakeTimeoutInfo = some pInfo) := by
    intro hc
    rcases (h.live_iff pInfo).mpr hc with ⟨u, hu, hsup⟩
    cases ht.symm.trans hu
    exact absurd (hsuperseded.symm.trans hsup) (by simp)
  have hkeep : 0 < s.sWakelockCount → s'.sLastWakeTimeoutInfo = s.sLastWakeTimeoutInfo :=
    fun hpos => hlast.resolve_right fun hthis => hdead ⟨hpos, hthis⟩
  refine ⟨by rw [hlock, hcount]; exact h.lock_eq, fun hpos => ?_, fun a u hu => ?_, fun a => ?_⟩
  · rw [hcount] at hpos
    rw [hkeep hpos]
    exact h.last_some hpos
  · exact h.param_eq a u ((hold a u).mp hu).2
  · rw [hcount, and_congr_right fun hpos => by rw [hkeep hpos], ← h.live_iff a]
    constructor
    · rintro ⟨u, hu, hsup⟩
      exact ⟨u, ((hold a u).mp hu).2, hsup⟩
    · rintro ⟨u, hu, hsup⟩
      have hne : a ≠ pInfo := by
        rintro rfl
        exact hdead ((h.live_iff a).mp ⟨u, hu, hsup⟩)
      exact ⟨u, (hold a u).mpr ⟨hne, hu⟩, hsup⟩

/-- A timeout that runs and is freed, with `s_last_wake_timeout_info` kept, or cleared if it was
this one. -/
lemma inv_ran (hv : 13 ≤ version) (h : s.Inv) (ht : s.timeouts pInfo = some t) {last : Option ℕ}
    (hlast : last = s.sLastWakeTimeoutInfo
      ∨ (last = none ∧ s.sLastWakeTimeoutInfo = some pInfo)) :
    (free { s.wakeTimeoutCallback version t.userParam with sLastWakeTimeoutInfo := last }
      pInfo).Inv := by
  have hold : ∀ a u, (free { s.wakeTimeoutCallback version t.userParam with
      sLastWakeTimeoutInfo := last } pInfo).timeouts a = some u
        ↔ a ≠ pInfo ∧ s.timeouts a = some u := by
    intro a u
    rw [timeouts_ran hv]
    split_ifs with ha <;> simp [ha]
  have hcallback := wakeTimeoutCallback_eq hv s t.userParam
  have hparam := h.param_eq pInfo t ht
  cases hsup : t.superseded with
  | false =>
    rw [hparam, hsup, if_neg (by simp)] at hcallback
    rw [hparam, hsup, hcallback] at hold ⊢
    exact h.release ht hsup rfl rfl hold
  | true =>
    rw [hparam, hsup, if_pos rfl] at hcallback
    rw [hparam, hsup, hcallback] at hold ⊢
    exact h.drop ht hsup rfl rfl (hlast.imp id fun hc => hc.2) hold

lemma inv_userTimerCallback (hv : 13 ≤ version) (h : s.Inv) (direct : Bool) (ht : s.timeouts pInfo = some t) :
    (s.userTimerCallback version direct pInfo t).Inv := by
  have hsame := sLastWakeTimeoutInfo_wakeTimeoutCallback hv s t.userParam
  cases direct with
  | true =>
    simp only [userTimerCallback, if_true]
    split_ifs with hthis
    · exact inv_ran hv h ht (.inr ⟨rfl, hsame.symm.trans hthis⟩)
    · exact inv_ran hv h ht (.inl hsame)
  | false =>
    simp only [userTimerCallback, Bool.false_eq_true, if_false]
    refine ⟨h.lock_eq, h.last_some, fun a u hu => ?_, fun a => ?_⟩
    · dsimp only at hu
      by_cases ha : a = pInfo
      · subst ha
        rw [update_self] at hu
        cases hu
        exact h.param_eq a t ht
      · rw [update_of_ne ha] at hu
        exact h.param_eq a u hu
    · rw [← h.live_iff a]
      by_cases ha : a = pInfo
      · subst ha
        simp [ht]
      · simp [update_of_ne ha]

/-- **One step.** -/
lemma step_inv (hv : 13 ≤ version) (direct : Bool) (s : WakeState) (act : WakeAct)
    (s' : WakeState) (h : s.Inv) (hok : s.GrabOk act) (hs' : s.step version direct act = some s') : s'.Inv := by
  cases act with
  | grabPartialWakeLock pInfo =>
    cases pInfo with
    | none =>
      have hzero : s.sWakelockCount = 0 := hok
      cases hs'
      simp only [grabPartialWakeLock, if_pos hv]
      exact ⟨by simp [hzero], h.last_some, h.param_eq, h.live_iff⟩
    | some pInfo =>
      obtain ⟨-, rfl⟩ := ite_some_none_eq_some.mp hs'
      exact inv_grab hv h hok
  | releaseWakeLock =>
    cases hs'
    exact inv_release hv h
  | userTimerCallback pInfo =>
    simp only [step] at hs'
    split at hs'
    · next t ht =>
      obtain ⟨-, rfl⟩ := ite_some_none_eq_some.mp hs'
      exact inv_userTimerCallback hv h direct ht
    · cases hs'
  | proxyCallback pInfo =>
    simp only [step] at hs'
    split at hs'
    · next t ht =>
      obtain ⟨-, rfl⟩ := ite_some_none_eq_some.mp hs'
      have hsame := sLastWakeTimeoutInfo_wakeTimeoutCallback hv s t.userParam
      exact inv_ran hv h ht (.inl hsame)
    · cases hs'

lemma Inv.ok (hv : 13 ≤ version) (h : s.Inv) : s.Ok version := by
  refine ⟨by simp [h.lock_eq], fun hpos => ?_, fun a t ht hsup => ?_⟩
  · rcases h.last_some hpos with ⟨last, hlast⟩
    refine ⟨last, hlast, fun a => ?_⟩
    have hlive : a = last ↔ ∃ t, s.timeouts a = some t ∧ t.superseded = false := by
      rw [h.live_iff a, hlast, Option.some.injEq, and_iff_right hpos, eq_comm]
    rw [hlive]
    exact exists_congr fun t => and_congr_right fun ht => by rw [h.param_eq a t ht]
  · rw [wakeTimeoutCallback_eq hv, h.param_eq a t ht, hsup, if_pos rfl]

/-- A grab that breaks `GrabOk` breaks `Ok`: the lock is gone though the count is positive, or the
new timeout is itself cancelled. -/
lemma not_ok_of_not_grabOk (hv : 13 ≤ version) (direct : Bool) (s : WakeState)
    (act : WakeAct) (s' : WakeState) (_ : s.Inv) (hbad : ¬ s.GrabOk act)
    (hs' : s.step version direct act = some s') : ¬ s'.Ok version := by
  intro hok
  cases act with
  | grabPartialWakeLock pInfo =>
    cases pInfo with
    | none =>
      have hpos : 0 < s.sWakelockCount := Nat.pos_of_ne_zero hbad
      cases hs'
      have hheld := hok.held_iff
      simp only [grabPartialWakeLock, if_pos hv] at hheld
      exact absurd (hheld.mpr hpos) (by simp)
    | some pInfo =>
      have hlast : s.sLastWakeTimeoutInfo = some pInfo := of_not_not hbad
      obtain ⟨-, rfl⟩ := ite_some_none_eq_some.mp hs'
      obtain ⟨hcount, -, hnew⟩ := frame_grab hv s pInfo
      rcases hok.one_timeout (by omega) with ⟨last, hlast', huniq⟩
      rcases (huniq pInfo).mp (Option.some.inj (hnew.symm.trans hlast')) with ⟨t, ht, hparam⟩
      rw [timeouts_grab hv, if_pos rfl, hlast] at ht
      cases ht
      simp at hparam
  | releaseWakeLock | userTimerCallback | proxyCallback => exact hbad trivial

/-- **The wake lock is right iff no grab goes wrong.**  With a vendor library of version 13 or
newer, for every run of grabs, releases and timeouts, `Ok` holds in every state visited exactly
when every grab of the run meets `GrabOk`. -/
theorem wakeLock_ok_iff (version : ℕ) (hv : 13 ≤ version) (direct : Bool) (acts : List WakeAct)
    (s : WakeState) (hrun : run (step version direct) init acts = some s) :
    Along (step version direct) (Ok version) init acts
      ↔ StepsMeet (step version direct) GrabOk init acts := by
  refine along_iff_stepsMeet (step_inv hv direct) (fun s h => ?_) (not_ok_of_not_grabOk hv direct) init_inv
    hrun
  exact h.ok hv

/-- Two grabs, the stale timeout of the first, both releases; then a grab without memory, which does
no harm at a count of zero, and one whose timeout runs. -/
theorem wakeLock_ok_exampleRun :
    ∃ s, run (step 13 true) init [.grabPartialWakeLock (some 1), .grabPartialWakeLock (some 2),
        .userTimerCallback 1, .releaseWakeLock, .releaseWakeLock, .grabPartialWakeLock none,
        .grabPartialWakeLock (some 1), .userTimerCallback 1] = some s
      ∧ s.wakeLock = false
      ∧ Along (step 13 true) (Ok 13) init [.grabPartialWakeLock (some 1),
        .grabPartialWakeLock (some 2), .userTimerCallback 1, .releaseWakeLock, .releaseWakeLock,
        .grabPartialWakeLock none, .grabPartialWakeLock (some 1), .userTimerCallback 1] := by
  refine ⟨_, rfl, rfl, (wakeLock_ok_iff 13 (by decide) true _ _ rfl).mpr ?_⟩
  exact stepsMeet_cons rfl (by decide) <| stepsMeet_cons rfl (by decide) <|
    stepsMeet_cons rfl trivial <| stepsMeet_cons rfl trivial <| stepsMeet_cons rfl trivial <|
    stepsMeet_cons rfl (by decide) <| stepsMeet_cons rfl (by decide) <|
    stepsMeet_cons rfl trivial trivial

/-- A second grab without memory gives the lock away while the first still counts on it. -/
theorem wakeLock_lost_on_failed_allocation :
    ∃ s, run (step 13 true) init [.grabPartialWakeLock (some 1), .grabPartialWakeLock none] = some s
      ∧ s.sWakelockCount = 1 ∧ s.wakeLock = false :=
  ⟨_, rfl, rfl, rfl⟩

/-! ## No dangling pointer without the vendor's queue -/

/-- Whether there is a timeout at an address, and whose queue it is in. -/
def queuedAt (s : WakeState) (a : ℕ) : Option Bool := (s.timeouts a).map WakeTimeout.enqueued

/-- No timeout is in the vendor's queue, and `s_last_wake_timeout_info` points to a timeout. -/
def LastLive (s : WakeState) : Prop :=
  ∀ a, s.queuedAt a ≠ some true ∧ (s.sLastWakeTimeoutInfo = some a → s.queuedAt a = some false)

lemma queuedAt_supersede_cancelLast (s : WakeState) (a : ℕ) : s.supersede.cancelLast.queuedAt a = s.queuedAt a := by
  simp only [queuedAt, timeouts_cancelLast, supersede]
  split_ifs <;> simp [comp_def]

lemma LastLive.of_eq (h : s.LastLive) (hq : ∀ a, s'.queuedAt a = s.queuedAt a)
    (hlast : s'.sLastWakeTimeoutInfo = s.sLastWakeTimeoutInfo) : s'.LastLive := by
  intro a
  rw [hq, hlast]
  exact h a

lemma LastLive.release (h : s.LastLive) : (s.releaseWakeLock version).LastLive := by
  unfold releaseWakeLock
  split_ifs
  · exact h
  · refine h.of_eq (fun a => ?_) (by simp [supersede])
    rw [← queuedAt_supersede_cancelLast s a]
    simp only [queuedAt, timeouts_cancelLast]
  · exact h

lemma LastLive.wakeTimeoutCallback (h : s.LastLive) (version : ℕ) (param : Bool) :
    (s.wakeTimeoutCallback version param).LastLive := by
  unfold WakeState.wakeTimeoutCallback
  split_ifs
  exacts [h, h, h.release, h]

lemma LastLive.grab (h : s.LastLive) (pInfo : Option ℕ) : (s.grabPartialWakeLock version pInfo).LastLive := by
  by_cases hv : 13 ≤ version
  · cases pInfo with
    | none =>
      simp only [grabPartialWakeLock, if_pos hv]
      exact h
    | some pInfo =>
      intro a
      rw [(frame_grab hv s pInfo).2.2, queuedAt, timeouts_grab hv]
      by_cases ha : a = pInfo
      · simp [ha]
      · have hsame := queuedAt_supersede_cancelLast s a
        rw [queuedAt] at hsame
        rw [if_neg ha, hsame]
        exact ⟨(h a).1, fun heq => absurd (Option.some.inj heq).symm ha⟩
  · unfold grabPartialWakeLock
    rw [if_neg hv]
    exact h

lemma LastLive.ran (h : s.LastLive) (pInfo : ℕ) :
    LastLive (free (if s.sLastWakeTimeoutInfo = some pInfo then
      { s with sLastWakeTimeoutInfo := none } else s) pInfo) := by
  intro a
  by_cases ha : a = pInfo
  · subst ha
    split_ifs with hthis
    · simp [queuedAt, free]
    · simp [queuedAt, free, hthis]
  · split_ifs with hthis
    · simpa [queuedAt, free, update_of_ne ha] using (h a).1
    · simpa [queuedAt, free, update_of_ne ha] using h a

lemma lastLive_step (version : ℕ) (s : WakeState) (act : WakeAct) (s' : WakeState) (h : s.LastLive)
    (hs' : s.step version true act = some s') : s'.LastLive := by
  cases act with
  | grabPartialWakeLock pInfo =>
    cases pInfo with
    | none => exact Option.some.inj hs' ▸ h.grab none
    | some pInfo =>
      obtain ⟨-, rfl⟩ := ite_some_none_eq_some.mp hs'
      exact h.grab (some pInfo)
  | releaseWakeLock => exact Option.some.inj hs' ▸ h.release
  | userTimerCallback pInfo =>
    simp only [step] at hs'
    split at hs'
    · next t ht =>
      obtain ⟨-, rfl⟩ := ite_some_none_eq_some.mp hs'
      exact (h.wakeTimeoutCallback version t.userParam).ran pInfo
    · cases hs'
  | proxyCallback pInfo =>
    -- nothing is in the vendor's queue
    simp only [step] at hs'
    split at hs'
    · next t ht =>
      split_ifs at hs' with henq
      exact absurd (by simp [queuedAt, ht, henq]) (h pInfo).1
    · cases hs'

/-- Where `userTimerCallback` runs the callback itself, `s_last_wake_timeout_info` never dangles, so
an allocation cannot return the address it holds: there `GrabOk` is about failed allocations
only. -/
theorem last_live_of_direct (version : ℕ) (acts : List WakeAct) (s : WakeState)
    (hrun : run (step version true) init acts = some s) (a : ℕ)
    (hlast : s.sLastWakeTimeoutInfo = some a) : s.timeouts a ≠ none := by
  have hinit : init.LastLive := by simp [LastLive, init, queuedAt]
  have hlive := (run_invariant (lastLive_step version) hinit hrun a).2 hlast
  intro hnone
  simp [queuedAt, hnone] at hlive

theorem last_live_of_direct_twoGrabs :
    ∃ s, run (step 13 true) init [.grabPartialWakeLock (some 1), .grabPartialWakeLock (some 2), .userTimerCallback 1]
        = some s ∧ s.sLastWakeTimeoutInfo = some 2 ∧ s.timeouts 2 ≠ none :=
  ⟨_, rfl, rfl, last_live_of_direct 13 [.grabPartialWakeLock (some 1), .grabPartialWakeLock (some 2),
    .userTimerCallback 1] _ rfl 2 rfl⟩

end WakeState

end Hal
